import KlassGateway.Contracts.InterpretationRepair
import KlassGateway.Orchestrator.GenerationSpec
/-!
# Cut texts and lenient integers of the contracts

* `truncateStr_isTruncation_iff`: `truncate_str` returns a bounded beginning of the trimmed
  text, marked with an ellipsis when something was cut, exactly when there is nothing to cut or
  the beginning it keeps happens to end in the dots and is not marked again.
* `truncateField_isTruncation`: `truncate_field` always does, for bounds that leave room for
  the ellipsis.
* `durationReadExactly_iff`: a duration is read as the integer that it denotes, or not at all,
  unless it is a 64-bit integer outside the 32-bit range.
-/

namespace KlassGateway.Contracts

open Lib Lib.Json

/-! ## Cutting a text -/

/-- `"..."`. -/
def ellipsis : List Char := ['.', '.', '.']

/-- `result` is a beginning of the trimmed text, followed by an ellipsis exactly when something
was cut, of at most `n` characters; and a text that fits is not cut. -/
structure IsTruncation (s : String) (n : Nat) (result : String) : Prop where
  bounded : result.length ≤ n
  marked : ∃ kept dots, kept <+: (Text.trim s).toList ∧ result.toList = kept ++ dots ∧
    (dots = [] ∨ dots = ellipsis) ∧ (dots = ellipsis ↔ kept ≠ (Text.trim s).toList)
  whole : (Text.trim s).length ≤ n → result = Text.trim s

theorem isTruncation_trim {s : String} {n : Nat} (h : (Text.trim s).length ≤ n) :
    IsTruncation s n (Text.trim s) where
  bounded := h
  marked := by
    refine ⟨(Text.trim s).toList, [], List.prefix_rfl, (List.append_nil _).symm, Or.inl rfl, ?_⟩
    simp [ellipsis]
  whole := fun _ => rfl

/-- A proper beginning with an ellipsis is a truncation when both fit. -/
theorem isTruncation_append {s r : String} {n : Nat} (kept : List Char)
    (hkept : kept <+: (Text.trim s).toList) (hcut : n < (Text.trim s).length)
    (hr : r.toList = kept ++ ellipsis) (hlen : kept.length + 3 ≤ n) : IsTruncation s n r where
  bounded := by
    have hsize : r.length = kept.length + 3 := by
      rw [← String.length_toList, hr, List.length_append]
      rfl
    omega
  marked := by
    refine ⟨kept, ellipsis, hkept, hr, Or.inr rfl, fun _ heq => ?_, fun _ => rfl⟩
    rw [heq, String.length_toList] at hlen
    omega
  whole := fun h => absurd h (by omega)

/-- `truncate_field` is a truncation for every bound that holds the ellipsis. -/
theorem truncateField_isTruncation (s : String) {n : Nat} (hn : 3 ≤ n) :
    IsTruncation s n (Orchestrator.truncateField s n) := by
  unfold Orchestrator.truncateField
  dsimp only
  split
  · next hfits => exact isTruncation_trim hfits
  · next hlong =>
    have hlt : n < (Text.trim s).length := Nat.lt_of_not_le hlong
    refine isTruncation_append ((Text.trim s).toList.take (n - 3)) (List.take_prefix _ _)
      hlt ?_ ?_
    · rw [String.toList_append, Text.takeChars, String.toList_ofList]
      rfl
    · rw [List.length_take]
      omega

/-- A truncation to a text that is no longer than what fits ends in the dots. -/
theorem IsTruncation.ellipsis_suffix {s r : String} {n : Nat} (h : IsTruncation s n r)
    (hcut : n < (Text.trim s).length) : ellipsis <:+ r.toList := by
  obtain ⟨kept, dots, hkept, hr, hdots, hiff⟩ := h.marked
  have hlen : r.length ≤ n := h.bounded
  have hne : kept ≠ (Text.trim s).toList := by
    intro heq
    have hle : kept.length ≤ r.length := by
      rw [← String.length_toList, hr, List.length_append]
      omega
    rw [heq, String.length_toList] at hle
    omega
  rw [hr, hiff.mpr hne]
  exact List.suffix_append _ _

/-- `truncate_str` truncates exactly when the text fits or the characters it keeps end in the
dots and take as many bytes as the text has characters. -/
theorem truncateStr_isTruncation_iff (s : String) (n : Nat) :
    IsTruncation s n (truncateStr s n) ↔
      (Text.trim s).length ≤ n ∨
        (ellipsis <:+ (Text.takeChars (Text.trim s) n).toList ∧
          (Text.trim s).length ≤ (Text.takeChars (Text.trim s) n).utf8ByteSize) := by
  have hkept : (Text.takeChars (Text.trim s) n).toList = (Text.trim s).toList.take n := by
    rw [Text.takeChars, String.toList_ofList]
  have hlength : (Text.takeChars (Text.trim s) n).length = min n (Text.trim s).length :=
    Text.length_takeChars _ _
  constructor
  · intro h
    rcases Nat.lt_or_ge n (Text.trim s).length with hcut | hfits
    · have hlen : (truncateStr s n).length ≤ n := h.bounded
      have hsuffix : ellipsis <:+ (truncateStr s n).toList := h.ellipsis_suffix hcut
      unfold truncateStr at hlen hsuffix
      dsimp only at hlen hsuffix
      split at hlen
      · -- an ellipsis on top of `n` characters is over the bound
        have hdots : ("...").length = 3 := rfl
        rw [String.length_append, hlength, hdots] at hlen
        omega
      · next hbytes =>
        rw [if_neg hbytes] at hsuffix
        exact Or.inr ⟨hsuffix, Nat.le_of_not_lt hbytes⟩
    · exact Or.inl hfits
  · intro h
    rcases Nat.lt_or_ge n (Text.trim s).length with hcut | hfits
    · obtain ⟨hsuffix, hbytes⟩ := h.resolve_left (by omega)
      have hresult : truncateStr s n = Text.takeChars (Text.trim s) n := by
        unfold truncateStr
        exact if_neg (Nat.not_lt.mpr hbytes)
      obtain ⟨kept, hsplit⟩ := hsuffix
      rw [hresult]
      refine isTruncation_append kept ?_ hcut hsplit.symm ?_
      · refine List.IsPrefix.trans ⟨ellipsis, ?_⟩ (List.take_prefix n (Text.trim s).toList)
        rw [hsplit, hkept]
      · have hsize : kept.length + 3 = (Text.takeChars (Text.trim s) n).length := by
          rw [← String.length_toList, ← hsplit, List.length_append]
          rfl
        omega
    · have hresult : truncateStr s n = Text.trim s := by
        have hbytes : (Text.trim s).length ≤ (Text.trim s).utf8ByteSize :=
          Text.length_le_utf8ByteSize _
        unfold truncateStr
        dsimp only
        rw [Text.takeChars_of_length_le hfits, if_neg (by omega)]
      rw [hresult]
      exact isTruncation_trim hfits

/-- A text of 201 letters. -/
def longTitle : String := String.ofList (List.replicate 201 'a')

/-- A text of 201 letters is cut to 203 characters where 200 are allowed. -/
theorem truncateStr_over_bound : ¬ IsTruncation longTitle 200 (truncateStr longTitle 200) := by
  intro h
  have hlen : (truncateStr longTitle 200).length = 203 := by decide +kernel
  have hle := h.bounded
  omega

/-! ## Reading a duration -/

namespace PromptInterpretation

/-- The integer that a value denotes: a number that is one, or the text of one. -/
def Denotes : Json → Int → Prop
  | .num (.int m), n => m = n
  | .num (.float q), n => q = n
  | .str s, n => Text.parseSigned (Text.trim s).toList = some n
  | _, _ => False

/-- What the contract reads from a value is what the value denotes, with and without the repair
of the value before. -/
structure DurationReadExactly (v : Json) : Prop where
  decoded : ∀ n, optionalI32 v = some n → Denotes v n
  repaired : ∀ w n, repairDuration (some v) = some w → Denotes w n → Denotes v n
  both : ∀ w n, repairDuration (some v) = some w → optionalI32 w = some n → Denotes v n

/-- A number that the contract's `as i32` wraps around. -/
def WrapsI32 (v : Json) : Prop :=
  ∃ n : Int, v = .num (.int n) ∧ -(2 ^ 63) ≤ n ∧ n < 2 ^ 63 ∧ ¬ IsI32 n

theorem parseSigned_of_parseI64 {s : String} {n : Int} (h : Text.parseI64 s = some n) :
    Text.parseSigned s.toList = some n := by
  rw [Text.parseI64] at h
  exact (Option.filter_eq_some_iff.mp h).1

theorem denotes_of_optionalI32 {v : Json} {n : Int} (hv : ¬ WrapsI32 v)
    (h : optionalI32 v = some n) : Denotes v n := by
  cases v with
  | num k =>
    cases k with
    | int k =>
      simp only [optionalI32] at h
      split at h
      · next hrange =>
        have hk : IsI32 k := by
          by_contra hk
          exact hv ⟨k, rfl, hrange.1, hrange.2, hk⟩
        have hread : optionalI32 (.num (.int k)) = some k := optionalI32_int hk
        simp only [optionalI32, if_pos hrange] at hread
        exact Option.some.inj (hread.symm.trans h)
      · cases h
    | float q => cases h
  | str s =>
    simp only [optionalI32, Option.filter_eq_some_iff] at h
    exact parseSigned_of_parseI64 h.1
  | _ => cases h

/-- The repair of a text keeps what it denotes. -/
theorem denotes_of_repairDuration {v w : Json} {n : Int} (hw : repairDuration (some v) = some w)
    (h : Denotes w n) : Denotes v n := by
  cases v with
  | str s =>
    simp only [repairDuration] at hw
    obtain ⟨m, hm, rfl⟩ := Option.map_eq_some_iff.mp hw
    have hparse : Text.parseSigned s.toList = some m :=
      parseSigned_of_parseI64 (Option.filter_eq_some_iff.mp hm).1
    have htrim : (Text.trim s).toList = s.toList := by
      rw [Text.trim, String.toList_ofList, Text.trimList_of_parseSigned hparse]
    have hmn : m = n := h
    show Text.parseSigned (Text.trim s).toList = some n
    rw [htrim, hparse, hmn]
  | _ =>
    cases hw
    exact h

/-- What the repair returns does not wrap around unless the value did. -/
theorem wrapsI32_of_repairDuration {v w : Json} (hw : repairDuration (some v) = some w)
    (h : WrapsI32 w) : WrapsI32 v := by
  cases v with
  | str s =>
    simp only [repairDuration] at hw
    obtain ⟨m, hm, rfl⟩ := Option.map_eq_some_iff.mp hw
    obtain ⟨n, hn, -, -, hbig⟩ := h
    cases hn
    exact absurd (of_decide_eq_true (Option.filter_eq_some_iff.mp hm).2) hbig
  | _ =>
    cases hw
    exact h

theorem not_denotes_of_wrapsI32 {v : Json} (h : WrapsI32 v) :
    ∃ n, optionalI32 v = some n ∧ ¬ Denotes v n := by
  obtain ⟨n, rfl, hlo, hhi, hbig⟩ := h
  refine ⟨Int.bmod n (2 ^ 32), if_pos ⟨hlo, hhi⟩, fun heq => hbig ?_⟩
  have hn : n = Int.bmod n (2 ^ 32) := heq
  have hge : -(2 ^ 32 / 2) ≤ Int.bmod n (2 ^ 32) := Int.le_bmod (by decide)
  have hlt : Int.bmod n (2 ^ 32) < (2 ^ 32 + 1) / 2 := Int.bmod_lt (by decide)
  unfold IsI32
  omega

/-- A duration is read exactly unless `as i32` wraps it around. -/
theorem durationReadExactly_iff (v : Json) : DurationReadExactly v ↔ ¬ WrapsI32 v := by
  constructor
  · intro h hwraps
    obtain ⟨n, hread, hnot⟩ := not_denotes_of_wrapsI32 hwraps
    exact hnot (h.decoded n hread)
  · intro hv
    refine ⟨fun n hread => denotes_of_optionalI32 hv hread,
      fun w n hw hn => denotes_of_repairDuration hw hn, fun w n hw hread => ?_⟩
    have hwraps : ¬ WrapsI32 w := fun h => hv (wrapsI32_of_repairDuration hw h)
    exact denotes_of_repairDuration hw (denotes_of_optionalI32 hwraps hread)

/-- `4294967301` minutes are read as `5`. -/
theorem duration_wraps : ¬ DurationReadExactly (.num (.int 4294967301)) := by
  intro h
  have hfive : (4294967301 : Int) = 5 := h.decoded 5 (by decide)
  exact absurd hfive (by decide)

end PromptInterpretation

end KlassGateway.Contracts
