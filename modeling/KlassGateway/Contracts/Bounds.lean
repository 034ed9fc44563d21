import KlassGateway.Base
import KlassGateway.Lib.Serde
import KlassGateway.Lib.Utf8
/-!
# Bounds of the contract texts

The contracts bound their texts with garde's `length`, which counts bytes.
`prompt_interpretation.rs` and `content_draft.rs` cut long texts with the same
`truncate_str`, which counts characters and then appends an ellipsis.

* `hasLength_truncateStr`: what `truncate_str` returns is within the bound it
  was called with exactly when there was nothing to cut: the trimmed text is
  not blank and already within the bound in bytes.
-/

namespace KlassGateway.Contracts

open Lib

/-- `#[garde(length(min = lo, max = hi))]` on a text. -/
def HasLength (lo hi : Nat) (s : String) : Prop := lo ≤ s.utf8ByteSize ∧ s.utf8ByteSize ≤ hi

instance (lo hi : Nat) (s : String) : Decidable (HasLength lo hi s) :=
  inferInstanceAs (Decidable (_ ∧ _))

/-- `#[garde(length(min = 1))]` on a text. -/
def NonEmpty (s : String) : Prop := 1 ≤ s.utf8ByteSize

instance (s : String) : Decidable (NonEmpty s) := inferInstanceAs (Decidable (_ ≤ _))

theorem nonEmpty_iff {s : String} : NonEmpty s ↔ s ≠ "" := Text.utf8ByteSize_pos_iff

theorem hasLength_iff {hi : Nat} {s : String} :
    HasLength 1 hi s ↔ s ≠ "" ∧ s.utf8ByteSize ≤ hi :=
  and_congr_left fun _ => Text.utf8ByteSize_pos_iff

/-- A text without its surrounding white space is not empty and has at most
`max` bytes. -/
def Fits (max : Nat) (s : String) : Prop :=
  Text.trim s ≠ "" ∧ (Text.trim s).utf8ByteSize ≤ max

instance (max : Nat) (s : String) : Decidable (Fits max s) :=
  inferInstanceAs (Decidable (_ ∧ _))

theorem fits_iff {max : Nat} {s : String} : Fits max s ↔ HasLength 1 max (Text.trim s) :=
  hasLength_iff.symm

theorem Fits.mono {m n : Nat} {s : String} (h : Fits m s) (hmn : m ≤ n) : Fits n s :=
  ⟨h.1, h.2.trans hmn⟩

/-- `truncate_str`.  The comparison is of bytes with characters. -/
def truncateStr (value : String) (max : Nat) : String :=
  let trimmed := Text.trim value
  let chars := Text.takeChars trimmed max
  if chars.utf8ByteSize < trimmed.length then chars ++ "..." else chars

/-- A text that fits is only trimmed. -/
theorem truncateStr_of_fits {max : Nat} {s : String} (h : Fits max s) :
    truncateStr s max = Text.trim s := by
  have hlen : (Text.trim s).length ≤ (Text.trim s).utf8ByteSize := Text.length_le_utf8ByteSize _
  have hle : (Text.trim s).length ≤ max := hlen.trans h.2
  unfold truncateStr
  simp only [Text.takeChars_of_length_le hle]
  rw [if_neg (by omega)]

theorem truncateStr_of_blank {max : Nat} {s : String} (h : Text.trim s = "") :
    truncateStr s max = "" := by
  unfold truncateStr
  rw [h]
  simp [Text.takeChars]

/-- What was cut is longer than the bound: either its characters take more
than one byte, or the ellipsis is on top. -/
theorem lt_utf8ByteSize_truncateStr {max : Nat} {s : String}
    (h : max < (Text.trim s).utf8ByteSize) : max < (truncateStr s max).utf8ByteSize := by
  have hbegins : (Text.takeChars (Text.trim s) max).length ≤
      (Text.takeChars (Text.trim s) max).utf8ByteSize := Text.length_le_utf8ByteSize _
  rw [Text.length_takeChars] at hbegins
  have hdots : ("...").utf8ByteSize = 3 := by decide
  unfold truncateStr
  dsimp only
  split
  · next hcut =>
    rw [String.utf8ByteSize_append, hdots]
    omega
  · next hcut =>
    by_cases hle : (Text.trim s).length ≤ max
    · rw [Text.takeChars_of_length_le hle]
      exact h
    · omega

/-- `truncate_str` keeps its bound exactly for the texts that have it. -/
theorem hasLength_truncateStr {max : Nat} {s : String} :
    HasLength 1 max (truncateStr s max) ↔ Fits max s := by
  constructor
  · intro h
    have hmax : (Text.trim s).utf8ByteSize ≤ max := by
      by_contra hlt
      have := lt_utf8ByteSize_truncateStr (not_le.1 hlt)
      have := h.2
      omega
    refine ⟨fun hblank => ?_, hmax⟩
    have hempty : truncateStr s max = "" := truncateStr_of_blank hblank
    rw [hempty] at h
    exact absurd h.1 (by decide)
  · intro h
    rw [truncateStr_of_fits h]
    exact fits_iff.1 h

/-- Nothing is left of a text exactly when it is blank. -/
theorem truncateStr_eq_empty_iff {max : Nat} {s : String} (hmax : 0 < max) :
    truncateStr s max = "" ↔ Text.trim s = "" := by
  constructor
  · intro hempty
    by_contra hblank
    by_cases hsize : (Text.trim s).utf8ByteSize ≤ max
    · rw [truncateStr_of_fits ⟨hblank, hsize⟩] at hempty
      exact hblank hempty
    · have := lt_utf8ByteSize_truncateStr (not_le.1 hsize)
      rw [hempty] at this
      have hzero : ("").utf8ByteSize = 0 := rfl
      omega
  · exact truncateStr_of_blank

end KlassGateway.Contracts
