import KlassGateway.Recommendation.Taxonomy
import KlassGateway.Standards.Detection
import KlassGateway.Guarantees.Clarification
/-!
# Whether the two grade detectors agree

`detectClassNumber` takes the first class that the text names as a whole.
`detectTargetAudience` looks for texts in a fixed order, wherever they stand, and
a text that is found hides those that begin with it.

* `gradePatterns_find`: which texts of the table count.
* `detectors_agree_iff`: when the two agree.
* `not_detectorsAgree`: they never do on the grades 11 and 12.
-/

namespace KlassGateway.Recommendation

open Lib Lib.Text Standards

/-- The label of a grade. -/
def gradeLabel (n : Nat) : String :=
  if n ≤ 6 then "SD Kelas " ++ toString n
  else if n ≤ 9 then "SMP Kelas " ++ toString n
  else "SMA Kelas " ++ toString n

theorem gradeLabel_injective {n m : Nat} (hn : n ∈ List.range' 1 12) (hm : m ∈ List.range' 1 12)
    (h : gradeLabel n = gradeLabel m) : n = m := by
  have hall : ∀ n ∈ List.range' 1 12, ∀ m ∈ List.range' 1 12, gradeLabel n = gradeLabel m → n = m := by
    decide +kernel
  exact hall n hn m hm h

/-! ## The table -/

/-- Whether a text with a number occurs in the lower-cased prompt. -/
def mentions (lower word : String) (d : Nat) : Bool := contains lower (word ++ toString d)

/-- The first of the numbers from 1 to 9 that a text names. -/
def firstDigit (lower word : String) : Option Nat := (List.range' 1 9).find? (mentions lower word)

/-- The grade that the texts of the table name. -/
def tableGrade (lower : String) : Option Nat :=
  (firstDigit lower "kelas ").or
    ((if contains lower "kelas x" then some 10 else none).or (firstDigit lower "grade "))

/-- A text that is found is hidden by one that it begins with. -/
theorem contains_of_beginning {lower pat more : String} (h : contains lower (pat ++ more) = true) :
    contains lower pat = true := by
  rw [contains, containsList_iff_infix] at h ⊢
  rw [String.toList_append] at h
  exact (List.prefix_append _ _).isInfix.trans h

theorem find?_rows (lower word : String) :
    (((List.range' 1 9).map fun d => (word ++ toString d, gradeLabel d)).find?
        fun row => contains lower row.1).map Prod.snd =
      (firstDigit lower word).map gradeLabel := by
  rw [List.find?_map, Option.map_map]
  rfl

/-- Rows that begin with a text that is not found are not found. -/
theorem find?_hidden {lower pat : String} (rows : List (String × String))
    (hpat : contains lower pat = false) (hrows : ∀ row ∈ rows, ∃ more, row.1 = pat ++ more) :
    rows.find? (fun row => contains lower row.1) = none := by
  rw [List.find?_eq_none]
  intro row hrow hfound
  obtain ⟨more, hmore⟩ := hrows row hrow
  rw [hmore] at hfound
  rw [contains_of_beginning hfound] at hpat
  cases hpat

theorem contains_of_firstDigit_eq_none {lower word : String} (h : firstDigit lower word = none) :
    contains lower (word ++ "1") = false := by
  have hone : ¬ mentions lower word 1 = true := List.find?_eq_none.1 h 1 (by decide)
  exact Bool.eq_false_iff.2 hone

/-- The rows for 10, 11 and 12 count only as `kelas x`. -/
theorem gradePatterns_find (lower : String) :
    (gradePatterns.find? fun row => contains lower row.1).map Prod.snd =
      (tableGrade lower).map gradeLabel := by
  have hrows : gradePatterns =
      ((List.range' 1 9).map fun d => ("kelas " ++ toString d, gradeLabel d)) ++
      ([("kelas 10", gradeLabel 10), ("kelas 11", gradeLabel 11), ("kelas 12", gradeLabel 12)] ++
      ([("kelas x", gradeLabel 10)] ++
      ([("kelas xi", gradeLabel 11), ("kelas xii", gradeLabel 12)] ++
      (((List.range' 1 9).map fun d => ("grade " ++ toString d, gradeLabel d)) ++
      [("grade 10", gradeLabel 10), ("grade 11", gradeLabel 11), ("grade 12", gradeLabel 12)])))) := by
    decide +kernel
  rw [hrows]
  simp only [List.find?_append, Option.map_or, find?_rows]
  rw [tableGrade]
  cases hkelas : firstDigit lower "kelas " with
  | some d => rfl
  | none =>
    have hhidden := find?_hidden
      [("kelas 10", gradeLabel 10), ("kelas 11", gradeLabel 11), ("kelas 12", gradeLabel 12)]
      (contains_of_firstDigit_eq_none hkelas) (by
        simp only [List.forall_mem_cons]
        exact ⟨⟨"0", by decide⟩, ⟨"1", by decide⟩, ⟨"2", by decide⟩, by simp⟩)
    rw [hhidden]
    by_cases hx : contains lower "kelas x" = true
    · simp [hx]
    · have hhidden' := find?_hidden
        [("kelas xi", gradeLabel 11), ("kelas xii", gradeLabel 12)] (Bool.eq_false_iff.2 hx) (by
          simp only [List.forall_mem_cons]
          exact ⟨⟨"i", by decide⟩, ⟨"ii", by decide⟩, by simp⟩)
      rw [hhidden']
      cases hgrade : firstDigit lower "grade " with
      | some d => simp [hx]
      | none =>
        have hhidden'' := find?_hidden
          [("grade 10", gradeLabel 10), ("grade 11", gradeLabel 11), ("grade 12", gradeLabel 12)]
          (contains_of_firstDigit_eq_none hgrade) (by
            simp only [List.forall_mem_cons]
            exact ⟨⟨"0", by decide⟩, ⟨"1", by decide⟩, ⟨"2", by decide⟩, by simp⟩)
        rw [hhidden'']
        simp [hx]

/-! ## What the texts name -/

/-- The numbers from 1 to 9 with a text are found from the first one on. -/
structure NamesFirst (lower word : String) (n : Nat) : Prop where
  low : 1 ≤ n
  high : n ≤ 9
  mention : mentions lower word n = true
  first : ∀ m, 1 ≤ m → m < n → mentions lower word m = false

/-- None of them is found. -/
def NamesNone (lower word : String) : Prop := ∀ m, 1 ≤ m → m ≤ 9 → mentions lower word m = false

/-- The grade that the texts in a lower-cased prompt name. -/
inductive TextsName (lower : String) : Option Nat → Prop where
  | kelas {n : Nat} (h : NamesFirst lower "kelas " n) : TextsName lower (some n)
  | tenth (h : NamesNone lower "kelas ") (hx : contains lower "kelas x" = true) :
      TextsName lower (some 10)
  | grade {n : Nat} (h : NamesNone lower "kelas ") (hx : contains lower "kelas x" = false)
      (hn : NamesFirst lower "grade " n) : TextsName lower (some n)
  | nothing (h : NamesNone lower "kelas ") (hx : contains lower "kelas x" = false)
      (hn : NamesNone lower "grade ") : TextsName lower none

theorem firstDigit_eq_some_iff {lower word : String} {n : Nat} :
    firstDigit lower word = some n ↔ NamesFirst lower word n := by
  rw [firstDigit, List.find?_range'_eq_some]
  constructor
  · rintro ⟨hmentions, hmem, hfirst⟩
    have hrange := List.mem_range'_1.1 hmem
    exact ⟨by omega, by omega, hmentions, fun m hm hlt => by simpa using hfirst m hm hlt⟩
  · rintro ⟨hlow, hhigh, hmentions, hfirst⟩
    exact ⟨hmentions, List.mem_range'_1.2 (by omega), fun m hm hlt => by simpa using hfirst m hm hlt⟩

theorem firstDigit_eq_none_iff {lower word : String} :
    firstDigit lower word = none ↔ NamesNone lower word := by
  rw [firstDigit, List.find?_eq_none]
  constructor
  · intro h m hlow hhigh
    simpa using h m (List.mem_range'_1.2 (by omega))
  · intro h m hm
    have hrange := List.mem_range'_1.1 hm
    simpa using h m (by omega) (by omega)

theorem textsName_iff {lower : String} {r : Option Nat} :
    TextsName lower r ↔ tableGrade lower = r := by
  unfold tableGrade
  constructor
  · intro h
    cases h with
    | kelas h => rw [firstDigit_eq_some_iff.2 h, Option.some_or]
    | tenth h hx => rw [firstDigit_eq_none_iff.2 h, Option.none_or, if_pos hx, Option.some_or]
    | grade h hx hn =>
      rw [firstDigit_eq_none_iff.2 h, Option.none_or, if_neg (by simp [hx]), Option.none_or,
        firstDigit_eq_some_iff.2 hn]
    | nothing h hx hn =>
      rw [firstDigit_eq_none_iff.2 h, Option.none_or, if_neg (by simp [hx]), Option.none_or,
        firstDigit_eq_none_iff.2 hn]
  · rintro rfl
    cases hkelas : firstDigit lower "kelas " with
    | some n => exact .kelas (firstDigit_eq_some_iff.1 hkelas)
    | none =>
      have hnone := firstDigit_eq_none_iff.1 hkelas
      rw [Option.none_or]
      by_cases hx : contains lower "kelas x" = true
      · rw [if_pos hx]
        exact .tenth hnone hx
      · rw [if_neg hx, Option.none_or]
        cases hgrade : firstDigit lower "grade " with
        | some n => exact .grade hnone (Bool.eq_false_iff.2 hx) (firstDigit_eq_some_iff.1 hgrade)
        | none => exact .nothing hnone (Bool.eq_false_iff.2 hx) (firstDigit_eq_none_iff.1 hgrade)

/-- The texts name no grade above 10. -/
theorem TextsName.range {lower : String} {n : Nat} (h : TextsName lower (some n)) :
    1 ≤ n ∧ n ≤ 10 := by
  cases h with
  | kelas h | grade _ _ h => exact ⟨h.low, Nat.le_succ_of_le h.high⟩
  | tenth => omega

/-! ## The two detectors -/

variable {P : TextPlatform} {isWordChar : Char → Bool} {prompt : String}

/-- The label of a grade comes from the texts of the table. -/
theorem detectTargetAudience_eq_iff {n : Nat} (hn : n ∈ List.range' 1 12) :
    detectTargetAudience P prompt = some (gradeLabel n) ↔
      TextsName (P.toLowercase prompt) (some n) := by
  have haudience : detectTargetAudience P prompt =
      ((tableGrade (P.toLowercase prompt)).map gradeLabel).or
        ((standaloneLevels.find? fun row =>
          P.regexIsMatch (wordPattern row.1) (P.toLowercase prompt)).map Prod.snd) := by
    rw [← gradePatterns_find]
    rfl
  rw [haudience, textsName_iff]
  cases hgrade : tableGrade (P.toLowercase prompt) with
  | some m =>
    have hrange := (textsName_iff.2 hgrade).range
    rw [Option.map_some, Option.some_or, Option.some.injEq, Option.some.injEq]
    constructor
    · exact gradeLabel_injective (List.mem_range'_1.2 (by omega)) hn
    · rintro rfl
      rfl
  | none =>
    have hlevels : ∀ row ∈ standaloneLevels, ∀ n ∈ List.range' 1 12, row.2 ≠ gradeLabel n := by
      decide +kernel
    rw [Option.map_none, Option.none_or]
    refine iff_of_false (fun h => ?_) (by simp)
    obtain ⟨row, hrow, hlabel⟩ := Option.map_eq_some_iff.1 h
    exact hlevels row (List.mem_of_find?_eq_some hrow) n hn hlabel

/-- The detectors name the same grade from 1 to 12. -/
structure DetectorsAgree (P : TextPlatform) (isWordChar : Char → Bool) (prompt : String) :
    Prop where
  audience : ∀ n ∈ List.range' 1 12, detectClassNumber isWordChar prompt = some (n : Int) →
    detectTargetAudience P prompt = some (gradeLabel n)
  number : ∀ n ∈ List.range' 1 12, detectTargetAudience P prompt = some (gradeLabel n) →
    detectClassNumber isWordChar prompt = some (n : Int)

/-- The grade that the texts name is the one that the prompt names first. -/
def SameGrade (isWordChar : Char → Bool) (prompt lower : String) : Prop :=
  (∃ n : Nat, TextsName lower (some n) ∧ FirstNamed isWordChar prompt n) ∨
    TextsName lower none ∧ ∀ n ∈ List.range' 1 12, ¬ FirstNamed isWordChar prompt (n : Nat)

theorem firstNamed_unique {n m : Int} (hn : FirstNamed isWordChar prompt n)
    (hm : FirstNamed isWordChar prompt m) : n = m := by
  rw [← detectClassNumber_eq_some_iff] at hn hm
  rw [hn] at hm
  exact Option.some.inj hm

theorem detectorsAgree_iff_names :
    DetectorsAgree P isWordChar prompt ↔ ∀ n ∈ List.range' 1 12,
      (FirstNamed isWordChar prompt (n : Nat) ↔ TextsName (P.toLowercase prompt) (some n)) := by
  constructor
  · intro h n hn
    rw [← detectClassNumber_eq_some_iff, ← detectTargetAudience_eq_iff hn]
    exact ⟨h.audience n hn, h.number n hn⟩
  · intro h
    refine ⟨fun n hn hnumber => ?_, fun n hn haudience => ?_⟩
    · exact (detectTargetAudience_eq_iff hn).2 ((h n hn).1 (detectClassNumber_eq_some_iff.1 hnumber))
    · exact detectClassNumber_eq_some_iff.2
        ((h n hn).2 ((detectTargetAudience_eq_iff hn).1 haudience))

/-- The detectors agree exactly when the prompt names first, as a whole, the grade
that the texts of the table name. -/
theorem detectors_agree_iff (P : TextPlatform) (isWordChar : Char → Bool) (prompt : String) :
    DetectorsAgree P isWordChar prompt ↔ SameGrade isWordChar prompt (P.toLowercase prompt) := by
  rw [detectorsAgree_iff_names]
  constructor
  · intro h
    cases hgrade : tableGrade (P.toLowercase prompt) with
    | some n =>
      have htexts := textsName_iff.2 hgrade
      have hrange := htexts.range
      exact .inl ⟨n, htexts, (h n (List.mem_range'_1.2 (by omega))).2 htexts⟩
    | none =>
      refine .inr ⟨textsName_iff.2 hgrade, fun n hn hfirst => ?_⟩
      have htexts := textsName_iff.1 ((h n hn).1 hfirst)
      rw [hgrade] at htexts
      cases htexts
  · rintro (⟨m, htexts, hfirst⟩ | ⟨htexts, hnone⟩) n hn
    · constructor
      · intro hn'
        rwa [Int.ofNat.inj (firstNamed_unique hn' hfirst)]
      · intro hn'
        rw [textsName_iff] at htexts hn'
        rw [htexts] at hn'
        rwa [← Option.some.inj hn']
    · refine iff_of_false (hnone n hn) fun hn' => ?_
      rw [textsName_iff] at htexts hn'
      rw [htexts] at hn'
      cases hn'

/-- The tenth grade is taken for the first one. -/
theorem tenth_taken_for_first :
    detectClassNumber Char.isAlphanum "Materi biologi untuk kelas 10" = some 10 ∧
      detectTargetAudience Llm.asciiTexts "Materi biologi untuk kelas 10" = some "SD Kelas 1" ∧
      ¬ DetectorsAgree Llm.asciiTexts Char.isAlphanum "Materi biologi untuk kelas 10" := by
  have hnumber : detectClassNumber Char.isAlphanum "Materi biologi untuk kelas 10" = some 10 := by
    decide +kernel
  have haudience : detectTargetAudience Llm.asciiTexts "Materi biologi untuk kelas 10" =
      some "SD Kelas 1" := by
    decide +kernel
  refine ⟨hnumber, haudience, fun h => ?_⟩
  have htenth := h.audience 10 (by decide) hnumber
  rw [haudience] at htenth
  revert htenth
  decide +kernel

/-- They never agree where the eleventh or the twelfth grade is named. -/
theorem not_detectorsAgree {n : Nat} (hn : n = 11 ∨ n = 12)
    (h : FirstNamed isWordChar prompt (n : Nat)) : ¬ DetectorsAgree P isWordChar prompt := by
  intro hagree
  have htexts := (detectorsAgree_iff_names.1 hagree n (List.mem_range'_1.2 (by omega))).1 h
  have hrange := htexts.range
  omega

end KlassGateway.Recommendation
