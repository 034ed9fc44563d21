import KlassGateway.Lib.Lowercase
/-!
# Classes named in a text

Model of `detect_class_number` and `roman_to_int` in `recommendation/taxonomy.rs`.
The pattern of the source is

    (?i)\b(?:kelas|grade)\s+([0-9]{1,2}|xii|xi|ix|viii|vii|vi|x|v|iv|iii|ii|i)\b

and the first match in the text is taken.  Its parts are written out here: what
stands between two word boundaries after white space is a whole run of word
characters.  Which characters are such is a parameter.  Where case is ignored,
the Kelvin sign counts as a `k` and the long s as an `s`.

* `classHere_eq_some_iff`: what is matched at a place.
* `detectClassNumber_eq_some_iff`: the number is that of the first match.
-/

namespace KlassGateway.Recommendation

open Lib Lib.Text

/-! ## The pattern -/

/-- Whether a character matches a small ASCII letter when case is ignored. -/
def matchesLetter (letter c : Char) : Bool :=
  c.toLower = letter || (letter = 'k' && c = '\u212a') || (letter = 's' && c = '\u017f')

/-- What follows a word that a text begins with when case is ignored. -/
def afterWord : List Char → List Char → Option (List Char)
  | [], cs => some cs
  | letter :: word, c :: cs => if matchesLetter letter c then afterWord word cs else none
  | _ :: _, [] => none

/-- The roman alternatives of the pattern. -/
def romanTokens : List String :=
  ["xii", "xi", "ix", "viii", "vii", "vi", "x", "v", "iv", "iii", "ii", "i"]

/-- The alternatives of the group. -/
def isClassToken (token : List Char) : Bool :=
  ((token.length = 1 || token.length = 2) && token.all Char.isDigit) ||
    romanTokens.contains (String.ofList (token.map Char.toLower))

/-- The two words of the pattern. -/
def kelasWord : List Char := ['k', 'e', 'l', 'a', 's']

def gradeWord : List Char := ['g', 'r', 'a', 'd', 'e']

variable (isWordChar : Char → Bool)

/-- The group of a match at the start of a text, where a word begins. -/
def classHere (cs : List Char) : Option (List Char) :=
  ((afterWord kelasWord cs).or (afterWord gradeWord cs)).bind fun rest =>
    let token := (rest.dropWhile isWhitespace).takeWhile isWordChar
    if rest.head?.any isWhitespace && isClassToken token then some token else none

/-- The group of the first match; `inWord` says whether a word character stands
before the text. -/
def firstClass : Bool → List Char → Option (List Char)
  | _, [] => none
  | inWord, c :: cs =>
    (if inWord then none else classHere isWordChar (c :: cs)).or (firstClass (isWordChar c) cs)

/-! ## Numbers -/

/-- The table of `roman_to_int`. -/
def romanNumbers : List (String × Int) :=
  [("I", 1), ("II", 2), ("III", 3), ("IV", 4), ("V", 5), ("VI", 6), ("VII", 7), ("VIII", 8),
    ("IX", 9), ("X", 10), ("XI", 11), ("XII", 12)]

/-- `roman_to_int`, on ASCII letters. -/
def romanToInt (token : List Char) : Option Int :=
  (romanNumbers.find? fun row => row.1 == String.ofList (token.map Char.toUpper)).map Prod.snd

/-- The number of a group. -/
def classNumber (token : List Char) : Option Int :=
  let lowered := token.map Char.toLower
  (parseI64 (String.ofList lowered)).or (romanToInt lowered)

/-- `detect_class_number`. -/
def detectClassNumber (text : String) : Option Int :=
  (firstClass isWordChar false text.toList).bind classNumber

/-! ## What is matched -/

/-- One of the two words, ignoring case. -/
def ClassWord (word : List Char) : Prop :=
  List.Forall₂ (fun letter c => matchesLetter letter c) kelasWord word ∨
    List.Forall₂ (fun letter c => matchesLetter letter c) gradeWord word

/-- A text begins with the word, white space and a group that no word character
follows. -/
def NamesClass (cs token : List Char) : Prop :=
  ∃ word spaces after, cs = word ++ spaces ++ token ++ after ∧ ClassWord word ∧
    spaces ≠ [] ∧ (∀ c ∈ spaces, isWhitespace c = true) ∧ isClassToken token = true ∧
    (∀ c ∈ token, isWordChar c = true) ∧ ∀ c ∈ after.head?, isWordChar c = false

variable {isWordChar} {cs rest token word : List Char} {inWord : Bool}

theorem afterWord_eq_some_iff :
    afterWord word cs = some rest ↔ ∃ w, cs = w ++ rest ∧
      List.Forall₂ (fun letter c => matchesLetter letter c) word w := by
  induction word generalizing cs with
  | nil =>
    constructor
    · intro h
      cases h
      exact ⟨[], rfl, .nil⟩
    · rintro ⟨w, rfl, hw⟩
      cases hw
      rfl
  | cons letter word ih =>
    cases cs with
    | nil =>
      constructor
      · intro h
        cases h
      · rintro ⟨w, hw, hmatch⟩
        cases hmatch
        cases hw
    | cons c cs =>
      unfold afterWord
      constructor
      · intro h
        split at h
        · next hc =>
          obtain ⟨w, rfl, hw⟩ := ih.1 h
          exact ⟨c :: w, rfl, .cons hc hw⟩
        · cases h
      · rintro ⟨w, hw, hmatch⟩
        cases hmatch with
        | cons hc hrest =>
          obtain ⟨rfl, rfl⟩ := List.cons.inj hw
          rw [if_pos hc]
          exact ih.2 ⟨_, rfl, hrest⟩

theorem matchesLetter_disjoint {c : Char} (hkelas : matchesLetter 'k' c = true)
    (hgrade : matchesLetter 'g' c = true) : False := by
  have hlower : c.toLower = 'g' := by simpa [matchesLetter] using hgrade
  rcases Bool.or_eq_true_iff.1 hkelas with hkelas | hkelas
  · rcases Bool.or_eq_true_iff.1 hkelas with hkelas | hkelas
    · rw [hlower] at hkelas
      revert hkelas
      decide
    · have hsign : c = '\u212a' := by simpa using hkelas
      rw [hsign] at hlower
      revert hlower
      decide
  · revert hkelas
    simp

/-- A text begins with one of the two words only. -/
theorem afterWord_or_iff :
    (afterWord kelasWord cs).or (afterWord gradeWord cs) = some rest ↔
      ∃ word, cs = word ++ rest ∧ ClassWord word := by
  rw [Option.or_eq_some_iff]
  constructor
  · rintro (h | ⟨_, h⟩)
    · obtain ⟨w, hw, hmatch⟩ := afterWord_eq_some_iff.1 h
      exact ⟨w, hw, .inl hmatch⟩
    · obtain ⟨w, hw, hmatch⟩ := afterWord_eq_some_iff.1 h
      exact ⟨w, hw, .inr hmatch⟩
  · rintro ⟨word, hcs, hmatch | hmatch⟩
    · exact .inl (afterWord_eq_some_iff.2 ⟨word, hcs, hmatch⟩)
    · refine .inr ⟨?_, afterWord_eq_some_iff.2 ⟨word, hcs, hmatch⟩⟩
      by_contra hne
      obtain ⟨rest', hrest'⟩ := Option.ne_none_iff_exists'.1 hne
      obtain ⟨word', hcs', hmatch'⟩ := afterWord_eq_some_iff.1 hrest'
      -- The first letters differ.
      cases hmatch with
      | cons hgrade _ =>
        cases hmatch' with
        | cons hkelas _ =>
          rw [hcs'] at hcs
          obtain ⟨rfl, _⟩ := List.cons.inj hcs
          exact matchesLetter_disjoint hkelas hgrade

/-- A group begins with a digit or a letter. -/
theorem isClassToken_head (h : isClassToken token = true) :
    ∃ c more, token = c :: more ∧ isWhitespace c = false := by
  cases token with
  | nil => exact absurd h (by decide +kernel)
  | cons c more =>
    refine ⟨c, more, rfl, ?_⟩
    rcases Bool.or_eq_true_iff.1 h with hdigits | hroman
    · have hall := List.all_eq_true.1 (Bool.and_eq_true_iff.1 hdigits).2
      exact isWhitespace_of_isDigit (hall c (List.mem_cons_self ..))
    · have hhead : ∀ s ∈ romanTokens, s.toList.head?.any (fun d => !isWhitespace d) = true := by
        decide +kernel
      have hlower := hhead _ (List.contains_iff_mem.1 hroman)
      rw [String.toList_ofList, List.map_cons, List.head?_cons, Option.any_some] at hlower
      by_contra hspace
      have hsame := lowersChars_toLower.space c (by simpa using hspace)
      rw [List.cons.inj hsame |>.1] at hlower
      simp [hspace] at hlower

theorem namesClass_ne_nil (h : NamesClass isWordChar cs token) : cs ≠ [] := by
  obtain ⟨word, spaces, after, rfl, _, hne, _⟩ := h
  simp [hne]

/-- What is matched where a word begins. -/
theorem classHere_eq_some_iff :
    classHere isWordChar cs = some token ↔ NamesClass isWordChar cs token := by
  unfold classHere
  rw [Option.bind_eq_some_iff]
  constructor
  · rintro ⟨rest, hrest, hgroup⟩
    obtain ⟨word, rfl, hword⟩ := afterWord_or_iff.1 hrest
    dsimp only at hgroup
    split at hgroup
    · next hcond =>
      cases hgroup
      obtain ⟨hspace, htoken⟩ := Bool.and_eq_true_iff.1 hcond
      refine ⟨word, rest.takeWhile isWhitespace,
        (rest.dropWhile isWhitespace).dropWhile isWordChar, ?_, hword, ?_,
        fun c hc => List.mem_takeWhile_imp hc, htoken, fun c hc => List.mem_takeWhile_imp hc, ?_⟩
      · rw [List.append_assoc, List.append_assoc, List.takeWhile_append_dropWhile,
          List.takeWhile_append_dropWhile]
      · cases rest with
        | nil => cases hspace
        | cons c rest =>
          have hc : isWhitespace c = true := hspace
          simp [hc]
      · intro c hc
        have hnot := List.head?_dropWhile_not isWordChar (rest.dropWhile isWhitespace)
        rw [hc] at hnot
        exact hnot
    · cases hgroup
  · rintro ⟨word, spaces, after, rfl, hword, hne, hspaces, htoken, hchars, hafter⟩
    refine ⟨spaces ++ token ++ after, afterWord_or_iff.2 ⟨word, by simp, hword⟩, ?_⟩
    obtain ⟨c, more, hc, hspace⟩ := isClassToken_head htoken
    have hdrop : (spaces ++ token ++ after).dropWhile isWhitespace = token ++ after := by
      rw [List.append_assoc, List.dropWhile_append_of_pos hspaces, hc, List.cons_append,
        List.dropWhile_cons_of_neg (by simp [hspace])]
    have htake : (token ++ after).takeWhile isWordChar = token := by
      rw [List.takeWhile_append_of_pos hchars]
      cases after with
      | nil => simp
      | cons d after =>
        have hd : isWordChar d = false := hafter d rfl
        rw [List.takeWhile_cons_of_neg (by simp [hd]), List.append_nil]
    have hhead : (spaces ++ token ++ after).head?.any isWhitespace = true := by
      obtain ⟨d, spaces, rfl⟩ := List.exists_cons_of_ne_nil hne
      exact hspaces d (List.mem_cons_self ..)
    dsimp only
    rw [hdrop, htake, hhead, htoken]
    rfl

/-- No word character stands before a place; `inWord` is for the start of the
text. -/
def StartsWord (isWordChar : Char → Bool) (inWord : Bool) (before : List Char) : Prop :=
  before.getLast?.elim inWord isWordChar = false

/-- A class is named in a text where a word begins, and at no place before. -/
def FirstClass (isWordChar : Char → Bool) (inWord : Bool) (cs token : List Char) : Prop :=
  ∃ before rest, cs = before ++ rest ∧ StartsWord isWordChar inWord before ∧
    NamesClass isWordChar rest token ∧
    ∀ before' rest' token', cs = before' ++ rest' → before'.length < before.length →
      StartsWord isWordChar inWord before' → ¬ NamesClass isWordChar rest' token'

theorem startsWord_cons {c : Char} {before : List Char} :
    StartsWord isWordChar inWord (c :: before) ↔ StartsWord isWordChar (isWordChar c) before := by
  unfold StartsWord
  rw [List.getLast?_cons]
  cases before.getLast? <;> rfl

/-- One character at which nothing is matched. -/
theorem firstClass_cons_iff {c : Char}
    (hhere : inWord = false → ∀ t, ¬ NamesClass isWordChar (c :: cs) t) :
    FirstClass isWordChar inWord (c :: cs) token ↔
      FirstClass isWordChar (isWordChar c) cs token := by
  constructor
  · rintro ⟨before, rest, hsplit, hstarts, hnames, hfirst⟩
    cases before with
    | nil =>
      rw [List.nil_append] at hsplit
      rw [← hsplit] at hnames
      exact absurd hnames (hhere hstarts token)
    | cons d before =>
      obtain ⟨rfl, rfl⟩ := List.cons.inj hsplit
      refine ⟨before, rest, rfl, startsWord_cons.1 hstarts, hnames, ?_⟩
      intro before' rest' token' hsplit' hlt hstarts'
      apply hfirst (c :: before') rest' token'
      · rw [hsplit', List.cons_append]
      · exact Nat.succ_lt_succ hlt
      · exact startsWord_cons.2 hstarts'
  · rintro ⟨before, rest, rfl, hstarts, hnames, hfirst⟩
    refine ⟨c :: before, rest, rfl, startsWord_cons.2 hstarts, hnames, ?_⟩
    intro before' rest' token' hsplit' hlt hstarts'
    cases before' with
    | nil =>
      rw [List.nil_append] at hsplit'
      rw [← hsplit']
      exact hhere hstarts' token'
    | cons d before' =>
      obtain ⟨rfl, hrest⟩ := List.cons.inj hsplit'
      exact hfirst before' rest' token' hrest (Nat.lt_of_succ_lt_succ hlt)
        (startsWord_cons.1 hstarts')

/-- The first match is where a class is named first. -/
theorem firstClass_eq_some_iff :
    firstClass isWordChar inWord cs = some token ↔ FirstClass isWordChar inWord cs token := by
  induction cs generalizing inWord with
  | nil =>
    constructor
    · intro h
      cases h
    · rintro ⟨before, rest, hsplit, _, hnames, _⟩
      exact absurd (List.append_eq_nil_iff.1 hsplit.symm).2 (namesClass_ne_nil hnames)
  | cons c cs ih =>
    unfold firstClass
    cases hhere : (if inWord then none else classHere isWordChar (c :: cs)) with
    | none =>
      rw [Option.none_or, ih]
      refine (firstClass_cons_iff fun hout t hnames => ?_).symm
      rw [hout, if_neg (by decide), classHere_eq_some_iff.2 hnames] at hhere
      cases hhere
    | some found =>
      have hout : inWord = false := by
        cases inWord with
        | true => cases hhere
        | false => rfl
      rw [hout, if_neg (by decide)] at hhere
      have hfound := classHere_eq_some_iff.1 hhere
      rw [Option.some_or]
      constructor
      · intro h
        cases h
        refine ⟨[], c :: cs, rfl, hout, hfound, ?_⟩
        intro _ _ _ _ hlt
        exact absurd hlt (Nat.not_lt_zero _)
      · rintro ⟨before, rest, hsplit, hstarts, hnames, hfirst⟩
        cases before with
        | nil =>
          rw [List.nil_append] at hsplit
          rw [← hsplit, ← classHere_eq_some_iff, hhere] at hnames
          exact hnames
        | cons d before =>
          exact absurd hfound (hfirst [] (c :: cs) found rfl (Nat.succ_pos _) hout)

/-- The first class that a text names has a number. -/
def FirstNamed (isWordChar : Char → Bool) (text : String) (n : Int) : Prop :=
  ∃ token, FirstClass isWordChar false text.toList token ∧ classNumber token = some n

theorem detectClassNumber_eq_some_iff {text : String} {n : Int} :
    detectClassNumber isWordChar text = some n ↔ FirstNamed isWordChar text n := by
  rw [detectClassNumber, Option.bind_eq_some_iff]
  simp only [firstClass_eq_some_iff]
  rfl

end KlassGateway.Recommendation
