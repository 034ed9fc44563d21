import KlassGateway.Llm.EnrichPrompt
import KlassGateway.Api.Clarification
import KlassGateway.System
/-!
# What enriching does with the answers

An answer is left out where the prompt seems to say it already, and slides are
looked for up to a fixed number.

* `AnswerField.Spec`: when the clause of a field is appended.
* `mem_slideContents_iff`: which slides get a line.
* `enrichPrompt_keepsAnswers_iff`: which answers are all kept.
-/

namespace KlassGateway.Llm

open Lib Lib.Text Standards Api

variable {P : Platform} {answers : Answers} {rawPrompt hLower a : String}

/-! ## Fields -/

/-- A field whose answer is appended as a clause. -/
structure AnswerField where
  fieldId : String
  clause : String → Answers → Option String
  text : String → String
  /-- What is taken to say that the prompt mentions the answer. -/
  Mentions : String → String → Prop

/-- The clause of a field is appended unless the prompt mentions the answer. -/
structure AnswerField.Spec (P : Platform) (f : AnswerField) : Prop where
  mem : ∀ {hLower answers}, f.clause hLower answers ∈
    [audienceClause P hLower answers, outputTypeClause P hLower answers,
      pageCountClause P hLower answers, slideCountClause P hLower answers,
      objectivesClause P hLower answers, difficultyClause P hLower answers,
      questionCountClause P hLower answers, methodClause P hLower answers,
      activitiesClause hLower answers]
  clause_iff : ∀ {hLower answers a}, answers f.fieldId = some a → trim a ≠ "" →
    (f.clause hLower answers = some (f.text a) ↔ ¬ f.Mentions hLower a)

/-- The target audience: every word of it occurs in the prompt. -/
def audienceField (P : Platform) : AnswerField where
  fieldId := "target_audience"
  clause := audienceClause P
  text a := "untuk jenjang " ++ spaced a
  Mentions hLower a :=
    tokens (P.toLowercase (spaced a)) ≠ [] ∧
      ∀ w ∈ tokens (P.toLowercase (spaced a)), w.toList <:+: hLower.toList

/-- The learning objectives: the trimmed text occurs in the prompt. -/
def objectivesField (P : Platform) : AnswerField where
  fieldId := "learning_objectives"
  clause := objectivesClause P
  text a := "dengan tujuan pembelajaran: " ++ trim a
  Mentions hLower a := (P.toLowercase (trim a)).toList <:+: hLower.toList

/-- The difficulty level: the text occurs in the prompt. -/
def difficultyField (P : Platform) : AnswerField where
  fieldId := "difficulty_level"
  clause := difficultyClause P
  text a := "tingkat kesulitan " ++ a
  Mentions hLower a := (P.toLowercase a).toList <:+: hLower.toList

/-- The teaching method: the text with blanks occurs in the prompt. -/
def methodField (P : Platform) : AnswerField where
  fieldId := "teaching_method"
  clause := methodClause P
  text a := "dengan metode " ++ spaced a
  Mentions hLower a := (P.toLowercase (spaced a)).toList <:+: hLower.toList

theorem clauseUnless_eq_some_iff {mentioned : Bool} {clause : String} :
    clauseUnless mentioned clause = some clause ↔ ¬ mentioned = true := by
  cases mentioned <;> simp [clauseUnless]

theorem contains_iff {s pat : String} : contains s pat = true ↔ pat.toList <:+: s.toList :=
  containsList_iff_infix

theorem spaced_spaced (s : String) : spaced (spaced s) = spaced s := by
  unfold spaced
  rw [String.map_map]
  congr 1
  funext c
  by_cases hc : c = '_'
  · simp [hc]
  · simp [hc]

theorem audienceField_spec : (audienceField P).Spec P where
  mem := by simp [audienceField]
  clause_iff {hLower answers a} ha _ := by
    have hanswer : answers "target_audience" = some a := ha
    show audienceClause P hLower answers = some ("untuk jenjang " ++ spaced a) ↔ ¬ (_ ∧ _)
    rw [audienceClause, hanswer, Option.bind_some, clauseUnless_eq_some_iff, containsAllTokens,
      spaced_spaced, Bool.and_eq_true, List.all_eq_true]
    simp only [contains_iff, Bool.not_eq_true', List.isEmpty_eq_false_iff]

theorem objectivesField_spec : (objectivesField P).Spec P where
  mem := by simp [objectivesField]
  clause_iff {hLower answers a} ha hne := by
    have hanswer : answers "learning_objectives" = some a := ha
    show objectivesClause P hLower answers = some ("dengan tujuan pembelajaran: " ++ trim a) ↔ _
    rw [objectivesClause, hanswer, Option.bind_some, if_neg hne, clauseUnless_eq_some_iff,
      contains_iff]
    rfl

theorem difficultyField_spec : (difficultyField P).Spec P where
  mem := by simp [difficultyField]
  clause_iff {hLower answers a} ha _ := by
    have hanswer : answers "difficulty_level" = some a := ha
    show difficultyClause P hLower answers = some ("tingkat kesulitan " ++ a) ↔ _
    rw [difficultyClause, hanswer, Option.bind_some, clauseUnless_eq_some_iff, contains_iff]
    rfl

theorem methodField_spec : (methodField P).Spec P where
  mem := by simp [methodField]
  clause_iff {hLower answers a} ha _ := by
    have hanswer : answers "teaching_method" = some a := ha
    show methodClause P hLower answers = some ("dengan metode " ++ spaced a) ↔ _
    rw [methodClause, hanswer, Option.bind_some, clauseUnless_eq_some_iff, contains_iff]
    rfl

/-- The fields whose answers are compared with the prompt. -/
def answerFields (P : Platform) : List AnswerField :=
  [audienceField P, objectivesField P, difficultyField P, methodField P]

theorem answerFields_spec {f : AnswerField} (h : f ∈ answerFields P) : f.Spec P := by
  rcases List.mem_cons.1 h with rfl | h
  · exact audienceField_spec
  rcases List.mem_cons.1 h with rfl | h
  · exact objectivesField_spec
  rcases List.mem_cons.1 h with rfl | h
  · exact difficultyField_spec
  · rw [List.mem_singleton.1 h]
    exact methodField_spec

/-! ## Slides -/

theorem toString_nat_injective {i j : Nat} (h : toString i = toString j) : i = j := by
  have hread : parseDigits (Nat.toDigits 10 i) = parseDigits (Nat.toDigits 10 j) := by
    rw [← Nat.toList_repr, ← Nat.toList_repr]
    exact congrArg (fun s : String => parseDigits s.toList) h
  rw [parseDigits_toDigits, parseDigits_toDigits] at hread
  exact Option.some.inj hread

theorem colon_not_mem_toString (i : Nat) : ':' ∉ (toString i).toList := by
  have hcolon := not_mem_toString (i := (i : Int)) (c := ':') (by decide) (by decide)
  exact hcolon

/-- The number of a slide is read off its line. -/
theorem slideLine_injective {i j : Nat} {b : String} (h : slideLine i a = slideLine j b) :
    i = j := by
  have hlist := congrArg String.toList h
  simp only [slideLine, String.toList_append, List.append_assoc, List.append_cancel_left_eq] at hlist
  have hnumber := (append_cons_inj (colon_not_mem_toString i) (colon_not_mem_toString j) hlist).1
  exact toString_nat_injective (String.toList_inj.1 hnumber)

/-- A slide that is described gets a line exactly up to number 20. -/
theorem mem_slideContents_iff {i : Nat} (ha : answers ("slide_" ++ toString i) = some a)
    (hne : trim a ≠ "") : slideLine i a ∈ slideContents answers ↔ 0 < i ∧ i ≤ 20 := by
  have hcontent : slideContent answers i = some a := by
    rw [slideContent, ha]
    exact if_neg hne
  constructor
  · intro h
    obtain ⟨⟨j, b⟩, hmem, hline⟩ := List.mem_map.1 h
    obtain ⟨k, hk, hentry⟩ := List.mem_filterMap.1 hmem
    obtain ⟨content, _, hpair⟩ := Option.map_eq_some_iff.1 hentry
    have hij := slideLine_injective hline
    have hrange := List.mem_range'_1.1 hk
    have hkj := congrArg Prod.fst hpair
    simp only at hkj
    omega
  · intro h
    refine List.mem_map.2 ⟨(i, a), List.mem_filterMap.2 ⟨i, ?_, ?_⟩, rfl⟩
    · exact List.mem_range'_1.2 (by omega)
    · rw [hcontent]
      rfl

/-- The slides stand in increasing order. -/
theorem slideEntries_increasing (answers : Answers) :
    (slideEntries answers).Pairwise fun s t => s.1 < t.1 := by
  rw [slideEntries, List.pairwise_filterMap]
  refine List.Pairwise.imp ?_ List.pairwise_lt_range'
  intro i j hij s hs t ht
  obtain ⟨_, _, rfl⟩ := Option.map_eq_some_iff.1 hs
  obtain ⟨_, _, rfl⟩ := Option.map_eq_some_iff.1 ht
  exact hij

/-! ## All answers -/

/-- A word of an answer that is not a word of the prompt, where `sep` says what
separates words. -/
def HasNewWord (P : Platform) (sep : Char → Bool) (rawPrompt a : String) : Prop :=
  ∃ w ∈ wordsList sep (P.toLowercase (spaced a)).toList,
    w ∉ wordsList sep (P.toLowercase (trim rawPrompt)).toList

/-- No answer is lost. -/
structure KeepsAnswers (P : Platform) (sep : Char → Bool) (rawPrompt : String)
    (answers : Answers) : Prop where
  /-- An answer with a new word is appended as the clause of its field. -/
  clause : ∀ f ∈ answerFields P, ∀ a, answers f.fieldId = some a → trim a ≠ "" →
    HasNewWord P sep rawPrompt a →
      f.clause (P.toLowercase (trim rawPrompt)) answers = some (f.text a) ∧
        f.text a ∈ clauses P (P.toLowercase (trim rawPrompt)) answers
  /-- A slide that is asked about and described has its line. -/
  slide : ∀ i, SlideAsked i → ∀ a, answers ("slide_" ++ toString i) = some a → trim a ≠ "" →
    slideLine i a ∈ slideContents answers
  /-- The lines are those of slides in increasing order. -/
  increasing : ∃ entries : List (Nat × String),
    slideContents answers = entries.map (fun (i, content) => slideLine i content) ∧
      entries.Pairwise fun s t => s.1 < t.1

/-- What the prompt is taken to mention it says in whole words, and only the
first 20 slides are described. -/
structure MentionsWhole (P : Platform) (sep : Char → Bool) (rawPrompt : String)
    (answers : Answers) : Prop where
  clause : ∀ f ∈ answerFields P, ∀ a, answers f.fieldId = some a → trim a ≠ "" →
    f.Mentions (P.toLowercase (trim rawPrompt)) a → ¬ HasNewWord P sep rawPrompt a
  slide : ∀ i, 20 < i → i < 2 ^ 64 → ∀ a, answers ("slide_" ++ toString i) = some a → trim a = ""

/-- The answers are all kept exactly when the prompt says in whole words what it
is taken to mention and no slide after the twentieth is described. -/
theorem enrichPrompt_keepsAnswers_iff (P : Platform) (sep : Char → Bool) (rawPrompt : String)
    (answers : Answers) :
    KeepsAnswers P sep rawPrompt answers ↔ MentionsWhole P sep rawPrompt answers := by
  constructor
  · intro hkeeps
    refine ⟨fun f hf a ha hne hmentions hnew => ?_, fun i hlarge hlt a ha => ?_⟩
    · have hclause := (hkeeps.clause f hf a ha hne hnew).1
      exact ((answerFields_spec hf).clause_iff ha hne).1 hclause hmentions
    · by_contra hne
      have hasked : SlideAsked i := (slideAsked_iff i).2 ⟨by omega, hlt⟩
      have hline := (mem_slideContents_iff ha hne).1 (hkeeps.slide i hasked a ha hne)
      omega
  · intro hwhole
    refine ⟨fun f hf a ha hne hnew => ?_, fun i hasked a ha hne => ?_, ?_⟩
    · have hspec := answerFields_spec hf
      have hclause := (hspec.clause_iff ha hne).2 fun hmentions =>
        hwhole.clause f hf a ha hne hmentions hnew
      refine ⟨hclause, List.mem_filterMap.2 ⟨_, hspec.mem, ?_⟩⟩
      exact hclause
    · obtain ⟨hpos, hlt⟩ := (slideAsked_iff i).1 hasked
      apply (mem_slideContents_iff ha hne).2
      refine ⟨hpos, Nat.le_of_not_lt fun hlarge => hne (hwhole.slide i hlarge hlt a ha)⟩
    · exact ⟨slideEntries answers, rfl, slideEntries_increasing answers⟩

/-- An answer of which one word occurs only as a part of a number. -/
def gradeAnswer : Answers := fun field => if field = "target_audience" then some "SD_Kelas_1" else none

/-- An answer for a slide after the twentieth. -/
def lateSlide : Answers := fun field => if field = "slide_21" then some "Penutup" else none

/-- A grade is lost because it occurs in another number, and a slide because of
its number. -/
theorem answers_lost :
    (∀ sep ∈ [isWhitespace, fun c => !c.isAlphanum],
      ¬ KeepsAnswers asciiPlatform sep "Buatkan 10 soal untuk anak SD kelas rendah" gradeAnswer) ∧
    ¬ KeepsAnswers asciiPlatform isWhitespace "Buatkan 25 slide" lateSlide := by
  have hskipped : audienceClause asciiPlatform (asciiPlatform.toLowercase
      (trim "Buatkan 10 soal untuk anak SD kelas rendah")) gradeAnswer = none := by
    decide +kernel
  have hnew : ∀ sep ∈ [isWhitespace, fun c => !c.isAlphanum], HasNewWord asciiPlatform sep
      "Buatkan 10 soal untuk anak SD kelas rendah" "SD_Kelas_1" := by
    intro sep hsep
    refine ⟨['1'], ?_, ?_⟩
    · revert sep
      decide +kernel
    · revert sep
      decide +kernel
  constructor
  · intro sep hsep hkeeps
    have hclause := (hkeeps.clause (audienceField asciiPlatform) (List.mem_cons_self ..) "SD_Kelas_1"
      rfl (by decide +kernel) (hnew sep hsep)).1
    rw [show (audienceField asciiPlatform).clause = audienceClause asciiPlatform from rfl,
      hskipped] at hclause
    cases hclause
  · intro hkeeps
    have hasked : SlideAsked 21 := (slideAsked_iff 21).2 (by omega)
    have hline := hkeeps.slide 21 hasked "Penutup" (by decide +kernel) (by decide +kernel)
    revert hline
    decide +kernel

end KlassGateway.Llm
