import KlassGateway.Guarantees.TaxonomyRanking
import Mathlib.Algebra.Order.BigOperators.Group.List
/-!
# What a repeated word does to the subject of a prompt

An overlap counts the words of the prompt that are among the words of a name.
Only the name is made a set, so a word that the prompt repeats counts as often
as it stands there.

* `overlap_le_iff`: an overlap stays within the words of the name as long as the prompt
  repeats no more of them than it leaves out.
* `Repeats.points_eq`: what a repetition gives an entry is its `gain`.
* `rankedBest_iff`: the best entry, its score and its label stay the same if the
  gains do not use up its lead.
* `infer_of_neutral`: other repetitions change nothing at all.
-/

namespace KlassGateway.Recommendation

open Lib Lib.Text Orchestrator

/-! ## Overlaps -/

section Overlap

variable {C : TextClasses} {prompt name : String}

theorem mem_filteredTokens {text w : String} :
    w ∈ filteredTokens C text ↔ w ∈ tokenizeSearchText C text ∧ isSearchWord w = true :=
  List.mem_filter

theorem count_filteredTokens {text w : String} (hw : isSearchWord w = true) :
    (filteredTokens C text).count w = (tokenizeSearchText C text).count w :=
  List.count_filter hw

/-- The words of a text, without repetitions. -/
def distinctWords (C : TextClasses) (text : String) : Nat := (tokenizeSearchText C text).dedup.length

/-- How often the prompt repeats a word of a name: its occurrences after the first. -/
def repetitions (C : TextClasses) (prompt name : String) : Nat :=
  ((tokenizeSearchText C name).dedup.map fun w => (filteredTokens C prompt).count w - 1).sum

/-- The words of a name that the prompt does not have as search words. -/
def unmatched (C : TextClasses) (prompt name : String) : Nat :=
  ((tokenizeSearchText C name).dedup.filter fun w => w ∉ filteredTokens C prompt).length

/-- The overlap with a name, by the words of the name. -/
theorem overlapCount_name :
    overlapCount (filteredTokens C prompt) (filteredTokens C name) =
      ((tokenizeSearchText C name).dedup.map fun w => (filteredTokens C prompt).count w).sum := by
  have hwords : (filteredTokens C prompt).filter (fun t => t ∈ filteredTokens C name) =
      (filteredTokens C prompt).filter fun t => t ∈ (tokenizeSearchText C name).dedup := by
    refine List.filter_congr fun t ht => ?_
    have hsearch := (mem_filteredTokens.1 ht).2
    rw [decide_eq_decide, mem_filteredTokens, List.mem_dedup, and_iff_left hsearch]
  rw [overlapCount_eq, hwords, length_filter_mem _ (List.nodup_dedup _)]

/-- An occurrence is the first one of a word, or a repetition. -/
theorem sum_count (tokens words : List String) :
    (words.map fun w => tokens.count w).sum + (words.filter fun w => w ∉ tokens).length =
      (words.map fun w => tokens.count w - 1).sum + words.length := by
  induction words with
  | nil => rfl
  | cons w words ih =>
    rw [List.map_cons, List.sum_cons, List.map_cons, List.sum_cons, List.length_cons,
      List.filter_cons]
    by_cases hw : w ∈ tokens
    · have hpos := List.count_pos_iff.2 hw
      simp only [hw, not_true_eq_false, decide_false, Bool.false_eq_true, if_false]
      omega
    · have hzero := List.count_eq_zero.2 hw
      simp only [hw, not_false_eq_true, decide_true, if_true, List.length_cons]
      omega

/-- An overlap is within the words of the name exactly if the prompt repeats no more of
them than it leaves out. -/
theorem overlap_le_iff :
    overlapCount (filteredTokens C prompt) (filteredTokens C name) ≤ distinctWords C name ↔
      repetitions C prompt name ≤ unmatched C prompt name := by
  have hcount := sum_count (filteredTokens C prompt) (tokenizeSearchText C name).dedup
  rw [overlapCount_name, distinctWords, repetitions, unmatched]
  omega

end Overlap

variable {C : TextClasses} {entries : List TaxonomyEntry} {prompt prompt' : String}

/-! ## Repetitions -/

/-- A prompt that repeats words of another one. -/
structure Repeats (C : TextClasses) (prompt prompt' : String) : Prop where
  /-- There is something to repeat. -/
  words : trim prompt ≠ "" ∧ trim prompt' ≠ ""
  longer : (tokenizeSearchText C (trim prompt)).Sublist (tokenizeSearchText C (trim prompt'))
  known : ∀ w ∈ tokenizeSearchText C (trim prompt'), w ∈ tokenizeSearchText C (trim prompt)

theorem Repeats.occurrences_le (h : Repeats C prompt prompt') (words : List String) :
    occurrences C (trim prompt) words ≤ occurrences C (trim prompt') words :=
  List.sum_le_sum fun w _ => (h.longer.filter isSearchWord).count_le w

theorem occurrences_congr {words : List String}
    (h : ∀ w ∈ words, (filteredTokens C prompt').count w = (filteredTokens C prompt).count w) :
    occurrences C prompt' words = occurrences C prompt words := by
  rw [occurrences, occurrences, List.map_congr_left fun w hw => h w (List.mem_dedup.1 hw)]

/-! ## What a repetition gives an entry -/

section

variable (C : TextClasses) (prompt prompt' : String) (entry : TaxonomyEntry)

/-- How much more often a prompt has these words than another one. -/
def added (words : List String) : Nat := occurrences C prompt' words - occurrences C prompt words

/-- The points for the words that are added.  At most four words of the description count,
and three of the structure. -/
def wordGain : Int :=
  30 * added C prompt prompt' (filteredTokens C entry.subjectName) +
    55 * added C prompt prompt' (filteredTokens C entry.subSubjectName) +
    15 * (min (added C prompt prompt' (filteredTokens C entry.description))
      (4 - occurrences C prompt (filteredTokens C entry.description)) : Nat) +
    7 * (min (added C prompt prompt' (structureTokens C entry))
      (3 - occurrences C prompt (structureTokens C entry)) : Nat)

/-- The points for what is mentioned now, less those for what was. -/
def mentionGain : Int := mentionPoints C prompt' entry - mentionPoints C prompt entry

/-- What a repetition gives an entry, in twentieths. -/
def gain : Int := wordGain C prompt prompt' entry + mentionGain C prompt prompt' entry

end

theorem Repeats.points_eq (h : Repeats C prompt prompt') (entry : TaxonomyEntry) :
    points C (trim prompt') entry =
      points C (trim prompt) entry + gain C (trim prompt) (trim prompt') entry := by
  have hsubject := h.occurrences_le (filteredTokens C entry.subjectName)
  have hsubSubject := h.occurrences_le (filteredTokens C entry.subSubjectName)
  have hdescription := h.occurrences_le (filteredTokens C entry.description)
  have hstructure := h.occurrences_le (structureTokens C entry)
  simp only [points, gain, wordPoints, wordGain, mentionGain, added]
  omega

/-- The repetition does not move the best entry: it gains nothing, unless it has the full 24
points anyway, no other entry gains as much as it is behind, and the best one still has its 6
points or its name; where there is no best entry, none comes up. -/
structure Harmless (C : TextClasses) (entries : List TaxonomyEntry) (prompt prompt' : String) :
    Prop where
  best : ∀ best, Ranked entries (points C prompt) (Named C prompt) best →
    (gain C prompt prompt' best = 0 ∨
      480 ≤ points C prompt best ∧ 480 ≤ points C prompt best + gain C prompt prompt' best) ∧
    (∀ other ∈ entries, other ≠ best →
      gain C prompt prompt' other - gain C prompt prompt' best <
        points C prompt best - points C prompt other ∨
      gain C prompt prompt' other - gain C prompt prompt' best =
        points C prompt best - points C prompt other ∧
          best.catalogIndex < other.catalogIndex) ∧
    (120 ≤ points C prompt best ∨ Named C prompt' best)
  none_found : (∀ entry, ¬ Ranked entries (points C prompt) (Named C prompt) entry) →
    ∀ entry, ¬ Ranked entries (fun e => points C prompt e + gain C prompt prompt' e)
      (Named C prompt') entry

/-- Nothing is ranked best where no entry is ranked. -/
theorem rankedBest_eq_none (catalog : Catalog) (hwords : trim prompt ≠ "") :
    rankedBest C catalog.entries prompt = none ↔ ∀ entry,
      ¬ Ranked catalog.entries (points C (trim prompt)) (Named C (trim prompt)) entry := by
  constructor
  · intro hnone entry hranked
    have hsome := (rankedBest_eq_some catalog).2 ⟨hwords, hranked, rfl, rfl⟩
    rw [hnone] at hsome
    cases hsome
  · intro hnot
    cases hbest : rankedBest C catalog.entries prompt with
    | none => rfl
    | some best => exact absurd ((rankedBest_eq_some catalog).1 hbest).2.1 (hnot _)

/-- The best entry, its score and its label stay the same exactly if the repetition is
harmless. -/
theorem rankedBest_iff (catalog : Catalog) (h : Repeats C prompt prompt') :
    rankedBest C catalog.entries prompt' = rankedBest C catalog.entries prompt ↔
      Harmless C catalog.entries (trim prompt) (trim prompt') := by
  have hpoints := h.points_eq
  constructor
  · intro hsame
    refine ⟨fun best hranked => ?_, fun hnone => ?_⟩
    · have hbest := (rankedBest_eq_some catalog).2 ⟨h.words.1, hranked, rfl, rfl⟩
      rw [← hsame] at hbest
      obtain ⟨-, ⟨hleads, hthreshold⟩, hshare, -⟩ := (rankedBest_eq_some catalog).1 hbest
      rw [share_eq_iff hranked.1.2.1.le hleads.2.1.le, hpoints] at hshare
      have hbefore := hranked.1.2.1
      refine ⟨by omega, fun other hother hne => ?_, ?_⟩
      · have hbehind := hleads.2.2 other hother hne
        rw [hpoints, hpoints] at hbehind
        omega
      · rw [hpoints] at hthreshold
        exact hthreshold.imp_left fun hsix => by omega
    · rw [← rankedBest_eq_none catalog h.words.1, ← hsame, rankedBest_eq_none catalog h.words.2,
        funext hpoints] at hnone
      exact hnone
  · intro hharmless
    cases hbest : rankedBest C catalog.entries prompt with
    | none =>
      rw [rankedBest_eq_none catalog h.words.1] at hbest
      rw [rankedBest_eq_none catalog h.words.2, funext hpoints]
      exact hharmless.none_found hbest
    | some found =>
      obtain ⟨best, score, label⟩ := found
      obtain ⟨-, hranked, rfl, rfl⟩ := (rankedBest_eq_some catalog).1 hbest
      obtain ⟨hscore, hlead, hthreshold⟩ := hharmless.best best hranked
      obtain ⟨hmem, hbefore, -⟩ := hranked.1
      have hafter : 0 < points C (trim prompt') best := by
        rw [hpoints]
        omega
      have hshare : share (points C (trim prompt) best) = share (points C (trim prompt') best) := by
        rw [share_eq_iff hbefore.le hafter.le, hpoints]
        omega
      refine (rankedBest_eq_some catalog).2 ⟨h.words.2, ⟨⟨hmem, hafter, ?_⟩, ?_⟩, hshare, rfl⟩
      · intro other hother hne
        rw [hpoints, hpoints]
        have := hlead other hother hne
        omega
      · rw [hpoints]
        exact hthreshold.imp_left fun hsix => by omega

/-! ## Other repetitions -/

/-- The words that an entry is compared with. -/
def entryWords (C : TextClasses) (entry : TaxonomyEntry) : List String :=
  filteredTokens C entry.subjectName ++ filteredTokens C entry.subSubjectName ++
    filteredTokens C entry.description ++ structureTokens C entry

/-- What is repeated is no word of an entry, and it neither makes nor breaks the
mention of a name or of a class, a semester or a chapter. -/
structure Neutral (C : TextClasses) (entries : List TaxonomyEntry) (prompt prompt' : String) :
    Prop where
  words : ∀ entry ∈ entries, ∀ w ∈ entryWords C entry,
    (tokenizeSearchText C (trim prompt')).count w = (tokenizeSearchText C (trim prompt)).count w
  subjects : ∀ entry ∈ entries,
    containsPhrase (normalizeSearchText C (trim prompt')) entry.normalizedSubject =
      containsPhrase (normalizeSearchText C (trim prompt)) entry.normalizedSubject
  subSubjects : ∀ entry ∈ entries,
    containsPhrase (normalizeSearchText C (trim prompt')) entry.normalizedSubSubject =
      containsPhrase (normalizeSearchText C (trim prompt)) entry.normalizedSubSubject
  context : promptContext C (trim prompt') = promptContext C (trim prompt)

theorem isSearchWord_of_mem_entryWords {entry : TaxonomyEntry} {w : String}
    (h : w ∈ entryWords C entry) : isSearchWord w = true := by
  simp only [entryWords, structureTokens, List.mem_append, List.mem_dedup, List.mem_flatMap] at h
  rcases h with ((h | h) | h) | ⟨item, _, h⟩
  · exact (mem_filteredTokens.1 h).2
  · exact (mem_filteredTokens.1 h).2
  · exact (mem_filteredTokens.1 h).2
  · exact (mem_filteredTokens.1 h).2

/-- An entry has the same signals for both prompts. -/
theorem Neutral.signalOf_eq (h : Neutral C entries prompt prompt') {entry : TaxonomyEntry}
    (hentry : entry ∈ entries) (ctx : PromptContext) :
    signalOf C entry (normalizeSearchText C (trim prompt')) (filteredTokens C (trim prompt')) ctx =
      signalOf C entry (normalizeSearchText C (trim prompt)) (filteredTokens C (trim prompt))
        ctx := by
  have hcount (words : List String) (hsub : ∀ w ∈ words, w ∈ entryWords C entry) :
      overlapCount (filteredTokens C (trim prompt')) words =
        overlapCount (filteredTokens C (trim prompt)) words := by
    rw [overlapCount_eq_occurrences, overlapCount_eq_occurrences]
    refine occurrences_congr fun w hw => ?_
    have hsearch := isSearchWord_of_mem_entryWords (hsub w hw)
    rw [count_filteredTokens hsearch, count_filteredTokens hsearch]
    exact h.words entry hentry w (hsub w hw)
  have h1 := hcount (filteredTokens C entry.subjectName) fun w hw => by simp [entryWords, hw]
  have h2 := hcount (filteredTokens C entry.subSubjectName) fun w hw => by simp [entryWords, hw]
  have h3 := hcount (filteredTokens C entry.description) fun w hw => by simp [entryWords, hw]
  have h4 := hcount (structureTokens C entry) fun w hw => by simp [entryWords, hw]
  simp only [signalOf, h1, h2, h3, h4, h.subjects entry hentry, h.subSubjects entry hentry]

theorem Neutral.scoreEntry_eq (h : Neutral C entries prompt prompt') {entry : TaxonomyEntry}
    (hentry : entry ∈ entries) :
    scoreEntry C (normalizeSearchText C (trim prompt')) (filteredTokens C (trim prompt'))
        (promptContext C (trim prompt')) entry =
      scoreEntry C (normalizeSearchText C (trim prompt)) (filteredTokens C (trim prompt))
        (promptContext C (trim prompt)) entry := by
  rw [scoreEntry, scoreEntry, h.context, h.signalOf_eq hentry]

/-- Neutral repetitions change nothing. -/
theorem infer_of_neutral (hrepeats : Repeats C prompt prompt')
    (h : Neutral C entries prompt prompt') :
    infer C entries prompt' = infer C entries prompt := by
  have hscores := List.map_congr_left fun entry hentry => h.scoreEntry_eq hentry
  have hcandidates : candidatesOf C entries (trim prompt') = candidatesOf C entries (trim prompt) := by
    rw [candidatesOf, hscores]
    rfl
  have hempty : (trim prompt).isEmpty = false := by
    simpa using hrepeats.words.1
  have hempty' : (trim prompt').isEmpty = false := by
    simpa using hrepeats.words.2
  simp only [infer, hempty, hempty', hcandidates, h.context]

/-! ## The taxonomy -/

/-- The classes on ASCII texts. -/
def asciiClasses : TextClasses where
  toLowercase text := String.ofList (text.toList.map Char.toLower)
  isAlphanumeric := Char.isAlphanum
  isWordChar c := c.isAlphanum || c = '_'

/-- The first entry of the catalog. -/
def bodyEntry : TaxonomyEntry where
  catalogIndex := 1
  jenjang := some "SD"
  subjectName := "Ilmu Pengetahuan Alam dan Sosial (IPAS)"
  subjectSlug := "ipas-sd"
  kelas := some 1
  semester := some 1
  bab := some 1
  subSubjectName := "Tubuh Manusia"
  subSubjectSlug := "tubuh-manusia-kelas-1"
  description := "Mengenal bagian-bagian tubuh manusia beserta fungsinya melalui pengamatan " ++
    "langsung dan kegiatan sederhana."
  contentStructure := "Konsep, Hukum/Rumus, Contoh fenomena, dan Eksperimen aman bila relevan"
  structureItems := ["Konsep", "Hukum/Rumus", "Contoh fenomena", "Eksperimen aman bila relevan"]
  normalizedSubject := "ilmu pengetahuan alam dan sosial ipas"
  normalizedSubSubject := "tubuh manusia"

end KlassGateway.Recommendation
