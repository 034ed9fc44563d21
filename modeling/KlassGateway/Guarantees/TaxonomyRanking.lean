import KlassGateway.Recommendation.SubjectTaxonomy
import KlassGateway.Orchestrator.Rounding
import Mathlib.Tactic.FieldSimp
/-!
# The points and the ranking of the subject catalog

A score is a sum of points for words and points for mentions.  All of them are multiples
of a twentieth, so the points are counted in twentieths here, and nothing is lost by the
rounding.

* `points` is the sum for a prompt and an entry, and `rawScore_eq` says that it is the
  score, as long as it is not negative.
* `share_eq_iff`: no two points below the full 24 have one normalized score.
* `infer_ranksBest`: the best match ranks first among all entries that score.
* `Ranked` says which entry is best by its points, and `rankedBest_eq_some` that this is
  the one that `infer` ranks best.
-/

namespace KlassGateway.Recommendation

open Lib Lib.Text Orchestrator

/-! ## Occurrences -/

section Overlap

variable {tokens words : List String}

theorem overlapCount_eq (tokens words : List String) :
    overlapCount tokens words = (tokens.filter fun t => t ∈ words).length := by
  unfold overlapCount
  split
  · next h =>
    rcases Bool.or_eq_true_iff.1 h with h | h
    · rw [List.isEmpty_iff.1 h]
      rfl
    · rw [List.isEmpty_iff.1 h]
      simp
  · rw [List.countP_eq_length_filter]
    congr 1
    apply List.filter_congr
    intro t _
    simp

/-- What is in one of distinct words is counted at that word. -/
theorem length_filter_mem (tokens : List String) (h : words.Nodup) :
    (tokens.filter fun t => t ∈ words).length = (words.map fun w => tokens.count w).sum := by
  induction words with
  | nil => simp
  | cons w words ih =>
    obtain ⟨hw, hwords⟩ := List.nodup_cons.1 h
    have hsplit : tokens.countP (fun t => t ∈ w :: words) =
        tokens.count w + tokens.countP fun t => t ∈ words := by
      clear h ih
      induction tokens with
      | nil => rfl
      | cons t tokens ih =>
        rw [List.countP_cons, ih, List.count_cons, List.countP_cons]
        by_cases htw : t = w
        · subst htw
          simp [hw]
          omega
        · simp [htw]
          omega
    rw [← List.countP_eq_length_filter, hsplit, List.countP_eq_length_filter, ih hwords,
      List.map_cons, List.sum_cons]

end Overlap

section

variable (C : TextClasses) (prompt : String)

/-- How often the prompt has one of these words. -/
def occurrences (words : List String) : Nat :=
  (words.dedup.map fun w => (filteredTokens C prompt).count w).sum

theorem overlapCount_eq_occurrences (words : List String) :
    overlapCount (filteredTokens C prompt) words = occurrences C prompt words := by
  rw [overlapCount_eq, occurrences, ← length_filter_mem _ (List.nodup_dedup words)]
  simp only [List.mem_dedup]

/-! ## Points -/

variable (entry : TaxonomyEntry)

/-- The points for the words of the prompt, in twentieths. -/
def wordPoints : Int :=
  30 * occurrences C prompt (filteredTokens C entry.subjectName) +
    55 * occurrences C prompt (filteredTokens C entry.subSubjectName) +
    15 * (min 4 (occurrences C prompt (filteredTokens C entry.description)) : Nat) +
    7 * (min 3 (occurrences C prompt (structureTokens C entry)) : Nat)

/-- The prompt has the name of the subject. -/
def namesSubject : Bool := containsPhrase (normalizeSearchText C prompt) entry.normalizedSubject

/-- The prompt has the name of the part of the subject. -/
def namesSubSubject : Bool :=
  containsPhrase (normalizeSearchText C prompt) entry.normalizedSubSubject

/-- The prompt names the subject or the part of it. -/
def Named : Prop := namesSubject C prompt entry = true ∨ namesSubSubject C prompt entry = true

end

/-- The points for a comparison of contexts, in twentieths. -/
def contextPoints (found : Option Bool) (hit miss : Int) : Int :=
  match found with
  | some true => hit
  | some false => miss
  | none => 0

section

variable (C : TextClasses) (prompt : String) (entry : TaxonomyEntry)

/-- The points for the names and for the level, the class, the semester and the chapter
that the prompt mentions, in twentieths. -/
def mentionPoints : Int :=
  let ctx := promptContext C prompt
  let jenjang := matchesContext C ctx.jenjang entry.jenjang
  let kelas := matchesContextI64 ctx.kelas entry.kelas
  (if namesSubject C prompt entry then 140 else 0) +
    (if namesSubSubject C prompt entry then 240 else 0) +
    contextPoints jenjang 90 (-120) + contextPoints kelas 110 (-140) +
    contextPoints (matchesContextI64 ctx.semester entry.semester) 30 (-20) +
    contextPoints (matchesContextI64 ctx.bab entry.bab) 30 (-15) +
    (if kelas = some true ∧ namesSubject C prompt entry then 30 else 0) +
    (if jenjang = some true ∧
        0 < occurrences C prompt (filteredTokens C entry.subjectName) then 20 else 0)

/-- The points of an entry, in twentieths. -/
def points : Int := wordPoints C prompt entry + mentionPoints C prompt entry

end

/-! ## Scores are points -/

theorem contextScore_eq (found : Option Bool) {hit miss : Rat} {hitPoints missPoints : Int}
    (hhit : hit = hitPoints / 20) (hmiss : miss = missPoints / 20) :
    contextScore found hit miss = (contextPoints found hitPoints missPoints : Rat) / 20 := by
  match found with
  | none => simp [contextScore, contextPoints]
  | some true => exact hhit
  | some false => exact hmiss

theorem ite_eq_twentieths {p q : Prop} [Decidable p] [Decidable q] (hpq : p ↔ q) {score : Rat}
    {n : Int} (hscore : score = n / 20) :
    (if p then score else 0) = ((if q then n else 0 : Int) : Rat) / 20 := by
  rw [ite_cond_congr (propext hpq), hscore]
  split_ifs <;> simp

/-- The score of an entry, in twentieths. -/
theorem rawScoreOf_eq {ctx : PromptContext} {signal : MatchSignal}
    (hjenjang : signal.jenjangMatch = some true → ctx.jenjang.isSome)
    (hkelas : signal.kelasMatch = some true → ctx.kelas.isSome) :
    rawScoreOf ctx signal =
      ((30 * signal.subjectOverlap + 55 * signal.subSubjectOverlap +
          15 * signal.descriptionOverlap + 7 * signal.structureOverlap +
        ((if signal.subjectPhraseMatch then 140 else 0) +
          (if signal.subSubjectPhraseMatch then 240 else 0) +
          contextPoints signal.jenjangMatch 90 (-120) + contextPoints signal.kelasMatch 110 (-140) +
          contextPoints signal.semesterMatch 30 (-20) + contextPoints signal.babMatch 30 (-15) +
          (if signal.kelasMatch = some true ∧ signal.subjectPhraseMatch then 30 else 0) +
          (if signal.jenjangMatch = some true ∧ 0 < signal.subjectOverlap then 20 else 0)) :
        Int) : Rat) / 20 := by
  have hclass : (ctx.kelas.isSome && signal.kelasMatch == some true && signal.subjectPhraseMatch) ↔
      signal.kelasMatch = some true ∧ signal.subjectPhraseMatch := by
    rw [Bool.and_eq_true, Bool.and_eq_true, beq_iff_eq]
    exact and_congr_left fun _ => and_iff_right_of_imp hkelas
  have hlevel : (ctx.jenjang.isSome && signal.jenjangMatch == some true &&
      decide (0 < signal.subjectOverlap)) ↔
      signal.jenjangMatch = some true ∧ 0 < signal.subjectOverlap := by
    rw [Bool.and_eq_true, Bool.and_eq_true, beq_iff_eq, decide_eq_true_iff]
    exact and_congr_left fun _ => and_iff_right_of_imp hjenjang
  rw [rawScoreOf,
    ite_eq_twentieths .rfl (by norm_num : (7 : Rat) = (140 : Int) / 20),
    ite_eq_twentieths .rfl (by norm_num : (12 : Rat) = (240 : Int) / 20),
    ite_eq_twentieths hclass (by norm_num : (3 / 2 : Rat) = (30 : Int) / 20),
    ite_eq_twentieths hlevel (by norm_num : (1 : Rat) = (20 : Int) / 20),
    contextScore_eq _ (by norm_num : (9 / 2 : Rat) = (90 : Int) / 20)
      (by norm_num : (-6 : Rat) = (-120 : Int) / 20),
    contextScore_eq _ (by norm_num : (11 / 2 : Rat) = (110 : Int) / 20)
      (by norm_num : (-7 : Rat) = (-140 : Int) / 20),
    contextScore_eq _ (by norm_num : (3 / 2 : Rat) = (30 : Int) / 20)
      (by norm_num : (-1 : Rat) = (-20 : Int) / 20),
    contextScore_eq _ (by norm_num : (3 / 2 : Rat) = (30 : Int) / 20)
      (by norm_num : (-3 / 4 : Rat) = (-15 : Int) / 20)]
  push_cast
  ring

theorem isSome_of_matchesContext (C : TextClasses) (found own : Option String)
    (h : matchesContext C found own = some true) : found.isSome := by
  cases found with
  | none => cases h
  | some _ => rfl

theorem isSome_of_matchesContextI64 (found own : Option Int)
    (h : matchesContextI64 found own = some true) : found.isSome := by
  cases found with
  | none => cases h
  | some _ => rfl

section

variable (C : TextClasses) (prompt : String) (entry : TaxonomyEntry)

/-- The signals of an entry for a prompt. -/
def signalFor : MatchSignal :=
  signalOf C entry (normalizeSearchText C prompt) (filteredTokens C prompt) (promptContext C prompt)

theorem rawScoreOf_signalFor :
    rawScoreOf (promptContext C prompt) (signalFor C prompt entry) =
      (points C prompt entry : Rat) / 20 := by
  have hlevel : (signalFor C prompt entry).jenjangMatch = some true →
      (promptContext C prompt).jenjang.isSome := by
    simp only [signalFor, signalOf]
    exact isSome_of_matchesContext C _ _
  have hclass : (signalFor C prompt entry).kelasMatch = some true →
      (promptContext C prompt).kelas.isSome := by
    simp only [signalFor, signalOf]
    exact isSome_of_matchesContextI64 _ _
  rw [rawScoreOf_eq hlevel hclass, points, wordPoints, mentionPoints]
  simp only [signalFor, signalOf, overlapCount_eq_occurrences, namesSubject, namesSubSubject]
  rfl

/-- An entry with its score for a prompt. -/
def candidate : CandidateScore :=
  scoreEntry C (normalizeSearchText C prompt) (filteredTokens C prompt) (promptContext C prompt) entry

theorem rawScore_eq :
    (candidate C prompt entry).rawScore = max 0 ((points C prompt entry : Rat) / 20) := by
  have hraw : round4 (rawScoreOf (promptContext C prompt) (signalFor C prompt entry)) =
      (points C prompt entry : Rat) / 20 := by
    rw [rawScoreOf_signalFor]
    refine round4_eq ⟨500 * points C prompt entry, ?_⟩
    push_cast
    ring
  rw [← hraw]
  rfl

end

/-! ## Normalized scores -/

/-- The normalized score of some twentieths. -/
def share (twentieths : Int) : Rat := normalizeScore (twentieths / 20)

section

variable {k l : Int}

theorem share_eq (hk : 0 ≤ k) : share k = (((125 * min 480 k + 3) / 6 : Int) : Rat) / 10000 := by
  have hcapped : min 1 (max 0 ((k : Rat) / 20 / 24)) = ((min 480 k : Int) : Rat) / 480 := by
    have hnonneg : (0 : Rat) ≤ (k : Rat) / 20 / 24 := by positivity
    rw [max_eq_right hnonneg]
    rcases le_total 480 k with h | h
    · have hrat : (480 : Rat) ≤ k := by exact_mod_cast h
      rw [min_eq_left h, min_eq_left (by linarith)]
      norm_num
    · have hrat : (k : Rat) ≤ 480 := by exact_mod_cast h
      rw [min_eq_right h, min_eq_right (by linarith)]
      ring
  have hscaled : ((min 480 k : Int) : Rat) / 480 * 10000 =
      ((125 * min 480 k : Int) : Rat) / (6 : Nat) := by
    push_cast
    ring
  rw [share, normalizeScore, hcapped, round4, hscaled,
    roundHalfAway_div (by omega) (by omega)]
  congr 2
  omega

/-- Different points below the full 24 have different shares. -/
theorem share_eq_iff (hk : 0 ≤ k) (hl : 0 ≤ l) : share k = share l ↔ min 480 k = min 480 l := by
  rw [share_eq hk, share_eq hl, div_left_inj' (by norm_num), Int.cast_inj]
  omega

theorem scoreOf_nonneg (hk : 0 ≤ k) : (0 : Rat) ≤ (k : Rat) / 20 :=
  div_nonneg (by exact_mod_cast hk) (by norm_num)

theorem scoreOf_pos_iff : (0 : Rat) < max 0 ((k : Rat) / 20) ↔ 0 < k := by
  rw [lt_max_iff, or_iff_right (lt_irrefl _), div_pos_iff_of_pos_right (by norm_num), Int.cast_pos]

theorem scoreOf_lt_iff (hk : 0 < k) : max 0 ((l : Rat) / 20) < max 0 ((k : Rat) / 20) ↔ l < k := by
  have hpos : (0 : Rat) < k / 20 := by
    have : (0 : Rat) < k := by exact_mod_cast hk
    positivity
  rw [max_eq_right hpos.le, max_lt_iff, and_iff_right hpos,
    div_lt_div_iff_of_pos_right (by norm_num), Int.cast_lt]

theorem scoreOf_eq_iff (hk : 0 < k) : max 0 ((l : Rat) / 20) = max 0 ((k : Rat) / 20) ↔ l = k := by
  constructor
  · intro heq
    rcases lt_trichotomy l k with hlt | hlk | hgt
    · exact absurd heq ((scoreOf_lt_iff hk).2 hlt).ne
    · exact hlk
    · exact absurd heq ((scoreOf_lt_iff (hk.trans hgt)).2 hgt).ne'
  · rintro rfl
    rfl

/-- The minimum of a confidence is at 6 points. -/
theorem share_lt_iff (hk : 0 ≤ k) : share k < 1 / 4 ↔ k < 120 := by
  rw [share_eq hk, div_lt_div_iff₀ (by norm_num) (by norm_num)]
  norm_cast
  omega

end

/-! ## The ranking -/

instance : Std.TransCmp compareCandidates :=
  inferInstanceAs <| Std.TransCmp <|
    compareLex (fun a b => compareOn (fun c : CandidateScore => c.rawScore) b a) <|
      compareOn fun c => c.entry.catalogIndex

/-- A candidate comes before another one: by a higher score, or by a lower index
at the same score. -/
def ComesBefore (a b : CandidateScore) : Prop :=
  b.rawScore < a.rawScore ∨
    b.rawScore = a.rawScore ∧ a.entry.catalogIndex ≤ b.entry.catalogIndex

theorem compareCandidates_isLE {a b : CandidateScore} :
    (compareCandidates a b).isLE ↔ ComesBefore a b := by
  rw [compareCandidates, Ordering.isLE_then_iff_or, Std.LawfulEqCmp.compare_eq_iff_eq,
    compare_lt_iff_lt, Nat.isLE_compare, ComesBefore]

/-- A result names the first of the candidates and lists the first three. -/
structure RanksBest (candidates : List CandidateScore) (result : TaxonomyInferenceResult)
    (best : CandidateScore) : Prop where
  mem : best ∈ candidates
  first : ∀ c ∈ candidates, ComesBefore best c
  score : result.confidence.score = best.normalizedScore
  label : result.confidence.label = confidenceLabel best.normalizedScore
  match_eq : result.bestMatch = bestMatchOf best best result.confidence.subSubjectAttached
  top : ∃ ranked : List CandidateScore, ranked.Perm candidates ∧ ranked.Pairwise ComesBefore ∧
    ranked.head? = some best ∧ result.candidateMatches = (ranked.take 3).map summaryOf

theorem inferFrom_ranksBest {ctx : PromptContext} {candidates : List CandidateScore}
    {result : TaxonomyInferenceResult} (h : inferFrom ctx candidates = some result) :
    ∃ best, RanksBest candidates result best := by
  have hperm := sortBy_perm compareCandidates candidates
  have hsorted : (sortBy compareCandidates candidates).Pairwise ComesBefore :=
    (sortedBy_sortBy (.of_transCmp _)).imp fun h => compareCandidates_isLE.1 h
  unfold inferFrom at h
  cases hranked : sortBy compareCandidates candidates with
  | nil =>
    simp only [hranked] at h
    cases h
  | cons best others =>
    rw [hranked] at hperm hsorted
    simp only [hranked] at h
    split at h
    · cases h
    · -- The first candidate with the subject of the best one is the best one.
      have hfind : ((best :: others).find? fun c =>
          c.entry.subjectSlug == best.entry.subjectSlug) = some best := by
        rw [List.find?_cons_of_pos]
        simp
      rw [hfind] at h
      cases h
      refine ⟨best, hperm.subset List.mem_cons_self, ?_, rfl, rfl, rfl, best :: others, hperm,
        hsorted, rfl, rfl⟩
      intro c hc
      rcases List.mem_cons.1 (hperm.symm.subset hc) with rfl | hc
      · exact .inr ⟨rfl, Nat.le_refl _⟩
      · exact (List.pairwise_cons.1 hsorted).1 c hc

/-- The best match ranks first among all entries that score. -/
theorem infer_ranksBest {result : TaxonomyInferenceResult}
    (h : infer C entries prompt = some result) :
    ∃ best, RanksBest (candidatesOf C entries (trim prompt)) result best := by
  simp only [infer] at h
  split at h
  · cases h
  · exact inferFrom_ranksBest h

/-! ## The best entry -/

/-- The entries of the catalog.  `entries` numbers them in the order of their rows. -/
structure Catalog where
  entries : List TaxonomyEntry
  numbered : entries.Pairwise fun a b => a.catalogIndex < b.catalogIndex

/-- An entry is the number it has. -/
theorem Catalog.index_ne (catalog : Catalog) {a b : TaxonomyEntry} (ha : a ∈ catalog.entries)
    (hb : b ∈ catalog.entries) (hne : a ≠ b) : a.catalogIndex ≠ b.catalogIndex := by
  have hnodup : (catalog.entries.map TaxonomyEntry.catalogIndex).Nodup :=
    List.pairwise_map.2 (catalog.numbered.imp Nat.ne_of_lt)
  exact fun heq => hne (List.inj_on_of_nodup_map hnodup ha hb heq)

section

variable (entries : List TaxonomyEntry) (points : TaxonomyEntry → Int)

/-- An entry has the most points, and the lowest number of those that have as many. -/
def Leads (best : TaxonomyEntry) : Prop :=
  best ∈ entries ∧ 0 < points best ∧ ∀ other ∈ entries, other ≠ best →
    points other < points best ∨
      points other = points best ∧ best.catalogIndex < other.catalogIndex

/-- An entry leads, and it has 6 points or is named. -/
def Ranked (named : TaxonomyEntry → Prop) (best : TaxonomyEntry) : Prop :=
  Leads entries points best ∧ (120 ≤ points best ∨ named best)

end

/-- What `infer` ranks best, with the score and the label. -/
def rankedBest (C : TextClasses) (entries : List TaxonomyEntry) (prompt : String) :
    Option (TaxonomyEntry × Rat × String) :=
  (infer C entries prompt).bind fun result =>
    (sortBy compareCandidates (candidatesOf C entries (trim prompt))).head?.map fun best =>
      (best.entry, result.confidence.score, result.confidence.label)

section

variable {C : TextClasses} {prompt : String} {entry : TaxonomyEntry}

theorem rawScore_lt_iff {other : TaxonomyEntry} (h : 0 < points C prompt entry) :
    (candidate C prompt other).rawScore < (candidate C prompt entry).rawScore ↔
      points C prompt other < points C prompt entry := by
  rw [rawScore_eq, rawScore_eq]
  exact scoreOf_lt_iff h

theorem rawScore_eq_iff {other : TaxonomyEntry} (h : 0 < points C prompt entry) :
    (candidate C prompt other).rawScore = (candidate C prompt entry).rawScore ↔
      points C prompt other = points C prompt entry := by
  rw [rawScore_eq, rawScore_eq]
  exact scoreOf_eq_iff h

theorem rawScore_pos_iff :
    0 < (candidate C prompt entry).rawScore ↔ 0 < points C prompt entry := by
  rw [rawScore_eq]
  exact scoreOf_pos_iff

theorem mem_candidatesOf {entries : List TaxonomyEntry} {c : CandidateScore} :
    c ∈ candidatesOf C entries prompt ↔
      ∃ entry ∈ entries, 0 < points C prompt entry ∧ candidate C prompt entry = c := by
  rw [candidatesOf, List.mem_filter, List.mem_map, decide_eq_true_iff]
  constructor
  · rintro ⟨⟨entry, hentry, rfl⟩, hpos⟩
    exact ⟨entry, hentry, rawScore_pos_iff.1 hpos, rfl⟩
  · rintro ⟨entry, hentry, hpos, rfl⟩
    exact ⟨⟨entry, hentry, rfl⟩, rawScore_pos_iff.2 hpos⟩

/-- The first of the candidates is the entry that leads. -/
theorem head?_candidates (catalog : Catalog) :
    (sortBy compareCandidates (candidatesOf C catalog.entries prompt)).head? =
        some (candidate C prompt entry) ↔
      Leads catalog.entries (points C prompt) entry := by
  have hfirst {c d : CandidateScore}
      (hc : (sortBy compareCandidates (candidatesOf C catalog.entries prompt)).head? = some c)
      (hd : d ∈ candidatesOf C catalog.entries prompt) : d = c ∨ ComesBefore c d := by
    have hsorted : (sortBy compareCandidates (candidatesOf C catalog.entries prompt)).Pairwise
        ComesBefore := (sortedBy_sortBy (.of_transCmp _)).imp fun h => compareCandidates_isLE.1 h
    have hd : d ∈ sortBy compareCandidates (candidatesOf C catalog.entries prompt) :=
      mem_sortBy.2 hd
    obtain ⟨rest, hrest⟩ := List.head?_eq_some_iff.1 hc
    rw [hrest] at hd hsorted
    rcases List.mem_cons.1 hd with rfl | hd
    · exact .inl rfl
    · exact .inr ((List.pairwise_cons.1 hsorted).1 d hd)
  constructor
  · intro hhead
    have hmem : candidate C prompt entry ∈ candidatesOf C catalog.entries prompt :=
      mem_sortBy.1 (List.mem_of_mem_head? hhead)
    obtain ⟨found, hentry, hpos, hfound⟩ := mem_candidatesOf.1 hmem
    obtain rfl : found = entry := congrArg CandidateScore.entry hfound
    refine ⟨hentry, hpos, fun other hother hne => ?_⟩
    by_cases hscores : 0 < points C prompt other
    · rcases hfirst hhead (mem_candidatesOf.2 ⟨other, hother, hscores, rfl⟩) with heq | hlt | ⟨heq, hle⟩
      · exact absurd (congrArg CandidateScore.entry heq) hne
      · exact .inl ((rawScore_lt_iff hpos).1 hlt)
      · have hindex := catalog.index_ne hother hentry hne
        exact .inr ⟨(rawScore_eq_iff hpos).1 heq, Nat.lt_of_le_of_ne hle hindex.symm⟩
    · exact .inl (by omega)
  · rintro ⟨hentry, hpos, hleads⟩
    have hmem : candidate C prompt entry ∈ candidatesOf C catalog.entries prompt :=
      mem_candidatesOf.2 ⟨entry, hentry, hpos, rfl⟩
    cases hhead : (sortBy compareCandidates (candidatesOf C catalog.entries prompt)).head? with
    | none =>
      have hmem : candidate C prompt entry ∈
          sortBy compareCandidates (candidatesOf C catalog.entries prompt) := mem_sortBy.2 hmem
      rw [List.head?_eq_none_iff.1 hhead] at hmem
      cases hmem
    | some c =>
      have hc := mem_sortBy.1 (List.mem_of_mem_head? hhead)
      obtain ⟨other, hother, hotherPos, rfl⟩ := mem_candidatesOf.1 hc
      by_contra hne
      have hne : other ≠ entry := fun heq => hne (by rw [heq])
      rcases hfirst hhead hmem with heq | hlt | ⟨heq, hle⟩
      · exact hne (congrArg CandidateScore.entry heq).symm
      · have := hleads other hother hne
        rw [rawScore_lt_iff hotherPos] at hlt
        omega
      · have := hleads other hother hne
        rw [rawScore_eq_iff hotherPos] at heq
        dsimp only [candidate, scoreEntry] at hle
        omega

/-- `infer` takes the first of the candidates, unless it misses the threshold. -/
theorem rankedBest_eq_some_iff_head {entries : List TaxonomyEntry}
    {found : TaxonomyEntry × Rat × String} :
    rankedBest C entries prompt = some found ↔ trim prompt ≠ "" ∧
      ∃ best, (sortBy compareCandidates (candidatesOf C entries (trim prompt))).head? = some best ∧
        (1 / 4 ≤ best.normalizedScore ∨ best.signal.subjectPhraseMatch = true ∨
          best.signal.subSubjectPhraseMatch = true) ∧
        (best.entry, best.normalizedScore, confidenceLabel best.normalizedScore) = found := by
  by_cases hblank : trim prompt = ""
  · simp [rankedBest, infer, hblank]
  · have hempty : (trim prompt).isEmpty = false := by simpa using hblank
    cases hranked : sortBy compareCandidates (candidatesOf C entries (trim prompt)) with
    | nil => simp [rankedBest, infer, inferFrom, hempty, hranked]
    | cons best others =>
      simp only [rankedBest, infer, inferFrom, hempty, hranked, List.head?_cons, Option.map_some,
        Option.some.injEq, exists_eq_left', ne_eq, hblank, not_false_eq_true, true_and,
        Bool.false_eq_true, if_false]
      split
      · next hlow =>
        simp only [Bool.and_eq_true, decide_eq_true_eq, Bool.not_eq_true'] at hlow
        obtain ⟨⟨hscore, hsubject⟩, hsubSubject⟩ := hlow
        refine iff_of_false (by simp) ?_
        rintro ⟨hmeets | hmeets | hmeets, -⟩
        · exact absurd hscore (not_lt.2 hmeets)
        · exact Bool.false_ne_true (hsubject.symm.trans hmeets)
        · exact Bool.false_ne_true (hsubSubject.symm.trans hmeets)
      · next hlow =>
        have hmeets : 1 / 4 ≤ best.normalizedScore ∨ best.signal.subjectPhraseMatch = true ∨
            best.signal.subSubjectPhraseMatch = true := by
          by_contra hnot
          rw [not_or, not_or, not_le, Bool.not_eq_true, Bool.not_eq_true] at hnot
          obtain ⟨hscore, hsubject, hsubSubject⟩ := hnot
          exact hlow (by rw [decide_eq_true hscore, hsubject, hsubSubject]; rfl)
        simp only [Option.bind_some, Option.some.injEq, hmeets, true_and]

/-- A name that is found is a signal. -/
theorem named_iff : Named C prompt entry ↔
    (candidate C prompt entry).signal.subjectPhraseMatch = true ∨
      (candidate C prompt entry).signal.subSubjectPhraseMatch = true := by
  simp only [candidate, scoreEntry, signalOf, Named, namesSubject, namesSubSubject]

theorem normalizedScore_eq (h : 0 < points C prompt entry) :
    (candidate C prompt entry).normalizedScore = share (points C prompt entry) := by
  rw [share, ← max_eq_right (scoreOf_nonneg h.le), ← rawScore_eq]
  rfl

/-- What `infer` ranks best is the entry that is ranked by its points. -/
theorem rankedBest_eq_some (catalog : Catalog) {score : Rat} {label : String} :
    rankedBest C catalog.entries prompt = some (entry, score, label) ↔
      trim prompt ≠ "" ∧
        Ranked catalog.entries (points C (trim prompt)) (Named C (trim prompt)) entry ∧
        score = share (points C (trim prompt) entry) ∧ label = confidenceLabel score := by
  rw [rankedBest_eq_some_iff_head, Ranked]
  refine and_congr_right fun _ => ?_
  constructor
  · rintro ⟨best, hhead, hthreshold, heq⟩
    obtain ⟨rfl, hfound⟩ := Prod.mk.inj heq
    obtain ⟨rfl, rfl⟩ := Prod.mk.inj hfound
    -- A candidate is the candidate of its entry.
    have hmem := mem_sortBy.1 (List.mem_of_mem_head? hhead)
    obtain ⟨found, -, -, rfl⟩ := mem_candidatesOf.1 hmem
    have hleads := (head?_candidates catalog).1 hhead
    have hscore := normalizedScore_eq hleads.2.1
    rw [hscore, ← not_lt, share_lt_iff hleads.2.1.le, not_lt, ← named_iff] at hthreshold
    exact ⟨⟨hleads, hthreshold⟩, hscore, rfl⟩
  · rintro ⟨⟨hleads, hthreshold⟩, rfl, rfl⟩
    have hscore := normalizedScore_eq hleads.2.1
    refine ⟨_, (head?_candidates catalog).2 hleads, ?_, ?_⟩
    · rw [← named_iff, hscore, ← not_lt, share_lt_iff hleads.2.1.le, not_lt]
      exact hthreshold
    · rw [hscore]
      rfl

end

end KlassGateway.Recommendation
