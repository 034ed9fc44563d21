import KlassGateway.Lib.Sorting
import KlassGateway.Guarantees.Classification
import KlassGateway.Orchestrator.Rounding
/-!
# The decision on the output type

* `outputType_decided`: the ranking holds every supported format once, with the sum of its
  candidate scores and signal weights, in the order of the scores and then of the priorities,
  however the map of the scores is read; its first format is the decision when neither the
  teacher nor the interpretation fixes one; and the decisions that one classification stores
  are all on one type.

Scores are multiples of a ten-thousandth, so that a difference below one is a tie.
-/

namespace KlassGateway

open Lib Lib.Prog Db Orchestrator Queue Llm

/-! ## Scores -/

/-- A difference below a ten-thousandth is none. -/
theorem scoreGap_lt_iff {a b : RankedCandidate} (ha : IsTenThousandths a.score)
    (hb : IsTenThousandths b.score) : scoreGap a b < 1 / 10000 ↔ a.score = b.score := by
  obtain ⟨n, hn⟩ := ha
  obtain ⟨m, hm⟩ := hb
  have hlt : ∀ n m : Int, (m : Rat) / 10000 < n / 10000 → ¬ (n : Rat) / 10000 - m / 10000 < 1 / 10000 := by
    intro n m h hgap
    have hmn : (m : Rat) < n := by linarith
    have hnm : (n : Rat) < m + 1 := by linarith
    have hmn : m < n := by exact_mod_cast hmn
    have hnm : n < m + 1 := by exact_mod_cast hnm
    omega
  rw [scoreGap, hn, hm]
  constructor
  · intro h
    by_contra hne
    split_ifs at h with hle
    · exact hlt n m (lt_of_le_of_ne hle (Ne.symm hne)) h
    · exact hlt m n (lt_of_not_ge hle) h
  · intro h
    rw [h]
    simp

/-! ## What each format accumulates -/

/-- The rounded scores that the interpretation gives a format. -/
def candidateScores (interpretation : Json) (format : String) : List Rat :=
  (((arrayAt interpretation ["output_type_candidates"]).getD []).filter fun candidate =>
      (strAt candidate ["type"]).getD "" = format).map fun candidate =>
    round4 (((candidate.get "score").bind Json.asF64).getD 0)

/-- The scores before they are sorted: what the hash map holds, in some order. -/
def accumulatedScores (P : Platform) (interpretation : Json) : List RankedCandidate :=
  (keywordSignals P interpretation).foldl addSignal <|
    ((arrayAt interpretation ["output_type_candidates"]).getD []).foldl addCandidateScore <|
      allowedFormats.map fun fmt => { outputType := fmt }

/-- The values of the map, sorted and rounded. -/
def sortScores (scores : List RankedCandidate) : List RankedCandidate :=
  (scores.foldr insertRanked []).map fun c => { c with score := round4 c.score }

theorem rankCandidates_eq (P : Platform) (interpretation : Json) :
    rankCandidates P interpretation = sortScores (accumulatedScores P interpretation) := rfl

theorem foldl_addCandidateScore (candidates : List Json) (scores : List RankedCandidate) :
    (candidates.foldl addCandidateScore scores).map (fun c => (c.outputType, c.score, c.matchedSignals)) =
      scores.map fun c => (c.outputType, c.score +
        ((candidates.filter fun candidate => (strAt candidate ["type"]).getD "" = c.outputType).map
          fun candidate => round4 (((candidate.get "score").bind Json.asF64).getD 0)).sum,
        c.matchedSignals) := by
  induction candidates generalizing scores with
  | nil => simp
  | cons candidate candidates ih =>
    rw [List.foldl_cons, ih, addCandidateScore, modifyCandidate, List.map_map]
    refine List.map_congr_left fun c _ => ?_
    by_cases h : c.outputType = (strAt candidate ["type"]).getD ""
    · simp [h, add_assoc]
    · simp [h, Ne.symm h]

theorem foldl_addSignal (signals : List MatchedSignal) (scores : List RankedCandidate) :
    (signals.foldl addSignal scores).map (fun c => (c.outputType, c.score, c.matchedSignals)) =
      scores.map fun c => (c.outputType,
        c.score + ((signals.filter (·.outputType = c.outputType)).map (·.weight)).sum,
        c.matchedSignals ++ signals.filter (·.outputType = c.outputType)) := by
  induction signals generalizing scores with
  | nil => simp
  | cons s signals ih =>
    rw [List.foldl_cons, ih, addSignal, modifyCandidate, List.map_map]
    refine List.map_congr_left fun c _ => ?_
    by_cases h : c.outputType = s.outputType
    · simp [h, add_assoc]
    · simp [h, Ne.symm h]

/-- The entry of a format holds what the candidates and the signals of the format add up to. -/
theorem accumulatedScores_spec (P : Platform) (interpretation : Json) :
    (accumulatedScores P interpretation).map (fun c => (c.outputType, c.score, c.matchedSignals)) =
      allowedFormats.map fun fmt => (fmt, (candidateScores interpretation fmt).sum +
          (((keywordSignals P interpretation).filter (·.outputType = fmt)).map (·.weight)).sum,
        (keywordSignals P interpretation).filter (·.outputType = fmt)) := by
  let signals := keywordSignals P interpretation
  have hsignals : ∀ scores : List RankedCandidate,
      (signals.foldl addSignal scores).map (fun c => (c.outputType, c.score, c.matchedSignals)) =
        (scores.map fun c => (c.outputType, c.score, c.matchedSignals)).map fun c => (c.1,
          c.2.1 + ((signals.filter (·.outputType = c.1)).map (·.weight)).sum,
          c.2.2 ++ signals.filter (·.outputType = c.1)) := by
    intro scores
    rw [foldl_addSignal, List.map_map]
    rfl
  rw [accumulatedScores, hsignals, foldl_addCandidateScore, List.map_map, List.map_map]
  refine List.map_congr_left fun fmt _ => ?_
  simp [candidateScores, signals]

/-- The format, the score and the signals of an entry. -/
structure Accumulates (P : Platform) (interpretation : Json) (c : RankedCandidate) : Prop where
  format : c.outputType ∈ allowedFormats
  score : c.score =
    (candidateScores interpretation c.outputType).sum + (c.matchedSignals.map (·.weight)).sum
  signals : c.matchedSignals =
    (keywordSignals P interpretation).filter (·.outputType = c.outputType)

theorem accumulates {P : Platform} {interpretation : Json} {c : RankedCandidate}
    (h : c ∈ accumulatedScores P interpretation) : Accumulates P interpretation c := by
  have hc := List.mem_map_of_mem (f := fun c => (c.outputType, c.score, c.matchedSignals)) h
  rw [accumulatedScores_spec] at hc
  obtain ⟨fmt, hfmt, heq⟩ := List.mem_map.mp hc
  obtain ⟨rfl, hscore, hsignals⟩ : fmt = c.outputType ∧ _ = c.score ∧ _ = c.matchedSignals := by
    simpa using heq
  exact ⟨hfmt, by rw [← hscore, ← hsignals], hsignals.symm⟩

theorem outputTypes_accumulatedScores (P : Platform) (interpretation : Json) :
    (accumulatedScores P interpretation).map (·.outputType) = allowedFormats := by
  have h := congrArg (List.map Prod.fst) (accumulatedScores_spec P interpretation)
  rw [List.map_map, List.map_map] at h
  exact h.trans (List.map_id' _)

/-! ## The signals -/

/-- The reason codes of the definitions, and of the bonus. -/
def signalCodes : List String := keywordSignalDefs.map (·.reasonCode) ++ [visualDensitySignal.reasonCode]

/-- Each definition gives at most one signal. -/
theorem sublist_signalCodes (P : Platform) (interpretation : Json) :
    ((keywordSignals P interpretation).map (·.reasonCode)).Sublist signalCodes := by
  rw [keywordSignals, List.map_append]
  refine List.Sublist.append ?_ ?_
  · generalize P.toLowercase (decisionHaystack P interpretation) = haystack
    generalize keywordSignalDefs = defs
    induction defs with
    | nil => exact .refl _
    | cons d defs ih =>
      rw [List.map_cons]
      cases hd : matchSignal haystack d with
      | none =>
        rw [List.filterMap_cons_none hd]
        exact ih.cons _
      | some s =>
        have hcode : s.reasonCode = d.reasonCode := by
          obtain ⟨keyword, -, rfl⟩ := Option.map_eq_some_iff.mp hd
          rfl
        rw [List.filterMap_cons_some hd, List.map_cons, hcode]
        exact ih.cons_cons _
  · split_ifs
    · exact .refl _
    · exact List.nil_sublist _

theorem isTenThousandths_weight {P : Platform} {interpretation : Json} {s : MatchedSignal}
    (h : s ∈ keywordSignals P interpretation) : IsTenThousandths s.weight := by
  rw [keywordSignals, List.mem_append, List.mem_filterMap] at h
  obtain ⟨d, hd, hs⟩ | h := h
  · have hweight : s.weight = d.weight := by
      obtain ⟨keyword, -, rfl⟩ := Option.map_eq_some_iff.mp hs
      rfl
    rw [hweight]
    simp only [keywordSignalDefs, List.mem_cons, List.not_mem_nil, or_false] at hd
    obtain rfl | rfl | rfl := hd
    · exact ⟨3500, by norm_num⟩
    · exact ⟨2500, by norm_num⟩
    · exact ⟨2500, by norm_num⟩
  · split_ifs at h
    · obtain rfl := List.mem_singleton.mp h
      exact ⟨1200, by norm_num [visualDensitySignal]⟩
    · cases h

theorem Accumulates.isTenThousandths {P : Platform} {interpretation : Json} {c : RankedCandidate}
    (h : Accumulates P interpretation c) : IsTenThousandths c.score := by
  rw [h.score]
  refine (isTenThousandths_sum fun q hq => ?_).add (isTenThousandths_sum fun q hq => ?_)
  · obtain ⟨candidate, -, rfl⟩ := List.mem_map.mp hq
    exact isTenThousandths_round4 _
  · obtain ⟨s, hs, rfl⟩ := List.mem_map.mp hq
    rw [h.signals] at hs
    exact isTenThousandths_weight (List.mem_of_mem_filter hs)

/-! ## The order -/

/-- By score, the highest first, then by priority. -/
def compareRanked (a b : RankedCandidate) : Ordering :=
  (compare b.score a.score).then (compare (typePriority a.outputType) (typePriority b.outputType))

instance : Std.TransCmp compareRanked :=
  inferInstanceAs <| Std.TransCmp <|
    compareLex (fun a b => compareOn (fun c : RankedCandidate => c.score) b a) <|
      compareOn fun c => typePriority c.outputType

/-- On scores in ten-thousandths the comparison of the sort is an order. -/
theorem ranksBefore_iff {a b : RankedCandidate} (ha : IsTenThousandths a.score)
    (hb : IsTenThousandths b.score) : ranksBefore a b ↔ (compareRanked a b).isLE := by
  rw [ranksBefore, compareRanked, Ordering.isLE_then_iff_or, Std.LawfulEqCmp.compare_eq_iff_eq,
    compare_lt_iff_lt, Int.isLE_compare]
  by_cases hgap : 1 / 10000 ≤ scoreGap a b
  · have hne : b.score ≠ a.score := by
      intro h
      exact absurd ((scoreGap_lt_iff ha hb).mpr h.symm) (not_lt_of_ge hgap)
    rw [if_pos hgap]
    simp [hne]
  · have heq : a.score = b.score := (scoreGap_lt_iff ha hb).mp (lt_of_not_ge hgap)
    rw [if_neg hgap]
    simp [heq]

theorem insertRanked_eq {c : RankedCandidate} {scores : List RankedCandidate}
    (hc : IsTenThousandths c.score) (hscores : ∀ d ∈ scores, IsTenThousandths d.score) :
    insertRanked c scores =
      scores.orderedInsert (fun a b => (compareRanked a b).isLE) c := by
  induction scores with
  | nil => rfl
  | cons d scores ih =>
    have hd := ranksBefore_iff hc (hscores d (by simp))
    rw [insertRanked, List.orderedInsert, ih fun e he => hscores e (List.mem_cons_of_mem d he)]
    by_cases h : ranksBefore c d
    · rw [if_pos h, if_pos (hd.mp h)]
    · rw [if_neg h, if_neg fun h' => h (hd.mpr h')]

/-- On such scores the sort is a stable sort, and the last rounding does nothing. -/
theorem sortScores_eq {scores : List RankedCandidate}
    (h : ∀ c ∈ scores, IsTenThousandths c.score) : sortScores scores = sortBy compareRanked scores := by
  have hsort : scores.foldr insertRanked [] = sortBy compareRanked scores := by
    induction scores with
    | nil => rfl
    | cons c scores ih =>
      have hscores : ∀ d ∈ scores, IsTenThousandths d.score := fun d hd =>
        h d (List.mem_cons_of_mem c hd)
      rw [List.foldr_cons, ih hscores]
      exact insertRanked_eq (h c (by simp)) fun d hd => hscores d (mem_sortBy.mp hd)
  rw [sortScores, hsort]
  refine (List.map_congr_left fun c hc => ?_).trans (List.map_id _)
  rw [round4_eq (h c (mem_sortBy.mp hc))]
  rfl

theorem typePriority_inj {s t : String} (hs : s ∈ allowedFormats) (ht : t ∈ allowedFormats)
    (h : typePriority s = typePriority t) : s = t := by
  simp only [allowedFormats, List.mem_cons, List.not_mem_nil, or_false] at hs ht
  obtain rfl | rfl | rfl := hs <;> obtain rfl | rfl | rfl := ht <;> first | rfl | cases h

/-- The entries of the map have different formats, so that none tie. -/
theorem eq_of_compareRanked {P : Platform} {interpretation : Json} :
    ∀ a ∈ accumulatedScores P interpretation, ∀ b ∈ accumulatedScores P interpretation,
      compareRanked a b = .eq → a = b := by
  intro a ha b hb h
  have hnodup : ((accumulatedScores P interpretation).map (·.outputType)).Nodup := by
    rw [outputTypes_accumulatedScores]
    decide
  simp only [compareRanked, Ordering.then_eq_eq, Std.LawfulEqCmp.compare_eq_iff_eq] at h
  exact List.inj_on_of_nodup_map hnodup ha hb
    (typePriority_inj (accumulates ha).format (accumulates hb).format h.2)

/-! ## The ranking -/

/-- The ranking of an interpretation. -/
structure Ranks (P : Platform) (interpretation : Json) (ranked : List RankedCandidate) : Prop where
  formats : (ranked.map (·.outputType)).Perm allowedFormats
  entries : ∀ c ∈ ranked, Accumulates P interpretation c
  once : ((keywordSignals P interpretation).map (·.reasonCode)).Nodup
  sorted : ranked.Pairwise fun a b => b.score < a.score ∨
    (a.score = b.score ∧ typePriority a.outputType < typePriority b.outputType)
  unordered : ∀ scores, scores.Perm (accumulatedScores P interpretation) →
    sortScores scores = ranked

theorem ranks_rankCandidates (P : Platform) (interpretation : Json) :
    Ranks P interpretation (rankCandidates P interpretation) := by
  have hscores : ∀ c ∈ accumulatedScores P interpretation, IsTenThousandths c.score := fun c hc =>
    (accumulates hc).isTenThousandths
  have hsorted : ∀ scores, scores.Perm (accumulatedScores P interpretation) →
      sortScores scores = sortBy compareRanked scores := fun scores hperm =>
    sortScores_eq fun c hc => hscores c (hperm.subset hc)
  have horder : TotalPreorderOn compareRanked (accumulatedScores P interpretation) := .of_transCmp _
  rw [rankCandidates_eq, hsorted _ (.refl _)]
  have hperm := sortBy_perm compareRanked (accumulatedScores P interpretation)
  refine ⟨?_, fun c hc => accumulates (mem_sortBy.mp hc), ?_, ?_, fun scores hscores => ?_⟩
  · exact (hperm.map _).trans (.of_eq (outputTypes_accumulatedScores P interpretation))
  · exact (sublist_signalCodes P interpretation).nodup (by decide)
  · have hnodup : ((sortBy compareRanked (accumulatedScores P interpretation)).map
        (·.outputType)).Nodup := by
      refine (hperm.map _).symm.nodup ?_
      rw [outputTypes_accumulatedScores]
      decide
    refine ((sortedBy_sortBy horder).and (List.pairwise_map.mp hnodup)).imp_of_mem
      fun {a b} ha hb hab => ?_
    have hle := hab.1
    rw [compareRanked, Ordering.isLE_then_iff_or, Std.LawfulEqCmp.compare_eq_iff_eq,
      compare_lt_iff_lt, Int.isLE_compare] at hle
    refine hle.imp_right fun h => ⟨h.1.symm, lt_of_le_of_ne h.2 fun hpriority => hab.2 ?_⟩
    exact typePriority_inj (accumulates (mem_sortBy.mp ha)).format
      (accumulates (mem_sortBy.mp hb)).format hpriority
  · rw [hsorted _ hscores]
    simpa using map_eq_of_sortedBy (f := fun c => c) horder (sortedBy_sortBy (.of_transCmp _))
      (sortedBy_sortBy horder) ((sortBy_perm _ _).trans hscores) hperm eq_of_compareRanked

/-! ## The decision -/

theorem normalizePreferred_mem {P : Platform} {preferred : Option String}
    (h : normalizePreferredOutputType P preferred ≠ "auto") :
    normalizePreferredOutputType P preferred ∈ allowedFormats := by
  unfold normalizePreferredOutputType at h ⊢
  split at h
  · exact absurd rfl h
  · dsimp only at h ⊢
    split_ifs at h ⊢ with hempty hallowed
    · exact absurd rfl h
    · simpa [allowedOutputTypes, allowedFormats, h] using hallowed
    · exact absurd rfl h

theorem head_rankCandidates_mem (P : Platform) (interpretation : Json) :
    ((rankCandidates P interpretation).headD default).outputType ∈ allowedFormats := by
  have hranks := ranks_rankCandidates P interpretation
  cases hranked : rankCandidates P interpretation with
  | nil => simpa [hranked, allowedFormats] using hranks.formats.length_eq
  | cons c ranked => exact (hranks.entries c (by simp [hranked])).format

/-- The type of a decision does not depend on the clock. -/
def resolvedType (P : Platform) (interpretation : Json) (preferred : Option String) : String :=
  (decideOutput P interpretation preferred 0).resolvedOutputType

theorem resolvedOutputType_eq (P : Platform) (interpretation : Json) (preferred : Option String)
    (now : DateTime) : (decideOutput P interpretation preferred now).resolvedOutputType =
      resolvedType P interpretation preferred := by
  unfold resolvedType decideOutput
  simp only
  split_ifs <;> rfl

/-- A decision is on a supported format. -/
theorem resolvedType_mem (P : Platform) (interpretation : Json) (preferred : Option String) :
    resolvedType P interpretation preferred ∈ allowedFormats := by
  unfold resolvedType decideOutput
  simp only
  split_ifs with hpreferred hconstraint
  · exact normalizePreferred_mem hpreferred
  · exact normalizePreferred_mem hconstraint
  · exact head_rankCandidates_mem P interpretation

/-- The ranking decides when neither the teacher nor the interpretation does. -/
theorem decideOutput_ranking {P : Platform} {interpretation : Json} {preferred : Option String}
    (hpreferred : normalizePreferredOutputType P preferred = "auto")
    (hconstraint : normalizePreferredOutputType P
      (strAt interpretation ["constraints", "preferred_output_type"]) = "auto") (now : DateTime) :
    ∃ c rest, rankCandidates P interpretation = c :: rest ∧
      (decideOutput P interpretation preferred now).decisionSource = "candidate_ranking" ∧
      (decideOutput P interpretation preferred now).resolvedOutputType = c.outputType := by
  have hranks := ranks_rankCandidates P interpretation
  cases hranked : rankCandidates P interpretation with
  | nil => simpa [hranked, allowedFormats] using hranks.formats.length_eq
  | cons c rest =>
    refine ⟨c, rest, rfl, ?_, ?_⟩ <;> simp [decideOutput, hpreferred, hconstraint, hranked]

/-- A supported format is kept when it is the preference. -/
theorem resolvedType_of_format {P : Platform} (hlower : ∀ f ∈ allowedFormats, P.toLowercase f = f)
    (interpretation : Json) {format : String} (hformat : format ∈ allowedFormats) :
    resolvedType P interpretation (some format) = format := by
  have htrim : Text.trim format = format ∧ format ≠ "" ∧ format ≠ "auto" ∧
      format ∈ allowedOutputTypes := by
    simp only [allowedFormats, List.mem_cons, List.not_mem_nil, or_false] at hformat
    obtain rfl | rfl | rfl := hformat <;> decide
  have hnormal : normalizePreferredOutputType P (some format) = format := by
    simp [normalizePreferredOutputType, htrim, hlower format hformat]
  simp [resolvedType, decideOutput, hnormal, htrim.2.2.1]

/-! ## The decisions of a classification -/

/-- The type of the decision that a call stores. -/
def storedType : Operation → Option String
  | .query (.onRow _ (.update (.decision resolvedOutputType _ _))) => some resolvedOutputType
  | _ => none

theorem eq_of_storedType {o : Operation} {type : String} (h : storedType o = some type) :
    ∃ id source payload, o = .query (.onRow id (.update (.decision type source payload))) := by
  unfold storedType at h
  split at h
  · obtain rfl := Option.some.inj h
    exact ⟨_, _, _, rfl⟩
  · cases h

/-- A decision that is stored is on this type. -/
def StoresOnly (type : String) (_ : World) (o : Operation) : Prop := ∀ t ∈ storedType o, t = type

/-- The specification of a run that stores decisions on one type. -/
abbrev storesOnly (type : String) : OpSpec effects World := alone (StoresOnly type) fun _ _ _ => True

/-- The row holds a decision on the type. -/
def HoldsType (g : Uuid) (type : String) (w : World) : Prop :=
  ∃ r, w.db.row g = some r ∧ r.resolvedOutputType = some type

variable {g : Uuid} {w : World} {P : Platform} {type : String}

theorem HoldsType.isSome (h : HoldsType g type w) : (w.db.row g).isSome := by
  obtain ⟨r, hr, -⟩ := h
  simp [hr]

/-- A resolution stores the type of its decision. -/
theorem wp_resolve_type {interpretation : Json} {preferred : Option String}
    (htype : resolvedType P interpretation preferred = type) (hw : (w.db.row g).isSome)
    (draft : Option Json) : (resolve P g interpretation preferred draft).run.wp (storesOnly type)
      (OnOk (HoldsType g type)) w := by
  obtain ⟨r, hr⟩ := Option.isSome_iff_exists.1 hw
  unfold resolve
  split
  · exact onOk_error _ _
  · refine (wp_run_bind _ _ _ _).2 ((wp_run_liftM _ _ _).2 ((wp_perform_alone _ _ _).2
      ⟨fun t ht => (by cases ht), fun c _ => ?_⟩))
    have hdecided := (resolvedOutputType_eq P interpretation preferred
      (Operation.exec w .now c).1).trans htype
    refine wp_onOk_bind (J := HoldsType g type) (wp_onOk_mapErr (wp_onRow_alone hr ?_
      (fun now _ _ w' _ hrow _ => ⟨_, hrow, congrArg some hdecided⟩)
        fun _ _ _ e w' => onOk_error e w')) fun _ _ h _ => h
    rintro t ⟨⟩
    exact hdecided

/-- Calls that store no decision keep the row. -/
theorem wp_rowKept {α : Type} {φ : Operation → Prop} {req : World → Operation → Prop}
    {p : Gateway α} (hp : OnlyCalls φ p) (hreq : ∀ w o, φ o → req w o)
    (hw : (w.db.row g).isSome) :
    p.wp (alone req fun _ _ _ => True) (fun _ w' => (w'.db.row g).isSome) w := by
  refine wp_keeps hp hw hreq fun w o c _ hw => ?_
  obtain ⟨r, hr⟩ := Option.isSome_iff_exists.1 hw
  obtain h | ⟨st, -, h⟩ := o.exec_row c hr
  · simp [h]
  · simp [h]

/-- A read finds the row. -/
theorem wp_selectRow_type {Q : Except WorkflowError (Option MediaGeneration) → World → Prop}
    (hok : Q (.ok (w.db.row g)) w) (herr : ∀ e w', Q (.error e) w') :
    (selectRow g).run.wp (storesOnly type) Q w :=
  (wp_run_mapErr _ _ _ _).2 (wp_query_alone (fun t ht => (by cases ht)) (fun _ _ => hok)
    fun _ _ _ e w' => herr _ w')

/-- The draft step decides on the type that it finds in the row. -/
theorem wp_draftStep_type (hlower : ∀ f ∈ allowedFormats, P.toLowercase f = f)
    (htype : type ∈ allowedFormats) (hw : HoldsType g type w) :
    (draftStep P g).run.wp (storesOnly type) (OnOk (HoldsType g type)) w := by
  obtain ⟨r, hr, hresolved⟩ := hw
  have hfetch : (fetchRow g).run.wp (storesOnly type)
      (fun a w' => ∀ row, a = .ok row → row = r ∧ w' = w) w := by
    refine wp_run_seq (wp_selectRow_type
      (Q := fun a w' => ∀ row, a = .ok row → row = some r ∧ w' = w) ?_ ?_) ?_ ?_
    · intro row h
      exact ⟨(Except.ok.inj h).symm.trans hr, rfl⟩
    · intro e w' row h
      cases h
    · intro a w' h
      obtain ⟨rfl, rfl⟩ := h a rfl
      intro row h
      exact ⟨(Except.ok.inj h).symm, rfl⟩
    · intro e w' _ row h
      cases h
  refine wp_run_seq hfetch (fun row w' h => ?_) fun e w' _ => onOk_error e w'
  obtain ⟨rfl, rfl⟩ := h row rfl
  rw [hresolved, Option.getD_some]
  have hrow : (w'.db.row g).isSome := by simp [hr]
  have hread : (readInterpretation P row).run.wp (storesOnly type)
      (OnOk fun w => (w.db.row g).isSome) w' := by
    have honly : OnlyCalls (fun _ => False) (readInterpretation P row).run :=
      only_readInterpretation row
    exact wp_onOk (wp_rowKept honly (fun _ _ h => h.elim) hrow)
  refine wp_onOk_bind hread fun interpretation w₁ hw₁ => ?_
  have hdraft : ∀ input, (callDraft input).run.wp (storesOnly type)
      (OnOk fun w => (w.db.row g).isSome) w₁ := by
    intro input
    have honly : OnlyCalls (fun o => o = .draft input) (callDraft input).run :=
      only_perform (I := effects) rfl
    refine wp_onOk (wp_rowKept honly (fun _ o ho t ht => ?_) hw₁)
    subst ho
    cases ht
  refine wp_onOk_bind (wp_onOk_mapErr (hdraft _)) fun result w₂ hw₂ => ?_
  exact wp_onOk_bind (wp_onOk_mapErr (wp_resolve_type (resolvedType_of_format hlower _ htype) hw₂ _))
    fun _ _ h => fun _ => h

/-- After the interpretation, all decisions are on one type. -/
theorem wp_decisions (hlower : ∀ f ∈ allowedFormats, P.toLowercase f = f) {url : String}
    {interpretation : Json} (hw : (w.db.row g).isSome)
    (htype : resolvedType P interpretation
      ((w.db.row g).map MediaGeneration.preferredOutputType) = type) :
    (do
      let preferred := (← selectRow g).map MediaGeneration.preferredOutputType
      let _ ← mapErr .decision (resolve P g interpretation preferred none)
      let draftPayload ← (workerSteps P url).draft g
      let _ ← mapErr .decision (resolve P g interpretation preferred (some draftPayload)) :
        GatewayResult WorkflowError Unit).run.wp (storesOnly type) (fun _ _ => True) w := by
  have hformat : type ∈ allowedFormats := htype ▸ resolvedType_mem P _ _
  have hselect : (selectRow g).run.wp (storesOnly type)
      (fun a w' => ∀ row, a = .ok row → row = w.db.row g ∧ w' = w) w :=
    wp_selectRow_type (fun row h => ⟨(Except.ok.inj h).symm, rfl⟩) fun _ _ _ h => by cases h
  refine wp_run_seq hselect (fun row w' h => ?_) fun _ _ _ => trivial
  obtain ⟨rfl, rfl⟩ := h row rfl
  refine wp_mono (fun _ _ _ => trivial) (wp_onOk_bind (K := fun _ => True)
    (wp_onOk_mapErr (wp_resolve_type htype hw none)) fun _ w₁ hw₁ => ?_)
  refine wp_onOk_bind (wp_draftStep_type hlower hformat hw₁) fun draftPayload w₂ hw₂ => ?_
  exact wp_onOk_bind (wp_onOk_mapErr (wp_resolve_type htype hw₂.isSome _)) fun _ _ _ _ => trivial

/-- The decisions that a classification stores. -/
def storedTypes (calls : List (Call machine)) : List String :=
  calls.filterMap fun c => storedType c.op

/-- The interpretation stores no decision, and succeeds only on a row. -/
theorem wp_interpretStep_type : (interpretStep g).run.wp
    (alone (fun _ o => storedType o = none) fun _ _ _ => True)
    (OnOk fun w => (w.db.row g).isSome) w := by
  by_cases hw : (w.db.row g).isSome
  · let Updates : RowStatement → Prop := fun q =>
      ∃ payload llmProvider llmModel, q = .update (.interpretation payload llmProvider llmModel)
    have honly : OnlyCalls (StepCall Updates g) (interpretStep g).run :=
      only_interpretStep fun _ _ _ => ⟨_, _, _, rfl⟩
    refine wp_onOk (wp_rowKept honly (fun _ o ho => ?_) hw)
    refine Option.eq_none_iff_forall_ne_some.2 fun t ht => ?_
    obtain ⟨id, source, payload, rfl⟩ := eq_of_storedType ht
    obtain ho | ho := ho
    · obtain ⟨-, payload', llmProvider, llmModel, hupdate⟩ := ho
      cases hupdate
    · exact ho
  · have hfetch : (fetchRow g).run.wp (alone (fun _ o => storedType o = none) fun _ _ _ => True)
        (fun a _ => a.isOk = false) w := by
      have hselect : (selectRow g).run.wp
          (alone (fun _ o => storedType o = none) fun _ _ _ => True)
          (fun a _ => ∀ row, a = .ok row → row = none) w := by
        refine (wp_run_mapErr _ _ _ _).2 (wp_query_alone rfl (fun _ _ row h => ?_)
          fun _ _ _ e w' row h => by cases h)
        obtain rfl := Except.ok.inj h
        exact Option.not_isSome_iff_eq_none.1 hw
      refine wp_run_seq hselect (fun row w' h => ?_) fun e w' _ => rfl
      obtain rfl := h row rfl
      exact rfl
    exact wp_run_seq hfetch (fun row w' h => by cases h) fun e w' _ => onOk_error e w'

/-- One of the formats. -/
abbrev AllowedFormat : Type := { type : String // type ∈ allowedFormats }

instance : Inhabited AllowedFormat := ⟨⟨"docx", by decide⟩⟩

/-- The interpretation settles on which type the decisions after it are. -/
theorem stored_decisions (hlower : ∀ f ∈ allowedFormats, P.toLowercase f = f) (url : String)
    (g : Uuid) (w : World) (env : Nat → Choice) :
    ∃ type ∈ allowedFormats,
      ∀ t ∈ storedTypes ((classify P (workerSteps P url) g).run.run machine env w).calls,
        t = type := by
  let rest (r : Except WorkflowError Json) : Gateway (Except WorkflowError Unit) :=
    match r with
    | .ok interpretation => (do
        let preferred := (← selectRow g).map MediaGeneration.preferredOutputType
        let _ ← mapErr .decision (resolve P g interpretation preferred none)
        let draftPayload ← (workerSteps P url).draft g
        let _ ← mapErr .decision (resolve P g interpretation preferred (some draftPayload)) :
          GatewayResult WorkflowError Unit).run
    | .error e => pure (.error e)
  have hinterpret : (interpretStep g).run.wp
      (alone (fun _ o => storedType o = none) fun _ _ _ => True)
      (fun r w' => ∃ i : AllowedFormat, (rest r).wp (storesOnly i) (fun _ _ => True) w') w := by
    refine wp_mono (fun r w' h => ?_) wp_interpretStep_type
    match r with
    | .ok interpretation =>
      exact ⟨⟨_, resolvedType_mem P interpretation _⟩, wp_decisions hlower (h rfl) rfl⟩
    | .error e => exact ⟨default, trivial⟩
  have hreq : ∀ (i : AllowedFormat) (w : World) (o : Operation), storedType o = none →
      StoresOnly i w o := by
    intro i w o ho t ht
    rw [ho] at ht
    cases ht
  obtain ⟨⟨type, hformat⟩, htype⟩ :=
    Machine.exists_req_of_wp hreq hinterpret fun c (_ : c ∈ (Prog.run machine _ env w).calls) => trivial
  have hrun : (classify P (workerSteps P url) g).run = (interpretStep g).run.bind rest :=
    congrArg (Prog.bind _) (funext fun r => by cases r <;> rfl)
  rw [hrun]
  refine ⟨type, hformat, fun t ht => ?_⟩
  obtain ⟨c, hc, hstored⟩ := List.mem_filterMap.mp ht
  exact htype c hc t hstored

/-- The ranking, the decision that it makes, and the decisions of one classification. -/
theorem outputType_decided (P : Platform)
    (hlower : ∀ format ∈ allowedFormats, P.toLowercase format = format) :
    (∀ interpretation, Ranks P interpretation (rankCandidates P interpretation)) ∧
    (∀ interpretation preferred now,
      normalizePreferredOutputType P preferred = "auto" →
      normalizePreferredOutputType P
        (strAt interpretation ["constraints", "preferred_output_type"]) = "auto" →
      ∃ c rest, rankCandidates P interpretation = c :: rest ∧
        (decideOutput P interpretation preferred now).decisionSource = "candidate_ranking" ∧
        (decideOutput P interpretation preferred now).resolvedOutputType = c.outputType) ∧
    (∀ interpretation interpretation' preferred now now',
      (decideOutput P interpretation'
        (some (decideOutput P interpretation preferred now).resolvedOutputType)
        now').resolvedOutputType =
          (decideOutput P interpretation preferred now).resolvedOutputType) ∧
    ∀ url g w env, ∃ type ∈ allowedFormats,
      ∀ t ∈ storedTypes ((classify P (workerSteps P url) g).run.run machine env w).calls,
        t = type := by
  refine ⟨ranks_rankCandidates P, fun interpretation preferred now hpreferred hconstraint => ?_,
    fun interpretation interpretation' preferred now now' => ?_, stored_decisions hlower⟩
  · exact decideOutput_ranking hpreferred hconstraint now
  · rw [resolvedOutputType_eq, resolvedOutputType_eq]
    exact resolvedType_of_format hlower _ (resolvedType_mem P _ _)

/-- A preference is kept by the decisions that follow. -/
theorem outputType_decided_sample :
    Ranks asciiPlatform (.obj []) (rankCandidates asciiPlatform (.obj [])) ∧
    (decideOutput asciiPlatform (.obj []) (some "pdf") 0).resolvedOutputType = "pdf" ∧
    (decideOutput asciiPlatform (.obj [])
      (some (decideOutput asciiPlatform (.obj []) (some "pdf") 0).resolvedOutputType)
      1).resolvedOutputType = "pdf" := by
  have h := outputType_decided asciiPlatform (by decide)
  have hpdf : (decideOutput asciiPlatform (.obj []) (some "pdf") 0).resolvedOutputType = "pdf" := by
    decide +kernel
  exact ⟨h.1 _, hpdf, (h.2.2.1 _ _ _ _ _).trans hpdf⟩

end KlassGateway
