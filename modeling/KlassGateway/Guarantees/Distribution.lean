import KlassGateway.Recommendation.Distribution
/-!
# What the distribution summary guarantees

* `distribution_spec_iff`: the summary has the best assignments of each known sub-subject, and
  with different assignments it is the same for every arrangement of them and every order of
  reading the map, unless two that differ in their source type alone tie among the first.
* `distribution_tied`: two such assignments.
-/

namespace KlassGateway.Recommendation

open Lib

variable {C : Chrono}

/-! ## The comparators -/

instance (C : Chrono) : Std.TransCmp (compareDistributionCandidates C) :=
  inferInstanceAs <| Std.TransCmp <|
    compareLex (fun a b => compareOn (fun a : DistributionSummaryItem => a.distinctUserCount) b a) <|
      compareLex (fun a b => compareOn (fun a => timestampValue C a.latestDistributionAt) b a) <|
        compareLex (fun a b => compareOn (fun a => timestampValue C a.sourceCreatedAt) b a) <|
          compareOn fun a => a.sourceReference

instance (C : Chrono) : Std.TransCmp (compareSummaryItems C) :=
  inferInstanceAs <| Std.TransCmp <|
    compareLex (compareOn subjectIdOrZero) <|
      compareLex (compareOn fun a => a.subSubjectId) (compareDistributionCandidates C)

theorem subSubjectId_eq_of_compareSummaryItems (a b : DistributionSummaryItem)
    (h : compareSummaryItems C a b = .eq) : a.subSubjectId = b.subSubjectId := by
  simp only [compareSummaryItems, Ordering.then_eq_eq, Std.LawfulEqCmp.compare_eq_iff_eq] at h
  exact h.2.1

/-! ## The items -/

/-- The eligible assignments of a sub-subject. -/
def eligibleAssignments (input : AggregationInput) (ssId : Int) : List SystemAssignmentInput :=
  input.assignments.filter fun a => a.sourceType ∈ input.eligibleSourceTypes ∧
    max 1 input.minimumDistinctUserCount ≤ a.distinctUserCount ∧ a.subSubjectId = ssId

/-- The items that the summary chooses from. -/
def candidateItems (input : AggregationInput) : List DistributionSummaryItem :=
  distributionItems input (input.assignments.filter (isDistributionCandidate input))

theorem buildSystemDistributionSummary_eq (C : Chrono) (order : IterationOrder)
    (input : AggregationInput) :
    (buildSystemDistributionSummary C order input).items =
      groupAndSortDistribution C order (candidateItems input) input.maximumItemsPerSubSubject := by
  have hnil : ∀ n, groupAndSortDistribution C order [] n = [] := by
    intro n
    rw [groupAndSortDistribution, topPerGroup, groupBy, List.foldl_nil,
      List.perm_nil.mp (order.perm _)]
    rfl
  rw [buildSystemDistributionSummary]
  by_cases hsources : input.eligibleSourceTypes.isEmpty
  · have hnone : input.assignments.filter (isDistributionCandidate input) = [] := by
      rw [List.isEmpty_iff] at hsources
      simp [isDistributionCandidate, hsources]
    rw [if_pos hsources, candidateItems, hnone, distributionItems, List.filterMap_nil, hnil]
  · rw [if_neg hsources]
    by_cases hcandidates : (input.assignments.filter (isDistributionCandidate input)).isEmpty
    · rw [candidateItems, List.isEmpty_iff.mp hcandidates, distributionItems, List.filterMap_nil,
        hnil]
      rfl
    · simp only [hcandidates, Bool.false_eq_true, if_false]
      rfl

theorem eligibleAssignments_eq (input : AggregationInput) (ssId : Int) :
    eligibleAssignments input ssId =
      (input.assignments.filter (isDistributionCandidate input)).filter (·.subSubjectId = ssId) := by
  rw [List.filter_filter]
  refine List.filter_congr fun a _ => ?_
  rw [max_comm, isDistributionCandidate, ← Bool.decide_and, decide_eq_decide]
  tauto

/-- The items of a sub-subject, in the order of its assignments. -/
theorem filter_distributionItems (input : AggregationInput) (ssId : Int)
    (candidates : List SystemAssignmentInput) :
    (distributionItems input candidates).filter (·.subSubjectId = ssId) =
      (input.subSubjectLookup ssId).elim [] fun subSubject =>
        (candidates.filter (·.subSubjectId = ssId)).map (distributionItem input subSubject) := by
  induction candidates with
  | nil => cases input.subSubjectLookup ssId <;> rfl
  | cons a as ih =>
    rw [distributionItems] at ih ⊢
    rw [List.filterMap_cons]
    by_cases hss : a.subSubjectId = ssId
    · rw [hss, List.filter_cons_of_pos (by simpa using hss)]
      cases hlookup : input.subSubjectLookup ssId with
      | none => simpa [hlookup] using ih
      | some subSubject =>
        have hid : (distributionItem input subSubject a).subSubjectId = ssId := hss
        simpa [hlookup, hid] using ih
    · rw [List.filter_cons_of_neg (by simpa using hss), ← ih]
      cases hlookup : input.subSubjectLookup a.subSubjectId with
      | none => rfl
      | some subSubject =>
        have hid : (distributionItem input subSubject a).subSubjectId ≠ ssId := hss
        simp [hid]

/-- Items of one sub-subject have one subject. -/
theorem compareSummaryItems_of_subSubjectId_eq {input : AggregationInput}
    {candidates : List SystemAssignmentInput} :
    ∀ a ∈ distributionItems input candidates, ∀ b ∈ distributionItems input candidates,
      a.subSubjectId = b.subSubjectId →
        compareSummaryItems C a b = compareDistributionCandidates C a b := by
  have hsubject : ∀ a ∈ distributionItems input candidates,
      some a.subject = (input.subSubjectLookup a.subSubjectId).map (·.subject) := by
    intro a ha
    obtain ⟨x, -, hx⟩ := List.mem_filterMap.mp ha
    obtain ⟨subSubject, hlookup, rfl⟩ := Option.map_eq_some_iff.mp hx
    have hid : (distributionItem input subSubject x).subSubjectId = x.subSubjectId := rfl
    rw [hid, hlookup]
    rfl
  intro a ha b hb h
  have hab : a.subject = b.subject := by
    have hb := hsubject b hb
    rw [← h, ← hsubject a ha] at hb
    exact (Option.some.inj hb).symm
  simp [compareSummaryItems, subjectIdOrZero, hab, h]

/-! ## The best of each sub-subject -/

/-- The summary has, of each known sub-subject, the best of its eligible assignments, as many
as are asked for, and nothing else, in the order of the global sort. -/
structure HasBest (C : Chrono) (input : AggregationInput) (items : List DistributionSummaryItem) :
    Prop where
  best : ∀ ssId subSubject, input.subSubjectLookup ssId = some subSubject →
    ∃ kept omitted : List SystemAssignmentInput,
      (kept ++ omitted).Perm (eligibleAssignments input ssId) ∧
      kept.length =
        min input.maximumItemsPerSubSubject (eligibleAssignments input ssId).length ∧
      items.filter (·.subSubjectId = ssId) = kept.map (distributionItem input subSubject) ∧
      ∀ a ∈ kept, ∀ b ∈ omitted, (compareDistributionCandidates C
        (distributionItem input subSubject a) (distributionItem input subSubject b)).isLE
  known : ∀ item ∈ items, (input.subSubjectLookup item.subSubjectId).isSome
  sorted : SortedBy (compareSummaryItems C) items

/-- The items of a sub-subject in the summary. -/
theorem filter_summary (order : IterationOrder) (input : AggregationInput) (ssId : Int) :
    (buildSystemDistributionSummary C order input).items.filter (·.subSubjectId = ssId) =
      (sortBy (compareDistributionCandidates C)
        ((candidateItems input).filter (·.subSubjectId = ssId))).take
          input.maximumItemsPerSubSubject := by
  rw [buildSystemDistributionSummary_eq]
  exact filter_topPerGroup compareSummaryItems_of_subSubjectId_eq ssId

theorem hasBest (C : Chrono) (order : IterationOrder) (input : AggregationInput) :
    HasBest C input (buildSystemDistributionSummary C order input).items where
  best ssId subSubject hlookup := by
    let cmp : SystemAssignmentInput → SystemAssignmentInput → Ordering := fun a b =>
      compareDistributionCandidates C (distributionItem input subSubject a)
        (distributionItem input subSubject b)
    have hcmp : TotalPreorderOn cmp (eligibleAssignments input ssId) := .comap _ _
    have hperm := sortBy_perm cmp (eligibleAssignments input ssId)
    have hmap : (sortBy cmp (eligibleAssignments input ssId)).map (distributionItem input subSubject) =
        sortBy (compareDistributionCandidates C)
          ((eligibleAssignments input ssId).map (distributionItem input subSubject)) :=
      List.map_insertionSort _ _ _ _ fun _ _ _ _ => Iff.rfl
    refine ⟨(sortBy cmp (eligibleAssignments input ssId)).take input.maximumItemsPerSubSubject,
      (sortBy cmp (eligibleAssignments input ssId)).drop input.maximumItemsPerSubSubject,
      ?_, ?_, ?_, ?_⟩
    · rw [List.take_append_drop]
      exact hperm
    · rw [List.length_take, hperm.length_eq]
    · rw [filter_summary, candidateItems, filter_distributionItems, hlookup, Option.elim_some,
        ← eligibleAssignments_eq, ← hmap, List.map_take]
    · have hsorted := sortedBy_sortBy hcmp
      rw [SortedBy, ← List.take_append_drop input.maximumItemsPerSubSubject (sortBy _ _)] at hsorted
      exact (List.pairwise_append.mp hsorted).2.2
  known item hitem := by
    rw [buildSystemDistributionSummary_eq] at hitem
    obtain ⟨a, -, ha⟩ := List.mem_filterMap.mp (mem_topPerGroup hitem)
    obtain ⟨subSubject, hlookup, rfl⟩ := Option.map_eq_some_iff.mp ha
    exact Option.isSome_iff_exists.mpr ⟨subSubject, hlookup⟩
  sorted := by
    rw [buildSystemDistributionSummary_eq]
    exact sortedBy_sortBy (.of_transCmp _)

/-! ## Rearranged assignments -/

/-- The assignments differ in their source type, their reference or their sub-subject. -/
def DistinctAssignments (assignments : List SystemAssignmentInput) : Prop :=
  (assignments.map fun a => (a.sourceType, a.sourceReference, a.subSubjectId)).Nodup

/-- The summary is the same for every arrangement of the assignments and every order of
reading the map. -/
def ArrangementInvariant (C : Chrono) (input : AggregationInput) : Prop :=
  ∀ (order order' : IterationOrder) (assignments : List SystemAssignmentInput),
    assignments.Perm input.assignments →
      buildSystemDistributionSummary C order' { input with assignments } =
        buildSystemDistributionSummary C order input

/-- The tie-breakers do not tell the items apart. -/
def Tied (C : Chrono) (a b : DistributionSummaryItem) : Prop :=
  a.distinctUserCount = b.distinctUserCount ∧
    timestampValue C a.latestDistributionAt = timestampValue C b.latestDistributionAt ∧
    timestampValue C a.sourceCreatedAt = timestampValue C b.sourceCreatedAt ∧
    a.sourceReference = b.sourceReference

/-- Two candidates of a sub-subject that differ in their source type alone come after as many
others as the summary takes. -/
def Separated (C : Chrono) (input : AggregationInput) : Prop :=
  ∀ a ∈ candidateItems input, ∀ b ∈ candidateItems input, a.subSubjectId = b.subSubjectId →
    a.sourceType ≠ b.sourceType → Tied C a b →
      input.maximumItemsPerSubSubject ≤
        ((candidateItems input).filter (·.subSubjectId = a.subSubjectId)).countP fun c =>
          compareDistributionCandidates C c a = .lt

theorem compareDistributionCandidates_eq_iff {a b : DistributionSummaryItem} :
    compareDistributionCandidates C a b = .eq ↔ Tied C a b := by
  simp only [compareDistributionCandidates, Ordering.then_eq_eq,
    Std.LawfulEqCmp.compare_eq_iff_eq, Tied]
  constructor
  · rintro ⟨hcount, hlatest, hcreated, hreference⟩
    exact ⟨hcount.symm, hlatest.symm, hcreated.symm, hreference⟩
  · rintro ⟨hcount, hlatest, hcreated, hreference⟩
    exact ⟨hcount.symm, hlatest.symm, hcreated.symm, hreference⟩

theorem mem_candidateItems {input : AggregationInput} {item : DistributionSummaryItem} :
    item ∈ candidateItems input ↔ ∃ x ∈ input.assignments, isDistributionCandidate input x ∧
      ∃ subSubject, input.subSubjectLookup x.subSubjectId = some subSubject ∧
        distributionItem input subSubject x = item := by
  simp only [candidateItems, distributionItems, List.mem_filterMap, List.mem_filter,
    Option.map_eq_some_iff, and_assoc]

/-- Of different assignments, the candidates that tie differ in their source type. -/
theorem sourceType_ne_of_tied {input : AggregationInput}
    (hdistinct : DistinctAssignments input.assignments) {a b : DistributionSummaryItem}
    (ha : a ∈ candidateItems input) (hb : b ∈ candidateItems input) (hne : a ≠ b)
    (hss : a.subSubjectId = b.subSubjectId) (htied : Tied C a b) :
    a.sourceType ≠ b.sourceType := by
  obtain ⟨x, hx, -, subSubject, hlookup, rfl⟩ := mem_candidateItems.mp ha
  obtain ⟨y, hy, -, subSubject', hlookup', rfl⟩ := mem_candidateItems.mp hb
  intro htype
  have hxy : x = y := by
    refine List.inj_on_of_nodup_map hdistinct hx hy ?_
    exact Prod.ext htype (Prod.ext htied.2.2.2 hss)
  subst hxy
  rw [hlookup, Option.some.injEq] at hlookup'
  exact hne (by rw [hlookup'])

theorem candidateItems_perm {input : AggregationInput} {assignments : List SystemAssignmentInput}
    (h : assignments.Perm input.assignments) :
    (candidateItems { input with assignments }).Perm (candidateItems input) :=
  (h.filter _).filterMap _

theorem arrangementInvariant_of_separated {input : AggregationInput}
    (hdistinct : DistinctAssignments input.assignments) (h : Separated C input) :
    ArrangementInvariant C input := by
  intro order order' assignments hperm
  rw [DistributionSummaryResult.mk.injEq, buildSystemDistributionSummary_eq,
    buildSystemDistributionSummary_eq]
  refine (topPerGroup_eq_iff subSubjectId_eq_of_compareSummaryItems
    compareSummaryItems_of_subSubjectId_eq compareSummaryItems_of_subSubjectId_eq).mpr
    fun ssId => ?_
  refine take_sortBy_of_perm ((candidateItems_perm hperm).filter _) ?_
  intro a ha b hb hne htied
  obtain ⟨ha, has⟩ := List.mem_filter.mp ha
  obtain ⟨hb, hbs⟩ := List.mem_filter.mp hb
  simp only [decide_eq_true_eq] at has hbs
  have htied := compareDistributionCandidates_eq_iff.mp htied
  have hss := has.trans hbs.symm
  have := h a ha b hb hss (sourceType_ne_of_tied hdistinct ha hb hne hss htied) htied
  rwa [has] at this

theorem candidateItems_cons {input : AggregationInput} {x : SystemAssignmentInput}
    {subSubject : SubSubjectTaxonomy} (hx : isDistributionCandidate input x)
    (hlookup : input.subSubjectLookup x.subSubjectId = some subSubject)
    (assignments : List SystemAssignmentInput) :
    candidateItems { input with assignments := x :: assignments } =
      distributionItem input subSubject x :: candidateItems { input with assignments } := by
  have hitems : ∀ assignments, candidateItems { input with assignments } =
      distributionItems input (assignments.filter (isDistributionCandidate input)) := fun _ => rfl
  rw [hitems, hitems, List.filter_cons_of_pos hx, distributionItems,
    List.filterMap_cons_some (by rw [hlookup]; rfl)]
  rfl

/-- Two assignments that tie can be put first in either order. -/
theorem separated_of_arrangementInvariant {input : AggregationInput}
    (h : ArrangementInvariant C input) : Separated C input := by
  intro a ha b hb hss htype htied
  have hne : a ≠ b := fun hab => htype (congrArg _ hab)
  obtain ⟨x, hx, hxc, sx, hsx, hax⟩ := mem_candidateItems.mp ha
  obtain ⟨y, hy, hyc, sy, hsy, hby⟩ := mem_candidateItems.mp hb
  have hxy : y ≠ x := by
    rintro rfl
    rw [hsx, Option.some.injEq] at hsy
    exact hne (by rw [← hax, ← hby, hsy])
  have hyx : y ∈ input.assignments.erase x := (List.mem_erase_of_ne hxy).mpr hy
  let rest := (input.assignments.erase x).erase y
  have hperm : (x :: y :: rest).Perm input.assignments :=
    ((List.perm_cons_erase hyx).symm.cons x).trans (List.perm_cons_erase hx).symm
  have hperm' : (y :: x :: rest).Perm input.assignments := (List.Perm.swap x y rest).trans hperm
  let r := (candidateItems { input with assignments := rest }).filter
    (·.subSubjectId = a.subSubjectId)
  have hitems : (candidateItems { input with assignments := x :: y :: rest }).filter
      (·.subSubjectId = a.subSubjectId) = a :: b :: r := by
    rw [candidateItems_cons hxc hsx, candidateItems_cons hyc hsy, hax, hby]
    simp [hss, r]
  have hitems' : (candidateItems { input with assignments := y :: x :: rest }).filter
      (·.subSubjectId = a.subSubjectId) = b :: a :: r := by
    rw [candidateItems_cons hyc hsy, candidateItems_cons hxc hsx, hax, hby]
    simp [hss, r]
  have heq := (h default default _ hperm).trans (h default default _ hperm').symm
  have htake := congrArg (fun result => result.items.filter (·.subSubjectId = a.subSubjectId)) heq
  simp only [filter_summary, hitems, hitems'] at htake
  have hrank := le_rank_of_take_eq hne (compareDistributionCandidates_eq_iff.mpr htied) htake
  rw [← hitems, rank_perm ((candidateItems_perm hperm).filter _)] at hrank
  exact hrank

/-- The summary always has the best assignments of each known sub-subject; it is the same for
every arrangement of different assignments and every order of reading the map exactly when no
two candidates of a sub-subject that differ in their source type alone tie among the first. -/
theorem distribution_spec_iff (C : Chrono) (input : AggregationInput) :
    ((∀ order, HasBest C input (buildSystemDistributionSummary C order input).items) ∧
      (DistinctAssignments input.assignments → ArrangementInvariant C input)) ↔
    (DistinctAssignments input.assignments → Separated C input) := by
  constructor
  · intro h hdistinct
    exact separated_of_arrangementInvariant (h.2 hdistinct)
  · intro h
    exact ⟨fun order => hasBest C order input, fun hdistinct =>
      arrangementInvariant_of_separated hdistinct (h hdistinct)⟩

/-- A topic and a generated item with one reference, served to as many users. -/
def tiedInput : AggregationInput where
  assignments :=
    [{ sourceType := sourceSystemTopic, sourceReference := "5", subSubjectId := 1
       distinctUserCount := 2 },
     { sourceType := sourceAiGenerated, sourceReference := "5", subSubjectId := 1
       distinctUserCount := 2 }]
  subSubjectLookup := fun ssId => if ssId = 1 then
    some { id := 1, subjectId := 1, name := "Algebra", slug := "algebra", subject := none } else none
  eligibleSourceTypes := [sourceSystemTopic, sourceAiGenerated]

/-- Which of the two the summary shows depends on which comes first. -/
theorem distribution_tied :
    ¬ (DistinctAssignments tiedInput.assignments → ArrangementInvariant dateless tiedInput) := by
  intro h
  have heq := h (by unfold DistinctAssignments; decide) default default
    tiedInput.assignments.reverse (List.reverse_perm _)
  have htypes := congrArg (fun result => result.items.map (·.sourceType)) heq
  exact absurd (show [sourceAiGenerated] = [sourceSystemTopic] from htypes) (by decide)

end KlassGateway.Recommendation
