import KlassGateway.Lib.Firsts
import KlassGateway.Recommendation.Aggregation
/-!
# Which system items a feed selects

`Wanted` says which system items the signals of a user ask for, and `wantedGroup` with which
priority, without the lookups of the code.  `Placed` is where the lookups put a sub-subject:
one place for each sub-subject, and one sub-subject for each place.

* `candidates_selected`: a system item is selected if and only if it is wanted, in its group;
  the summary lists the selected sub-subjects in the order of their places; every admin item
  is in the feed and no suppressed topic is.
-/

namespace KlassGateway.Recommendation

open Lib

variable {C : Chrono}

/-! ## What is wanted -/

/-- The signals ask for the item. -/
def Wanted (signals : PersonalizationInternal) (item : FeedItem) : Prop :=
  isEligibleSystemGeneratedCandidate item ∧ ∃ ssId ∈ item.subSubjectId,
    ssId ∈ signals.preferredActivitySubSubjectIds ∨
    ssId ∈ signals.secondaryActivitySubSubjectIds ∨
    (item.subjectId = signals.primarySubjectId ∧
      ssId ∉ signals.preferredActivitySubSubjectIds ∧
      ssId ∉ signals.secondaryActivitySubSubjectIds)

/-- The group of a wanted sub-subject. -/
def wantedGroup (signals : PersonalizationInternal) (ssId : Int) : Nat :=
  if ssId ∈ signals.preferredActivitySubSubjectIds then 0
  else if ssId ∈ signals.secondaryActivitySubSubjectIds then 2
  else 1

/-! ## Places -/

/-- The lookup that ranks the sub-subjects of a group. -/
def placeLookup (signals : PersonalizationInternal) (items : List FeedItem) : Nat → RankLookup
  | 0 => buildRankLookup signals.preferredActivitySubSubjectIds
  | 2 => buildRankLookup signals.secondaryActivitySubSubjectIds
  | _ => buildPrimarySubjectCatalogLookup items signals.primarySubjectId
      (signals.preferredActivitySubSubjectIds ++ signals.secondaryActivitySubSubjectIds)

/-- The lookups put the sub-subject at a rank of its group. -/
def Placed (signals : PersonalizationInternal) (items : List FeedItem) (ssId : Int) (rank : Nat) :
    Prop :=
  placeLookup signals items (wantedGroup signals ssId) ssId = some rank

/-- Two catalog ranks compare as their sub-subjects do. -/
theorem compare_catalog {items : List FeedItem} {primarySubjectId : Option Int}
    {excludedIds : List Int} {s t : Int} {r q : Nat}
    (hs : buildPrimarySubjectCatalogLookup items primarySubjectId excludedIds s = some r)
    (ht : buildPrimarySubjectCatalogLookup items primarySubjectId excludedIds t = some q) :
    compare r q = compare s t := by
  cases primarySubjectId with
  | none => cases hs
  | some psId =>
    rw [buildPrimarySubjectCatalogLookup_eq] at hs ht
    exact compare_buildRankLookup (List.pairwise_insertionSort _ _) hs ht

/-- No two sub-subjects of one group have one rank. -/
theorem ssId_eq_of_placeLookup {signals : PersonalizationInternal} {items : List FeedItem}
    {group : Nat} {s t : Int} {r : Nat} (hs : placeLookup signals items group s = some r)
    (ht : placeLookup signals items group t = some r) : s = t := by
  rcases group with _ | _ | _ | group
  · exact buildRankLookup_inj hs ht
  · simpa using (compare_catalog hs ht).symm
  · exact buildRankLookup_inj hs ht
  · simpa using (compare_catalog hs ht).symm

/-- The catalog has the sub-subject of an eligible item of the primary subject, unless it is
excluded. -/
theorem catalog_isSome {items : List FeedItem} {item : FeedItem} {psId ssId : Int}
    {excludedIds : List Int} (hitem : item ∈ items)
    (heligible : isEligibleSystemGeneratedCandidate item) (hsubject : item.subjectId = some psId)
    (hssId : item.subSubjectId = some ssId) (hexcluded : ssId ∉ excludedIds) :
    ∃ r, buildPrimarySubjectCatalogLookup items (some psId) excludedIds ssId = some r := by
  rw [← Option.isSome_iff_exists, Option.isSome_iff_ne_none, buildPrimarySubjectCatalogLookup_eq,
    ne_eq, buildRankLookup_eq_none_iff, not_not, List.mem_insertionSort, catalogIds,
    List.mem_filterMap]
  refine ⟨item, List.mem_filter.mpr ⟨hitem, ?_⟩, hssId⟩
  simp [heligible, hsubject, hssId, hexcluded]

/-- The catalog has no excluded sub-subject. -/
theorem catalog_eq_none {items : List FeedItem} {primarySubjectId : Option Int} {ssId : Int}
    {excludedIds : List Int} (hexcluded : ssId ∈ excludedIds) :
    buildPrimarySubjectCatalogLookup items primarySubjectId excludedIds ssId = none := by
  cases primarySubjectId with
  | none => rfl
  | some psId =>
    rw [buildPrimarySubjectCatalogLookup_eq, buildRankLookup_eq_none_iff, List.mem_insertionSort,
      catalogIds, List.mem_filterMap]
    rintro ⟨item, hitem, hssId⟩
    have := (List.mem_filter.mp hitem).2
    simp only [decide_eq_true_eq] at this
    exact this.2.2 ssId hssId hexcluded

theorem exists_rank {ids : List Int} {ssId : Int} (h : ssId ∈ ids) :
    ∃ r, buildRankLookup ids ssId = some r := by
  rw [← Option.isSome_iff_exists, Option.isSome_iff_ne_none]
  exact fun hnone => buildRankLookup_eq_none_iff.mp hnone h

theorem eligible_ids {item : FeedItem} (h : isEligibleSystemGeneratedCandidate item) :
    item.sourceType ≠ sourceAdminUpload ∧ (∃ ssId, item.subSubjectId = some ssId) ∧
      ∃ subjectId, item.subjectId = some subjectId := by
  rw [isEligibleSystemGeneratedCandidate] at h
  split_ifs at h with hadmin hnone htopic
  all_goals
    simp only [Bool.or_eq_true, Option.isNone_iff_eq_none, not_or] at hnone
    exact ⟨hadmin, Option.ne_none_iff_exists'.mp hnone.1, Option.ne_none_iff_exists'.mp hnone.2⟩

/-- An item is selected if and only if it is wanted, and then where its sub-subject is
placed. -/
theorem annotate_spec {ctx : PersonalizationContext} {items : List FeedItem} {item : FeedItem}
    (hitem : item ∈ items) :
    (¬ Wanted ctx.internal item ∧
      (annotate ctx items item).candidateSelection.selected = false) ∨
    (Wanted ctx.internal item ∧
      (annotate ctx items item).candidateSelection.selected = true ∧
      ∃ ssId, item.subSubjectId = some ssId ∧
        (annotate ctx items item).candidateSelection.group = wantedGroup ctx.internal ssId ∧
        Placed ctx.internal items ssId (annotate ctx items item).candidateSelection.rank) := by
  by_cases heligible : isEligibleSystemGeneratedCandidate item
  · obtain ⟨-, ⟨ssId, hssId⟩, subjectId, hsubject⟩ := eligible_ids heligible
    have hwanted : Wanted ctx.internal item ↔ _ := and_iff_right heligible
    simp only [hssId, Option.mem_some_iff, exists_eq_left', hsubject] at hwanted
    by_cases hpreferred : ssId ∈ ctx.internal.preferredActivitySubSubjectIds
    · obtain ⟨r, hr⟩ := exists_rank hpreferred
      refine Or.inr ⟨hwanted.mpr (Or.inl hpreferred), ?_⟩
      simp [annotate, candidateSelection, heligible, hssId, hr, Placed, placeLookup, wantedGroup,
        hpreferred]
    · have hnone := buildRankLookup_eq_none_iff.mpr hpreferred
      by_cases hsecondary : ssId ∈ ctx.internal.secondaryActivitySubSubjectIds
      · obtain ⟨r, hr⟩ := exists_rank hsecondary
        have hcatalog : buildPrimarySubjectCatalogLookup items ctx.internal.primarySubjectId
            (ctx.internal.preferredActivitySubSubjectIds ++
              ctx.internal.secondaryActivitySubSubjectIds) ssId = none :=
          catalog_eq_none (List.mem_append_right _ hsecondary)
        refine Or.inr ⟨hwanted.mpr (Or.inr (Or.inl hsecondary)), ?_⟩
        cases hprimary : ctx.internal.primarySubjectId <;> rw [hprimary] at hcatalog <;>
          simp [annotate, candidateSelection, heligible, hssId, hnone, hprimary, hcatalog, hr,
            Placed, placeLookup, wantedGroup, hpreferred, hsecondary]
      · have hnone' := buildRankLookup_eq_none_iff.mpr hsecondary
        by_cases hsubject' : item.subjectId = ctx.internal.primarySubjectId
        · have hexcluded : ssId ∉ ctx.internal.preferredActivitySubSubjectIds ++
              ctx.internal.secondaryActivitySubSubjectIds := by
            simp [hpreferred, hsecondary]
          obtain ⟨r, hr⟩ := catalog_isSome hitem heligible hsubject hssId hexcluded
          refine Or.inr ⟨hwanted.mpr (Or.inr (Or.inr ⟨hsubject ▸ hsubject', hpreferred,
            hsecondary⟩)), ?_⟩
          have hprimary := hsubject'.symm.trans hsubject
          simp [annotate, candidateSelection, heligible, hssId, hnone, hprimary, hsubject, hr,
            Placed, placeLookup, wantedGroup, hpreferred, hsecondary]
        · refine Or.inl ⟨?_, ?_⟩
          · rw [hwanted, hsubject] at *
            tauto
          · cases hprimary : ctx.internal.primarySubjectId <;>
              simp_all [annotate, candidateSelection]
  · refine Or.inl ⟨fun h => heligible h.1, ?_⟩
    simp [annotate, candidateSelection, heligible]

/-! ## The summary -/

/-- The place of the first comes strictly before the place of the second. -/
def PlacedBefore (a b : FeedItem) : Prop :=
  a.candidateSelection.group < b.candidateSelection.group ∨
    (a.candidateSelection.group = b.candidateSelection.group ∧
      a.candidateSelection.rank < b.candidateSelection.rank)

theorem placed_of_compareSelection {a b : FeedItem} (h : (compareSelection C a b).isLE) :
    PlacedBefore a b ∨ (a.candidateSelection.group = b.candidateSelection.group ∧
      a.candidateSelection.rank = b.candidateSelection.rank) := by
  simp only [compareSelection, Ordering.isLE_then_iff_or, Nat.compare_eq_lt, Nat.compare_eq_eq]
    at h
  unfold PlacedBefore
  omega

/-- The system items that are selected, with their places. -/
def selectedItems (ctx : PersonalizationContext) (items : List FeedItem) : List FeedItem :=
  (items.map (annotate ctx items)).filter (·.candidateSelection.selected)

theorem mem_selectedItems {ctx : PersonalizationContext} {items : List FeedItem} {a : FeedItem}
    (h : a ∈ selectedItems ctx items) :
    ∃ ssId, a.subSubjectId = some ssId ∧
      a.candidateSelection.group = wantedGroup ctx.internal ssId ∧
      Placed ctx.internal items ssId a.candidateSelection.rank := by
  obtain ⟨ha, hselected⟩ := List.mem_filter.mp h
  obtain ⟨item, hitem, rfl⟩ := List.mem_map.mp ha
  rcases annotate_spec hitem with ⟨-, hnot⟩ | ⟨-, -, ssId, hssId, hplace⟩
  · exact absurd (hnot.symm.trans hselected) (by decide)
  · exact ⟨ssId, hssId, hplace⟩

/-- Items of one sub-subject have one place. -/
theorem place_eq_of_ssId_eq {ctx : PersonalizationContext} {items : List FeedItem}
    {a b : FeedItem} (ha : a ∈ selectedItems ctx items) (hb : b ∈ selectedItems ctx items)
    (h : a.subSubjectId = b.subSubjectId) :
    a.candidateSelection.group = b.candidateSelection.group ∧
      a.candidateSelection.rank = b.candidateSelection.rank := by
  obtain ⟨s, hs, hgs, hrs⟩ := mem_selectedItems ha
  obtain ⟨t, ht, hgt, hrt⟩ := mem_selectedItems hb
  rw [hs, ht, Option.some.injEq] at h
  subst h
  exact ⟨hgs.trans hgt.symm, Option.some.inj (hrs.symm.trans hrt)⟩

/-- Items of one place have one sub-subject. -/
theorem ssId_eq_of_place_eq {ctx : PersonalizationContext} {items : List FeedItem}
    {a b : FeedItem} (ha : a ∈ selectedItems ctx items) (hb : b ∈ selectedItems ctx items)
    (hgroup : a.candidateSelection.group = b.candidateSelection.group)
    (hrank : a.candidateSelection.rank = b.candidateSelection.rank) :
    a.subSubjectId = b.subSubjectId := by
  obtain ⟨s, hs, hgs, hrs⟩ := mem_selectedItems ha
  obtain ⟨t, ht, hgt, hrt⟩ := mem_selectedItems hb
  rw [Placed, ← hgs, hgroup, hrank] at hrs
  rw [Placed, ← hgt] at hrt
  rw [hs, ht, ssId_eq_of_placeLookup hrs hrt]

/-- The sub-subjects of the summary. -/
def matchedIds (C : Chrono) (selected : List FeedItem) : List Int :=
  ((sortBy (compareSelection C) selected).filterMap (·.subSubjectId)).eraseDups

theorem mem_matchedIds {selected : List FeedItem} {ssId : Int} :
    ssId ∈ matchedIds C selected ↔ ∃ a ∈ selected, a.subSubjectId = some ssId := by
  simp [matchedIds]

/-- The summary lists different sub-subjects, in the order of their places. -/
theorem pairwise_matchedIds (C : Chrono) (ctx : PersonalizationContext) (items : List FeedItem) :
    (matchedIds C (selectedItems ctx items)).Pairwise fun s t => s ≠ t ∧
      ∀ a ∈ selectedItems ctx items, ∀ b ∈ selectedItems ctx items,
        a.subSubjectId = some s → b.subSubjectId = some t → PlacedBefore a b := by
  refine pairwise_eraseDups _ ?_
  rw [List.pairwise_filterMap]
  have horder : TotalPreorderOn (compareSelection C) (selectedItems ctx items) := .of_transCmp _
  have hsorted := sortedBy_sortBy horder
  refine hsorted.imp_of_mem fun {a b} ha hb hab s hs t ht => ?_
  rw [mem_sortBy] at ha hb
  rcases placed_of_compareSelection hab with hbefore | ⟨hgroup, hrank⟩
  · right
    intro a' ha' b' hb' hs' ht'
    have hplace := place_eq_of_ssId_eq ha ha' (hs.trans hs'.symm)
    have hplace' := place_eq_of_ssId_eq hb hb' (ht.trans ht'.symm)
    simpa only [PlacedBefore, hplace.1, hplace.2, hplace'.1, hplace'.2] using hbefore
  · left
    have := ssId_eq_of_place_eq ha hb hgroup hrank
    rw [hs, ht] at this
    exact Option.some.inj this

/-! ## The feed -/

/-- An item without its selection. -/
def unannotated (item : FeedItem) : FeedItem := { item with candidateSelection := {} }

/-- What comes out of the selection has come in, annotated or as it was. -/
theorem mem_select {items : List FeedItem} {input : AggregationInput} {a : FeedItem}
    (h : a ∈ (selectSystemGeneratedCandidates C items input).1) :
    ∃ item ∈ items, unannotated a = unannotated item := by
  rw [selectSystemGeneratedCandidates] at h
  split_ifs at h with hempty
  · exact ⟨a, h, rfl⟩
  · cases hctx : input.personalizationContext with
    | none => exact ⟨a, by simpa [hctx] using h, rfl⟩
    | some ctx =>
      simp only [hctx] at h
      split_ifs at h
      · exact ⟨a, h, rfl⟩
      · obtain ⟨item, hitem, rfl⟩ := List.mem_map.mp (List.mem_of_mem_filter h)
        exact ⟨item, hitem, rfl⟩
      · exact ⟨a, h, rfl⟩

/-- Every admin item is in the feed, and everything in the feed is a curated item or a topic
that is not suppressed. -/
def KeepsItems (input : AggregationInput) (feed : FeedSnapshot) : Prop :=
  (∀ c ∈ input.curatedItems, c.sourceType = sourceAdminUpload →
    normalizeCuratedItem c ∈ feed.items) ∧
  ∀ a ∈ feed.items,
    (∃ c ∈ input.curatedItems, unannotated a = normalizeCuratedItem c) ∨
    ∃ t ∈ input.topicItems, makeSourceKey sourceSystemTopic t.id ∉ input.suppressedSourceKeys ∧
      unannotated a = normalizeTopicItem t

theorem buildFeedSnapshot_keeps {S : SliceSort} {input : AggregationInput} {feed : FeedSnapshot}
    (h : buildFeedSnapshot C S input = some feed) : KeepsItems input feed := by
  have hperm : feed.items.Perm (allItems C input) := by
    rw [buildFeedSnapshot] at h
    obtain ⟨items, hitems, hfeed⟩ := Option.bind_eq_some_iff.mp h
    cases hfeed
    exact S.perm hitems
  constructor
  · intro c hc hadmin
    refine hperm.mem_iff.mpr (List.mem_append_left _ (List.mem_map.mpr ⟨c, ?_, rfl⟩))
    simpa using ⟨hc, hadmin⟩
  · intro a ha
    rcases List.mem_append.mp (hperm.subset ha) with hadmin | hsystem
    · obtain ⟨c, hc, rfl⟩ := List.mem_map.mp hadmin
      exact Or.inl ⟨c, List.mem_of_mem_filter hc, rfl⟩
    · obtain ⟨item, hitem, heq⟩ := mem_select hsystem
      rcases List.mem_append.mp hitem with hitem | hitem
      · obtain ⟨c, hc, rfl⟩ := List.mem_map.mp hitem
        exact Or.inl ⟨c, List.mem_of_mem_filter hc, heq⟩
      · obtain ⟨t, ht, rfl⟩ := List.mem_map.mp hitem
        obtain ⟨ht, hsuppressed⟩ := List.mem_filter.mp ht
        exact Or.inr ⟨t, ht, by simpa using hsuppressed, heq⟩

/-! ## The selection -/

section Signals

variable (ctx : PersonalizationContext) (items : List FeedItem)

/-- Each item is selected if and only if it is wanted, in the group of its sub-subject, and
the ranks of the catalog are in the order of the sub-subjects. -/
structure SelectsWanted : Prop where
  selected : ∀ item ∈ items,
    (annotate ctx items item).candidateSelection.selected ↔ Wanted ctx.internal item
  group : ∀ item ∈ items, Wanted ctx.internal item → ∀ ssId ∈ item.subSubjectId,
    (annotate ctx items item).candidateSelection.group = wantedGroup ctx.internal ssId
  rank : ∀ a ∈ items, ∀ b ∈ items, Wanted ctx.internal a → Wanted ctx.internal b →
    ∀ s ∈ a.subSubjectId, ∀ t ∈ b.subSubjectId,
      wantedGroup ctx.internal s = 1 → wantedGroup ctx.internal t = 1 →
        compare (annotate ctx items a).candidateSelection.rank
          (annotate ctx items b).candidateSelection.rank = compare s t

/-- The summary counts the items that are selected and the others, and lists each selected
sub-subject once, in the order of the places. -/
structure Summarizes (selected : List FeedItem) (summary : PersonalizationSummary) : Prop where
  counts : ∃ n k, summary.selectedSystemCandidateCount = some n ∧
    summary.filteredOutSystemCandidateCount = some k ∧ n = selected.length ∧ n + k = items.length
  matched : ∃ ids, summary.matchedSubSubjectIds = some ids ∧ ids.Nodup ∧
    (∀ ssId, ssId ∈ ids ↔ ∃ a ∈ selected, a.subSubjectId = some ssId) ∧
    ids.Pairwise fun s t => ∀ a ∈ selected, ∀ b ∈ selected,
      a.subSubjectId = some s → b.subSubjectId = some t → PlacedBefore a b

end Signals

theorem selectsWanted (ctx : PersonalizationContext) (items : List FeedItem) :
    SelectsWanted ctx items where
  selected item hitem := by
    rcases annotate_spec hitem with ⟨hnot, hselected⟩ | ⟨hwanted, hselected, -⟩
    · exact ⟨fun h => absurd (hselected.symm.trans h) (by decide), fun h => absurd h hnot⟩
    · exact ⟨fun _ => hwanted, fun _ => hselected⟩
  group item hitem hwanted ssId hssId := by
    rcases annotate_spec hitem with ⟨hnot, -⟩ | ⟨-, -, s, hs, hgroup, -⟩
    · exact absurd hwanted hnot
    · rw [hgroup, Option.some.inj (hs.symm.trans hssId)]
  rank a ha b hb hwa hwb s hs t ht hgs hgt := by
    rcases annotate_spec ha with ⟨hnot, -⟩ | ⟨-, -, s', hs', -, hra⟩
    · exact absurd hwa hnot
    rcases annotate_spec hb with ⟨hnot, -⟩ | ⟨-, -, t', ht', -, hrb⟩
    · exact absurd hwb hnot
    have hss : s' = s := Option.some.inj (hs'.symm.trans hs)
    have htt : t' = t := Option.some.inj (ht'.symm.trans ht)
    subst hss htt
    rw [Placed, hgs] at hra
    rw [Placed, hgt] at hrb
    exact compare_catalog hra hrb

theorem summarizes (C : Chrono) {ctx : PersonalizationContext} {items : List FeedItem}
    (h : selectedItems ctx items ≠ []) :
    Summarizes items (selectedItems ctx items)
      (buildPersonalizationSummary C (items.map (annotate ctx items)) (selectedItems ctx items)
        ctx) where
  counts := by
    refine ⟨_, _, rfl, rfl, rfl, ?_⟩
    have hle : (selectedItems ctx items).length ≤ (items.map (annotate ctx items)).length :=
      List.length_filter_le _ _
    rw [List.length_map] at hle ⊢
    omega
  matched := by
    have hpairwise := pairwise_matchedIds C ctx items
    refine ⟨matchedIds C (selectedItems ctx items), ?_, hpairwise.imp fun h => h.1,
      fun ssId => mem_matchedIds, hpairwise.imp fun h => h.2⟩
    simp [buildPersonalizationSummary, h, matchedIds]

theorem select_of_signals {input : AggregationInput} {ctx : PersonalizationContext}
    {items : List FeedItem} (hctx : input.personalizationContext = some ctx)
    (hsignals : ctx.internal.signalsAvailable) :
    selectSystemGeneratedCandidates C items input =
      if selectedItems ctx items = [] then (items, emptyPersonalizationSummary)
      else (selectedItems ctx items, buildPersonalizationSummary C
        (items.map (annotate ctx items)) (selectedItems ctx items) ctx) := by
  cases items with
  | nil => rfl
  | cons item items =>
    simp [selectSystemGeneratedCandidates, hctx, hsignals, selectedItems]

theorem selectedItems_eq_nil_iff {ctx : PersonalizationContext} {items : List FeedItem} :
    selectedItems ctx items = [] ↔ ∀ item ∈ items, ¬ Wanted ctx.internal item := by
  rw [selectedItems, List.filter_eq_nil_iff]
  simp only [List.forall_mem_map]
  exact forall₂_congr fun item hitem => not_congr ((selectsWanted ctx items).selected item hitem)

/-- Four topics: of the primary subject with and without activity, of another subject with
activity, and of a third one. -/
def signalsInput : AggregationInput where
  topicItems :=
    [{ id := "a", title := "A", subSubjectId := some 30, subjectId := some 1 },
     { id := "b", title := "B", subSubjectId := some 20, subjectId := some 2 },
     { id := "c", title := "C", subSubjectId := some 10, subjectId := some 1 },
     { id := "d", title := "D", subSubjectId := some 40, subjectId := some 3 }]
  suppressedSourceKeys := ["system_topic:d"]
  personalizationContext := some <| resolve
    { userId := some 7
      primarySubject := some { id := 1 }
      authoredTopicActivity := [⟨10, 1⟩, ⟨20, 2⟩] }

end KlassGateway.Recommendation
