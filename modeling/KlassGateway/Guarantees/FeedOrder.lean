import KlassGateway.Recommendation.Aggregation
/-!
# When the feed has an order

* `feed_ordered_iff`: the comparator of the feed orders the items, and the order in which
  they are supplied does not matter, unless an admin item is displayed between two system
  items that the selection puts the other way round.
* `feed_crossed`: an input with such an admin item.
-/

namespace KlassGateway.Recommendation

open Lib

variable {C : Chrono}

/-! ## The comparator -/

/-- A system item, whatever its source type is. -/
def IsSystemItem (item : FeedItem) : Prop := item.sourceType ≠ sourceAdminUpload

instance : DecidablePred IsSystemItem := fun item =>
  inferInstanceAs (Decidable (item.sourceType ≠ sourceAdminUpload))

theorem compareItems_eq_layered (C : Chrono) :
    compareItems C = layered IsSystemItem (compareSelection C) (compareDisplay C) := rfl

theorem id_eq_of_compareDisplay {a b : FeedItem} (h : compareDisplay C a b = .eq) :
    a.id = b.id := by
  simp only [compareDisplay, Ordering.then_eq_eq, Std.LawfulEqCmp.compare_eq_iff_eq] at h
  exact h.2.2.2

/-- Only items with one id tie. -/
theorem id_eq_of_compareItems {a b : FeedItem} (h : compareItems C a b = .eq) : a.id = b.id := by
  rw [compareItems_eq_layered, layered] at h
  split_ifs at h with hs
  · exact absurd h hs.2.2
  · exact id_eq_of_compareDisplay h

/-! ## Supplying the items in another order -/

theorem selectSystemGeneratedCandidates_perm {items items' : List FeedItem}
    (h : items'.Perm items) {input input' : AggregationInput}
    (hctx : input'.personalizationContext = input.personalizationContext) :
    (selectSystemGeneratedCandidates C items' input').1.Perm
      (selectSystemGeneratedCandidates C items input).1 := by
  simp only [selectSystemGeneratedCandidates, hctx, h.isEmpty_eq]
  split_ifs with hempty
  · exact h
  · cases input.personalizationContext with
    | none => exact h
    | some ctx =>
      have hselected := ((h.map (annotate ctx items)).filter
        fun item => item.candidateSelection.selected)
      simp only [annotate_perm ctx h, hselected.isEmpty_eq]
      split_ifs
      · exact h
      · exact hselected
      · exact h

/-- The input with its curated items and topics in another order. -/
theorem allItems_perm {input : AggregationInput} {curated : List CuratedItemInput}
    {topics : List TopicItemInput} (hcurated : curated.Perm input.curatedItems)
    (htopics : topics.Perm input.topicItems) :
    (allItems C { input with curatedItems := curated, topicItems := topics }).Perm
      (allItems C input) := by
  have hadmin := (hcurated.filter (·.sourceType = sourceAdminUpload)).map normalizeCuratedItem
  have hsystem : (systemItems { input with curatedItems := curated, topicItems := topics }).Perm
      (systemItems input) :=
    ((hcurated.filter _).map _).append ((htopics.filter _).map _)
  exact hadmin.append (selectSystemGeneratedCandidates_perm hsystem rfl)

/-! ## The order -/

/-- The comparator orders the items, and only items with one id tie. -/
structure OrdersItems (C : Chrono) (items : List FeedItem) : Prop where
  order : TotalPreorderOn (compareItems C) items
  ties : ∀ a ∈ items, ∀ b ∈ items, compareItems C a b = .eq → a.id = b.id

/-- The feed is there, in one order, however the curated items and the topics are
supplied. -/
def OrderIndependent (C : Chrono) (input : AggregationInput) : Prop :=
  ∀ (S S' : SliceSort) (curated : List CuratedItemInput) (topics : List TopicItemInput),
    curated.Perm input.curatedItems → topics.Perm input.topicItems →
      ∃ feed feed', buildFeedSnapshot C S input = some feed ∧
        buildFeedSnapshot C S' { input with curatedItems := curated, topicItems := topics } =
          some feed' ∧
        SortedBy (compareItems C) feed.items ∧ feed.items.Perm (allItems C input) ∧
        feed'.items.map (·.id) = feed.items.map (·.id) ∧
        ((feed.items.map (·.id)).Nodup → feed'.items = feed.items)

theorem ordersItems_iff {items : List FeedItem} :
    OrdersItems C items ↔ Uncrossed IsSystemItem (compareSelection C) (compareDisplay C) items := by
  rw [← totalPreorderOn_layered_iff, ← compareItems_eq_layered]
  exact ⟨fun h => h.order, fun h => ⟨h, fun _ _ _ _ => id_eq_of_compareItems⟩⟩

theorem orderIndependent_of_ordersItems {input : AggregationInput}
    (h : OrdersItems C (allItems C input)) : OrderIndependent C input := by
  intro S S' curated topics hcurated htopics
  have hperm := allItems_perm (C := C) hcurated htopics
  have h' : TotalPreorderOn (compareItems C)
      (allItems C { input with curatedItems := curated, topicItems := topics }) :=
    h.order.mono fun a ha => hperm.subset ha
  refine ⟨_, _, by rw [buildFeedSnapshot, S.stable h.order]; rfl,
    by rw [buildFeedSnapshot, S'.stable h']; rfl, sortedBy_sortBy h.order, sortBy_perm _ _, ?_, ?_⟩
  · exact map_eq_of_sortedBy h.order (sortedBy_sortBy h') (sortedBy_sortBy h.order)
      ((sortBy_perm _ _).trans hperm) (sortBy_perm _ _) h.ties
  · intro hnodup
    have heq : ∀ a ∈ allItems C input, ∀ b ∈ allItems C input,
        compareItems C a b = .eq → a = b := by
      intro a ha b hb hab
      exact List.inj_on_of_nodup_map hnodup (mem_sortBy.mpr ha) (mem_sortBy.mpr hb)
        (h.ties a ha b hb hab)
    simpa using map_eq_of_sortedBy (f := fun item => item) h.order (sortedBy_sortBy h')
      (sortedBy_sortBy h.order) ((sortBy_perm _ _).trans hperm) (sortBy_perm _ _) heq

/-- The comparator orders a list of items exactly when no admin item is displayed between
two system items that the selection puts the other way round; then, and only then, the feed
has one order however its items are supplied. -/
theorem feed_ordered_iff (C : Chrono) :
    (∀ items, OrdersItems C items ↔
      Uncrossed IsSystemItem (compareSelection C) (compareDisplay C) items) ∧
    ∀ input, (OrdersItems C (allItems C input) ∧ OrderIndependent C input) ↔
      Uncrossed IsSystemItem (compareSelection C) (compareDisplay C) (allItems C input) := by
  refine ⟨fun items => ordersItems_iff, fun input => ?_⟩
  rw [← ordersItems_iff]
  exact ⟨fun h => h.1, fun h => ⟨h, orderIndependent_of_ordersItems h⟩⟩

/-- Two system items of which the selection puts the first before the second, and an admin
item whose priority lies between theirs. -/
def crossedInput : AggregationInput where
  curatedItems :=
    [{ id := "1", title := "Admin", sourceType := sourceAdminUpload, sourcePayload := .obj []
       displayPriority := 5 },
     { id := "2", title := "Preferred", sourceType := sourceAiGenerated
       sourcePayload := .obj [("sub_subject_id", (10 : Int)), ("subject_id", (1 : Int))]
       displayPriority := 0 },
     { id := "3", title := "Secondary", sourceType := sourceAiGenerated
       sourcePayload := .obj [("sub_subject_id", (20 : Int)), ("subject_id", (2 : Int))]
       displayPriority := 10 }]
  personalizationContext := some <| authenticatedContext
    { userId := some 7
      primarySubject := some { id := 1 }
      authoredTopicActivity := [⟨10, 1⟩, ⟨20, 2⟩] }

/-- The comparator does not order the items of that feed. -/
theorem feed_crossed : ¬ OrdersItems dateless (allItems dateless crossedInput) := by
  have hlen : (allItems dateless crossedInput).length = 3 := rfl
  intro h
  have htrans := h.order.trans ((allItems dateless crossedInput)[2]) (by simp)
    ((allItems dateless crossedInput)[0]) (by simp) ((allItems dateless crossedInput)[1]) (by simp)
    rfl rfl
  cases htrans

end KlassGateway.Recommendation
