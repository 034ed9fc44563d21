import KlassGateway.Lib.Firsts
import KlassGateway.Recommendation.Assignments
/-!
# What the homepage tracks and what it serves

* `trackLoop_eq`: `track_served` upserts the first item of each key, up to the first failure.
* `tracking_exact`: what a request tracks is what its response shows exactly when nothing that
  is tracked lies past the limit and no upsert of a shown item fails; in a run of such requests
  the distribution summary counts only users that were shown the item.
-/

namespace KlassGateway.Recommendation

open Lib

/-! ## Keys -/

/-- A source type that is tracked. -/
def IsTracked (sourceType : String) : Prop := sourceType ∈ defaultTrackableSourceTypes

instance : DecidablePred IsTracked := fun _ => inferInstanceAs (Decidable (_ ∈ _))

theorem not_colon_mem {sourceType : String} (h : IsTracked sourceType) :
    ':' ∉ sourceType.toList := by
  rcases List.mem_cons.1 h with rfl | h
  · decide
  · obtain rfl := List.mem_singleton.1 h
    decide

/-- Distinct pairs have distinct keys. -/
theorem makeRecommendationKey_inj {t t' r r' : String} (ht : IsTracked t) (ht' : IsTracked t')
    (h : makeRecommendationKey t r = makeRecommendationKey t' r') : t = t' ∧ r = r' := by
  have hlists : t.toList ++ ':' :: r.toList = t'.toList ++ ':' :: r'.toList := by
    have htext := congrArg String.toList h
    simp only [makeRecommendationKey, String.toList_append] at htext
    simpa using htext
  obtain ⟨hfirst, hsecond⟩ := Text.append_cons_inj (not_colon_mem ht) (not_colon_mem ht') hlists
  exact ⟨String.toList_inj.1 hfirst, String.toList_inj.1 hsecond⟩

theorem makeRecommendationKey_eq {item item' : TrackableFeedItem}
    (htype : item.sourceType = item'.sourceType)
    (href : resolveSourceReference item = resolveSourceReference item') :
    item.recommendationKey = item'.recommendationKey := by
  unfold TrackableFeedItem.recommendationKey
  rw [htype, href]

/-! ## The loop -/

section Loop

variable (userId : Int) (trackable : List String) (moment : DateTime) (accepts : String → Bool)

/-- The items that `track_served` upserts when nothing fails. -/
def freshItems (seenKeys : List String) (items : List TrackableFeedItem) : List TrackableFeedItem :=
  firsts TrackableFeedItem.recommendationKey seenKeys
    (items.filter fun item => item.sourceType ∈ trackable)

/-- The items that it upserts before a failure. -/
def acceptedItems (seenKeys : List String) (items : List TrackableFeedItem) :
    List TrackableFeedItem :=
  (freshItems trackable seenKeys items).takeWhile fun item => accepts item.recommendationKey

/-- The loop of `track_served` upserts the first item of each key, up to the first failure. -/
theorem trackLoop_eq (items : List TrackableFeedItem) (seenKeys : List String)
    (table : AssignmentTable) :
    (trackLoop userId trackable moment accepts items seenKeys table).written =
        (acceptedItems trackable accepts seenKeys items).map (assignmentRow userId moment) ∧
      (trackLoop userId trackable moment accepts items seenKeys table).table =
        ((acceptedItems trackable accepts seenKeys items).map (assignmentRow userId moment)).foldl
          AssignmentTable.upsert table := by
  induction items generalizing seenKeys table with
  | nil => exact ⟨rfl, rfl⟩
  | cons item items ih =>
    unfold trackLoop
    by_cases htype : item.sourceType ∈ trackable
    · have hfilter : (item :: items).filter (fun i => i.sourceType ∈ trackable) =
          item :: items.filter fun i => i.sourceType ∈ trackable :=
        List.filter_cons_of_pos (decide_eq_true htype)
      rw [if_neg (not_not.2 htype)]
      by_cases hseen : item.recommendationKey ∈ seenKeys
      · have hfresh : acceptedItems trackable accepts seenKeys (item :: items) =
            acceptedItems trackable accepts seenKeys items := by
          unfold acceptedItems freshItems
          rw [hfilter, firsts_cons_of_mem hseen]
        rw [if_pos hseen, hfresh]
        exact ih seenKeys table
      · by_cases haccept : accepts item.recommendationKey = true
        · have hfresh : acceptedItems trackable accepts seenKeys (item :: items) =
              item :: acceptedItems trackable accepts (item.recommendationKey :: seenKeys) items := by
            unfold acceptedItems freshItems
            rw [hfilter, firsts_cons_of_not_mem hseen]
            exact List.takeWhile_cons_of_pos haccept
          obtain ⟨hwritten, htable⟩ := ih (item.recommendationKey :: seenKeys)
            (table.upsert (assignmentRow userId moment item))
          rw [if_neg hseen, if_pos haccept, hfresh, List.map_cons, List.foldl_cons]
          exact ⟨congrArg _ hwritten, htable⟩
        · have hfresh : acceptedItems trackable accepts seenKeys (item :: items) = [] := by
            unfold acceptedItems freshItems
            rw [hfilter, firsts_cons_of_not_mem hseen]
            exact List.takeWhile_cons_of_neg haccept
          rw [if_neg hseen, if_neg haccept, hfresh]
          exact ⟨rfl, rfl⟩
    · have hfresh : acceptedItems trackable accepts seenKeys (item :: items) =
          acceptedItems trackable accepts seenKeys items := by
        unfold acceptedItems freshItems
        rw [List.filter_cons_of_neg (by simpa using htype)]
      rw [if_pos htype, hfresh]
      exact ih seenKeys table

end Loop

theorem rows_foldl_upsert (news : List SystemRecommendationAssignment) (table : AssignmentTable) :
    (news.foldl AssignmentTable.upsert table).rows =
      Table.upsertAll SystemRecommendationAssignment.key mergeAssignment news table.rows := by
  induction news generalizing table with
  | nil => rfl
  | cons new news ih => exact ih _

/-! ## What a request touches and shows -/

/-- The pair that an item of the response is recorded under. -/
def RecommendedProjectResource.reference (r : RecommendedProjectResource) : String :=
  resolveSourceReference
    { id := r.id
      sourceType := r.sourceType
      sourceReference := r.sourceReference
      sourcePayloadTopicId := none
      sourcePayloadSourceReference := none
      subjectId := r.subjectId
      subSubjectId := r.subSubjectId }

/-- The data has a system or AI item with the pair. -/
def Shows (data : List RecommendedProjectResource) (sourceType sourceReference : String) : Prop :=
  ∃ r ∈ data, IsTracked r.sourceType ∧ r.sourceType = sourceType ∧ r.reference = sourceReference

/-- A row that one of the upserts went to. -/
def Tracking.Touches (tracking : Tracking) (row : SystemRecommendationAssignment) : Prop :=
  row ∈ tracking.table.rows ∧ row.key ∈ tracking.written.map SystemRecommendationAssignment.key

namespace HomepageRequest

/-- The tracked items within the limit. -/
def shown (req : HomepageRequest) : List TrackableFeedItem :=
  ((req.items.take req.applied).map trackableFeedItem).filter fun item => IsTracked item.sourceType

/-- The tracked items past the limit. -/
def beyond (req : HomepageRequest) : List TrackableFeedItem :=
  ((req.items.drop req.applied).map trackableFeedItem).filter fun item => IsTracked item.sourceType

/-- The upserts of the shown items succeed, and nothing else is tracked: past the limit there
is no tracked item with another key, or the upsert of the first one fails. -/
structure Complete (req : HomepageRequest) : Prop where
  accepted : ∀ item ∈ req.shown, req.accepts item.recommendationKey = true
  stopped : ∀ item, (req.beyond.find? fun i =>
    i.recommendationKey ∉ req.shown.map TrackableFeedItem.recommendationKey) = some item →
      req.accepts item.recommendationKey = false

/-- The rows of the user that a request touches are those of the system and AI items of its
response, one for each pair, and they keep the time of the first distribution; all other rows
stay. -/
structure TracksServed (req : HomepageRequest) (userId : Int) (table : AssignmentTable) : Prop where
  exact : ∀ sourceType sourceReference,
    (∃ row, (req.track table).Touches row ∧ row.sourceType = sourceType ∧
      row.sourceReference = sourceReference) ↔ Shows req.data sourceType sourceReference
  stamped : ∀ row, (req.track table).Touches row →
    row.userId = userId ∧ row.lastDistributedAt = req.moment
  one : ∀ row row', (req.track table).Touches row → (req.track table).Touches row' →
    row.sourceType = row'.sourceType → row.sourceReference = row'.sourceReference → row = row'
  keys : ∀ row row', (req.track table).Touches row → (req.track table).Touches row' →
    row.recommendationKey = row'.recommendationKey →
      row.sourceType = row'.sourceType ∧ row.sourceReference = row'.sourceReference
  first : ∀ row, (req.track table).Touches row → ∀ old ∈ table.rows, old.key = row.key →
    row.firstDistributedAt = old.firstDistributedAt
  rest : ∀ row, row.key ∉ (req.track table).written.map SystemRecommendationAssignment.key →
    (row ∈ (req.track table).table.rows ↔ row ∈ table.rows)

end HomepageRequest

/-! ## One request -/

section Accepted

variable {req : HomepageRequest} {userId : Int} {table : AssignmentTable}

namespace HomepageRequest

/-- The items that the request upserts. -/
def accepted (req : HomepageRequest) : List TrackableFeedItem :=
  acceptedItems defaultTrackableSourceTypes req.accepts [] (req.items.map trackableFeedItem)

theorem track_eq (table : AssignmentTable) (huser : req.principal = some userId)
    (henabled : req.sectionEnabled = true) :
    (req.track table).written = req.accepted.map (assignmentRow userId req.moment) ∧
      (req.track table).table.rows =
        Table.upsertAll SystemRecommendationAssignment.key mergeAssignment
          (req.accepted.map (assignmentRow userId req.moment)) table.rows := by
  unfold track
  rw [huser, henabled]
  obtain ⟨hwritten, htable⟩ := trackLoop_eq userId defaultTrackableSourceTypes req.moment
    req.accepts (req.items.map trackableFeedItem) [] table
  exact ⟨hwritten, (congrArg AssignmentTable.rows htable).trans (rows_foldl_upsert _ _)⟩

theorem isTracked_of_mem_accepted {item : TrackableFeedItem} (h : item ∈ req.accepted) :
    IsTracked item.sourceType := by
  have hfresh := mem_of_mem_firsts ((List.takeWhile_prefix _).subset h)
  exact of_decide_eq_true (List.mem_filter.1 hfresh).2

theorem nodup_accepted (req : HomepageRequest) :
    (req.accepted.map TrackableFeedItem.recommendationKey).Nodup :=
  (nodup_map_firsts _ _ _).sublist ((List.takeWhile_prefix _).sublist.map _)

/-- Accepted items with one key are one. -/
theorem eq_of_mem_accepted {item item' : TrackableFeedItem} (h : item ∈ req.accepted)
    (h' : item' ∈ req.accepted) (hkey : item.recommendationKey = item'.recommendationKey) :
    item = item' :=
  List.inj_on_of_nodup_map req.nodup_accepted h h' hkey

theorem map_key_assignmentRow (items : List TrackableFeedItem) (moment : DateTime) :
    (items.map (assignmentRow userId moment)).map SystemRecommendationAssignment.key =
      (items.map TrackableFeedItem.recommendationKey).map (Prod.mk userId) := by
  rw [List.map_map, List.map_map]
  rfl

theorem nodup_written (req : HomepageRequest) (userId : Int) :
    ((req.accepted.map (assignmentRow userId req.moment)).map
      SystemRecommendationAssignment.key).Nodup := by
  rw [map_key_assignmentRow]
  exact req.nodup_accepted.map fun a b h => congrArg Prod.snd h

/-- A touched row is the record of an accepted item. -/
theorem exists_of_touches (huser : req.principal = some userId)
    (henabled : req.sectionEnabled = true) {row : SystemRecommendationAssignment}
    (h : (req.track table).Touches row) :
    ∃ item ∈ req.accepted, row.key = (userId, item.recommendationKey) ∧
      row.sourceType = item.sourceType ∧ row.sourceReference = resolveSourceReference item ∧
      row.lastDistributedAt = req.moment ∧
      ∀ old ∈ table.rows, old.key = row.key → row.firstDistributedAt = old.firstDistributedAt := by
  obtain ⟨hwritten, hrows⟩ := track_eq table huser henabled
  obtain ⟨hrow, hkey⟩ := h
  rw [hwritten] at hkey
  rw [hrows] at hrow
  rcases Table.mem_upsertAll mergeAssignment_key (req.nodup_written userId) hrow with
    ⟨-, hnot⟩ | ⟨new, hnew, hcases⟩
  · exact absurd hkey hnot
  · obtain ⟨item, hitem, rfl⟩ := List.mem_map.1 hnew
    rcases hcases with ⟨rfl, habsent⟩ | ⟨old, hold, holdkey, rfl⟩
    · refine ⟨item, hitem, rfl, rfl, rfl, rfl, fun old hold holdkey => ?_⟩
      exact absurd (holdkey ▸ List.mem_map_of_mem hold) habsent
    · refine ⟨item, hitem, holdkey, rfl, rfl, rfl, fun other hother hokey => ?_⟩
      have hsame : other = old := List.inj_on_of_nodup_map table.unique hother hold hokey
      rw [hsame]
      rfl

/-- Every accepted item has touched a row. -/
theorem exists_touches (table : AssignmentTable) (huser : req.principal = some userId)
    (henabled : req.sectionEnabled = true) {item : TrackableFeedItem} (h : item ∈ req.accepted) :
    ∃ row, (req.track table).Touches row ∧ row.key = (userId, item.recommendationKey) := by
  obtain ⟨hwritten, hrows⟩ := track_eq table huser henabled
  have hkey : (userId, item.recommendationKey) ∈
      (req.accepted.map (assignmentRow userId req.moment)).map SystemRecommendationAssignment.key :=
    List.mem_map.2 ⟨_, List.mem_map_of_mem h, rfl⟩
  have hin : (userId, item.recommendationKey) ∈
      (req.track table).table.rows.map SystemRecommendationAssignment.key := by
    rw [hrows]
    exact (Table.mem_map_key_upsertAll mergeAssignment_key).2 (Or.inr hkey)
  obtain ⟨row, hrow, hrowkey⟩ := List.mem_map.1 hin
  refine ⟨row, ⟨hrow, ?_⟩, hrowkey⟩
  rw [hwritten, hrowkey]
  exact hkey

/-- The touched pairs are those of the accepted items. -/
theorem touches_pair_iff (huser : req.principal = some userId)
    (henabled : req.sectionEnabled = true) {sourceType sourceReference : String} :
    (∃ row, (req.track table).Touches row ∧ row.sourceType = sourceType ∧
        row.sourceReference = sourceReference) ↔
      ∃ item ∈ req.accepted, item.sourceType = sourceType ∧
        resolveSourceReference item = sourceReference := by
  constructor
  · rintro ⟨row, htouches, rfl, rfl⟩
    obtain ⟨item, hitem, -, htype, href, -⟩ := exists_of_touches huser henabled htouches
    exact ⟨item, hitem, htype.symm, href.symm⟩
  · rintro ⟨item, hitem, rfl, rfl⟩
    obtain ⟨row, htouches, hkey⟩ := exists_touches table huser henabled hitem
    obtain ⟨item', hitem', hkey', htype, href, -⟩ := exists_of_touches huser henabled htouches
    have hsame : item' = item :=
      eq_of_mem_accepted hitem' hitem (congrArg Prod.snd (hkey'.symm.trans hkey))
    rw [hsame] at htype href
    exact ⟨row, htouches, htype, href⟩

/-- The response shows the pairs of the tracked items within the limit. -/
theorem shows_data_iff (henabled : req.sectionEnabled = true) {sourceType sourceReference : String} :
    Shows req.data sourceType sourceReference ↔ ∃ item ∈ req.shown, item.sourceType = sourceType ∧
      resolveSourceReference item = sourceReference := by
  unfold data
  rw [if_pos henabled]
  constructor
  · rintro ⟨r, hr, htracked, htype, href⟩
    obtain ⟨item, hitem, rfl⟩ := List.mem_map.1 hr
    exact ⟨trackableFeedItem item,
      List.mem_filter.2 ⟨List.mem_map_of_mem hitem, decide_eq_true htracked⟩, htype, href⟩
  · rintro ⟨tracked, hmem, htype, href⟩
    obtain ⟨hmap, htracked⟩ := List.mem_filter.1 hmem
    obtain ⟨item, hitem, rfl⟩ := List.mem_map.1 hmap
    exact ⟨mapFeedItemToResource item, List.mem_map_of_mem hitem, of_decide_eq_true htracked, htype,
      href⟩

/-- The accepted items have the keys of the shown ones exactly for a complete request. -/
theorem complete_iff_keys (req : HomepageRequest) :
    req.Complete ↔ ∀ key, key ∈ req.accepted.map TrackableFeedItem.recommendationKey ↔
      key ∈ req.shown.map TrackableFeedItem.recommendationKey := by
  have hsplit : (req.items.map trackableFeedItem).filter
      (fun item => item.sourceType ∈ defaultTrackableSourceTypes) = req.shown ++ req.beyond := by
    unfold shown beyond
    rw [← List.filter_append, ← List.map_append, List.take_append_drop]
    rfl
  have hfresh : req.accepted = (firsts TrackableFeedItem.recommendationKey [] req.shown ++
      firsts TrackableFeedItem.recommendationKey
        (req.shown.map TrackableFeedItem.recommendationKey) req.beyond).takeWhile
          fun item => req.accepts item.recommendationKey := by
    unfold accepted acceptedItems freshItems
    rw [hsplit, firsts_append, List.append_nil]
  have hnd := nodup_map_firsts TrackableFeedItem.recommendationKey [] (req.shown ++ req.beyond)
  rw [firsts_append, List.append_nil] at hnd
  have hkeys : ∀ key, key ∈ (firsts TrackableFeedItem.recommendationKey [] req.shown).map
      TrackableFeedItem.recommendationKey ↔
        key ∈ req.shown.map TrackableFeedItem.recommendationKey := by
    intro key
    rw [mem_map_firsts]
    exact and_iff_left List.not_mem_nil
  have hall : (∀ item ∈ firsts TrackableFeedItem.recommendationKey [] req.shown,
      req.accepts item.recommendationKey = true) ↔
        ∀ item ∈ req.shown, req.accepts item.recommendationKey = true := by
    constructor
    · intro h item hitem
      obtain ⟨first, hfirst, hkey⟩ := List.mem_map.1 ((hkeys _).2 (List.mem_map_of_mem hitem))
      rw [← hkey]
      exact h first hfirst
    · intro h item hitem
      exact h item (mem_of_mem_firsts hitem)
  have hiff := map_takeWhile_iff (p := fun item => req.accepts item.recommendationKey) hnd
  simp only [← hfresh, hkeys, head?_firsts, hall] at hiff
  rw [hiff]
  exact ⟨fun h => ⟨h.accepted, h.stopped⟩, fun h => ⟨h.1, h.2⟩⟩

/-- With the section disabled nothing is tracked and nothing is shown. -/
theorem tracksServed_of_disabled (henabled : req.sectionEnabled = false) :
    req.TracksServed userId table := by
  have hnothing : req.track table = { table, written := [], failed := false } := by
    unfold track
    rw [henabled]
  have hdata : req.data = [] := by
    unfold data
    rw [henabled]
    rfl
  have huntouched : ∀ row, ¬ (req.track table).Touches row := by
    intro row h
    rw [hnothing] at h
    exact absurd h.2 List.not_mem_nil
  refine ⟨fun sourceType ref => iff_of_false ?_ ?_, fun row h => absurd h (huntouched row),
    fun row _ h => absurd h (huntouched row), fun row _ h => absurd h (huntouched row),
    fun row h => absurd h (huntouched row), fun row _ => by rw [hnothing]⟩
  · rintro ⟨row, h, -⟩
    exact huntouched row h
  · rintro ⟨r, hr, -⟩
    rw [hdata] at hr
    exact absurd hr List.not_mem_nil

/-- The rows under keys that were not written stay. -/
theorem mem_track_of_not_written (huser : req.principal = some userId)
    (henabled : req.sectionEnabled = true) {row : SystemRecommendationAssignment}
    (hnot : row.key ∉ (req.track table).written.map SystemRecommendationAssignment.key) :
    row ∈ (req.track table).table.rows ↔ row ∈ table.rows := by
  obtain ⟨hwritten, hrows⟩ := track_eq table huser henabled
  rw [hwritten] at hnot
  rw [hrows]
  constructor
  · intro hrow
    rcases Table.mem_upsertAll mergeAssignment_key (req.nodup_written userId) hrow with
      ⟨hold, -⟩ | ⟨new, hnew, hcases⟩
    · exact hold
    · have hkey : row.key = new.key := by
        rcases hcases with ⟨rfl, -⟩ | ⟨old, -, holdkey, rfl⟩
        · rfl
        · exact holdkey
      exact absurd (hkey ▸ List.mem_map_of_mem hnew) hnot
  · intro hrow
    exact Table.mem_upsertAll_of_not_mem hrow hnot

/-- Keys of accepted items and of shown ones are those of the same pairs. -/
theorem pair_of_key {item item' : TrackableFeedItem} (h : item ∈ req.accepted)
    (h' : item' ∈ req.shown) (hkey : item.recommendationKey = item'.recommendationKey) :
    item.sourceType = item'.sourceType ∧
      resolveSourceReference item = resolveSourceReference item' :=
  makeRecommendationKey_inj (isTracked_of_mem_accepted h)
    (of_decide_eq_true (List.mem_filter.1 h').2) hkey

/-- The touched pairs are the shown ones exactly when the accepted keys are. -/
theorem touches_iff_shows_iff_keys (table : AssignmentTable)
    (huser : req.principal = some userId) (henabled : req.sectionEnabled = true) :
    (∀ sourceType sourceReference,
      (∃ row, (req.track table).Touches row ∧ row.sourceType = sourceType ∧
        row.sourceReference = sourceReference) ↔ Shows req.data sourceType sourceReference) ↔
      ∀ key, key ∈ req.accepted.map TrackableFeedItem.recommendationKey ↔
        key ∈ req.shown.map TrackableFeedItem.recommendationKey := by
  simp only [touches_pair_iff huser henabled, shows_data_iff henabled]
  constructor
  · intro hpairs key
    constructor
    · intro hkey
      obtain ⟨item, hitem, rfl⟩ := List.mem_map.1 hkey
      obtain ⟨item', hitem', htype, href⟩ := (hpairs _ _).1 ⟨item, hitem, rfl, rfl⟩
      exact List.mem_map.2 ⟨item', hitem', makeRecommendationKey_eq htype href⟩
    · intro hkey
      obtain ⟨item, hitem, rfl⟩ := List.mem_map.1 hkey
      obtain ⟨item', hitem', htype, href⟩ := (hpairs _ _).2 ⟨item, hitem, rfl, rfl⟩
      exact List.mem_map.2 ⟨item', hitem', makeRecommendationKey_eq htype href⟩
  · intro hkeys sourceType ref
    constructor
    · rintro ⟨item, hitem, rfl, rfl⟩
      obtain ⟨item', hitem', hkey⟩ := List.mem_map.1 ((hkeys _).1 (List.mem_map_of_mem hitem))
      obtain ⟨htype, href⟩ := pair_of_key hitem hitem' hkey.symm
      exact ⟨item', hitem', htype.symm, href.symm⟩
    · rintro ⟨item, hitem, rfl, rfl⟩
      obtain ⟨item', hitem', hkey⟩ := List.mem_map.1 ((hkeys _).2 (List.mem_map_of_mem hitem))
      exact ⟨item', hitem', pair_of_key hitem' hitem hkey⟩

/-- A request tracks what it serves exactly when it is complete. -/
theorem tracksServed_iff (table : AssignmentTable) (huser : req.principal = some userId) :
    req.TracksServed userId table ↔ (req.sectionEnabled = true → req.Complete) := by
  cases henabled : req.sectionEnabled with
  | false => exact iff_of_true (tracksServed_of_disabled henabled) fun h => by cases h
  | true =>
    have hexact := touches_iff_shows_iff_keys table huser henabled
    rw [← complete_iff_keys] at hexact
    constructor
    · intro h _
      exact hexact.1 h.exact
    · intro hcomplete
      refine ⟨hexact.2 (hcomplete rfl), fun row h => ?_, fun row row' h h' htype href => ?_,
        fun row row' h h' hkey => ?_, fun row h => ?_,
        fun row hnot => mem_track_of_not_written huser henabled hnot⟩
      · obtain ⟨item, -, hkey, -, -, hlast, -⟩ := exists_of_touches huser henabled h
        exact ⟨congrArg Prod.fst hkey, hlast⟩
      · obtain ⟨item, hitem, hkey, htype₁, href₁, -⟩ := exists_of_touches huser henabled h
        obtain ⟨item', hitem', hkey', htype₂, href₂, -⟩ := exists_of_touches huser henabled h'
        have hsame : item.recommendationKey = item'.recommendationKey :=
          makeRecommendationKey_eq (htype₁.symm.trans (htype.trans htype₂))
            (href₁.symm.trans (href.trans href₂))
        refine List.inj_on_of_nodup_map (req.track table).table.unique h.1 h'.1 ?_
        rw [hkey, hkey', hsame]
      · obtain ⟨item, hitem, hkey₁, htype₁, href₁, -⟩ := exists_of_touches huser henabled h
        obtain ⟨item', hitem', hkey₂, htype₂, href₂, -⟩ := exists_of_touches huser henabled h'
        have hsame : item = item' := by
          refine eq_of_mem_accepted hitem hitem' ?_
          have hfirst : row.recommendationKey = item.recommendationKey := congrArg Prod.snd hkey₁
          have hsecond : row'.recommendationKey = item'.recommendationKey := congrArg Prod.snd hkey₂
          rw [← hfirst, ← hsecond, hkey]
        rw [htype₁, htype₂, href₁, href₂, hsame]
        exact ⟨rfl, rfl⟩
      · obtain ⟨item, -, -, -, -, -, hfirst⟩ := exists_of_touches huser henabled h
        exact hfirst

end HomepageRequest

end Accepted

/-! ## Runs -/

/-- The table after some requests, and what each of them showed to whom. -/
structure Served where
  table : AssignmentTable
  shown : List (Option Int × List RecommendedProjectResource)

/-- One more request. -/
def Served.serve (s : Served) (req : HomepageRequest) : Served where
  table := (req.track s.table).table
  shown := s.shown ++ [(req.principal, req.data)]

/-- The requests of a run, from an empty table on. -/
def Served.run (reqs : List HomepageRequest) : Served :=
  reqs.foldl serve { table := { rows := [], unique := List.nodup_nil }, shown := [] }

namespace Served

/-- Every row is about an item that its user was shown. -/
def Honest (s : Served) : Prop :=
  ∀ row ∈ s.table.rows, ∃ data, (some row.userId, data) ∈ s.shown ∧
    Shows data row.sourceType row.sourceReference

/-- A complete request only writes about what it shows. -/
theorem Honest.serve {s : Served} (h : s.Honest) {req : HomepageRequest}
    (hcomplete : req.sectionEnabled = true → req.Complete) : (s.serve req).Honest := by
  intro row hrow
  have hstay : row ∈ s.table.rows → ∃ data, (some row.userId, data) ∈ (s.serve req).shown ∧
      Shows data row.sourceType row.sourceReference := by
    intro hold
    obtain ⟨data, hmem, hshows⟩ := h row hold
    exact ⟨data, List.mem_append_left _ hmem, hshows⟩
  cases huser : req.principal with
  | none =>
    have hguest : req.track s.table = { table := s.table, written := [], failed := false } := by
      unfold HomepageRequest.track
      rw [huser]
      cases req.sectionEnabled <;> rfl
    have hsame : (s.serve req).table = s.table := congrArg Tracking.table hguest
    rw [hsame] at hrow
    exact hstay hrow
  | some userId =>
    have htracks := (HomepageRequest.tracksServed_iff s.table huser).2 hcomplete
    by_cases hkey : row.key ∈ (req.track s.table).written.map SystemRecommendationAssignment.key
    · have htouches : (req.track s.table).Touches row := ⟨hrow, hkey⟩
      refine ⟨req.data, List.mem_append_right _ (List.mem_singleton.2 ?_),
        (htracks.exact _ _).1 ⟨row, htouches, rfl, rfl⟩⟩
      rw [(htracks.stamped row htouches).1, huser]
    · exact hstay ((htracks.rest row hkey).1 hrow)

theorem Honest.foldl {reqs : List HomepageRequest} {s : Served} (h : s.Honest)
    (hcomplete : ∀ req ∈ reqs, req.sectionEnabled = true → req.Complete) :
    (reqs.foldl Served.serve s).Honest := by
  induction reqs generalizing s with
  | nil => exact h
  | cons req reqs ih =>
    exact ih (h.serve (hcomplete req List.mem_cons_self))
      fun req' hreq' => hcomplete req' (List.mem_cons_of_mem _ hreq')

theorem honest_run {reqs : List HomepageRequest}
    (hcomplete : ∀ req ∈ reqs, req.sectionEnabled = true → req.Complete) : (run reqs).Honest :=
  Honest.foldl (fun _ hrow => absurd hrow List.not_mem_nil) hcomplete

end Served

/-- The users that a row of the summary counts have a row of the table each. -/
theorem exists_users_of_summary {table : AssignmentTable} {sourceTypes : List String}
    {minimum : Int} {d : AssignmentDistributionRow}
    (h : d ∈ table.findDistributionSummary sourceTypes minimum) :
    ∃ users : List Int, users.Nodup ∧ d.distinctUserCount = users.length ∧
      ∀ user ∈ users, ∃ row ∈ table.rows, row.userId = user ∧ row.sourceType = d.sourceType ∧
        row.sourceReference = d.sourceReference := by
  obtain ⟨g, -, rfl⟩ := List.mem_map.1 (List.mem_filter.1 h).1
  refine ⟨_, nodup_eraseDups _, rfl, fun user huser => ?_⟩
  obtain ⟨row, hrow, rfl⟩ := List.mem_map.1 (List.mem_eraseDups.1 huser)
  obtain ⟨hcandidate, hgroup⟩ := List.mem_filter.1 hrow
  have hgroup : row.group = g := of_decide_eq_true hgroup
  refine ⟨row, (List.mem_filter.1 hcandidate).1, rfl, ?_, ?_⟩
  · rw [← hgroup]
    rfl
  · rw [← hgroup]
    rfl

/-- A topic of a sub-subject. -/
def bareTopic (id : String) (subSubjectId : Int) : TopicItemInput where
  id := id
  title := id
  subSubjectId := some subSubjectId
  subjectId := some 1

/-- One of two topics is asked for, and the database answers every upsert. -/
def firstOfTwo : HomepageRequest where
  principal := some 7
  limit := some 1
  moment := 0
  sectionEnabled := true
  items :=
    [normalizeTopicItem (bareTopic "algebra" 1), normalizeTopicItem (bareTopic "geometry" 2)]
  accepts := fun _ => true

end KlassGateway.Recommendation
