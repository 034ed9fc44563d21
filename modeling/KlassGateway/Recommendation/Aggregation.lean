import KlassGateway.Lib.Serde
import KlassGateway.Lib.Sorting
import KlassGateway.Recommendation.Personalization
import Mathlib.Algebra.Order.Ring.Rat
import Mathlib.Data.List.Induction
/-!
# The homepage feed

Model of `build_feed_snapshot` of `recommendation/aggregation.rs` and of what it calls.
A hash map with an id or a name as its key is a partial function, and a hash set is a list.
Scores are rationals: a JSON number is never `NaN`.

`Chrono` holds the two parsers of the date crate.  The feed is sorted by a `SliceSort`,
because `compareItems` is not always an order; the other comparators are.
-/

namespace KlassGateway.Recommendation

open Lib

/-- `SOURCE_ADMIN_UPLOAD`. -/
def sourceAdminUpload : String := "admin_upload"

/-- `SOURCE_SYSTEM_TOPIC`. -/
def sourceSystemTopic : String := "system_topic"

/-- `SOURCE_AI_GENERATED`. -/
def sourceAiGenerated : String := "ai_generated"

/-- `FEED_ORIGIN_ADMIN`. -/
def feedOriginAdmin : String := "admin_curated"

/-- `FEED_ORIGIN_SYSTEM`. -/
def feedOriginSystem : String := "system_generated"

/-! ## Taxonomy -/

/-- `SubjectTaxonomy`. -/
structure SubjectTaxonomy where
  id : Int
  name : String
  slug : String
  deriving DecidableEq

/-- `SubSubjectTaxonomy`. -/
structure SubSubjectTaxonomy where
  id : Int
  subjectId : Int
  name : String
  slug : String
  subject : Option SubjectTaxonomy
  deriving DecidableEq

/-- `TaxonomyInfo`. -/
structure TaxonomyInfo where
  subject : Option SubjectTaxonomy
  subSubject : SubSubjectTaxonomy
  deriving DecidableEq

/-- `PersonalizationInfo`. -/
structure PersonalizationInfo where
  eligible : Bool
  mode : Option String
  excludedReason : Option String
  hasNormalizedOwnership : Bool
  hasAdequateTaxonomy : Bool
  deriving DecidableEq

open Json (Decoder field fieldOr nullable record)

namespace SubjectTaxonomy

/-- `Deserialize`. -/
def decode : Decoder SubjectTaxonomy := record ["id", "name", "slug"] 3 fun v => do
  some
    { id := ← field "id" Json.i64 v
      name := ← field "name" Json.asStr v
      slug := ← field "slug" Json.asStr v }

end SubjectTaxonomy

namespace SubSubjectTaxonomy

/-- `Deserialize`. -/
def decode : Decoder SubSubjectTaxonomy :=
  record ["id", "subject_id", "name", "slug", "subject"] 5 fun v => do
    some
      { id := ← field "id" Json.i64 v
        subjectId := ← field "subject_id" Json.i64 v
        name := ← field "name" Json.asStr v
        slug := ← field "slug" Json.asStr v
        subject := ← fieldOr "subject" none (nullable SubjectTaxonomy.decode) v }

end SubSubjectTaxonomy

namespace TaxonomyInfo

/-- `Deserialize`. -/
def decode : Decoder TaxonomyInfo := record ["subject", "sub_subject"] 2 fun v => do
  some
    { subject := ← fieldOr "subject" none (nullable SubjectTaxonomy.decode) v
      subSubject := ← field "sub_subject" SubSubjectTaxonomy.decode v }

end TaxonomyInfo

namespace PersonalizationInfo

/-- `Deserialize`. -/
def decode : Decoder PersonalizationInfo :=
  record ["eligible", "mode", "excluded_reason", "has_normalized_ownership",
    "has_adequate_taxonomy"] 5 fun v => do
    some
      { eligible := ← field "eligible" Json.asBool v
        mode := ← fieldOr "mode" none (nullable Json.asStr) v
        excludedReason := ← fieldOr "excluded_reason" none (nullable Json.asStr) v
        hasNormalizedOwnership := ← field "has_normalized_ownership" Json.asBool v
        hasAdequateTaxonomy := ← field "has_adequate_taxonomy" Json.asBool v }

end PersonalizationInfo

/-! ## Input -/

/-- `CuratedItemInput`. -/
structure CuratedItemInput where
  id : String
  title : String
  description : Option String := none
  thumbnailUrl : Option String := none
  ratio : Option String := none
  projectType : Option String := none
  tags : List String := []
  modules : List String := []
  sourceType : String
  sourceReference : Option String := none
  sourcePayload : Json
  displayPriority : Int
  isActive : Bool := true
  startsAt : Option String := none
  endsAt : Option String := none
  createdAt : Option String := none
  updatedAt : Option String := none

/-- `TopicItemInput`. -/
structure TopicItemInput where
  id : String
  title : String
  thumbnailUrl : Option String := none
  subSubjectId : Option Int
  subjectId : Option Int
  taxonomy : Option TaxonomyInfo := none
  personalizationEligible : Option Bool := none
  personalizationMode : Option String := none
  personalizationExcludedReason : Option String := none
  hasNormalizedOwnership : Bool := true
  modules : List String := []
  createdAt : Option String := none
  updatedAt : Option String := none

/-- `AiSourceMetadata`. -/
structure AiSourceMetadata where
  id : String
  title : String
  createdAt : Option String

/-- `TopicOverrideMetadata`. -/
structure TopicOverrideMetadata where
  id : String
  title : String
  createdAt : Option String

/-- `SystemAssignmentInput`. -/
structure SystemAssignmentInput where
  sourceType : String
  sourceReference : String
  subjectId : Option Int := none
  subSubjectId : Int
  distinctUserCount : Int
  latestDistributionAt : Option String := none
  deriving DecidableEq

/-- `AggregationInput`, with the values of `AggregationInput::empty` as defaults. -/
structure AggregationInput where
  curatedItems : List CuratedItemInput := []
  suppressedSourceKeys : List String := []
  topicItems : List TopicItemInput := []
  assignments : List SystemAssignmentInput := []
  subSubjectLookup : Int → Option SubSubjectTaxonomy := fun _ => none
  aiSourceLookup : String → Option AiSourceMetadata := fun _ => none
  topicOverrideLookup : String → Option TopicOverrideMetadata := fun _ => none
  personalizationContext : Option PersonalizationContext := none
  minimumDistinctUserCount : Int := 2
  maximumItemsPerSubSubject : Nat := 1
  eligibleSourceTypes : List String := []

/-! ## Output -/

/-- `VisibilityInfo`. -/
structure VisibilityInfo where
  isActive : Bool
  startsAt : Option String
  endsAt : Option String
  deriving DecidableEq

/-- `CandidateSelection`, with its `Default`. -/
structure CandidateSelection where
  eligible : Bool := false
  selected : Bool := false
  group : Nat := 4
  rank : Nat := 18446744073709551615
  reason : String := "normalization_required"
  deriving DecidableEq

/-- `FeedItem`. -/
structure FeedItem where
  id : String
  title : String
  description : Option String
  thumbnailUrl : Option String
  ratio : String
  projectType : Option String
  tags : List String
  modules : List String
  subSubjectId : Option Int
  subjectId : Option Int
  taxonomy : Option TaxonomyInfo
  personalization : Option PersonalizationInfo
  sourceType : String
  sourceReference : Option String
  feedOrigin : String
  displayPriority : Int
  score : Rat
  visibility : VisibilityInfo
  createdAt : Option String
  updatedAt : Option String
  candidateSelection : CandidateSelection
  deriving DecidableEq

/-- `SourceStatusInfo`. -/
structure SourceStatusInfo where
  state : String
  suppressedCount : Option Nat

/-- `PersonalizationSummary`, with the values of `empty_personalization_summary`. -/
structure PersonalizationSummary where
  applied : Bool := false
  filterApplied : Bool := false
  mode : Option String := none
  description : Option String := none
  selectedSystemCandidateCount : Option Nat := none
  filteredOutSystemCandidateCount : Option Nat := none
  matchedSystemTopicCount : Option Nat := none
  selectedSourceBreakdown : Option (List (String × Nat)) := none
  matchedSubSubjectIds : Option (List Int) := none
  deriving DecidableEq

/-- `empty_personalization_summary`. -/
def emptyPersonalizationSummary : PersonalizationSummary := {}

/-- `FeedSnapshot`. -/
structure FeedSnapshot where
  items : List FeedItem
  sourceStatus : List (String × SourceStatusInfo)
  personalization : PersonalizationSummary

/-! ## Utility functions -/

/-- The parsers of the date crate, as seconds since the epoch. -/
structure Chrono where
  /-- `DateTime::parse_from_rfc3339`. -/
  parseFromRfc3339 : String → Option Int
  /-- `NaiveDateTime::parse_from_str` with `%Y-%m-%dT%H:%M:%S`. -/
  parseFromStr : String → Option Int

/-- The parsers on texts that are no dates. -/
def dateless : Chrono := ⟨fun _ => none, fun _ => none⟩

/-- `make_source_key`. -/
def makeSourceKey (sourceType sourceReference : String) : String :=
  sourceType ++ ":" ++ sourceReference

/-- `timestamp_value`. -/
def timestampValue (C : Chrono) (value : Option String) : Int :=
  (value.bind fun s =>
    if s = "" then none else (C.parseFromRfc3339 s).or (C.parseFromStr s)).getD 0

/-- `resolve_state_from_count`. -/
def resolveStateFromCount (count : Nat) : String := if 0 < count then "ok" else "empty"

/-! ## Normalization -/

/-- `normalize_curated_item`. -/
def normalizeCuratedItem (curated : CuratedItemInput) : FeedItem where
  id := curated.id
  title := curated.title
  description := curated.description
  thumbnailUrl := curated.thumbnailUrl
  ratio := curated.ratio.getD "16:9"
  projectType := curated.projectType
  tags := curated.tags
  modules := curated.modules
  subSubjectId := (curated.sourcePayload.get "sub_subject_id").bind Json.i64
  subjectId := (curated.sourcePayload.get "subject_id").bind Json.i64
  taxonomy := (curated.sourcePayload.get "taxonomy").bind TaxonomyInfo.decode
  personalization := (curated.sourcePayload.get "personalization").bind PersonalizationInfo.decode
  sourceType := curated.sourceType
  sourceReference := curated.sourceReference
  feedOrigin := if curated.sourceType = sourceAdminUpload then feedOriginAdmin else feedOriginSystem
  displayPriority := curated.displayPriority
  score := ((curated.sourcePayload.get "score").bind Json.asF64).getD 0
  visibility :=
    { isActive := curated.isActive, startsAt := curated.startsAt, endsAt := curated.endsAt }
  createdAt := curated.createdAt
  updatedAt := curated.updatedAt
  candidateSelection := {}

/-- `normalize_topic_item`. -/
def normalizeTopicItem (topic : TopicItemInput) : FeedItem where
  id := "system_topic_" ++ topic.id
  title := topic.title
  description := none
  thumbnailUrl := topic.thumbnailUrl
  ratio := "16:9"
  projectType := none
  tags := []
  modules := topic.modules
  subSubjectId := topic.subSubjectId
  subjectId := topic.subjectId
  taxonomy := topic.taxonomy
  personalization := some
    { eligible := topic.personalizationEligible.getD true
      mode := topic.personalizationMode
      excludedReason := topic.personalizationExcludedReason
      hasNormalizedOwnership := topic.hasNormalizedOwnership
      hasAdequateTaxonomy := topic.subSubjectId.isSome }
  sourceType := sourceSystemTopic
  sourceReference := some topic.id
  feedOrigin := feedOriginSystem
  displayPriority := 0
  score := 0
  visibility := { isActive := true, startsAt := none, endsAt := none }
  createdAt := topic.createdAt
  updatedAt := topic.updatedAt
  candidateSelection := {}

/-! ## Candidate selection -/

/-- A `HashMap<i64, usize>`. -/
abbrev RankLookup := Int → Option Nat

/-- Collect entries into a map: the last one of a key wins. -/
def collectLookup (entries : List (Int × Nat)) : RankLookup :=
  entries.foldl (fun lookup e id => if id = e.1 then some e.2 else lookup id) fun _ => none

/-- `build_rank_lookup`. -/
def buildRankLookup (ids : List Int) : RankLookup := collectLookup ids.zipIdx

/-- `is_eligible_system_generated_candidate`. -/
def isEligibleSystemGeneratedCandidate (item : FeedItem) : Bool :=
  if item.sourceType = sourceAdminUpload then false
  else if item.subSubjectId.isNone || item.subjectId.isNone then false
  else if item.sourceType = sourceSystemTopic then
    match item.personalization with
    | some p => p.eligible
    | none => true
  else true

/-- `build_primary_subject_catalog_lookup`. -/
def buildPrimarySubjectCatalogLookup (items : List FeedItem) (primarySubjectId : Option Int)
    (excludedIds : List Int) : RankLookup :=
  match primarySubjectId with
  | none => fun _ => none
  | some psId =>
    let candidates := (((items.filter isEligibleSystemGeneratedCandidate).filter
        (·.subjectId = some psId)).filter
        fun item => item.subSubjectId.elim true fun ssId => ssId ∉ excludedIds).filterMap
        fun item => item.subSubjectId.map fun ssId => (ssId, item.displayPriority, item.updatedAt)
    let candidates := sortBy (compareOn (·.1)) candidates
    collectLookup (candidates.zipIdx.map fun c => (c.1.1, c.2))

/-- The selection of an item, from the three lookups. -/
def candidateSelection (primarySubjectId : Option Int) (preferred secondary catalog : RankLookup)
    (item : FeedItem) : CandidateSelection :=
  let isEligible := isEligibleSystemGeneratedCandidate item
  let fallback : CandidateSelection :=
    { eligible := isEligible
      selected := false
      group := if isEligible then 3 else 4
      reason := if isEligible then "global_feed_fallback" else "normalization_required" }
  match isEligible, item.subSubjectId with
  | true, some ssId =>
    let selection :=
      match preferred ssId, primarySubjectId with
      | some rank, _ =>
        { eligible := true, selected := true, group := 0, rank, reason := "authored_topic_activity" }
      | none, some psId =>
        if item.subjectId = some psId then
          match catalog ssId with
          | some rank =>
            { eligible := true, selected := true, group := 1, rank
              reason := "primary_subject_catalog" }
          | none => fallback
        else fallback
      | none, none => fallback
    if selection.selected then selection
    else
      match secondary ssId with
      | some rank =>
        { eligible := true, selected := true, group := 2, rank
          reason := "secondary_authored_topic_activity" }
      | none => selection
  | _, _ => fallback

/-! ## Comparison -/

variable (C : Chrono)

/-- By group, rank and the time of the last update, the latest first. -/
def compareSelection (a b : FeedItem) : Ordering :=
  (compare a.candidateSelection.group b.candidateSelection.group).then <|
    (compare a.candidateSelection.rank b.candidateSelection.rank).then <|
      compare (timestampValue C b.updatedAt) (timestampValue C a.updatedAt)

/-- By priority, score and the time of creation, each descending, then by id. -/
def compareDisplay (a b : FeedItem) : Ordering :=
  (compare b.displayPriority a.displayPriority).then <|
    (compare b.score a.score).then <|
      (compare (timestampValue C b.createdAt) (timestampValue C a.createdAt)).then <|
        compare a.id b.id

/-- `compare_items`. -/
def compareItems (a b : FeedItem) : Ordering :=
  let aIsSystem := a.sourceType ≠ sourceAdminUpload
  let bIsSystem := b.sourceType ≠ sourceAdminUpload
  if aIsSystem ∧ bIsSystem ∧ compareSelection C a b ≠ .eq then compareSelection C a b
  else compareDisplay C a b

/-! ## Personalization summary -/

/-- `build_personalization_summary`. -/
def buildPersonalizationSummary (all selected : List FeedItem) (ctx : PersonalizationContext) :
    PersonalizationSummary :=
  let ofType (sourceType : String) := selected.countP fun item => item.sourceType = sourceType
  { applied := !selected.isEmpty
    filterApplied := !selected.isEmpty
    selectedSystemCandidateCount := some selected.length
    filteredOutSystemCandidateCount := some (all.length - selected.length)
    matchedSystemTopicCount := some (ofType sourceSystemTopic)
    mode := some ctx.internal.personalizedMode
    description := some ctx.internal.personalizedDescription
    selectedSourceBreakdown :=
      if selected.isEmpty then none
      else some [(sourceSystemTopic, ofType sourceSystemTopic),
        (sourceAiGenerated, ofType sourceAiGenerated)]
    matchedSubSubjectIds :=
      if selected.isEmpty then none
      else some ((sortBy (compareSelection C) selected).filterMap (·.subSubjectId)).eraseDups }

/-- An item with its selection. -/
def annotate (ctx : PersonalizationContext) (items : List FeedItem) (item : FeedItem) : FeedItem :=
  let preferredIds := ctx.internal.preferredActivitySubSubjectIds
  let secondaryIds := ctx.internal.secondaryActivitySubSubjectIds
  let catalog := buildPrimarySubjectCatalogLookup items ctx.internal.primarySubjectId
    (preferredIds ++ secondaryIds)
  { item with
    candidateSelection := candidateSelection ctx.internal.primarySubjectId
      (buildRankLookup preferredIds) (buildRankLookup secondaryIds) catalog item }

/-- `select_system_generated_candidates`. -/
def selectSystemGeneratedCandidates (items : List FeedItem) (input : AggregationInput) :
    List FeedItem × PersonalizationSummary :=
  if items.isEmpty then (items, emptyPersonalizationSummary)
  else
    match input.personalizationContext with
    | none => (items, emptyPersonalizationSummary)
    | some ctx =>
      if ctx.internal.signalsAvailable then
        let annotated := items.map (annotate ctx items)
        let selected := annotated.filter (·.candidateSelection.selected)
        if selected.isEmpty then (items, emptyPersonalizationSummary)
        else (selected, buildPersonalizationSummary C annotated selected ctx)
      else (items, emptyPersonalizationSummary)

/-! ## The feed -/

/-- The items that an admin has uploaded. -/
def adminItems (input : AggregationInput) : List FeedItem :=
  (input.curatedItems.filter (·.sourceType = sourceAdminUpload)).map normalizeCuratedItem

/-- The persisted system items, and the topics that are not suppressed. -/
def systemItems (input : AggregationInput) : List FeedItem :=
  (input.curatedItems.filter (·.sourceType ≠ sourceAdminUpload)).map normalizeCuratedItem ++
    (input.topicItems.filter fun t =>
      makeSourceKey sourceSystemTopic t.id ∉ input.suppressedSourceKeys).map normalizeTopicItem

/-- The items of the feed before they are sorted. -/
def allItems (input : AggregationInput) : List FeedItem :=
  adminItems input ++ (selectSystemGeneratedCandidates C (systemItems input) input).1

/-- The state of each source. -/
def sourceStatus (input : AggregationInput) : List (String × SourceStatusInfo) :=
  let curated (sourceType : String) := input.curatedItems.countP (·.sourceType = sourceType)
  [(sourceAdminUpload,
      { state := resolveStateFromCount (curated sourceAdminUpload), suppressedCount := none }),
    (sourceSystemTopic,
      { state := resolveStateFromCount input.topicItems.length
        suppressedCount := some input.suppressedSourceKeys.length }),
    (sourceAiGenerated,
      { state := resolveStateFromCount (curated sourceAiGenerated), suppressedCount := none })]

/-- `build_feed_snapshot`, unless its sort stops. -/
def buildFeedSnapshot (S : SliceSort) (input : AggregationInput) : Option FeedSnapshot := do
  let items ← S.run (compareItems C) (allItems C input)
  some
    { items
      sourceStatus := sourceStatus input
      personalization := (selectSystemGeneratedCandidates C (systemItems input) input).2 }

/-! ## The two keys of the comparator -/

instance (C : Chrono) : Std.TransCmp (compareSelection C) :=
  inferInstanceAs <| Std.TransCmp <|
    compareLex (compareOn fun a : FeedItem => a.candidateSelection.group) <|
      compareLex (compareOn fun a => a.candidateSelection.rank) fun a b =>
        compareOn (fun a => timestampValue C a.updatedAt) b a

instance (C : Chrono) : Std.TransCmp (compareDisplay C) :=
  inferInstanceAs <| Std.TransCmp <|
    compareLex (fun a b => compareOn (fun a : FeedItem => a.displayPriority) b a) <|
      compareLex (fun a b => compareOn (fun a => a.score) b a) <|
        compareLex (fun a b => compareOn (fun a => timestampValue C a.createdAt) b a) <|
          compareOn fun a => a.id

/-! ## The lookups -/

theorem buildRankLookup_append (ids : List Int) (a id : Int) :
    buildRankLookup (ids ++ [a]) id = if id = a then some ids.length else buildRankLookup ids id := by
  simp [buildRankLookup, collectLookup, List.zipIdx_append]

/-- The rank of an id is its last position. -/
theorem buildRankLookup_eq_some_iff {ids : List Int} {id : Int} {r : Nat} :
    buildRankLookup ids id = some r ↔ ids[r]? = some id ∧ ∀ j, r < j → ids[j]? ≠ some id := by
  induction ids using List.reverseRecOn generalizing r with
  | nil => simp [buildRankLookup, collectLookup]
  | append_singleton ids a ih =>
    rw [buildRankLookup_append]
    by_cases ha : id = a
    · subst ha
      simp only [if_true, Option.some.injEq]
      constructor
      · rintro rfl
        refine ⟨by simp, fun j hj => ?_⟩
        rw [List.getElem?_eq_none (by simp; omega)]
        simp
      · rintro ⟨hr, hlast⟩
        have hlt : r < (ids ++ [id]).length := (List.getElem?_eq_some_iff.mp hr).1
        have hle : ¬ r < ids.length := fun h => hlast ids.length h (by simp)
        simp only [List.length_append, List.length_singleton] at hlt
        omega
    · rw [if_neg ha, ih]
      have hget : ∀ j : Nat, (ids ++ [a])[j]? = some id ↔ ids[j]? = some id := by
        intro j
        rcases Nat.lt_trichotomy j ids.length with hj | rfl | hj
        · rw [List.getElem?_append_left hj]
        · simp [Ne.symm ha]
        · rw [List.getElem?_eq_none (by simp; omega), List.getElem?_eq_none (by omega)]
      simp only [hget, ne_eq]

theorem buildRankLookup_eq_none_iff {ids : List Int} {id : Int} :
    buildRankLookup ids id = none ↔ id ∉ ids := by
  induction ids using List.reverseRecOn with
  | nil => simp [buildRankLookup, collectLookup]
  | append_singleton ids a ih =>
    rw [buildRankLookup_append]
    by_cases ha : id = a
    · simp [ha]
    · simp [ha, ih]

/-- No two ids have one rank. -/
theorem buildRankLookup_inj {ids : List Int} {a b : Int} {r : Nat}
    (ha : buildRankLookup ids a = some r) (hb : buildRankLookup ids b = some r) : a = b := by
  have := (buildRankLookup_eq_some_iff.mp ha).1.symm.trans (buildRankLookup_eq_some_iff.mp hb).1
  exact Option.some.inj this

/-- The ranks in a sorted list are in the order of the ids. -/
theorem compare_buildRankLookup {ids : List Int} (hids : ids.Pairwise (· ≤ ·)) {a b : Int}
    {r q : Nat} (ha : buildRankLookup ids a = some r) (hb : buildRankLookup ids b = some q) :
    compare r q = compare a b := by
  have hlt : ∀ {a b : Int} {r q : Nat}, buildRankLookup ids a = some r →
      buildRankLookup ids b = some q → r < q → a < b := by
    intro a b r q ha hb hrq
    obtain ⟨hra, hlast⟩ := buildRankLookup_eq_some_iff.mp ha
    obtain ⟨hqb, -⟩ := buildRankLookup_eq_some_iff.mp hb
    obtain ⟨hr, rfl⟩ := List.getElem?_eq_some_iff.mp hra
    obtain ⟨hq, rfl⟩ := List.getElem?_eq_some_iff.mp hqb
    have hle := List.pairwise_iff_getElem.mp hids r q hr hq hrq
    have hne : ids[r] ≠ ids[q] := fun h => hlast q hrq (by rw [hqb, h])
    omega
  rcases Nat.lt_trichotomy r q with hrq | rfl | hqr
  · rw [Nat.compare_eq_lt.mpr hrq, eq_comm, Int.compare_eq_lt]
    exact hlt ha hb hrq
  · rw [buildRankLookup_inj ha hb]
    simp
  · rw [Nat.compare_eq_gt.mpr hqr, eq_comm, Int.compare_eq_gt]
    exact hlt hb ha hqr

/-- The sub-subjects of the catalog, one entry for each of its items. -/
def catalogIds (items : List FeedItem) (psId : Int) (excludedIds : List Int) : List Int :=
  (items.filter fun item => isEligibleSystemGeneratedCandidate item ∧ item.subjectId = some psId ∧
    ∀ ssId ∈ item.subSubjectId, ssId ∉ excludedIds).filterMap (·.subSubjectId)

theorem collectLookup_zipIdx {α : Type} (f : α → Int) (entries : List α) :
    collectLookup (entries.zipIdx.map fun c => (f c.1, c.2)) = buildRankLookup (entries.map f) := by
  rw [buildRankLookup, List.zipIdx_map]
  rfl

/-- The catalog ranks its sub-subjects in ascending order. -/
theorem buildPrimarySubjectCatalogLookup_eq (items : List FeedItem) (psId : Int)
    (excludedIds : List Int) :
    buildPrimarySubjectCatalogLookup items (some psId) excludedIds =
      buildRankLookup ((catalogIds items psId excludedIds).insertionSort (· ≤ ·)) := by
  rw [buildPrimarySubjectCatalogLookup, collectLookup_zipIdx, sortBy,
    List.map_insertionSort _ (· ≤ ·) Prod.fst _ fun a _ b _ => by
      rw [compareOn, Int.isLE_compare]]
  rw [catalogIds, List.map_filterMap, List.filter_filter, List.filter_filter]
  have hfst : ∀ item : FeedItem, (item.subSubjectId.map fun ssId =>
      (ssId, item.displayPriority, item.updatedAt)).map Prod.fst = item.subSubjectId := by
    intro item
    cases item.subSubjectId <;> rfl
  simp only [hfst]
  congr 3
  refine List.filter_congr fun item _ => ?_
  cases item.subSubjectId <;> simp [Bool.and_comm]

/-- The catalog does not depend on the order of the items. -/
theorem buildPrimarySubjectCatalogLookup_perm {items items' : List FeedItem}
    (h : items'.Perm items) (primarySubjectId : Option Int) (excludedIds : List Int) :
    buildPrimarySubjectCatalogLookup items' primarySubjectId excludedIds =
      buildPrimarySubjectCatalogLookup items primarySubjectId excludedIds := by
  cases primarySubjectId with
  | none => rfl
  | some psId =>
    have hids : (catalogIds items' psId excludedIds).Perm (catalogIds items psId excludedIds) :=
      (h.filter _).filterMap _
    rw [buildPrimarySubjectCatalogLookup_eq, buildPrimarySubjectCatalogLookup_eq]
    congr 1
    exact ((List.perm_insertionSort _ _).trans (hids.trans (List.perm_insertionSort _ _).symm)).eq_of_pairwise'
      (List.pairwise_insertionSort _ _) (List.pairwise_insertionSort _ _)

theorem annotate_perm (ctx : PersonalizationContext) {items items' : List FeedItem}
    (h : items'.Perm items) : annotate ctx items' = annotate ctx items := by
  funext item
  simp only [annotate, buildPrimarySubjectCatalogLookup_perm h]

end KlassGateway.Recommendation
