import KlassGateway.Base
import KlassGateway.Lib.Text
import KlassGateway.Lib.Upsert
import KlassGateway.Recommendation.Aggregation
/-!
# Assignments of the homepage

Model of `db/repositories/assignments.rs` and of the part of `index` in
`api/rest/homepage_recommendations.rs` that tracks what a user was served and builds the data
of the response.  The database answers each upsert: `accepts key` is whether the one under
`key` succeeds, and a request upserts a key at most once.
-/

namespace KlassGateway.Recommendation

open Lib

/-! ## Tracked items -/

/-- `TrackableFeedItem`. -/
structure TrackableFeedItem where
  id : String
  sourceType : String
  sourceReference : Option String
  sourcePayloadTopicId : Option String
  sourcePayloadSourceReference : Option String
  subjectId : Option Int
  subSubjectId : Option Int

/-- `default_trackable_source_types`. -/
def defaultTrackableSourceTypes : List String := [sourceSystemTopic, sourceAiGenerated]

/-- `make_recommendation_key`. -/
def makeRecommendationKey (sourceType sourceReference : String) : String :=
  sourceType ++ ":" ++ sourceReference

/-- `extract_topic_reference_from_item_id`. -/
def extractTopicReferenceFromItemId (itemId : String) : Option String :=
  (Text.stripLeading itemId "system_topic_").filter (· ≠ "")

/-- `resolve_source_reference`. -/
def resolveSourceReference (item : TrackableFeedItem) : String :=
  let ofTopic : Option String :=
    if item.sourceType = sourceSystemTopic then
      (item.sourcePayloadTopicId.filter (· ≠ "")).or (extractTopicReferenceFromItemId item.id)
    else none
  (((item.sourceReference.filter (· ≠ "")).or ofTopic).or
    (item.sourcePayloadSourceReference.filter (· ≠ ""))).getD item.id

namespace TrackableFeedItem

/-- The key under which an item is tracked. -/
def recommendationKey (item : TrackableFeedItem) : String :=
  makeRecommendationKey item.sourceType (resolveSourceReference item)

end TrackableFeedItem

/-! ## The table -/

/-- `SystemRecommendationAssignment`. -/
structure SystemRecommendationAssignment where
  userId : Int
  recommendationKey : String
  recommendationItemId : String
  sourceType : String
  sourceReference : String
  subjectId : Option Int
  subSubjectId : Option Int
  firstDistributedAt : DateTime
  lastDistributedAt : DateTime
  createdAt : DateTime
  updatedAt : DateTime

/-- The columns of the unique index. -/
def SystemRecommendationAssignment.key (row : SystemRecommendationAssignment) : Int × String :=
  (row.userId, row.recommendationKey)

/-- `system_recommendation_assignments`. -/
structure AssignmentTable where
  rows : List SystemRecommendationAssignment
  unique : (rows.map SystemRecommendationAssignment.key).Nodup

/-- `DO UPDATE SET` of `upsert`. -/
def mergeAssignment (new old : SystemRecommendationAssignment) : SystemRecommendationAssignment :=
  { old with
    recommendationItemId := new.recommendationItemId
    sourceType := new.sourceType
    sourceReference := new.sourceReference
    subjectId := new.subjectId
    subSubjectId := new.subSubjectId
    lastDistributedAt := new.lastDistributedAt
    updatedAt := new.updatedAt }

theorem mergeAssignment_key (new old : SystemRecommendationAssignment) (h : old.key = new.key) :
    (mergeAssignment new old).key = new.key := h

/-- `upsert`. -/
def AssignmentTable.upsert (table : AssignmentTable) (row : SystemRecommendationAssignment) :
    AssignmentTable where
  rows := Table.upsert SystemRecommendationAssignment.key mergeAssignment row table.rows
  unique := Table.nodup_upsert mergeAssignment_key table.unique

/-- The row that an item is upserted with. -/
def assignmentRow (userId : Int) (moment : DateTime) (item : TrackableFeedItem) :
    SystemRecommendationAssignment where
  userId := userId
  recommendationKey := item.recommendationKey
  recommendationItemId := item.id
  sourceType := item.sourceType
  sourceReference := resolveSourceReference item
  subjectId := item.subjectId
  subSubjectId := item.subSubjectId
  firstDistributedAt := moment
  lastDistributedAt := moment
  createdAt := moment
  updatedAt := moment

/-- What `track_served` leaves: the table, the rows that it has upserted, in order, and whether
an upsert has failed, which ends it. -/
structure Tracking where
  table : AssignmentTable
  written : List SystemRecommendationAssignment
  failed : Bool

section TrackServed

variable (userId : Int) (trackable : List String) (moment : DateTime) (accepts : String → Bool)

/-- The loop of `track_served`. -/
def trackLoop : List TrackableFeedItem → List String → AssignmentTable → Tracking
  | [], _, table => { table, written := [], failed := false }
  | item :: items, seenKeys, table =>
    if item.sourceType ∉ trackable then trackLoop items seenKeys table
    else if item.recommendationKey ∈ seenKeys then trackLoop items seenKeys table
    else if accepts item.recommendationKey then
      let row := assignmentRow userId moment item
      let rest := trackLoop items (item.recommendationKey :: seenKeys) (table.upsert row)
      { rest with written := row :: rest.written }
    else { table, written := [], failed := true }

/-- `track_served`. -/
def trackServed (items : List TrackableFeedItem) (table : AssignmentTable) : Tracking :=
  trackLoop userId trackable moment accepts items [] table

end TrackServed

/-- `AssignmentDistributionRow`. -/
structure AssignmentDistributionRow where
  sourceType : String
  sourceReference : String
  subjectId : Option Int
  subSubjectId : Option Int
  distinctUserCount : Int
  latestDistributionAt : Option DateTime

/-- The columns of `GROUP BY`. -/
def SystemRecommendationAssignment.group (row : SystemRecommendationAssignment) :
    String × String × Option Int × Option Int :=
  (row.sourceType, row.sourceReference, row.subjectId, row.subSubjectId)

/-- `COUNT(DISTINCT user_id)` of some rows. -/
def distinctUsers (rows : List SystemRecommendationAssignment) : List Int :=
  (rows.map (·.userId)).eraseDups

/-- `find_distribution_summary`. -/
def AssignmentTable.findDistributionSummary (table : AssignmentTable) (sourceTypes : List String)
    (minimumDistinctUserCount : Int) : List AssignmentDistributionRow :=
  let candidates := table.rows.filter fun row =>
    row.sourceType ∈ sourceTypes ∧ row.subSubjectId.isSome
  let groups := (candidates.map SystemRecommendationAssignment.group).eraseDups
  (groups.map fun g =>
    let members := candidates.filter fun row => row.group = g
    { sourceType := g.1
      sourceReference := g.2.1
      subjectId := g.2.2.1
      subSubjectId := g.2.2.2
      distinctUserCount := (distinctUsers members).length
      latestDistributionAt := (members.map (·.lastDistributedAt)).max? }).filter fun row =>
    minimumDistinctUserCount ≤ row.distinctUserCount

/-! ## The request -/

/-- `RecommendedProjectResource`. -/
structure RecommendedProjectResource where
  id : String
  title : String
  description : Option String
  thumbnailUrl : Option String
  ratio : String
  projectType : Option String
  tags : List String
  modules : List String
  subSubjectId : Option Int
  subjectId : Option Int
  taxonomy : Option TaxonomyInfo
  personalization : Option PersonalizationInfo
  sourceType : String
  sourceReference : Option String
  feedOrigin : String
  displayPriority : Int
  visibility : VisibilityInfo
  createdAt : Option String
  updatedAt : Option String

/-- `map_feed_item_to_resource`. -/
def mapFeedItemToResource (item : FeedItem) : RecommendedProjectResource where
  id := item.id
  title := item.title
  description := item.description
  thumbnailUrl := item.thumbnailUrl
  ratio := item.ratio
  projectType := item.projectType
  tags := item.tags
  modules := item.modules
  subSubjectId := item.subSubjectId
  subjectId := item.subjectId
  taxonomy := item.taxonomy
  personalization := item.personalization
  sourceType := item.sourceType
  sourceReference := item.sourceReference
  feedOrigin := item.feedOrigin
  displayPriority := item.displayPriority
  visibility := item.visibility
  createdAt := item.createdAt
  updatedAt := item.updatedAt

/-- The item that `index` tracks for an item of the feed. -/
def trackableFeedItem (item : FeedItem) : TrackableFeedItem where
  id := item.id
  sourceType := item.sourceType
  sourceReference := item.sourceReference
  sourcePayloadTopicId := none
  sourcePayloadSourceReference := none
  subjectId := item.subjectId
  subSubjectId := item.subSubjectId

/-- A request to the homepage: who asks, the limit and the moment, whether the section is
enabled, the items of the snapshot, and how the database answers the upserts. -/
structure HomepageRequest where
  principal : Option Int
  limit : Option Nat
  moment : DateTime
  sectionEnabled : Bool
  items : List FeedItem
  accepts : String → Bool

namespace HomepageRequest

/-- `limit`, as the response applies it. -/
def applied (req : HomepageRequest) : Nat := min (req.limit.getD 50) 50

/-- The data of the response of `index`. -/
def data (req : HomepageRequest) : List RecommendedProjectResource :=
  if req.sectionEnabled then (req.items.take req.applied).map mapFeedItemToResource else []

/-- What `index` tracks.  An error of `track_served` is only logged. -/
def track (req : HomepageRequest) (table : AssignmentTable) : Tracking :=
  match req.sectionEnabled, req.principal with
  | true, some userId =>
    trackServed userId defaultTrackableSourceTypes req.moment req.accepts
      (req.items.map trackableFeedItem) table
  | _, _ => { table, written := [], failed := false }

end HomepageRequest

end KlassGateway.Recommendation
