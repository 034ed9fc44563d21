import KlassGateway.Db.PartialUpdates
import KlassGateway.Recommendation.Aggregation
/-!
# Topics of the homepage feed and of the topics API

Model of `query_published_topics` of `api/rest/homepage_recommendations.rs` and of
`build_personalization` of `api/rest/topics.rs`: the two places that decide from a row of
`topics` whether it is a candidate for personalization.

The table of content types is a lookup, and the format of the times a parameter.  The fields
of `TopicItemInput` that nothing reads (teacher, owner, status, order) are left out.
-/

namespace KlassGateway.Recommendation

open Lib Db.Admin

/-! ## The tables -/

/-- `SubjectRow`. -/
structure SubjectRow where
  id : Int
  name : String
  slug : String

/-- `SubSubjectRow`. -/
structure SubSubjectRow where
  id : Int
  subjectId : Int
  name : String
  slug : String

/-- The topics with their taxonomy, whose foreign keys hold. -/
structure TopicCatalog where
  topics : List Topic
  subSubjects : List SubSubjectRow
  subjects : List SubjectRow
  subSubject_fk : ∀ t ∈ topics, ∀ id ∈ t.subSubjectId, ∃ ss ∈ subSubjects, ss.id = id
  subject_fk : ∀ ss ∈ subSubjects, ∃ s ∈ subjects, s.id = ss.subjectId

/-! ## The homepage feed -/

/-- `PublishedTopicRow`. -/
structure PublishedTopicRow where
  id : String
  title : String
  thumbnailUrl : Option String
  subSubjectId : Option Int
  subjectId : Option Int
  ownerUserId : Option Int
  ownershipStatus : String
  order : Int
  createdAt : Option DateTime
  updatedAt : Option DateTime
  teacherId : String
  ssName : Option String
  ssSlug : Option String
  sbName : Option String
  sbSlug : Option String

/-- The row of a topic, joined with its sub-subject and with the subject of that. -/
def TopicCatalog.publishedTopicRow (db : TopicCatalog) (t : Topic) : PublishedTopicRow :=
  let ss := t.subSubjectId.bind fun id => db.subSubjects.find? fun ss => ss.id = id
  let sb := ss.bind fun ss => db.subjects.find? fun sb => sb.id = ss.subjectId
  { id := t.id.toText
    title := t.title
    thumbnailUrl := t.thumbnailUrl
    subSubjectId := t.subSubjectId
    subjectId := ss.map (·.subjectId)
    ownerUserId := t.ownerUserId
    ownershipStatus := t.ownershipStatus
    order := t.order
    createdAt := t.createdAt
    updatedAt := t.updatedAt
    teacherId := t.teacherId
    ssName := ss.map (·.name)
    ssSlug := ss.map (·.slug)
    sbName := sb.map (·.name)
    sbSlug := sb.map (·.slug) }

/-- What the mapping uses from outside the row: the content types of a topic, and the format
of a time. -/
structure TopicRendering where
  moduleLookup : String → Option (List String)
  format : DateTime → String

/-- The mapping of `query_published_topics`. -/
def topicItem (R : TopicRendering) (row : PublishedTopicRow) : TopicItemInput where
  id := row.id
  title := row.title
  thumbnailUrl := row.thumbnailUrl
  subSubjectId := row.subSubjectId
  subjectId := row.subjectId
  taxonomy := row.subSubjectId.bind fun ssId => row.subjectId.map fun sId =>
    { subject := some { id := sId, name := row.sbName.getD "", slug := row.sbSlug.getD "" }
      subSubject :=
        { id := ssId, subjectId := sId, name := row.ssName.getD "", slug := row.ssSlug.getD ""
          subject := none } }
  personalizationEligible := some true
  personalizationMode := none
  personalizationExcludedReason := none
  hasNormalizedOwnership := row.ownershipStatus == "normalized"
  modules := (R.moduleLookup row.id).getD []
  createdAt := row.createdAt.map R.format
  updatedAt := row.updatedAt.map R.format

/-- `ORDER BY t."order" ASC, t.created_at DESC`. -/
def compareTopicOrder (a b : Topic) : Ordering :=
  (compare a.order b.order).then <|
    match a.createdAt, b.createdAt with
    | some s, some t => compare t s
    | none, some _ => .lt
    | some _, none => .gt
    | none, none => .eq

/-- `query_published_topics`. -/
def TopicCatalog.queryPublishedTopics (db : TopicCatalog) (R : TopicRendering) :
    List TopicItemInput :=
  (sortBy compareTopicOrder
    (db.topics.filter fun t => t.isPublished ∧ t.subSubjectId.isSome)).map fun t =>
      topicItem R (db.publishedTopicRow t)

/-! ## The topics API -/

/-- `PersonalizationResource`. -/
structure PersonalizationResource where
  eligible : Bool
  mode : String
  hasAdequateTaxonomy : Bool
  hasNormalizedOwnership : Bool
  excludedReason : Option String
  deriving DecidableEq

/-- `build_personalization`. -/
def buildPersonalization (topic : Topic) : PersonalizationResource :=
  let hasAdequateTaxonomy := topic.subSubjectId.isSome
  let hasNormalizedOwnership := topic.ownerUserId.isSome && topic.ownershipStatus == "normalized"
  let eligible := hasAdequateTaxonomy && hasNormalizedOwnership
  { eligible
    mode := if eligible then "candidate" else "general_feed_only"
    hasAdequateTaxonomy
    hasNormalizedOwnership
    excludedReason :=
      if !hasAdequateTaxonomy then some "missing_sub_subject"
      else if !hasNormalizedOwnership then some "unresolved_ownership"
      else none }

theorem buildPersonalization_eligible_iff {t : Topic} :
    (buildPersonalization t).eligible = true ↔
      t.subSubjectId.isSome ∧ t.ownerUserId.isSome ∧ t.ownershipStatus = "normalized" := by
  simp [buildPersonalization]

/-- The three parts of the resource tell the same. -/
theorem buildPersonalization_mode_iff {t : Topic} :
    (buildPersonalization t).mode = "general_feed_only" ↔
      (buildPersonalization t).eligible = false := by
  unfold buildPersonalization
  dsimp only
  split
  · next h => simp [h]
  · next h => simpa using h

end KlassGateway.Recommendation
