import KlassGateway.Lib.Grouping
import KlassGateway.Recommendation.Aggregation
/-!
# The distribution summary

Model of `build_system_distribution_summary` of `recommendation/aggregation.rs`: the sources
that most users were served, at most a given number for each sub-subject.  The hash map that
groups them is read in some `IterationOrder`.
-/

namespace KlassGateway.Recommendation

open Lib

/-- `DistributionSummaryItem`. -/
structure DistributionSummaryItem where
  recommendationKey : String
  recommendationItemId : String
  title : String
  sourceType : String
  sourceReference : String
  subjectId : Option Int
  subSubjectId : Int
  subject : Option SubjectTaxonomy
  subSubject : Option SubSubjectTaxonomy
  distinctUserCount : Int
  latestDistributionAt : Option String
  sourceCreatedAt : Option String
  deriving DecidableEq

/-- `DistributionSummaryResult`. -/
structure DistributionSummaryResult where
  items : List DistributionSummaryItem
  deriving DecidableEq

/-- `resolve_distribution_metadata`: the id, the title and the time of creation. -/
def resolveDistributionMetadata (assignment : SystemAssignmentInput) (input : AggregationInput) :
    String × String × Option String :=
  if assignment.sourceType = sourceAiGenerated then
    match input.aiSourceLookup assignment.sourceReference with
    | some metadata => (metadata.id, metadata.title, metadata.createdAt)
    | none =>
      (assignment.sourceReference, assignment.sourceType ++ ":" ++ assignment.sourceReference, none)
  else if assignment.sourceType = sourceSystemTopic then
    match input.topicOverrideLookup assignment.sourceReference with
    | some override => (override.id, override.title, override.createdAt)
    | none =>
      ("system_topic_" ++ assignment.sourceReference, assignment.sourceReference, none)
  else
    (assignment.sourceReference, assignment.sourceType ++ ":" ++ assignment.sourceReference, none)

/-- The summary item of an assignment of a known sub-subject. -/
def distributionItem (input : AggregationInput) (subSubject : SubSubjectTaxonomy)
    (a : SystemAssignmentInput) : DistributionSummaryItem :=
  let metadata := resolveDistributionMetadata a input
  { recommendationKey := makeSourceKey a.sourceType a.sourceReference
    recommendationItemId := metadata.1
    title := metadata.2.1
    sourceType := a.sourceType
    sourceReference := a.sourceReference
    subjectId := (subSubject.subject.map (·.id)).or a.subjectId
    subSubjectId := a.subSubjectId
    subject := subSubject.subject
    subSubject := some subSubject
    distinctUserCount := a.distinctUserCount
    latestDistributionAt := a.latestDistributionAt
    sourceCreatedAt := metadata.2.2 }

variable (C : Chrono)

/-- `compare_distribution_candidates`. -/
def compareDistributionCandidates (a b : DistributionSummaryItem) : Ordering :=
  (compare b.distinctUserCount a.distinctUserCount).then <|
    (compare (timestampValue C b.latestDistributionAt)
        (timestampValue C a.latestDistributionAt)).then <|
      (compare (timestampValue C b.sourceCreatedAt) (timestampValue C a.sourceCreatedAt)).then <|
        compare a.sourceReference b.sourceReference

/-- The id of the subject, or 0. -/
def subjectIdOrZero (item : DistributionSummaryItem) : Int := (item.subject.map (·.id)).getD 0

/-- The comparison of the global sort. -/
def compareSummaryItems (a b : DistributionSummaryItem) : Ordering :=
  (compare (subjectIdOrZero a) (subjectIdOrZero b)).then <|
    (compare a.subSubjectId b.subSubjectId).then <| compareDistributionCandidates C a b

/-- `group_and_sort_distribution`. -/
def groupAndSortDistribution (order : IterationOrder) (items : List DistributionSummaryItem)
    (maxPerSubSubject : Nat) : List DistributionSummaryItem :=
  topPerGroup order (·.subSubjectId) (compareDistributionCandidates C) (compareSummaryItems C)
    maxPerSubSubject items

/-- The filter of the assignments. -/
def isDistributionCandidate (input : AggregationInput) (a : SystemAssignmentInput) : Bool :=
  a.sourceType ∈ input.eligibleSourceTypes ∧
    max input.minimumDistinctUserCount 1 ≤ a.distinctUserCount

/-- The summary items of the candidates, before they are grouped. -/
def distributionItems (input : AggregationInput) (candidates : List SystemAssignmentInput) :
    List DistributionSummaryItem :=
  candidates.filterMap fun a =>
    (input.subSubjectLookup a.subSubjectId).map fun subSubject => distributionItem input subSubject a

/-- `build_system_distribution_summary`. -/
def buildSystemDistributionSummary (order : IterationOrder) (input : AggregationInput) :
    DistributionSummaryResult :=
  if input.eligibleSourceTypes.isEmpty then { items := [] }
  else
    let candidates := input.assignments.filter (isDistributionCandidate input)
    if candidates.isEmpty then { items := [] }
    else
      { items := groupAndSortDistribution C order (distributionItems input candidates)
          input.maximumItemsPerSubSubject }

end KlassGateway.Recommendation
