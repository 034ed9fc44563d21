import KlassGateway.Guarantees.CandidateSelection
import KlassGateway.Recommendation.PublishedTopics
/-!
# Candidates of the feed and of the topics API

* `feedItem_eligible_iff`: the feed takes every topic with a sub-subject for a candidate.
* `topicsAgree_iff`: it agrees with the topics API, and no topic that the API reports as
  `general_feed_only` is selected or has a say in the selection, exactly when each published
  topic with a sub-subject has an owner and a normalized status.
-/

namespace KlassGateway.Recommendation

open Lib Db.Admin

namespace TopicCatalog

/-- The feed item that is built from a topic. -/
def feedItem (db : TopicCatalog) (R : TopicRendering) (t : Topic) : FeedItem :=
  normalizeTopicItem (topicItem R (db.publishedTopicRow t))

/-- The topic is reported as `general_feed_only`. -/
def GeneralFeedOnly (t : Topic) : Prop := (buildPersonalization t).mode = "general_feed_only"

instance : DecidablePred GeneralFeedOnly := fun t =>
  inferInstanceAs (Decidable ((buildPersonalization t).mode = _))

/-- The catalog without the topics that are reported as `general_feed_only`. -/
def candidatesOnly (db : TopicCatalog) : TopicCatalog where
  topics := db.topics.filter fun t => ¬ GeneralFeedOnly t
  subSubjects := db.subSubjects
  subjects := db.subjects
  subSubject_fk := fun t ht => db.subSubject_fk t (List.mem_filter.1 ht).1
  subject_fk := db.subject_fk

/-- Each published topic with a sub-subject has an owner and a normalized status. -/
def Normalized (db : TopicCatalog) : Prop :=
  ∀ t ∈ db.topics, t.isPublished = true → t.subSubjectId.isSome = true →
    t.ownerUserId.isSome = true ∧ t.ownershipStatus = "normalized"

end TopicCatalog

open TopicCatalog

/-- The feed and the topics API tell the same of every published topic, and the topics that the
API leaves to the general feed neither are selected for a user nor change what is selected. -/
structure TopicsAgree (C : Chrono) (R : TopicRendering) (db : TopicCatalog) : Prop where
  eligible : ∀ t ∈ db.topics, t.isPublished = true →
    (isEligibleSystemGeneratedCandidate (db.feedItem R t) = true ↔
      (buildPersonalization t).eligible = true)
  selected : ∀ input : AggregationInput, input.topicItems = db.queryPublishedTopics R →
    (selectSystemGeneratedCandidates C (systemItems input) input).2.filterApplied = true →
    ∀ a ∈ (selectSystemGeneratedCandidates C (systemItems input) input).1,
      ∀ t ∈ db.topics, t.isPublished = true → GeneralFeedOnly t →
        unannotated a ≠ db.feedItem R t
  removed : ∀ input : AggregationInput, input.topicItems = db.queryPublishedTopics R →
    ∀ a, (∀ t ∈ db.topics, GeneralFeedOnly t → unannotated a ≠ db.feedItem R t) →
      (a ∈ allItems C input ↔
        a ∈ allItems C { input with topicItems := db.candidatesOnly.queryPublishedTopics R })

/-! ## One topic -/

/-- The join of a topic with a sub-subject has a subject. -/
theorem publishedTopicRow_subjectId {db : TopicCatalog} {t : Topic} (ht : t ∈ db.topics)
    (hss : t.subSubjectId.isSome = true) : (db.publishedTopicRow t).subjectId.isSome = true := by
  obtain ⟨id, hid⟩ := Option.isSome_iff_exists.1 hss
  obtain ⟨ss, hmem, hkey⟩ := db.subSubject_fk t ht id hid
  have hfound : (db.subSubjects.find? fun ss => ss.id = id).isSome = true := by
    rw [List.find?_isSome]
    exact ⟨ss, hmem, decide_eq_true hkey⟩
  simp only [publishedTopicRow, hid, Option.bind_some, Option.isSome_map]
  exact hfound

/-- The feed looks at the taxonomy only. -/
theorem feedItem_eligible_iff {db : TopicCatalog} {t : Topic} (R : TopicRendering)
    (ht : t ∈ db.topics) :
    isEligibleSystemGeneratedCandidate (db.feedItem R t) = true ↔ t.subSubjectId.isSome = true := by
  have hsource : (db.feedItem R t).sourceType = sourceSystemTopic := rfl
  have hss : (db.feedItem R t).subSubjectId = t.subSubjectId := rfl
  have hsubject : (db.feedItem R t).subjectId = (db.publishedTopicRow t).subjectId := rfl
  have hne : sourceSystemTopic ≠ sourceAdminUpload := by decide
  unfold isEligibleSystemGeneratedCandidate
  rw [hsource, if_neg hne, if_pos rfl, hss, hsubject]
  cases hsome : t.subSubjectId with
  | none => simp
  | some id =>
    have hjoin : (db.publishedTopicRow t).subjectId.isSome = true :=
      publishedTopicRow_subjectId ht (by rw [hsome]; rfl)
    obtain ⟨subjectId, hid⟩ := Option.isSome_iff_exists.1 hjoin
    rw [hid]
    simp [feedItem, normalizeTopicItem, topicItem]

/-- A published topic that is reported as `general_feed_only` has no sub-subject, when the topics
are normalized. -/
theorem subSubjectId_of_generalFeedOnly {db : TopicCatalog} {t : Topic} (hdb : db.Normalized)
    (ht : t ∈ db.topics) (hpublished : t.isPublished = true) (hgeneral : GeneralFeedOnly t) :
    t.subSubjectId = none := by
  cases hss : t.subSubjectId with
  | none => rfl
  | some id =>
    have hsome : t.subSubjectId.isSome = true := by
      rw [hss]
      rfl
    have heligible : (buildPersonalization t).eligible = true :=
      buildPersonalization_eligible_iff.2 ⟨hsome, hdb t ht hpublished hsome⟩
    rw [buildPersonalization_mode_iff.1 hgeneral] at heligible
    cases heligible

/-! ## The feed -/

/-- When the personalization filters, what is left is selected. -/
theorem exists_selectedItems {C : Chrono} {items : List FeedItem} {input : AggregationInput}
    (h : (selectSystemGeneratedCandidates C items input).2.filterApplied = true) :
    ∃ ctx, (selectSystemGeneratedCandidates C items input).1 = selectedItems ctx items := by
  rw [selectSystemGeneratedCandidates] at h ⊢
  split_ifs at h ⊢ with hempty
  · cases h
  · cases hctx : input.personalizationContext with
    | none =>
      rw [hctx] at h
      cases h
    | some ctx =>
      simp only [hctx] at h ⊢
      split_ifs at h ⊢
      · cases h
      · exact ⟨ctx, rfl⟩
      · cases h

/-- Normalized topics are all candidates. -/
theorem queryPublishedTopics_candidatesOnly {db : TopicCatalog} (hdb : db.Normalized)
    (R : TopicRendering) : db.candidatesOnly.queryPublishedTopics R = db.queryPublishedTopics R := by
  have hfilter : db.candidatesOnly.topics.filter (fun t => t.isPublished ∧ t.subSubjectId.isSome) =
      db.topics.filter fun t => t.isPublished ∧ t.subSubjectId.isSome := by
    show (db.topics.filter fun t => ¬ GeneralFeedOnly t).filter _ = _
    rw [List.filter_filter]
    refine List.filter_congr fun t ht => ?_
    by_cases hpublished : t.isPublished = true ∧ t.subSubjectId.isSome = true
    · have hcandidate : ¬ GeneralFeedOnly t := by
        intro hgeneral
        have hnone := subSubjectId_of_generalFeedOnly hdb ht hpublished.1 hgeneral
        rw [hnone] at hpublished
        exact absurd hpublished.2 (by decide)
      simp [hpublished, hcandidate]
    · simp [hpublished]
  unfold queryPublishedTopics
  rw [hfilter]
  rfl

/-- The feed and the topics API agree exactly when the topics of the feed are normalized. -/
theorem topicsAgree_iff (C : Chrono) (R : TopicRendering) (db : TopicCatalog) :
    TopicsAgree C R db ↔ db.Normalized := by
  constructor
  · intro h t ht hpublished hss
    have heligible := (h.eligible t ht hpublished).1 ((feedItem_eligible_iff R ht).2 hss)
    exact (buildPersonalization_eligible_iff.1 heligible).2
  · intro hdb
    refine ⟨fun t ht hpublished => ?_, fun input hinput hfilter a ha t ht hpublished hgeneral heq => ?_,
      fun input hinput a ha => ?_⟩
    · rw [feedItem_eligible_iff R ht, buildPersonalization_eligible_iff]
      exact ⟨fun hss => ⟨hss, hdb t ht hpublished hss⟩, fun h => h.1⟩
    · obtain ⟨ctx, hselected⟩ := exists_selectedItems hfilter
      rw [hselected] at ha
      obtain ⟨ssId, hssId, -⟩ := mem_selectedItems ha
      have hsame : a.subSubjectId = t.subSubjectId := congrArg FeedItem.subSubjectId heq
      rw [hssId, subSubjectId_of_generalFeedOnly hdb ht hpublished hgeneral] at hsame
      cases hsame
    · rw [queryPublishedTopics_candidatesOnly hdb, ← hinput]

/-! ## An unresolved owner -/

/-- A published topic of a sub-subject whose owner was never resolved, and a normalized one of
another subject. -/
def unresolvedCatalog : TopicCatalog where
  topics :=
    [{ id := ⟨1⟩, title := "Aljabar", teacherId := "legacy", subSubjectId := some 5 },
     { id := ⟨2⟩, title := "Sel", teacherId := "2", subSubjectId := some 6, ownerUserId := some 2
       ownershipStatus := "normalized" }]
  subSubjects := [⟨5, 1, "Aljabar", "aljabar"⟩, ⟨6, 2, "Sel", "sel"⟩]
  subjects := [⟨1, "Matematika", "matematika"⟩, ⟨2, "Biologi", "biologi"⟩]
  subSubject_fk := by decide
  subject_fk := by decide

/-- No content types, and no times. -/
def plainRendering : TopicRendering := ⟨fun _ => none, fun _ => ""⟩

/-- The feed takes the topic without an owner for a candidate. -/
theorem unresolved_disagrees : ¬ TopicsAgree dateless plainRendering unresolvedCatalog := by
  intro h
  have heligible := (h.eligible _ List.mem_cons_self rfl).1
    ((feedItem_eligible_iff plainRendering List.mem_cons_self).2 rfl)
  exact absurd heligible (by decide)

end KlassGateway.Recommendation
