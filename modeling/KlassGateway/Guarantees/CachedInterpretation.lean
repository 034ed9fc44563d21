import KlassGateway.Contracts.PlanMode
import KlassGateway.Guarantees.InterpretationRepair
/-!
# Interpretations from the cache

An accepted interpretation is written into the cache and read back on a later
hit.  `cached_interpretation` says exactly when it reads back as it was, and that
a hit differs from the first answer in nothing but the plan mode, which the
service derives again.

* A float is written as a text that need not be read as the same float:
  `F64.ReadsBack` is the condition on one number.  A number that is not finite is
  written as null, which is read as a default.
* An interpreted text is read without the white space around it.
* `decode_toJson_iff` says of each record which of its fields need not read back.
* The other fields that could fail to read back cannot be in a payload that was
  decoded: integers are within 32 bits, and a value that is kept as it is is no
  null.
-/

namespace KlassGateway.Contracts

open Lib Lib.Json

/-- The number is finite, and its text is one of the same number. -/
def F64.ReadsBack (f : Rat → Json.Number) : F64 → Prop
  | .finite q => (f q).toRat = q
  | _ => False

namespace PromptInterpretation

variable {P : ContractPlatform} {f : Rat → Json.Number}

/-! ## Values -/

theorem lenientF64_toJson_iff {n : F64} :
    lenientF64 P (mapFloats f n.toJson) = n ↔ n.ReadsBack f := by
  cases n with
  | finite q => simp [F64.toJson, lenientF64, F64.ReadsBack]
  | _ => simp [F64.toJson, lenientF64, F64.ReadsBack]

theorem optionalF64_toJson_iff {n : F64} :
    optionalF64 P (mapFloats f n.toJson) = some n ↔ n.ReadsBack f := by
  cases n with
  | finite q => simp [F64.toJson, optionalF64, F64.ReadsBack]
  | _ => simp [F64.toJson, optionalF64, F64.ReadsBack]

/-- A text that its lenient deserialiser reads as it is. -/
def IsTrimmed (s : String) : Prop := Text.trim s = s ∧ s ≠ ""

instance (s : String) : Decidable (IsTrimmed s) := inferInstanceAs (Decidable (_ ∧ _))

theorem optionalString_str_iff {s : String} :
    optionalString P (.str s) = some s ↔ IsTrimmed s := by
  change (if Text.trim s = "" then none else some (Text.trim s)) = some s ↔ _
  split
  · next hblank =>
    rw [IsTrimmed, hblank]
    simp [eq_comm]
  · next hblank =>
    rw [Option.some.injEq, IsTrimmed, and_iff_left_of_imp]
    intro htrim
    rwa [htrim] at hblank

theorem mapFloats_textArray (xs : List String) :
    mapFloats f (textArray xs) = textArray xs := by
  simp [textArray, Function.comp_def]

/-- Values that are kept as they are. -/
theorem list_some_iff {items : List Json} :
    list some (.arr (items.map (mapFloats f))) = some items ↔
      ∀ v ∈ items, mapFloats f v = v := by
  have h : list some (.arr (items.map (mapFloats f))) = some items ↔
      ∀ v ∈ items, some (mapFloats f v) = some v := list_map_eq_some
  simpa using h

/-- An optional text that may have been skipped. -/
@[simp] theorem elim_text (o : Option String) :
    o.elim (some none) (nullable asStr ∘ mapFloats f ∘ str) = some o :=
  elim_eq_some.2 fun _ _ => rfl

/-- A value that is kept as it is, if it is there. -/
theorem elim_value_iff {o : Option Json} (h : ∀ v ∈ o, v.isNull = false) :
    o.elim (some none) (nullable some ∘ mapFloats f) = some o ↔ ∀ v ∈ o, mapFloats f v = v := by
  rw [elim_eq_some]
  refine forall₂_congr fun v hv => ?_
  rw [Function.comp_apply, nullable_eq_some ((isNull_mapFloats v).trans (h v hv)),
    Option.some.injEq]

/-! ## Records

Each lemma says when a record reads back from the column that it was written to. -/

theorem TeacherIntent.decode_toJson (i : TeacherIntent) :
    decode P (mapFloats f i.toJson) = some i := by
  simp [decode, toJson, field_obj, lenient, asStr, lenientBool]

theorem InterpretationConstraints.decode_toJson {c : InterpretationConstraints}
    (h : ∀ n ∈ c.maxDurationMinutes, IsI32 n) : decode (mapFloats f c.toJson) = some c := by
  have hduration : c.maxDurationMinutes.elim (some none)
      ((fun v => some (optionalI32 v)) ∘ mapFloats f ∘ fun n => num (.int n)) =
      some c.maxDurationMinutes :=
    elim_eq_some.2 fun n hn => congrArg some (optionalI32_int (h n hn))
  simp [decode, toJson, fieldOr_obj, texts, lenientOr, optionalText, skipText, asStr, hduration,
    mapFloats_textArray, list_textArray]

theorem OutputCandidate.decode_toJson_iff {c : OutputCandidate} :
    decode P (mapFloats f c.toJson) = some c ↔ c.score.ReadsBack f := by
  rw [← lenientF64_toJson_iff (P := P)]
  obtain ⟨type, score, reason⟩ := c
  simp [decode, toJson, field_obj, lenient, asStr]

theorem BlueprintSection.decode_toJson (s : BlueprintSection) :
    decode (mapFloats f s.toJson) = some s := by
  simp [decode, toJson, field_obj, asStr, mapFloats_textArray, list_textArray]

theorem DocumentBlueprint.decode_toJson (b : DocumentBlueprint) :
    decode (mapFloats f b.toJson) = some b := by
  have hsections : list BlueprintSection.decode
      (.arr ((b.sections.map BlueprintSection.toJson).map (mapFloats f))) = some b.sections := by
    rw [List.map_map]
    exact list_map fun s _ => s.decode_toJson
  rw [List.map_map] at hsections
  simp [decode, toJson, field_obj, asStr, hsections]

theorem SubjectContext.decode_toJson (c : SubjectContext) :
    decode (mapFloats f c.toJson) = some c := by
  simp [decode, toJson, field_obj, fieldOr_obj, optionalText, skipText, asStr]

theorem SubSubjectContext.decode_toJson (c : SubSubjectContext) :
    decode (mapFloats f c.toJson) = some c := by
  simp [decode, toJson, field_obj, fieldOr_obj, optionalText, skipText, asStr]

theorem TargetAudience.decode_toJson (a : TargetAudience) :
    decode (mapFloats f a.toJson) = some a := by
  simp [decode, toJson, field_obj, fieldOr_obj, optionalText, skipText, asStr]

theorem RequestedMediaCharacteristics.decode_toJson (c : RequestedMediaCharacteristics) :
    decode (mapFloats f c.toJson) = some c := by
  simp [decode, toJson, fieldOr_obj, texts, optionalText, skipText,
    mapFloats_textArray, list_textArray]

theorem Asset.decode_toJson (a : Asset) : decode P (mapFloats f a.toJson) = some a := by
  simp [decode, toJson, field_obj, lenient, asStr, lenientBool]

theorem AssessmentBlock.decode_toJson (b : AssessmentBlock) :
    decode (mapFloats f b.toJson) = some b := by
  simp [decode, toJson, field_obj, asStr]

theorem Confidence.decode_toJson_iff {c : Confidence} :
    decode P (mapFloats f c.toJson) = some c ↔ c.score.ReadsBack f := by
  rw [← lenientF64_toJson_iff (P := P)]
  obtain ⟨score, label, rationale⟩ := c
  simp [decode, toJson, field_obj, fieldOr_obj, lenient, optionalText, skipText, asStr]

theorem InterpretationFallback.decode_toJson (b : InterpretationFallback) :
    decode (mapFloats f b.toJson) = some b := by
  simp [decode, toJson, fieldOr_obj, optionalText, skipText, asBool]

/-- The raw values of a content integrity and its score. -/
def ContentIntegrity.ReadsBack (f : Rat → Json.Number) (c : ContentIntegrity) : Prop :=
  c.integrityScore.ReadsBack f ∧ (∀ v ∈ c.violations, mapFloats f v = v) ∧
    ∀ v ∈ c.metaRepairs, mapFloats f v = v

theorem ContentIntegrity.decode_toJson_iff {c : ContentIntegrity}
    (h : ∀ v ∈ c.metaRepairs, v.isNull = false) :
    decode P (mapFloats f c.toJson) = some c ↔ c.ReadsBack f := by
  rw [ReadsBack, ← lenientF64_toJson_iff (P := P), ← list_some_iff, ← elim_value_iff h]
  obtain ⟨score, violations, source, repairs⟩ := c
  simp [decode, toJson, field_obj, fieldOr_obj, lenient, asStr, Option.bind_eq_some_iff]
  tauto

theorem PlanMode.decode_toJson_iff {m : PlanMode} :
    decode P (mapFloats f m.toJson) = some m ↔ ∀ c ∈ m.contentTypeConfidence, c.ReadsBack f := by
  have hconfidence : m.contentTypeConfidence.elim (some none)
      ((fun v => some (optionalF64 P v)) ∘ mapFloats f ∘ F64.toJson) =
        some m.contentTypeConfidence ↔ ∀ c ∈ m.contentTypeConfidence, c.ReadsBack f := by
    simp [elim_eq_some, optionalF64_toJson_iff]
  rw [← hconfidence]
  obtain ⟨active, reason, detected, confidence⟩ := m
  simp [decode, toJson, field_obj, fieldOr_obj, lenient, lenientOr, optionalText, skipText,
    lenientBool, Option.bind_eq_some_iff]

theorem MissingField.decode_toJson_iff {m : MissingField} :
    decode (mapFloats f m.toJson) = some m ↔ ∀ v ∈ m.suggestions, mapFloats f v = v := by
  rw [← list_some_iff]
  obtain ⟨fieldId, fieldLabel, priority, question, suggestions, inputType⟩ := m
  simp [decode, toJson, field_obj, fieldOr_obj, asStr, Option.bind_eq_some_iff]

/-- What is asked of interpreted fields so that they read back. -/
def InterpretedFields.ReadsBack (m : InterpretedFields) : Prop :=
  ∀ o ∈ [m.targetAudience, m.outputType, m.subject, m.topic, m.pageCount, m.difficultyLevel,
    m.slideCount, m.meetingDuration, m.teachingMethod, m.assessmentMethod, m.visualDensity,
    m.speakerNotes, m.questionType], ∀ s ∈ o, IsTrimmed s

theorem InterpretedFields.decode_toJson_iff {m : InterpretedFields}
    (h : ∀ n ∈ m.questionCount, IsI32 n) :
    decode P (mapFloats f m.toJson) = some m ↔ m.ReadsBack := by
  have htext (o : Option String) : o.elim (some none)
      ((fun v => some (optionalString P v)) ∘ mapFloats f ∘ str) = some o ↔
      ∀ s ∈ o, IsTrimmed s := by
    simp [elim_eq_some, optionalString_str_iff]
  have hactivities (o : Option Bool) : o.elim (some none)
      ((fun v => some (optionalBool P v)) ∘ mapFloats f ∘ Json.bool) = some o :=
    elim_eq_some.2 fun _ _ => rfl
  have hobjectives (o : Option (List String)) : o.elim (some none)
      (nullable (list asStr) ∘ mapFloats f ∘ textArray) = some o :=
    elim_eq_some.2 fun xs _ => by
      rw [Function.comp_apply, Function.comp_apply, mapFloats_textArray]
      exact congrArg (Option.map some) (list_textArray xs)
  have hcount : m.questionCount.elim (some none)
      (nullable i32 ∘ mapFloats f ∘ fun n => num (.int n)) = some m.questionCount :=
    elim_eq_some.2 fun n hn => congrArg (Option.map some) (i32_int (h n hn))
  obtain ⟨audience, outputType, subject, topic, objectives, pages, difficulty, activities, slides,
    questions, duration, method, assessment, density, notes, question⟩ := m
  simp only [ReadsBack, List.forall_mem_cons, List.not_mem_nil, false_imp_iff, implies_true,
    and_true, ← htext]
  rw [toJson, mapFloats_obj, ← yields_eq]
  simp only [decode, record_obj, yields_seq, yields_pure, InterpretedFields.mk.injEq,
    yields_and_left, yields_and_right]
  simp only [yields_eq, lenientOr, fieldOr_obj, lookup_mapFields]
  simp [skipText, hactivities, hobjectives, hcount]

/-! ## The payload -/

/-- What every payload that was decoded satisfies. -/
structure InterpretationPayload.IsDecoded (p : InterpretationPayload) : Prop where
  duration : ∀ n ∈ p.constraints.maxDurationMinutes, IsI32 n
  integrityRepairs : ∀ c ∈ p.contentIntegrity, ∀ v ∈ c.metaRepairs, v.isNull = false
  metaRepairs : ∀ v ∈ p.metaRepairs, v.isNull = false
  questionCount : ∀ m ∈ p.interpretedFields, ∀ n ∈ m.questionCount, IsI32 n

/-- What is asked of a payload so that it reads back: its numbers do, and so do its interpreted
texts. -/
@[mk_iff] structure InterpretationPayload.ReadsBack (f : Rat → Json.Number)
    (p : InterpretationPayload) : Prop where
  candidates : ∀ c ∈ p.outputTypeCandidates, c.score.ReadsBack f
  confidence : p.confidence.score.ReadsBack f
  contentIntegrity : ∀ c ∈ p.contentIntegrity, c.ReadsBack f
  metaRepairs : ∀ v ∈ p.metaRepairs, mapFloats f v = v
  planMode : ∀ c ∈ p.planMode.contentTypeConfidence, c.ReadsBack f
  interpretedFields : ∀ m ∈ p.interpretedFields, m.ReadsBack
  missingFields : ∀ m ∈ p.missingFields, ∀ v ∈ m.suggestions, mapFloats f v = v

/-- A payload was decoded from an object field by field. -/
theorem InterpretationPayload.decode_obj_iff {fields : Fields} {p : InterpretationPayload} :
    decode P (.obj fields) = some p ↔
      field "schema_version" asStr (.obj fields) = some p.schemaVersion ∧
      field "teacher_prompt" asStr (.obj fields) = some p.teacherPrompt ∧
      field "language" asStr (.obj fields) = some p.language ∧
      field "teacher_intent" (TeacherIntent.decode P) (.obj fields) = some p.teacherIntent ∧
      texts "learning_objectives" (.obj fields) = some p.learningObjectives ∧
      field "constraints" InterpretationConstraints.decode (.obj fields) = some p.constraints ∧
      field "output_type_candidates" (list (OutputCandidate.decode P)) (.obj fields) =
        some p.outputTypeCandidates ∧
      field "resolved_output_type_reasoning" asStr (.obj fields) =
        some p.resolvedOutputTypeReasoning ∧
      field "document_blueprint" DocumentBlueprint.decode (.obj fields) =
        some p.documentBlueprint ∧
      fieldOr "subject_context" none (nullable SubjectContext.decode) (.obj fields) =
        some p.subjectContext ∧
      fieldOr "sub_subject_context" none (nullable SubSubjectContext.decode) (.obj fields) =
        some p.subSubjectContext ∧
      fieldOr "target_audience" none (nullable TargetAudience.decode) (.obj fields) =
        some p.targetAudience ∧
      fieldOr "requested_media_characteristics" {} RequestedMediaCharacteristics.decode
        (.obj fields) = some p.requestedMediaCharacteristics ∧
      fieldOr "assets" [] (list (Asset.decode P)) (.obj fields) = some p.assets ∧
      fieldOr "assessment_or_activity_blocks" [] (list AssessmentBlock.decode) (.obj fields) =
        some p.assessmentOrActivityBlocks ∧
      field "teacher_delivery_summary" asStr (.obj fields) = some p.teacherDeliverySummary ∧
      field "confidence" (Confidence.decode P) (.obj fields) = some p.confidence ∧
      fieldOr "fallback" {} InterpretationFallback.decode (.obj fields) = some p.fallback ∧
      fieldOr "content_integrity" none (nullable (ContentIntegrity.decode P)) (.obj fields) =
        some p.contentIntegrity ∧
      metaRepairsField (.obj fields) = some p.metaRepairs ∧
      fieldOr "plan_mode" {} (PlanMode.decode P) (.obj fields) = some p.planMode ∧
      fieldOr "interpreted_fields" none (nullable (InterpretedFields.decode P)) (.obj fields) =
        some p.interpretedFields ∧
      fieldOr "missing_fields" [] (list MissingField.decode) (.obj fields) =
        some p.missingFields := by
  obtain ⟨version, prompt, language, intent, objectives, constraints, candidates, reasoning,
    blueprint, subject, subSubject, audience, characteristics, assets, blocks, summary, confidence,
    fallback, integrity, repairs, planMode, interpreted, missing⟩ := p
  rw [← yields_eq]
  simp only [decode, record_obj, yields_seq, yields_pure, InterpretationPayload.mk.injEq,
    yields_and_left, yields_and_right]
  simp only [yields_eq]

/-- An optional record that may have been skipped. -/
theorem elim_record {α : Type} {d : Decoder α} {e : α → Json} {o : Option α}
    (hobject : ∀ a, (mapFloats f (e a)).isNull = false) :
    o.elim (some none) (nullable d ∘ mapFloats f ∘ e) = some o ↔
      ∀ a ∈ o, d (mapFloats f (e a)) = some a := by
  rw [elim_eq_some]
  exact forall₂_congr fun a _ => nullable_eq_some (hobject a)

/-- The elements of a list of records. -/
theorem list_records {α : Type} {d : Decoder α} {e : α → Json} {xs : List α} :
    list d (.arr (xs.map (mapFloats f ∘ e))) = some xs ↔ ∀ x ∈ xs, d (mapFloats f (e x)) = some x :=
  list_map_eq_some

theorem metaRepairsField_iff_readsBack {v : Json} {o : Option Json}
    (hown : v.get "meta_repairs" = o.map (mapFloats f)) (hother : v.get "_meta_repairs" = none)
    (h : ∀ v ∈ o, v.isNull = false) :
    metaRepairsField v = some o ↔ ∀ v ∈ o, mapFloats f v = v := by
  rw [← elim_value_iff h]
  unfold metaRepairsField
  rw [hown, hother]
  cases o with
  | none => rfl
  | some w => rfl

theorem InterpretationPayload.decode_toJson_iff {p : InterpretationPayload} (h : p.IsDecoded) :
    decode P (mapFloats f p.toJson) = some p ↔ p.ReadsBack f := by
  have hmeta : metaRepairsField (mapFloats f p.toJson) = some p.metaRepairs ↔
      ∀ v ∈ p.metaRepairs, mapFloats f v = v :=
    metaRepairsField_iff_readsBack (by simp [toJson]) (by simp [toJson]) h.metaRepairs
  have hcandidates : list (OutputCandidate.decode P)
      (.arr (p.outputTypeCandidates.map (mapFloats f ∘ OutputCandidate.toJson))) =
        some p.outputTypeCandidates ↔ ∀ c ∈ p.outputTypeCandidates, c.score.ReadsBack f := by
    simp only [list_records, OutputCandidate.decode_toJson_iff]
  have hassets : list (Asset.decode P) (.arr (p.assets.map (mapFloats f ∘ Asset.toJson))) =
      some p.assets := list_records.2 fun a _ => a.decode_toJson
  have hassessments : list AssessmentBlock.decode
      (.arr (p.assessmentOrActivityBlocks.map (mapFloats f ∘ AssessmentBlock.toJson))) =
        some p.assessmentOrActivityBlocks := list_records.2 fun b _ => b.decode_toJson
  have hmissing : list MissingField.decode
      (.arr (p.missingFields.map (mapFloats f ∘ MissingField.toJson))) = some p.missingFields ↔
      ∀ m ∈ p.missingFields, ∀ v ∈ m.suggestions, mapFloats f v = v := by
    simp only [list_records, MissingField.decode_toJson_iff]
  have hsubject (o : Option SubjectContext) : o.elim (some none)
      (nullable SubjectContext.decode ∘ mapFloats f ∘ SubjectContext.toJson) = some o :=
    (elim_record fun _ => rfl).2 fun c _ => c.decode_toJson
  have hsubSubject (o : Option SubSubjectContext) : o.elim (some none)
      (nullable SubSubjectContext.decode ∘ mapFloats f ∘ SubSubjectContext.toJson) = some o :=
    (elim_record fun _ => rfl).2 fun c _ => c.decode_toJson
  have haudience (o : Option TargetAudience) : o.elim (some none)
      (nullable TargetAudience.decode ∘ mapFloats f ∘ TargetAudience.toJson) = some o :=
    (elim_record fun _ => rfl).2 fun a _ => a.decode_toJson
  have hintegrity : p.contentIntegrity.elim (some none)
      (nullable (ContentIntegrity.decode P) ∘ mapFloats f ∘ ContentIntegrity.toJson) =
        some p.contentIntegrity ↔ ∀ c ∈ p.contentIntegrity, c.ReadsBack f := by
    rw [elim_record fun _ => rfl]
    exact forall₂_congr fun c hc =>
      ContentIntegrity.decode_toJson_iff (h.integrityRepairs c hc)
  have hinterpreted : p.interpretedFields.elim (some none)
      (nullable (InterpretedFields.decode P) ∘ mapFloats f ∘ InterpretedFields.toJson) =
        some p.interpretedFields ↔ ∀ m ∈ p.interpretedFields, m.ReadsBack := by
    rw [elim_record fun _ => rfl]
    exact forall₂_congr fun m hm =>
      InterpretedFields.decode_toJson_iff (h.questionCount m hm)
  have hconstraints := InterpretationConstraints.decode_toJson (f := f) h.duration
  rw [toJson, mapFloats_obj] at hmeta ⊢
  rw [decode_obj_iff, readsBack_iff, hmeta]
  simp only [texts, field_obj, fieldOr_obj, lookup_mapFields]
  simp [asStr, mapFloats_textArray, list_textArray, TeacherIntent.decode_toJson, hconstraints,
    DocumentBlueprint.decode_toJson, hsubject, hsubSubject, haudience,
    RequestedMediaCharacteristics.decode_toJson, hassets, hassessments,
    InterpretationFallback.decode_toJson, hcandidates, hmissing, hintegrity, hinterpreted,
    Confidence.decode_toJson_iff, PlanMode.decode_toJson_iff]

/-! ## What was decoded -/

theorem optionalI32_isI32 {v : Json} {n : Int} (h : optionalI32 v = some n) : IsI32 n := by
  cases v with
  | num k =>
    cases k with
    | int k =>
      simp only [optionalI32] at h
      split at h
      · cases h
        have hlo : -(2 ^ 32 / 2) ≤ Int.bmod k (2 ^ 32) := Int.le_bmod (by decide)
        have hhi : Int.bmod k (2 ^ 32) < (2 ^ 32 + 1) / 2 := Int.bmod_lt (by decide)
        unfold IsI32
        omega
      · cases h
    | float q => cases h
  | str s =>
    simp only [optionalI32, Option.filter_eq_some_iff] at h
    have hrange : -(2 ^ 31) ≤ n ∧ n < 2 ^ 31 := of_decide_eq_true h.2
    exact hrange
  | _ => cases h

theorem i32_isI32 {v : Json} {n : Int} (h : i32 v = some n) : IsI32 n := by
  cases v with
  | num k =>
    cases k with
    | int k =>
      change (if -(2 ^ 31) ≤ k ∧ k < 2 ^ 31 then some k else none) = some n at h
      obtain ⟨hk, heq⟩ := Option.ite_none_right_eq_some.1 h
      cases heq
      exact hk
    | float q => exact nomatch (show none = some n from h)
  | _ => exact nomatch (show none = some n from h)

theorem nullable_some_notNull {v w : Json} (h : nullable some v = some (some w)) :
    w.isNull = false := by
  cases v <;> simp [nullable] at h <;> subst h <;> rfl

/-- What a nullable field holds was decoded from its value. -/
theorem fieldOr_nullable_eq_some {α : Type} {key : String} {d : Decoder α} {fields : Fields}
    {o : Option α} (h : fieldOr key none (nullable d) (.obj fields) = some o) {a : α} (ha : a ∈ o) :
    ∃ v, v.isNull = false ∧ d v = some a := by
  rw [fieldOr_obj] at h
  cases ha
  cases hv : lookup key fields with
  | none => simp [hv] at h
  | some v =>
    rw [hv, Option.elim_some] at h
    have hnull : v.isNull = false := by
      cases v with
      | null => cases h
      | _ => rfl
    exact ⟨v, hnull, (nullable_eq_some hnull).1 h⟩

theorem constraints_isI32 {v : Json} {c : InterpretationConstraints}
    (h : InterpretationConstraints.decode v = some c) :
    ∀ n ∈ c.maxDurationMinutes, IsI32 n := by
  obtain ⟨fields, -, hfields⟩ := record_eq_some h
  rw [← yields_eq] at hfields
  simp only [yields_seq, yields_pure] at hfields
  obtain ⟨_, -, duration, hread, _, -, _, -, _, -, rfl⟩ := hfields
  intro n hn
  cases hn
  unfold lenientOr at hread
  rw [fieldOr_obj] at hread
  cases hv : lookup "max_duration_minutes" fields with
  | none => simp [hv] at hread
  | some x =>
    rw [hv] at hread
    exact optionalI32_isI32 (Option.some.inj hread)

theorem integrity_notNull {v : Json} {c : ContentIntegrity}
    (h : ContentIntegrity.decode P v = some c) : ∀ w ∈ c.metaRepairs, w.isNull = false := by
  obtain ⟨fields, -, hfields⟩ := record_eq_some h
  rw [← yields_eq] at hfields
  simp only [yields_seq, yields_pure] at hfields
  obtain ⟨_, -, _, -, _, -, repairs, hread, rfl⟩ := hfields
  intro w hw
  obtain ⟨x, hnull, hx⟩ := fieldOr_nullable_eq_some hread hw
  cases hx
  exact hnull

theorem interpreted_isI32 {v : Json} {m : InterpretedFields}
    (h : InterpretedFields.decode P v = some m) : ∀ n ∈ m.questionCount, IsI32 n := by
  obtain ⟨fields, -, hfields⟩ := record_eq_some h
  rw [← yields_eq] at hfields
  simp only [yields_seq, yields_pure] at hfields
  obtain ⟨_, -, _, -, _, -, _, -, _, -, _, -, _, -, _, -, _, -, count, hread, _, -, _, -, _, -,
    _, -, _, -, _, -, rfl⟩ := hfields
  intro n hn
  obtain ⟨x, -, hx⟩ := fieldOr_nullable_eq_some hread hn
  exact i32_isI32 hx

theorem metaRepairs_notNull {v : Json} {o : Option Json} (h : metaRepairsField v = some o) :
    ∀ w ∈ o, w.isNull = false := by
  intro w hw
  cases hw
  unfold metaRepairsField at h
  split at h
  · cases h
  · exact nullable_some_notNull h
  · exact nullable_some_notNull h
  · cases h

theorem InterpretationPayload.isDecoded {v : Json} {p : InterpretationPayload}
    (h : decode P v = some p) : p.IsDecoded := by
  obtain ⟨fields, -, hfields⟩ := record_eq_some h
  obtain ⟨-, -, -, -, -, hconstraints, -, -, -, -, -, -, -, -, -, -, -, -, hintegrity, hmeta, -,
    hinterpreted, -⟩ := decode_obj_iff.1 ((record_obj fields).trans hfields)
  obtain ⟨x, -, hx⟩ := Option.bind_eq_some_iff.1 hconstraints
  refine ⟨constraints_isI32 hx, fun c hc => ?_, metaRepairs_notNull hmeta, fun m hm => ?_⟩
  · obtain ⟨y, -, hy⟩ := fieldOr_nullable_eq_some hintegrity hc
    exact integrity_notNull hy
  · obtain ⟨y, -, hy⟩ := fieldOr_nullable_eq_some hinterpreted hm
    exact interpreted_isI32 hy

/-- A completion with nothing but its prompt. -/
def promptOnly : Json := .obj [("teacher_prompt", "fotosintesis")]

/-- What is written for it reads back on the ASCII platform, whose floats do. -/
theorem promptOnly_readsBack {p : InterpretationPayload}
    (h : decodeAndValidate asciiContracts promptOnly = some p) :
    p.ReadsBack asciiContracts.jsonbFloat := by
  have hnumbers : (decodeAndValidate asciiContracts promptOnly).map (fun p =>
      (p.outputTypeCandidates.map OutputCandidate.score, p.confidence.score,
        p.planMode.contentTypeConfidence)) =
      some ([.finite (82 / 100), .finite (64 / 100), .finite (46 / 100)], .finite (6 / 10),
        some (.finite (6 / 10))) := by decide +kernel
  have hmissing : (decodeAndValidate asciiContracts promptOnly).map (fun p =>
      (p.contentIntegrity.isNone, p.metaRepairs.isNone, p.missingFields.isEmpty)) =
      some (true, true, true) := by decide +kernel
  have htexts : (decodeAndValidate asciiContracts promptOnly).map (fun p =>
      p.interpretedFields.all fun m =>
        [m.targetAudience, m.outputType, m.subject, m.topic, m.pageCount, m.difficultyLevel,
          m.slideCount, m.meetingDuration, m.teachingMethod, m.assessmentMethod, m.visualDensity,
          m.speakerNotes, m.questionType].all fun o => o.all fun s => IsTrimmed s) =
      some true := by decide +kernel
  rw [h] at hnumbers hmissing htexts
  simp only [Option.map_some, Option.some.injEq, Prod.mk.injEq, Option.isNone_iff_eq_none,
    List.isEmpty_iff] at hnumbers hmissing htexts
  obtain ⟨hscores, hconfidence, hplan⟩ := hnumbers
  obtain ⟨hintegrity, hrepairs, hmissing⟩ := hmissing
  have hfinite (q : Rat) : F64.ReadsBack asciiContracts.jsonbFloat (.finite q) := rfl
  refine ⟨fun c hc => ?_, ?_, by simp [hintegrity], by simp [hrepairs], fun c hc => ?_,
    fun m hm o ho s hs => ?_, by simp [hmissing]⟩
  · have hmem : c.score ∈ p.outputTypeCandidates.map OutputCandidate.score :=
      List.mem_map_of_mem hc
    rw [hscores] at hmem
    simp only [List.mem_cons, List.not_mem_nil, or_false] at hmem
    rcases hmem with hmem | hmem | hmem
    · rw [hmem]
      exact hfinite _
    · rw [hmem]
      exact hfinite _
    · rw [hmem]
      exact hfinite _
  · rw [hconfidence]
    exact hfinite _
  · rw [hplan] at hc
    cases hc
    exact hfinite _
  · rw [Option.mem_def.1 hm, Option.all_some, List.all_eq_true] at htexts
    have htext := htexts o ho
    rw [Option.mem_def.1 hs, Option.all_some] at htext
    exact of_decide_eq_true htext

/-- A topic with a blank around it, as the text of an object. -/
def blankTopic : Json :=
  .obj [("teacher_prompt", "fotosintesis"),
    ("interpreted_fields", .obj [("topic", .obj [("text", " fotosintesis")])])]

/-- A confidence that is given as a text. -/
def textConfidence : Json :=
  .obj [("teacher_prompt", "fotosintesis"),
    ("plan_mode", .obj [("content_type_confidence", "0.9519418628696709")])]

/-- The float nearest to `0.9519418628696709`, which is written so. -/
def exactConfidence : Rat := 8574330037796451 / 2 ^ 53

/-- The platform that reads the text exactly, as the standard library does, and the number in the
column as the float below, as `serde_json` does. -/
def roundingContracts : ContractPlatform :=
  { asciiContracts with
    parseF64 := fun s => if s = "0.9519418628696709" then some (.finite exactConfidence) else none
    jsonbFloat := fun q =>
      .float (if q = exactConfidence then 8574330037796450 / 2 ^ 53 else q) }

end PromptInterpretation

end KlassGateway.Contracts
