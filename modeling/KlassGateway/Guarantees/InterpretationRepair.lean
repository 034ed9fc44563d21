import KlassGateway.Contracts.InterpretationRepair
import KlassGateway.System
import Mathlib.Tactic.MkIffOfInductiveProp
/-!
# What the repair of an interpretation establishes

`interpretation_accepted_iff` says for which objects a prompt interpretation is
accepted.

* `TextsFit`: a text that is there is within its bound, since no text that is
  there is cut; a text that is missing is copied from the prompt, so the prompt
  must fit into each field that takes it.
* `Shapes`: the fields that no step replaces have their types.

A record may be given as an array of its fields, which the repair leaves as it is: it must have
all of them, and its texts must be within their bounds.
-/

namespace KlassGateway.Contracts.PromptInterpretation

open Lib Lib.Json

variable {P : ContractPlatform}

/-! ## Texts -/

/-- The text under a key is within its bound; where it is missing or empty, its
default is. -/
def TextFits (key : String) (max : Nat) (default : Prop) (fields : Fields) : Prop :=
  if isMissingOrEmpty (lookup key fields) then default
  else ∃ s, lookup key fields = some (.str s) ∧ s.utf8ByteSize ≤ max

/-- A required text with a default. -/
theorem textField_iff {key d : String} {max : Nat} {repaired : Fields} (fields : Fields)
    (h : lookup key repaired = orDefaultText d (lookup key fields)) :
    Yields (field key asStr (.obj repaired)) (HasLength 1 max) ↔
      TextFits key max (HasLength 1 max d) fields := by
  unfold field TextFits
  rw [get_obj, h, orDefaultText]
  split
  · simp [asStr]
  · next hpresent =>
    cases hv : lookup key fields with
    | none => simp [hv, isMissingOrEmpty] at hpresent
    | some v =>
      cases v with
      | str s =>
        have hs : s ≠ "" := by simpa [hv, isMissingOrEmpty] using hpresent
        simp [asStr, hasLength_iff, hs]
      | _ => simp [asStr]

/-- A required text that is copied from the prompt where it is missing. -/
theorem promptField_iff {key prompt : String} {max : Nat} {repaired : Fields} (fields : Fields)
    (h : lookup key repaired = orDefaultText (truncateStr prompt max) (lookup key fields)) :
    Yields (field key asStr (.obj repaired)) (HasLength 1 max) ↔
      TextFits key max (Fits max prompt) fields := by
  rw [textField_iff fields h, hasLength_truncateStr]

/-- A required text with a default that is within the bound. -/
theorem defaultField_iff {key d : String} {max : Nat} {repaired : Fields} (fields : Fields)
    (h : lookup key repaired = orDefaultText d (lookup key fields)) (hd : HasLength 1 max d) :
    Yields (field key asStr (.obj repaired)) (HasLength 1 max) ↔
      TextFits key max True fields := by
  rw [textField_iff fields h, eq_true hd]

theorem isSome_orDefault {default : Json} {v : Option Json} : (orDefault default v).isSome := by
  unfold orDefault
  split
  · rfl
  · next h =>
    cases v with
    | none => simp [isMissing] at h
    | some v => rfl

/-- The value is a text of `lo` to `hi` bytes. -/
def IsBounded (lo hi : Nat) (v : Json) : Prop := ∃ s, v = .str s ∧ HasLength lo hi s

/-! ## Intent, candidates and blueprint -/

/-- The texts of an intent are within their bounds, and its flag is there. -/
@[mk_iff] structure IntentFields (v : Json) : Prop where
  type : Required "type" (IsBounded 1 100) v
  goal : Required "goal" (IsBounded 1 500) v
  preferredDeliveryMode : Required "preferred_delivery_mode" (IsBounded 1 100) v
  requiresClarification : (v.get "requires_clarification").isSome

/-- The texts of a teacher intent. -/
def IntentFits (prompt : String) : Option Json → Prop
  | none => Fits 500 prompt
  | some (.obj m) =>
    TextFits "type" 100 True m ∧ TextFits "goal" 500 (Fits 500 prompt) m ∧
      TextFits "preferred_delivery_mode" 100 True m
  | some v => IsRecord TeacherIntent.names 4 IntentFields v

theorem intentRecord_iff {v : Json} :
    Yields (TeacherIntent.decode P v) TeacherIntent.Valid ↔
      IsRecord TeacherIntent.names 4 IntentFields v :=
  yields_record_iff fun w => by
    simp only [yields_seq, yields_pure, TeacherIntent.Valid, yields_and_left, yields_and_right,
      yields_const, lenient_isSome, yields_field, yields_asStr, intentFields_iff]
    tauto

theorem intentDecode_iff {prompt : String} {v : Option Json} :
    Yields ((repairTeacherIntent prompt v).bind (TeacherIntent.decode P)) TeacherIntent.Valid ↔
      IntentFits prompt v := by
  have htype : HasLength 1 100 "generate_learning_media" := by decide
  have hmode : HasLength 1 100 "digital_download" := by decide
  cases v with
  | none =>
    simp [repairTeacherIntent, IntentFits, defaultIntent, TeacherIntent.decode, field, lenient,
      asStr, TeacherIntent.Valid, htype, hmode, hasLength_truncateStr]
  | some v =>
    cases v with
    | obj m =>
      have hflag : (lenient "requires_clarification" (lenientBool P)
          (.obj (repairIntent prompt m))).isSome := by
        simp [lenient_isSome, repairIntent, isSome_orDefault]
      have htypeField : lookup "type" (repairIntent prompt m) =
          orDefaultText "generate_learning_media" (lookup "type" m) := by simp [repairIntent]
      have hgoalField : lookup "goal" (repairIntent prompt m) =
          orDefaultText (truncateStr prompt 500) (lookup "goal" m) := by simp [repairIntent]
      have hmodeField : lookup "preferred_delivery_mode" (repairIntent prompt m) =
          orDefaultText "digital_download" (lookup "preferred_delivery_mode" m) := by
        simp [repairIntent]
      simp only [repairTeacherIntent, inObject, Option.bind_some, IntentFits,
        TeacherIntent.decode, yields_record, yields_seq, yields_pure, yields_and_left,
        yields_and_right, yields_const, TeacherIntent.Valid, isRecord_obj, hflag, true_and,
        defaultField_iff m htypeField htype, promptField_iff m hgoalField,
        defaultField_iff m hmodeField hmode]
    | _ => exact intentRecord_iff

/-- The texts of a candidate are within their bounds, and its score is there. -/
@[mk_iff] structure CandidateFields (v : Json) : Prop where
  type : Required "type" (IsBounded 1 100) v
  score : (v.get "score").isSome
  reason : Required "reason" (IsBounded 1 500) v

/-- The reason of a candidate. -/
def CandidateFits : Json → Prop
  | .str s => s.utf8ByteSize ≤ 485
  | .obj m => HasLength 1 500 ((textAt "reason" m).getD "LLM candidate.")
  | v => IsRecord OutputCandidate.names 3 CandidateFields v

/-- The candidates, unless they are made from a text or an object. -/
def CandidatesFit : Option Json → Prop
  | none | some (.str _) | some (.obj _) => True
  | some (.arr items) => (∀ item ∈ items, CandidateFits item) ∧ items ≠ []
  | some _ => False

theorem hasLength_normalizeOutputType (raw : String) :
    HasLength 1 100 (normalizeOutputType P raw) := by
  unfold normalizeOutputType
  dsimp only
  split_ifs <;> decide

theorem candidateDecode_iff {type reason : String} {score : Rat} :
    Yields (OutputCandidate.decode P (candidate type score reason)) OutputCandidate.Valid ↔
      HasLength 1 100 type ∧ HasLength 1 500 reason := by
  simp [candidate, OutputCandidate.decode, field, lenient, asStr, OutputCandidate.Valid]

theorem candidateRecord_iff {v : Json} :
    Yields (OutputCandidate.decode P v) OutputCandidate.Valid ↔
      IsRecord OutputCandidate.names 3 CandidateFields v :=
  yields_record_iff fun w => by
    simp only [yields_seq, yields_pure, OutputCandidate.Valid, ↓yields_const, yields_and_left,
      yields_and_right, lenient_isSome, yields_field, yields_asStr, candidateFields_iff]
    tauto

theorem repairCandidate_iff {v : Json} :
    Yields (OutputCandidate.decode P (repairCandidate P v)) OutputCandidate.Valid ↔
      CandidateFits v := by
  cases v with
  | str s =>
    have hsize : ("LLM suggested " ++ s ++ ".").utf8ByteSize = s.utf8ByteSize + 15 := by
      rw [String.utf8ByteSize_append, String.utf8ByteSize_append]
      have hhead : ("LLM suggested ").utf8ByteSize = 14 := by decide
      have htail : (".").utf8ByteSize = 1 := by decide
      omega
    rw [repairCandidate, candidateDecode_iff, and_iff_right (hasLength_normalizeOutputType s),
      HasLength, hsize, CandidateFits]
    omega
  | obj m =>
    simp [repairCandidate, candidateDecode_iff, hasLength_normalizeOutputType, CandidateFits]
  | _ => exact candidateRecord_iff

/-- The candidates that are made from a text are valid. -/
theorem normalizedCandidates_valid (s : String) :
    Yields (list (OutputCandidate.decode P) (normalizeOutputTypeCandidatesString P s)) fun cs =>
      (∀ c ∈ cs, c.Valid) ∧ cs ≠ [] := by
  unfold normalizeOutputTypeCandidatesString
  have hprimary : normalizeOutputType P s ∈ ["pdf", "docx", "pptx"] := by
    unfold normalizeOutputType
    dsimp only
    split_ifs <;> decide
  rw [yields_list_ne_nil]
  refine ⟨?_, List.cons_ne_nil _ _⟩
  simp only [List.mem_cons, List.not_mem_nil, or_false] at hprimary
  simp only [List.mem_cons, List.not_mem_nil, or_false, forall_eq_or_imp, forall_eq,
    candidateDecode_iff]
  rcases hprimary with h | h | h
  · rw [h]
    decide
  · rw [h]
    decide
  · rw [h]
    decide

theorem candidatesDecode_iff {v : Option Json} :
    (Yields ((repairCandidates P v).bind (list (OutputCandidate.decode P))) fun cs =>
      (∀ c ∈ cs, c.Valid) ∧ cs ≠ []) ↔ CandidatesFit v := by
  cases v with
  | none =>
    simp only [repairCandidates, Option.bind_some, defaultCandidates, CandidatesFit, iff_true,
      yields_list_ne_nil]
    simp only [List.mem_cons, List.not_mem_nil, or_false, forall_eq_or_imp, forall_eq,
      candidateDecode_iff]
    decide
  | some v =>
    cases v with
    | str s => simpa [repairCandidates, CandidatesFit] using normalizedCandidates_valid s
    | obj m =>
      simpa [repairCandidates, CandidatesFit, normalizeOutputTypeCandidatesObject] using
        normalizedCandidates_valid _
    | arr items =>
      simp [repairCandidates, yields_list_ne_nil, repairCandidate_iff, CandidatesFit]
    | _ => simp [repairCandidates, CandidatesFit, list]

theorem writtenSection_isSome (title purpose length : String) (bullets : List String) :
    (BlueprintSection.decode (.obj [("title", title), ("purpose", purpose),
      ("bullets", textArray bullets), ("estimated_length", length)])).isSome := by
  simp [BlueprintSection.decode, field, asStr, list_textArray]

/-- A section that decodes. -/
@[mk_iff] structure SectionFields (v : Json) : Prop where
  title : Required "title" IsText v
  purpose : Required "purpose" IsText v
  bullets : Required "bullets" (IsList IsText) v
  estimatedLength : Required "estimated_length" IsText v

/-- A section is written anew from a text or an object. -/
def SectionFits : Json → Prop
  | .str _ | .obj _ => True
  | v => IsRecord BlueprintSection.names 4 SectionFields v

theorem sectionRecord_isSome {v : Json} :
    (BlueprintSection.decode v).isSome ↔ IsRecord BlueprintSection.names 4 SectionFields v :=
  record_isSome_iff fun w => by
    simp only [seq_isSome, pure_isSome, yields_const, field_isSome, list_isSome, asStr_isSome,
      and_true, sectionFields_iff]

theorem sectionDecode_isSome {v : Json} :
    (BlueprintSection.decode (repairSection v)).isSome ↔ SectionFits v := by
  cases v with
  | str s => exact iff_of_true (writtenSection_isSome _ _ _ [_]) trivial
  | obj m => exact iff_of_true (writtenSection_isSome _ _ _ _) trivial
  | _ => exact sectionRecord_isSome

/-- The texts of a blueprint are within their bounds, and it has a section. -/
@[mk_iff] structure BlueprintFields (v : Json) : Prop where
  title : Required "title" (IsBounded 1 200) v
  summary : Required "summary" (IsBounded 1 1000) v
  sections : Required "sections" (fun x => ∃ items, x = .arr items ∧
    (∀ item ∈ items, IsRecord BlueprintSection.names 4 SectionFields item) ∧ items ≠ []) v

/-- The texts of a blueprint that is repaired, and its sections. -/
def BlueprintFieldsFit (prompt : String) (bp : Fields) : Prop :=
  TextFits "title" 200 (Fits 200 prompt) bp ∧ TextFits "summary" 1000 (Fits 1000 prompt) bp ∧
    ∀ items, lookup "sections" bp = some (.arr items) → ∀ item ∈ items, SectionFits item

/-- A list of sections that is not empty. -/
theorem sectionList_iff {v : Json} :
    (Yields (list BlueprintSection.decode v) fun ss => ss ≠ []) ↔
      ∃ items, v = .arr items ∧ (∀ item ∈ items, (BlueprintSection.decode item).isSome) ∧
        items ≠ [] := by
  simpa using yields_list_iff (d := BlueprintSection.decode) (Q := fun _ => True) (v := v)

theorem blueprintRecord_iff {v : Json} :
    Yields (DocumentBlueprint.decode v) DocumentBlueprint.Valid ↔
      IsRecord DocumentBlueprint.names 3 BlueprintFields v :=
  yields_record_iff fun w => by
    simp only [yields_seq, yields_pure, DocumentBlueprint.Valid, yields_and_left,
      yields_and_right, yields_field, yields_asStr, sectionList_iff, sectionRecord_isSome,
      blueprintFields_iff]
    tauto

theorem sectionsDecode_iff {prompt : String} {v : Option Json} :
    (Yields ((repairSections prompt v).bind (list BlueprintSection.decode)) fun ss => ss ≠ []) ↔
      ∀ items, v = some (.arr items) → ∀ item ∈ items, SectionFits item := by
  have hlist (item : Json) (items : List Json) :
      (Yields (list BlueprintSection.decode (.arr (item :: items))) fun ss => ss ≠ []) ↔
        ∀ x ∈ item :: items, (BlueprintSection.decode x).isSome := by
    rw [sectionList_iff]
    simp
  have hrequested : (BlueprintSection.decode (requestedSection prompt)).isSome :=
    writtenSection_isSome _ _ _ [_]
  have hdefault : Yields (list BlueprintSection.decode (.arr [requestedSection prompt]))
      fun ss => ss ≠ [] := (hlist _ _).2 (List.forall_mem_singleton.2 hrequested)
  cases v with
  | none => simpa [repairSections] using hdefault
  | some v =>
    cases v with
    | arr items =>
      cases items with
      | nil => simpa [repairSections, asArray] using hdefault
      | cons item items =>
        simp only [repairSections, Option.bind_some, asArray, List.map_cons, hlist,
          List.forall_mem_cons, List.forall_mem_map, sectionDecode_isSome, Option.some.injEq,
          arr.injEq, forall_eq']
    | _ => simpa [repairSections, asArray] using hdefault

theorem repairedBlueprint_iff {prompt : String} {bp : Fields} :
    Yields (DocumentBlueprint.decode (.obj (repairBlueprint prompt bp))) DocumentBlueprint.Valid ↔
      BlueprintFieldsFit prompt bp := by
  have htitle : lookup "title" (repairBlueprint prompt bp) =
      orDefaultText (truncateStr prompt 200) (lookup "title" bp) := by simp [repairBlueprint]
  have hsummary : lookup "summary" (repairBlueprint prompt bp) =
      orDefaultText (truncateStr prompt 1000) (lookup "summary" bp) := by simp [repairBlueprint]
  have hsections : field "sections" (list BlueprintSection.decode)
      (.obj (repairBlueprint prompt bp)) =
      (repairSections prompt (lookup "sections" bp)).bind (list BlueprintSection.decode) := by
    simp [field, repairBlueprint]
  simp only [DocumentBlueprint.decode, yields_record, yields_seq, yields_pure,
    DocumentBlueprint.Valid, yields_and_left, yields_and_right, isRecord_obj,
    promptField_iff bp htitle, promptField_iff bp hsummary, hsections,
    sectionsDecode_iff, BlueprintFieldsFit]

/-- The blueprint that an interpretation has under its name and under another
one. -/
def BlueprintFits (prompt : String) : Option Json → Option Json → Prop
  | some (.str s), _ => Fits 200 (if Text.trim s = "" then prompt else s)
  | some (.obj bp), _ => BlueprintFieldsFit prompt bp
  | none, none | some .null, none => Fits 200 prompt
  | none, some (.obj bp) | some .null, some (.obj bp) => BlueprintFieldsFit prompt bp
  | none, some v | some .null, some v | some v, _ =>
    IsRecord DocumentBlueprint.names 3 BlueprintFields v

/-- A text that the repair has written itself. -/
theorem textFits_truncateStr {key s : String} {max : Nat} {default : Prop} {fields : Fields}
    (hmax : 0 < max) (h : lookup key fields = some (.str (truncateStr s max))) :
    TextFits key max default fields ↔ if Text.trim s = "" then default else Fits max s := by
  unfold TextFits
  rw [h]
  by_cases hblank : Text.trim s = ""
  · simp [isMissingOrEmpty, (truncateStr_eq_empty_iff hmax).2 hblank, hblank]
  · have hne : truncateStr s max ≠ "" := mt (truncateStr_eq_empty_iff hmax).1 hblank
    rw [if_neg hblank, ← hasLength_truncateStr, hasLength_iff]
    simp [isMissingOrEmpty, hne]

/-- A blueprint that the repair has written from one text. -/
theorem writtenBlueprint_iff {p s : String} {sections : List Json}
    (hsections : ∀ v ∈ sections, v.isObject) :
    BlueprintFieldsFit p [("title", truncateStr s 200), ("summary", truncateStr s 1000),
        ("sections", .arr sections)] ↔
      Fits 200 (if Text.trim s = "" then p else s) := by
  unfold BlueprintFieldsFit
  rw [textFits_truncateStr (s := s) (by decide) (by simp),
    textFits_truncateStr (s := s) (by decide) (by simp)]
  have hitems : ∀ items, lookup "sections" [("title", Json.str (truncateStr s 200)),
      ("summary", .str (truncateStr s 1000)), ("sections", .arr sections)] = some (.arr items) →
      ∀ item ∈ items, SectionFits item := by
    intro items hitems item hitem
    simp at hitems
    subst hitems
    have hobject := hsections item hitem
    cases item with
    | obj m => trivial
    | _ => cases hobject
  split
  · exact ⟨fun h => h.1, fun h => ⟨h, h.mono (by omega), hitems⟩⟩
  · exact ⟨fun h => h.1, fun h => ⟨h, h.mono (by omega), hitems⟩⟩

theorem blueprintDecode_iff {prompt : String} {own other : Option Json} :
    Yields (DocumentBlueprint.decode (inObject (repairBlueprint prompt)
        (foundBlueprint prompt (textBlueprint own) other))) DocumentBlueprint.Valid ↔
      BlueprintFits prompt own other := by
  have hother : Yields (DocumentBlueprint.decode (inObject (repairBlueprint prompt)
      (other.getD (defaultBlueprint prompt)))) DocumentBlueprint.Valid ↔
      BlueprintFits prompt none other := by
    cases other with
    | none =>
      have hsections : ∀ v ∈ [requestedSection prompt], v.isObject :=
        List.forall_mem_singleton.2 rfl
      have hwritten := writtenBlueprint_iff (s := prompt) (p := prompt) hsections
      rw [ite_self] at hwritten
      exact repairedBlueprint_iff.trans hwritten
    | some v =>
      cases v with
      | obj bp => exact repairedBlueprint_iff
      | _ => exact blueprintRecord_iff
  cases own with
  | none => exact hother
  | some v =>
    cases v with
    | null =>
      refine hother.trans ?_
      cases other with
      | none => rfl
      | some v => cases v <;> rfl
    | str s =>
      exact repairedBlueprint_iff.trans (writtenBlueprint_iff (by simp [oneBulletSection]))
    | obj bp => exact repairedBlueprint_iff
    | _ => exact blueprintRecord_iff

/-! ## Constraints and confidence -/

theorem isSome_orDefaultText {default : Json} {v : Option Json} :
    (orDefaultText default v).isSome := by
  unfold orDefaultText
  split
  · rfl
  · next h =>
    cases v with
    | none => simp [isMissingOrEmpty] at h
    | some v => rfl

/-- A default stands in for a missing value or null, so any text will do. -/
theorem orDefaultText_isText {d : String} {v : Option Json} :
    (∀ x, orDefaultText d v = some x → IsText x) ↔ ∀ x, v = some x → OrNull IsText x := by
  cases v with
  | none => simp [orDefaultText, isMissingOrEmpty, IsText]
  | some v =>
    cases v with
    | str s =>
      by_cases hs : s = ""
      · simp [orDefaultText, isMissingOrEmpty, hs, IsText, OrNull]
      · simp [orDefaultText, isMissingOrEmpty, hs, IsText, OrNull]
    | _ => simp [orDefaultText, isMissingOrEmpty, IsText, OrNull, isNull]

/-- The constraints have no field of another type; a duration may be anything. -/
@[mk_iff] structure ConstraintsFields (outputType : Json → Prop) (v : Json) : Prop where
  preferredOutputType : WhenPresent "preferred_output_type" outputType v
  mustInclude : WhenPresent "must_include" (IsList IsText) v
  avoid : WhenPresent "avoid" (IsList IsText) v
  tone : WhenPresent "tone" (OrNull IsText) v

/-- Constraints that decode.  The repair takes a null for the output type of an object only. -/
def ConstraintsShape : Json → Prop
  | .obj m => ConstraintsFields (OrNull IsText) (.obj m)
  | v => IsRecord InterpretationConstraints.names 0 (ConstraintsFields IsText) v

theorem constraintsDecode_isSome {v : Json} :
    (InterpretationConstraints.decode v).isSome ↔
      IsRecord InterpretationConstraints.names 0 (ConstraintsFields IsText) v :=
  record_isSome_iff fun w => by
    simp only [seq_isSome, pure_isSome, yields_const, fieldOr_isSome, asStr_isSome,
      lenientOr_isSome, texts_isSome, optionalText_isSome, true_and, and_true,
      constraintsFields_iff]

theorem constraints_iff {v : Option Json} :
    (∃ x, repairConstraints (v.map (inObject (alterField "max_duration_minutes" repairDuration))) =
        some x ∧ (InterpretationConstraints.decode x).isSome) ↔
      ∀ x, v = some x → ConstraintsShape x := by
  cases v with
  | none =>
    simp [repairConstraints, constraintsDecode_isSome, constraintsFields_iff, WhenPresent, IsText]
  | some v =>
    cases v with
    | obj m =>
      simp [repairConstraints, inObject, constraintsDecode_isSome, ConstraintsShape,
        constraintsFields_iff, WhenPresent, orDefaultText_isText]
    | _ => simp [repairConstraints, inObject, constraintsDecode_isSome, ConstraintsShape]

/-- The label of a confidence. -/
def ConfidenceFits (P : ContractPlatform) : Option Json → Prop
  | some (.obj m) => TextFits "label" 100 True m ∧ WhenPresent "rationale" (OrNull IsText) (.obj m)
  | some (.str s) =>
    (P.parseF64 (Text.trim s)).isSome ∨ (P.toLowercase (Text.trim s)).utf8ByteSize ≤ 100
  | _ => True

theorem hasLength_scoreLabel (score : F64) : HasLength 1 100 (scoreLabel score) := by
  unfold scoreLabel
  split_ifs <;> decide

theorem writtenConfidence_iff {score : Json} {label : String} :
    Yields (Confidence.decode P (.obj [("score", score), ("label", label)])) Confidence.Valid ↔
      HasLength 1 100 label := by
  simp [Confidence.decode, field, lenient, asStr, optionalText, fieldOr, Confidence.Valid]

theorem isSome_repairScore {default : Rat} {v : Option Json} :
    (repairScore P default v).isSome := by
  unfold repairScore
  split
  · rfl
  · exact isSome_orDefault

theorem confidenceDecode_iff {v : Option Json} :
    Yields ((repairConfidence P v).bind (Confidence.decode P)) Confidence.Valid ↔
      ConfidenceFits P v := by
  have hmedium : HasLength 1 100 "medium" := by decide
  cases v with
  | none => simpa [repairConfidence, ConfidenceFits] using writtenConfidence_iff.2 hmedium
  | some v =>
    cases v with
    | obj m =>
      have hlabel : lookup "label" (repairConfidenceFields P m) =
          orDefaultText "medium" (lookup "label" m) := by simp [repairConfidenceFields]
      have hscore : (lenient "score" (lenientF64 P) (.obj (repairConfidenceFields P m))).isSome := by
        simp [lenient_isSome, repairConfidenceFields, isSome_repairScore]
      have hrationale : WhenPresent "rationale" (OrNull IsText) (.obj (repairConfidenceFields P m)) ↔
          WhenPresent "rationale" (OrNull IsText) (.obj m) :=
        WhenPresent.congr (by simp [repairConfidenceFields])
      simp only [repairConfidence, Option.bind_some, ConfidenceFits, Confidence.decode,
        yields_record, yields_seq, yields_pure, yields_and_left, yields_const, Confidence.Valid,
        isRecord_obj, hscore, true_and, optionalText_isSome, hrationale, defaultField_iff m hlabel hmedium]
      exact and_comm
    | str s =>
      simp only [repairConfidence, scalarConfidence, Option.bind_some, writtenConfidence_iff,
        ConfidenceFits]
      cases P.parseF64 (Text.trim s) with
      | some n => simp [hasLength_scoreLabel]
      | none =>
        by_cases hlabel : P.toLowercase (Text.trim s) = ""
        · simp [hlabel, hmedium]
        · simp [hlabel, hasLength_iff]
    | num n =>
      simp [repairConfidence, scalarConfidence, writtenConfidence_iff, hasLength_scoreLabel,
        ConfidenceFits]
    | _ => simp [repairConfidence, scalarConfidence, writtenConfidence_iff, hmedium,
        ConfidenceFits]

/-! ## Optional fields -/

/-- The score of a content integrity may be anything. -/
@[mk_iff] structure IntegrityFields (v : Json) : Prop where
  integrityScore : (v.get "integrity_score").isSome
  violations : WhenPresent "violations" (IsList fun _ => True) v
  classificationSource : Required "classification_source" IsText v

/-- A content integrity that decodes.  An object gets the score and the source that it lacks. -/
def IntegrityShape : Json → Prop
  | .obj m =>
    WhenPresent "violations" (IsList fun _ => True) (.obj m) ∧
      WhenPresent "classification_source" (OrNull IsText) (.obj m)
  | v => IsRecord ContentIntegrity.names 3 IntegrityFields v

theorem integrityDecode_isSome {v : Json} :
    (ContentIntegrity.decode P v).isSome ↔ IsRecord ContentIntegrity.names 3 IntegrityFields v := by
  have hraw {key : String} {w : Json} : (fieldOr key none (nullable some) w).isSome := by
    simp [fieldOr_isSome, nullable_isSome, WhenPresent, OrNull]
  exact record_isSome_iff fun w => by
    simp only [seq_isSome, pure_isSome, yields_const, lenient_isSome, fieldOr_isSome, field_isSome,
      list_isSome, asStr_isSome, hraw, Option.isSome_some, and_true, integrityFields_iff]

theorem integrity_iff {v : Json} :
    (nullable (ContentIntegrity.decode P) (inObject (repairIntegrity P) v)).isSome ↔
      OrNull IntegrityShape v := by
  rw [nullable_isSome]
  simp only [integrityDecode_isSome]
  cases v with
  | obj m =>
    simp [inObject, OrNull, isNull, integrityFields_iff, IntegrityShape, required_iff,
      repairIntegrity, isSome_repairScore, isSome_orDefaultText, WhenPresent,
      orDefaultText_isText]
  | _ => exact Iff.rfl

/-- An asset has a type and a description. -/
@[mk_iff] structure AssetFields (v : Json) : Prop where
  type : Required "type" IsText v
  description : Required "description" IsText v

/-- An asset that decodes.  Its flag may be anything, and an object gets one. -/
def AssetShape : Json → Prop
  | .obj m => AssetFields (.obj m)
  | v => IsRecord Asset.names 3 (fun w => AssetFields w ∧ (w.get "required").isSome) v

theorem assetDecode_isSome {v : Json} :
    (Asset.decode P v).isSome ↔
      IsRecord Asset.names 3 (fun w => AssetFields w ∧ (w.get "required").isSome) v :=
  record_isSome_iff fun w => by
    simp only [seq_isSome, pure_isSome, yields_const, lenient_isSome, field_isSome, asStr_isSome,
      and_true, assetFields_iff, and_assoc]

theorem asset_iff {v : Json} :
    (Asset.decode P (inObject (alterField "required" (repairRequired P)) v)).isSome ↔
      AssetShape v := by
  have hflag (v : Option Json) : (repairRequired P v).isSome := by
    unfold repairRequired
    split
    · rfl
    · exact isSome_orDefault
  rw [assetDecode_isSome]
  cases v with
  | obj m => simp [inObject, AssetShape, assetFields_iff, Required, hflag]
  | _ => exact Iff.rfl

theorem assets_iff {v : Json} :
    (list (Asset.decode P) (repairAssets P v)).isSome ↔ IsList AssetShape v := by
  cases v with
  | arr items => simp [repairAssets, inArray, list_isSome_iff, asset_iff, IsList]
  | _ => simp [repairAssets, inArray, list, IsList]

theorem objectives_iff {v : Option Json} :
    (∀ x, repairObjectives P v = some x → IsList IsText x) ↔
      ∀ x, v = some x → OrNull (IsList fun _ => True) x := by
  cases v with
  | none => simp [repairObjectives, orDefault, isMissing, IsList]
  | some v =>
    cases v with
    | arr items => simp [repairObjectives, textArray, IsList, IsText, OrNull]
    | _ => simp [repairObjectives, orDefault, isMissing, IsList, OrNull, isNull]

/-- The texts of a plan mode may be null; its confidence may be anything. -/
@[mk_iff] structure PlanModeFields (v : Json) : Prop where
  reason : WhenPresent "reason" (OrNull IsText) v
  detectedContentType : WhenPresent "detected_content_type" (OrNull IsText) v

/-- A plan mode that decodes.  Its flag may be anything, and an object gets one. -/
def PlanModeShape : Json → Prop
  | .obj m => PlanModeFields (.obj m)
  | v => IsRecord PlanMode.names 1 (fun w => (w.get "active").isSome ∧ PlanModeFields w) v

theorem planModeDecode_isSome {v : Json} :
    (PlanMode.decode P v).isSome ↔
      IsRecord PlanMode.names 1 (fun w => (w.get "active").isSome ∧ PlanModeFields w) v :=
  record_isSome_iff fun w => by
    simp only [seq_isSome, pure_isSome, yields_const, lenient_isSome, lenientOr_isSome,
      optionalText_isSome, and_true, planModeFields_iff]

theorem inferPlanMode_decodes (obj : Fields) : (PlanMode.decode P (inferPlanMode obj)).isSome := by
  rw [planModeDecode_isSome]
  unfold inferPlanMode
  dsimp only
  split <;> simp [planModeFields_iff, WhenPresent, OrNull, IsText, isNull]

theorem planMode_iff {v : Json} :
    (PlanMode.decode P (inObject (alterField "active" (orDefault false)) v)).isSome ↔
      PlanModeShape v := by
  rw [planModeDecode_isSome]
  cases v with
  | obj m => simp [inObject, isSome_orDefault, PlanModeShape, planModeFields_iff, WhenPresent]
  | _ => exact Iff.rfl

/-- Most interpreted fields may be anything. -/
@[mk_iff] structure InterpretedTypes (v : Json) : Prop where
  learningObjectives : WhenPresent "learning_objectives" (OrNull (IsList IsText)) v
  questionCount : WhenPresent "question_count" (OrNull (IsInteger (-(2 ^ 31)) (2 ^ 31))) v

theorem i32_isSome {v : Json} : (i32 v).isSome ↔ IsInteger (-(2 ^ 31)) (2 ^ 31) v :=
  integer_isSome

/-- Interpreted fields that decode. -/
def InterpretedShape : Json → Prop := IsRecord InterpretedFields.names 0 InterpretedTypes

theorem interpretedDecode_isSome {v : Json} :
    (InterpretedFields.decode P v).isSome ↔ InterpretedShape v :=
  record_isSome_iff fun w => by
    simp only [seq_isSome, pure_isSome, yields_const, lenientOr_isSome, fieldOr_isSome,
      nullable_isSome, list_isSome, asStr_isSome, i32_isSome, true_and, and_true,
      interpretedTypes_iff]

theorem writtenFields_decodes (audience outputType subject topic pages slides : Option String)
    (objectives : Option (List String)) :
    (InterpretedFields.decode P
      (writtenFields audience outputType subject topic objectives pages slides)).isSome := by
  rw [interpretedDecode_isSome]
  refine isRecord_obj.2 ⟨?_, ?_⟩
  · cases objectives with
    | none => simp [WhenPresent, OrNull, isNull, ofOption]
    | some xs => simp [WhenPresent, OrNull, isNull, ofOption, textArray, IsList, IsText]
  · simp [WhenPresent, OrNull, isNull]

theorem interpreted_iff {p : String} {v : Json} :
    (InterpretedFields.decode P (inObject (repairCounts P p) v)).isSome ↔
      InterpretedShape v := by
  rw [interpretedDecode_isSome]
  cases v with
  | obj m =>
    simp [inObject, InterpretedShape, interpretedTypes_iff, repairCounts, WhenPresent]
  | _ => exact Iff.rfl

/-- A missing field that is kept has suggestions that are an array. -/
def MissingFieldShape (v : Json) : Prop :=
  (repairMissingField v).isSome → WhenPresent "suggestions" (IsList fun _ => True) v

theorem missingFieldDecode_isSome {v w : Json} (h : repairMissingField v = some w) :
    (MissingField.decode w).isSome ↔ WhenPresent "suggestions" (IsList fun _ => True) v := by
  cases v with
  | obj m =>
    simp only [repairMissingField] at h
    split at h
    · cases h
    · cases h
      simp only [MissingField.decode, record_isSome, isRecord_obj, seq_isSome, pure_isSome,
        yields_const, field_isSome, fieldOr_isSome, list_isSome, asStr_isSome]
      cases hs : lookup "suggestions" m <;> simp [Required, WhenPresent, IsText, IsList, hs]
  | _ => cases h

theorem missingFields_iff {v : Option Json} :
    (∀ x, repairMissingFields v = some x → (list MissingField.decode x).isSome) ↔
      ∀ x, v = some x → OrNull (IsList MissingFieldShape) x := by
  cases v with
  | none => simp [repairMissingFields, orDefault, isMissing, list_isSome_iff]
  | some v =>
    cases v with
    | arr items =>
      simp only [repairMissingFields, Option.some.injEq, forall_eq', list_isSome_iff,
        List.mem_filterMap, OrNull, isNull, Bool.false_eq_true, false_or, IsList, arr.injEq,
        exists_eq_left', MissingFieldShape]
      constructor
      · intro h item hitem hkept
        obtain ⟨w, hw⟩ := Option.isSome_iff_exists.1 hkept
        exact (missingFieldDecode_isSome hw).1 (h w ⟨item, hitem, hw⟩)
      · rintro h w ⟨item, hitem, hw⟩
        exact (missingFieldDecode_isSome hw).2 (h item hitem (by rw [hw]; rfl))
    | _ => simp [repairMissingFields, orDefault, isMissing, list, IsList, OrNull, isNull]

/-! ## Fields that are not repaired -/

/-- A subject has a name. -/
@[mk_iff] structure SubjectFields (v : Json) : Prop where
  subjectName : Required "subject_name" IsText v
  subjectSlug : WhenPresent "subject_slug" (OrNull IsText) v

/-- A sub-subject has a name. -/
@[mk_iff] structure SubSubjectFields (v : Json) : Prop where
  subSubjectName : Required "sub_subject_name" IsText v
  subSubjectSlug : WhenPresent "sub_subject_slug" (OrNull IsText) v

/-- A target audience has a label. -/
@[mk_iff] structure AudienceFields (v : Json) : Prop where
  label : Required "label" IsText v
  level : WhenPresent "level" (OrNull IsText) v
  ageRange : WhenPresent "age_range" (OrNull IsText) v

/-- Media characteristics may lack each field. -/
@[mk_iff] structure CharacteristicsFields (v : Json) : Prop where
  tone : WhenPresent "tone" (OrNull IsText) v
  formatPreferences : WhenPresent "format_preferences" (IsList IsText) v
  visualDensity : WhenPresent "visual_density" (OrNull IsText) v

/-- An assessment block has its texts. -/
@[mk_iff] structure AssessmentFields (v : Json) : Prop where
  title : Required "title" IsText v
  type : Required "type" IsText v
  instructions : Required "instructions" IsText v

/-- A fallback may lack each field. -/
@[mk_iff] structure FallbackFields (v : Json) : Prop where
  triggered : WhenPresent "triggered" IsBool v
  reasonCode : WhenPresent "reason_code" (OrNull IsText) v
  action : WhenPresent "action" (OrNull IsText) v

theorem subjectDecode_isSome {v : Json} :
    (SubjectContext.decode v).isSome ↔ IsRecord SubjectContext.names 1 SubjectFields v :=
  record_isSome_iff fun w => by
    simp only [seq_isSome, pure_isSome, yields_const, field_isSome, asStr_isSome,
      optionalText_isSome, and_true, subjectFields_iff]

theorem subSubjectDecode_isSome {v : Json} :
    (SubSubjectContext.decode v).isSome ↔ IsRecord SubSubjectContext.names 1 SubSubjectFields v :=
  record_isSome_iff fun w => by
    simp only [seq_isSome, pure_isSome, yields_const, field_isSome, asStr_isSome,
      optionalText_isSome, and_true, subSubjectFields_iff]

theorem audienceDecode_isSome {v : Json} :
    (TargetAudience.decode v).isSome ↔ IsRecord TargetAudience.names 1 AudienceFields v :=
  record_isSome_iff fun w => by
    simp only [seq_isSome, pure_isSome, yields_const, field_isSome, asStr_isSome,
      optionalText_isSome, and_true, audienceFields_iff]

theorem characteristicsDecode_isSome {v : Json} :
    (RequestedMediaCharacteristics.decode v).isSome ↔
      IsRecord RequestedMediaCharacteristics.names 0 CharacteristicsFields v :=
  record_isSome_iff fun w => by
    simp only [seq_isSome, pure_isSome, yields_const, texts_isSome, optionalText_isSome, and_true,
      characteristicsFields_iff]

theorem assessmentDecode_isSome {v : Json} :
    (AssessmentBlock.decode v).isSome ↔ IsRecord AssessmentBlock.names 3 AssessmentFields v :=
  record_isSome_iff fun w => by
    simp only [seq_isSome, pure_isSome, yields_const, field_isSome, asStr_isSome, and_true,
      assessmentFields_iff]

theorem fallbackDecode_isSome {v : Json} :
    (InterpretationFallback.decode v).isSome ↔
      IsRecord InterpretationFallback.names 0 FallbackFields v :=
  record_isSome_iff fun w => by
    simp only [seq_isSome, pure_isSome, yields_const, fieldOr_isSome, asBool_isSome,
      optionalText_isSome, and_true, fallbackFields_iff]

theorem metaRepairs_isSome {v : Json} :
    (metaRepairsField v).isSome ↔ v.get "meta_repairs" = none ∨ v.get "_meta_repairs" = none := by
  unfold metaRepairsField
  cases v.get "meta_repairs" <;> cases v.get "_meta_repairs" <;>
    simp [nullable_isSome, OrNull]

/-! ## The text of the repaired completion

The repaired object is written as a text and parsed again, which may change its floats.  They are
scores and values that are kept as they are, so they do not decide whether it is accepted. -/

section Blind

variable {f : Rat → Json.Number}

theorem texts_same {key : String} : Same f (texts key) := same_asStr.list.fieldOr

theorem optionalText_same {key : String} : Same f (optionalText key) := same_asStr.nullable.fieldOr

theorem intentDecode_blind : Blind f (TeacherIntent.decode P) TeacherIntent.Valid :=
  Blind.record fun v => by
    simp only [yields_seq, yields_pure, TeacherIntent.Valid, yields_and_left, yields_and_right,
      yields_const, lenient_isSome, get_mapFloats, Option.isSome_map, same_asStr.field v]

theorem constraintsDecode_blind : Blind f InterpretationConstraints.decode fun _ => True :=
  Blind.record fun v => by
    simp only [yields_true, seq_isSome, pure_isSome, yields_const, lenientOr_isSome,
      same_asStr.fieldOr v, texts_same v, optionalText_same v]

theorem candidateDecode_blind : Blind f (OutputCandidate.decode P) OutputCandidate.Valid :=
  Blind.record fun v => by
    simp only [yields_seq, yields_pure, OutputCandidate.Valid, ↓yields_const, yields_and_left,
      yields_and_right, lenient_isSome, get_mapFloats, Option.isSome_map, same_asStr.field v]

theorem sectionDecode_same : Same f BlueprintSection.decode :=
  Same.record fun v => by simp only [same_asStr.field v, same_asStr.list.field v]

theorem blueprintDecode_same : Same f DocumentBlueprint.decode :=
  Same.record fun v => by simp only [same_asStr.field v, sectionDecode_same.list.field v]

theorem subjectDecode_same : Same f SubjectContext.decode :=
  Same.record fun v => by simp only [same_asStr.field v, optionalText_same v]

theorem subSubjectDecode_same : Same f SubSubjectContext.decode :=
  Same.record fun v => by simp only [same_asStr.field v, optionalText_same v]

theorem audienceDecode_same : Same f TargetAudience.decode :=
  Same.record fun v => by simp only [same_asStr.field v, optionalText_same v]

theorem characteristicsDecode_same : Same f RequestedMediaCharacteristics.decode :=
  Same.record fun v => by simp only [texts_same v, optionalText_same v]

theorem assetDecode_blind : Blind f (Asset.decode P) fun _ => True :=
  Blind.record fun v => by
    simp only [yields_true, seq_isSome, pure_isSome, yields_const, lenient_isSome, get_mapFloats,
      Option.isSome_map, same_asStr.field v]

theorem assessmentDecode_same : Same f AssessmentBlock.decode :=
  Same.record fun v => by simp only [same_asStr.field v]

theorem confidenceDecode_blind : Blind f (Confidence.decode P) Confidence.Valid :=
  Blind.record fun v => by
    simp only [yields_seq, yields_pure, Confidence.Valid, yields_and_left, yields_const,
      lenient_isSome, get_mapFloats, Option.isSome_map, same_asStr.field v, optionalText_same v]

theorem fallbackDecode_same : Same f InterpretationFallback.decode :=
  Same.record fun v => by simp only [same_asBool.fieldOr v, optionalText_same v]

/-- A list of values that are kept as they are. -/
theorem values_blind {key : String} :
    Blind f (fieldOr key [] (list (some : Decoder Json))) fun _ => True :=
  (blind_total fun v => v).list_true.fieldOr

/-- A value that is kept as it is, or null. -/
theorem value_blind {key : String} :
    Blind f (fieldOr key none (nullable (some : Decoder Json))) fun _ => True :=
  ((blind_total fun v => v).nullable (Q := fun _ => True)).fieldOr

theorem integrityDecode_blind : Blind f (ContentIntegrity.decode P) fun _ => True :=
  Blind.record fun v => by
    simp only [yields_true, seq_isSome, pure_isSome, yields_const, lenient_isSome, get_mapFloats,
      Option.isSome_map, same_asStr.field v, values_blind.isSome v, value_blind.isSome v]

theorem planModeDecode_blind : Blind f (PlanMode.decode P) fun _ => True :=
  Blind.record fun v => by
    simp only [yields_true, seq_isSome, pure_isSome, yields_const, lenient_isSome,
      lenientOr_isSome, get_mapFloats, Option.isSome_map, optionalText_same v]

theorem interpretedDecode_blind (hf : ∀ q, ∃ r, f q = .float r) :
    Blind f (InterpretedFields.decode P) fun _ => True :=
  Blind.record fun v => by
    have hcount : Same f i32 := same_integer hf
    simp only [yields_true, seq_isSome, pure_isSome, yields_const, lenientOr_isSome,
      same_asStr.list.nullable.fieldOr v, hcount.nullable.fieldOr v]

theorem missingFieldDecode_blind : Blind f MissingField.decode fun _ => True :=
  Blind.record fun v => by
    simp only [yields_true, seq_isSome, pure_isSome, yields_const, same_asStr.field v,
      values_blind.isSome v]

theorem metaRepairs_blind : Blind f metaRepairsField fun _ => True := fun v => by
  simp only [yields_true, metaRepairs_isSome, get_mapFloats, Option.map_eq_none_iff]

/-- Whether a payload is accepted does not depend on its floats. -/
theorem payloadDecode_blind (hf : ∀ q, ∃ r, f q = .float r) :
    Blind f (InterpretationPayload.decode P) InterpretationPayload.Valid :=
  Blind.record fun v => by
    have hcandidates : Blind f (field "output_type_candidates" (list (OutputCandidate.decode P)))
        fun cs => (∀ c ∈ cs, c.Valid) ∧ cs ≠ [] := candidateDecode_blind.list_ne_nil.field
    have hconstraints : Blind f (field "constraints" InterpretationConstraints.decode)
        fun _ => True := constraintsDecode_blind.field
    have hassets : Blind f (fieldOr "assets" [] (list (Asset.decode P))) fun _ => True :=
      assetDecode_blind.list_true.fieldOr
    have hintegrity : Blind f (fieldOr "content_integrity" none
        (nullable (ContentIntegrity.decode P))) fun _ => True :=
      (integrityDecode_blind.nullable (Q := fun _ => True)).fieldOr
    have hplan : Blind f (fieldOr "plan_mode" {} (PlanMode.decode P)) fun _ => True :=
      planModeDecode_blind.fieldOr
    have hinterpreted : Blind f (fieldOr "interpreted_fields" none
        (nullable (InterpretedFields.decode P))) fun _ => True :=
      ((interpretedDecode_blind hf).nullable (Q := fun _ => True)).fieldOr
    have hmissing : Blind f (fieldOr "missing_fields" [] (list MissingField.decode))
        fun _ => True := missingFieldDecode_blind.list_true.fieldOr
    simp only [yields_seq, yields_pure, InterpretationPayload.Valid, yields_and_left,
      yields_and_right, yields_const, yields_and_and_right, same_asStr.field v, texts_same v,
      intentDecode_blind.field v, hcandidates v, blueprintDecode_same.field v,
      subjectDecode_same.nullable.fieldOr v, subSubjectDecode_same.nullable.fieldOr v,
      audienceDecode_same.nullable.fieldOr v, characteristicsDecode_same.fieldOr v,
      assessmentDecode_same.list.fieldOr v, confidenceDecode_blind.field v,
      fallbackDecode_same.fieldOr v, hconstraints.isSome v, hassets.isSome v,
      hintegrity.isSome v, hplan.isSome v, hinterpreted.isSome v, hmissing.isSome v,
      metaRepairs_blind.isSome v]

end Blind

/-! ## The interpretation -/

/-- The fields that the repair does not replace have their types. -/
@[mk_iff] structure Shapes (v : Json) : Prop where
  constraints : WhenPresent "constraints" ConstraintsShape v
  contentIntegrity : WhenPresent "content_integrity" (OrNull IntegrityShape) v
  assets : WhenPresent "assets" (IsList AssetShape) v
  learningObjectives : WhenPresent "learning_objectives" (OrNull (IsList fun _ => True)) v
  planMode : WhenPresent "plan_mode" (OrNull PlanModeShape) v
  interpretedFields : WhenPresent "interpreted_fields" (OrNull InterpretedShape) v
  missingFields : WhenPresent "missing_fields" (OrNull (IsList MissingFieldShape)) v
  subjectContext :
    WhenPresent "subject_context" (OrNull (IsRecord SubjectContext.names 1 SubjectFields)) v
  subSubjectContext : WhenPresent "sub_subject_context"
    (OrNull (IsRecord SubSubjectContext.names 1 SubSubjectFields)) v
  targetAudience :
    WhenPresent "target_audience" (OrNull (IsRecord TargetAudience.names 1 AudienceFields)) v
  characteristics : WhenPresent "requested_media_characteristics"
    (IsRecord RequestedMediaCharacteristics.names 0 CharacteristicsFields) v
  assessments : WhenPresent "assessment_or_activity_blocks"
    (IsList (IsRecord AssessmentBlock.names 3 AssessmentFields)) v
  fallback : WhenPresent "fallback" (IsRecord InterpretationFallback.names 0 FallbackFields) v
  metaRepairs : v.get "meta_repairs" = none ∨ v.get "_meta_repairs" = none

/-- The texts of an interpretation are within their bounds, and the prompt is
where it is copied to. -/
@[mk_iff] structure TextsFit (P : ContractPlatform) (obj : Fields) : Prop where
  schemaVersion : WhenPresent "schema_version" (OrNull fun v => ∃ s, v = .str s ∧ s ≠ "") (.obj obj)
  teacherPrompt :
    WhenPresent "teacher_prompt" (OrNull (IsBounded 1 5000)) (.obj obj)
  language : TextFits "language" 32 True obj
  teacherIntent : IntentFits (promptOf obj) (lookup "teacher_intent" obj)
  candidates : CandidatesFit (lookup "output_type_candidates" obj)
  reasoning : TextFits "resolved_output_type_reasoning" 1000 True obj
  documentBlueprint : BlueprintFits (promptOf obj) (lookup "document_blueprint" obj)
    ((lookup "blueprint" obj).or (lookup "document" obj))
  deliverySummary : TextFits "teacher_delivery_summary" 1000 (Fits 1000 (promptOf obj)) obj
  confidence : ConfidenceFits P (lookup "confidence" obj)

section Repaired

variable {obj : Fields}

theorem schemaVersion_iff :
    Yields (field "schema_version" asStr (.obj (repair P obj))) NonEmpty ↔
      WhenPresent "schema_version" (OrNull fun v => ∃ s, v = .str s ∧ s ≠ "") (.obj obj) := by
  have hversion : schemaVersion ≠ "" := nonEmpty_iff.1 nonEmpty_schemaVersion
  unfold field WhenPresent
  rw [get_obj, get_obj, lookup_repair_schemaVersion]
  cases lookup "schema_version" obj with
  | none => simp [orDefault, isMissing, asStr, nonEmpty_iff, hversion]
  | some v => cases v <;>
      simp [orDefault, isMissing, asStr, nonEmpty_iff, hversion, OrNull, isNull]

theorem teacherPrompt_iff :
    Yields (field "teacher_prompt" asStr (.obj (repair P obj))) (HasLength 1 5000) ↔
      WhenPresent "teacher_prompt" (OrNull (IsBounded 1 5000)) (.obj obj) := by
  have hdefault : HasLength 1 5000 "Learning material" := by decide
  have hempty : ¬ HasLength 1 5000 "" := by decide
  unfold field WhenPresent IsBounded
  rw [get_obj, get_obj, lookup_repair_teacherPrompt]
  cases hv : lookup "teacher_prompt" obj with
  | none => simp [orDefaultText, isMissingOrEmpty, promptOf, textAt, hv, asStr, hdefault]
  | some v =>
    cases v with
    | str s =>
      by_cases hs : s = ""
      · simp [orDefaultText, isMissingOrEmpty, promptOf, textAt, hv, asStr, hs, hempty, OrNull,
          isNull]
      · simp [orDefaultText, isMissingOrEmpty, asStr, hs, OrNull, isNull]
    | null => simp [orDefaultText, isMissingOrEmpty, promptOf, textAt, hv, asStr, hdefault, OrNull,
        isNull]
    | _ => simp [orDefaultText, isMissingOrEmpty, asStr, OrNull, isNull]

theorem candidates_iff :
    (Yields (field "output_type_candidates" (list (OutputCandidate.decode P))
        (.obj (repair P obj))) fun cs => (∀ c ∈ cs, c.Valid) ∧ cs ≠ []) ↔
      CandidatesFit (lookup "output_type_candidates" obj) := by
  unfold field
  rw [get_obj, lookup_repair_candidates, ← candidatesDecode_iff (P := P)]

theorem constraintsField_iff :
    (field "constraints" InterpretationConstraints.decode (.obj (repair P obj))).isSome ↔
      WhenPresent "constraints" ConstraintsShape (.obj obj) := by
  rw [field_isSome, Required, get_obj, lookup_repair_constraints]
  exact constraints_iff

/-- An optional field that the repair changes in place. -/
theorem mappedField_iff {α : Type} {key : String} {default : α} {d : Decoder α} {f : Json → Json}
    {shape : Json → Prop} (hget : lookup key (repair P obj) = (lookup key obj).map f)
    (hshape : ∀ v, (d (f v)).isSome ↔ shape v) :
    (fieldOr key default d (.obj (repair P obj))).isSome ↔ WhenPresent key shape (.obj obj) := by
  rw [fieldOr_isSome]
  unfold WhenPresent
  rw [get_obj, get_obj, hget]
  cases lookup key obj with
  | none => simp
  | some v => simp [hshape]

/-- An optional field that the repair infers where it is missing. -/
theorem inferredField_iff {α : Type} {key : String} {default : α} {d : Decoder α}
    {f : Json → Json} {inferred : Json} {shape : Json → Prop}
    (hget : lookup key (repair P obj) =
      if isMissing (lookup key obj) then some inferred else (lookup key obj).map f)
    (hinferred : (d inferred).isSome)
    (hshape : ∀ v, v.isNull = false → ((d (f v)).isSome ↔ shape v)) :
    (fieldOr key default d (.obj (repair P obj))).isSome ↔
      WhenPresent key (OrNull shape) (.obj obj) := by
  rw [fieldOr_isSome]
  unfold WhenPresent
  rw [get_obj, get_obj, hget]
  cases lookup key obj with
  | none => simp [isMissing, hinferred]
  | some v =>
    cases v with
    | null => simp [isMissing, hinferred, OrNull, isNull]
    | _ =>
      simp only [isMissing, OrNull, isNull, Bool.false_eq_true, if_false, Option.map_some,
        Option.some.injEq, forall_eq', false_or]
      exact hshape _ rfl

theorem integrityField_iff :
    (fieldOr "content_integrity" none (nullable (ContentIntegrity.decode P))
        (.obj (repair P obj))).isSome ↔
      WhenPresent "content_integrity" (OrNull IntegrityShape) (.obj obj) :=
  mappedField_iff lookup_repair_integrity fun _ => integrity_iff

theorem assetsField_iff :
    (fieldOr "assets" [] (list (Asset.decode P)) (.obj (repair P obj))).isSome ↔
      WhenPresent "assets" (IsList AssetShape) (.obj obj) :=
  mappedField_iff lookup_repair_assets fun _ => assets_iff

theorem planModeField_iff :
    (fieldOr "plan_mode" {} (PlanMode.decode P) (.obj (repair P obj))).isSome ↔
      WhenPresent "plan_mode" (OrNull PlanModeShape) (.obj obj) :=
  inferredField_iff lookup_repair_planMode (inferPlanMode_decodes _) fun _ _ => planMode_iff

theorem interpretedField_iff :
    (fieldOr "interpreted_fields" none (nullable (InterpretedFields.decode P))
        (.obj (repair P obj))).isSome ↔
      WhenPresent "interpreted_fields" (OrNull InterpretedShape) (.obj obj) := by
  refine inferredField_iff lookup_repair_interpretedFields ?_ fun v hv => ?_
  · rw [nullable_isSome]
    exact .inr (writtenFields_decodes _ _ _ _ _ _ _)
  · have hnull : (inObject (repairCounts P (promptOf obj)) v).isNull = false := by
      cases v with
      | null => cases hv
      | _ => rfl
    have hshape := interpreted_iff (P := P) (p := promptOf obj) (v := v)
    rw [nullable_isSome, ← hshape, OrNull, hnull]
    simp

theorem objectivesField_iff :
    (texts "learning_objectives" (.obj (repair P obj))).isSome ↔
      WhenPresent "learning_objectives" (OrNull (IsList fun _ => True)) (.obj obj) := by
  rw [texts_isSome, WhenPresent, get_obj, lookup_repair_objectives]
  exact objectives_iff

theorem missingField_iff :
    (fieldOr "missing_fields" [] (list MissingField.decode) (.obj (repair P obj))).isSome ↔
      WhenPresent "missing_fields" (OrNull (IsList MissingFieldShape)) (.obj obj) := by
  rw [fieldOr_isSome, WhenPresent, get_obj, lookup_repair_missingFields]
  exact missingFields_iff

theorem metaRepairsField_iff :
    (metaRepairsField (.obj (repair P obj))).isSome ↔
      (Json.obj obj).get "meta_repairs" = none ∨ (Json.obj obj).get "_meta_repairs" = none := by
  rw [metaRepairs_isSome, get_obj, get_obj, lookup_repair_of_notMem (by decide),
    lookup_repair_of_notMem (by decide)]
  rfl

/-- A field that the repair leaves as it is. -/
theorem untouchedField_iff {key : String} {p : Json → Prop} (h : key ∉ repairedKeys) :
    WhenPresent key p (.obj (repair P obj)) ↔ WhenPresent key p (.obj obj) :=
  WhenPresent.congr (lookup_repair_of_notMem h)

/-- The parts of a repaired object whose texts are not validated decode exactly
when they have their types. -/
theorem shapes_iff_decode :
    Shapes (.obj obj) ↔
      (field "constraints" InterpretationConstraints.decode (.obj (repair P obj))).isSome ∧
      (fieldOr "content_integrity" none (nullable (ContentIntegrity.decode P))
        (.obj (repair P obj))).isSome ∧
      (fieldOr "assets" [] (list (Asset.decode P)) (.obj (repair P obj))).isSome ∧
      (texts "learning_objectives" (.obj (repair P obj))).isSome ∧
      (fieldOr "plan_mode" {} (PlanMode.decode P) (.obj (repair P obj))).isSome ∧
      (fieldOr "interpreted_fields" none (nullable (InterpretedFields.decode P))
        (.obj (repair P obj))).isSome ∧
      (fieldOr "missing_fields" [] (list MissingField.decode) (.obj (repair P obj))).isSome ∧
      (fieldOr "subject_context" none (nullable SubjectContext.decode)
        (.obj (repair P obj))).isSome ∧
      (fieldOr "sub_subject_context" none (nullable SubSubjectContext.decode)
        (.obj (repair P obj))).isSome ∧
      (fieldOr "target_audience" none (nullable TargetAudience.decode)
        (.obj (repair P obj))).isSome ∧
      (fieldOr "requested_media_characteristics" {} RequestedMediaCharacteristics.decode
        (.obj (repair P obj))).isSome ∧
      (fieldOr "assessment_or_activity_blocks" [] (list AssessmentBlock.decode)
        (.obj (repair P obj))).isSome ∧
      (fieldOr "fallback" {} InterpretationFallback.decode (.obj (repair P obj))).isSome ∧
      (metaRepairsField (.obj (repair P obj))).isSome := by
  rw [shapes_iff, constraintsField_iff, integrityField_iff, assetsField_iff, objectivesField_iff,
    planModeField_iff, interpretedField_iff, missingField_iff, metaRepairsField_iff]
  simp only [fieldOr_isSome, nullable_isSome, list_isSome, subjectDecode_isSome,
    subSubjectDecode_isSome, audienceDecode_isSome, characteristicsDecode_isSome,
    assessmentDecode_isSome, fallbackDecode_isSome]
  rw [untouchedField_iff (by decide), untouchedField_iff (by decide),
    untouchedField_iff (by decide), untouchedField_iff (by decide),
    untouchedField_iff (by decide), untouchedField_iff (by decide)]

/-- The validated texts of a repaired object are accepted exactly when they
fit. -/
theorem textsFit_iff_decode :
    TextsFit P obj ↔
      Yields (field "schema_version" asStr (.obj (repair P obj))) NonEmpty ∧
      Yields (field "teacher_prompt" asStr (.obj (repair P obj))) (HasLength 1 5000) ∧
      Yields (field "language" asStr (.obj (repair P obj))) (HasLength 1 32) ∧
      Yields (field "teacher_intent" (TeacherIntent.decode P) (.obj (repair P obj)))
        TeacherIntent.Valid ∧
      CandidatesFit (lookup "output_type_candidates" obj) ∧
      Yields (field "resolved_output_type_reasoning" asStr (.obj (repair P obj)))
        (HasLength 1 1000) ∧
      Yields (field "document_blueprint" DocumentBlueprint.decode (.obj (repair P obj)))
        DocumentBlueprint.Valid ∧
      Yields (field "teacher_delivery_summary" asStr (.obj (repair P obj))) (HasLength 1 1000) ∧
      Yields (field "confidence" (Confidence.decode P) (.obj (repair P obj))) Confidence.Valid := by
  have hreasoning : HasLength 1 1000 "Auto-selected based on content analysis." := by decide
  have hintent : field "teacher_intent" (TeacherIntent.decode P) (.obj (repair P obj)) =
      (repairTeacherIntent (promptOf obj) (lookup "teacher_intent" obj)).bind
        (TeacherIntent.decode P) := by
    rw [field, get_obj, lookup_repair_teacherIntent]
  have hblueprint : field "document_blueprint" DocumentBlueprint.decode (.obj (repair P obj)) =
      DocumentBlueprint.decode (inObject (repairBlueprint (promptOf obj))
        (foundBlueprint (promptOf obj) (textBlueprint (lookup "document_blueprint" obj))
          ((lookup "blueprint" obj).or (lookup "document" obj)))) := by
    rw [field, get_obj, lookup_repair_documentBlueprint, Option.bind_some]
  have hconfidence : field "confidence" (Confidence.decode P) (.obj (repair P obj)) =
      (repairConfidence P (lookup "confidence" obj)).bind (Confidence.decode P) := by
    rw [field, get_obj, lookup_repair_confidence]
  rw [textsFit_iff, schemaVersion_iff, teacherPrompt_iff,
    defaultField_iff obj lookup_repair_language (hasLength_detectLanguage _ _), hintent,
    intentDecode_iff, defaultField_iff obj lookup_repair_reasoning hreasoning,
    hblueprint, blueprintDecode_iff,
    promptField_iff obj lookup_repair_deliverySummary, hconfidence, confidenceDecode_iff]

end Repaired

/-- An object is accepted exactly when its fields have their types and its
texts fit. -/
theorem interpretation_accepted_iff (P : ContractPlatform) (obj : Fields) :
    (decodeAndValidate P (.obj obj)).isSome ↔ Shapes (.obj obj) ∧ TextsFit P obj := by
  rw [shapes_iff_decode (P := P), textsFit_iff_decode]
  unfold decodeAndValidate
  simp only [filter_isSome]
  rw [P.reread_blind (payloadDecode_blind fun q => ⟨P.rereadFloat q, rfl⟩)]
  simp only [InterpretationPayload.decode, yields_record, isRecord_obj, yields_seq, yields_pure,
    InterpretationPayload.Valid, yields_and_left, yields_and_right, yields_const,
    yields_and_and_right, candidates_iff]
  constructor
  · rintro ⟨hversion, hprompt, hlanguage, hintent, hcandidates, hreasoning, hblueprint,
      hdelivery, hmissing, hfields, hplan, hmeta, hintegrity, hfallback, hassessments, hassets,
      hcharacteristics, haudience, hsubSubject, hsubject, hconstraints, hobjectives, hconfidence⟩
    exact ⟨⟨hconstraints, hintegrity, hassets, hobjectives, hplan, hfields, hmissing, hsubject,
      hsubSubject, haudience, hcharacteristics, hassessments, hfallback, hmeta⟩, hversion, hprompt,
      hlanguage, hintent, hcandidates, hreasoning, hblueprint, hdelivery, hconfidence⟩
  · rintro ⟨⟨hconstraints, hintegrity, hassets, hobjectives, hplan, hfields, hmissing, hsubject,
      hsubSubject, haudience, hcharacteristics, hassessments, hfallback, hmeta⟩, hversion, hprompt,
      hlanguage, hintent, hcandidates, hreasoning, hblueprint, hdelivery, hconfidence⟩
    exact ⟨hversion, hprompt, hlanguage, hintent, hcandidates, hreasoning, hblueprint,
      hdelivery, hmissing, hfields, hplan, hmeta, hintegrity, hfallback, hassessments, hassets,
      hcharacteristics, haudience, hsubSubject, hsubject, hconstraints, hobjectives, hconfidence⟩

/-- The ASCII platform, on which no text is a number. -/
def asciiContracts : ContractPlatform :=
  { asciiPlatform with
    parseF64 := fun _ => none
    regexCapture := fun _ _ => none }

/-- Null candidates and an empty schema version are not repaired. -/
theorem nullCandidates_rejected :
    (decodeAndValidate asciiContracts (.obj [("teacher_prompt", "Buatkan materi"),
      ("output_type_candidates", .null)])).isNone ∧
    (decodeAndValidate asciiContracts (.obj [("teacher_prompt", "Buatkan materi"),
      ("schema_version", "")])).isNone := by
  decide +kernel

end KlassGateway.Contracts.PromptInterpretation
