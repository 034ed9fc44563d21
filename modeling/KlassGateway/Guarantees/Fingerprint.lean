import KlassGateway.Orchestrator.Fingerprint
import KlassGateway.Lib.Words
import KlassGateway.Lib.Lowercase
import KlassGateway.System
import Mathlib.Logic.Equiv.Basic
/-!
# What a request fingerprint tells apart

The pass that squishes and lower-cases a prompt works on single characters;
what it leaves are the words of the lower-cased prompt.  The other parts of the
canonical form hold no separator, so the text is read back in one way only,
whatever the prompt holds.
-/

namespace KlassGateway.Orchestrator

open Lib Lib.Text

/-- The prompt with each character in lower case, every run of white space
collapsed to one blank, and none at either end. -/
def normalizedPrompt (P : Platform) (prompt : String) : String :=
  String.ofList (joinWords (wordsList isWhitespace (prompt.toList.flatMap P.lowerChar)))

variable {P : Platform}

theorem collapseList_append_word {w : List Char} (hne : w ≠ [])
    (hw : ∀ d ∈ w, isWhitespace d = false) (prev : Bool) (cs : List Char) :
    collapseList prev (w ++ cs) = w ++ collapseList false cs := by
  induction w generalizing prev with
  | nil => exact absurd rfl hne
  | cons c w ih =>
    have hc : isWhitespace c = false := hw c (List.mem_cons_self ..)
    by_cases hnil : w = []
    · simp [hnil, collapseList, hc]
    · have hrest := ih hnil (fun d hd => hw d (List.mem_cons_of_mem _ hd)) false
      simp [collapseList, hc, hrest]

/-- Lower-casing in the same pass is lower-casing first. -/
theorem squishList_eq (hlower : LowersChars P.lowerChar) (prev : Bool) (cs : List Char) :
    squishList P prev cs = collapseList prev (cs.flatMap P.lowerChar) := by
  induction cs generalizing prev with
  | nil => rfl
  | cons c cs ih =>
    by_cases hc : isWhitespace c = true
    · simp [squishList, collapseList, hlower.space c hc, hc, ih]
    · have hword := hlower.word c (by simpa using hc)
      rw [List.flatMap_cons, collapseList_append_word (hlower.ne_nil c) hword]
      simp [squishList, hc, ih]

theorem squishAndLower_eq (hlower : LowersChars P.lowerChar) (s : String) :
    squishAndLower P s = normalizedPrompt P s := by
  rw [squishAndLower, normalizedPrompt, trim, String.toList_ofList, squishList_eq hlower,
    trim_collapse]

/-! ## Reading the canonical form back -/

theorem separator_not_mem_outputType {outputType : String} (h : outputType ∈ allowedOutputTypes) :
    '|' ∉ outputType.toList := by
  simp only [allowedOutputTypes, List.mem_cons, List.not_mem_nil, or_false] at h
  rcases h with rfl | rfl | rfl | rfl <;> decide

theorem separator_not_mem_idOrNone (id : Option Int) : '|' ∉ (idOrNone id).toList := by
  cases id with
  | none => decide
  | some n => exact not_mem_toString (by decide) (by decide)

theorem idOrNone_injective {id id' : Option Int} (h : idOrNone id = idOrNone id') : id = id' := by
  have hnone (n : Int) : toString n ≠ "none" := fun he => by
    have hmem : 'n' ∈ (toString n).toList := by
      rw [he]
      decide
    exact not_mem_toString (by decide) (by decide) hmem
  cases id with
  | none =>
    cases id' with
    | none => rfl
    | some n => exact absurd h.symm (hnone n)
  | some m =>
    cases id' with
    | none => exact absurd h (hnone m)
    | some n => rw [toString_int_injective h]

/-- The canonical form of a request. -/
def canonicalRequest (teacherId : Int) (outputType : String) (subjectId subSubjectId : Option Int)
    (prompt : String) : List Char :=
  (toString teacherId).toList ++ '|' :: (outputType.toList ++ '|' ::
    ((idOrNone subjectId).toList ++ '|' :: ((idOrNone subSubjectId).toList ++ '|' ::
      prompt.toList)))

theorem makeRequestFingerprint_eq (hlower : LowersChars P.lowerChar) (teacherId : Int)
    (prompt outputType : String) (subjectId subSubjectId : Option Int) :
    makeRequestFingerprint P teacherId prompt outputType subjectId subSubjectId =
      P.sha256Hex (String.ofList (canonicalRequest teacherId outputType subjectId subSubjectId
        (normalizedPrompt P prompt))) := by
  rw [makeRequestFingerprint, squishAndLower_eq hlower]
  congr 1
  apply String.toList_injective
  simp [canonicalRequest]

/-- The separator stands in the prompt only, so each part is read off. -/
theorem canonicalRequest_inj {teacherId teacherId' : Int} {outputType outputType' : String}
    {subjectId subSubjectId subjectId' subSubjectId' : Option Int} {p q : String}
    (htype : outputType ∈ allowedOutputTypes) (htype' : outputType' ∈ allowedOutputTypes)
    (h : canonicalRequest teacherId outputType subjectId subSubjectId p =
      canonicalRequest teacherId' outputType' subjectId' subSubjectId' q) :
    teacherId = teacherId' ∧ outputType = outputType' ∧ subjectId = subjectId' ∧
      subSubjectId = subSubjectId' ∧ p = q := by
  have hdigits (i : Int) : '|' ∉ (toString i).toList := not_mem_toString (by decide) (by decide)
  obtain ⟨hteacher, h⟩ := append_cons_inj (hdigits _) (hdigits _) h
  obtain ⟨houtput, h⟩ := append_cons_inj (separator_not_mem_outputType htype)
    (separator_not_mem_outputType htype') h
  obtain ⟨hsubject, h⟩ := append_cons_inj (separator_not_mem_idOrNone _)
    (separator_not_mem_idOrNone _) h
  obtain ⟨hsub, h⟩ := append_cons_inj (separator_not_mem_idOrNone _)
    (separator_not_mem_idOrNone _) h
  exact ⟨toString_int_injective (String.toList_injective hteacher),
    String.toList_injective houtput, idOrNone_injective (String.toList_injective hsubject),
    idOrNone_injective (String.toList_injective hsub), String.toList_injective h⟩

/-- Two requests of one teacher for one output type and subject have the same
fingerprint when their prompts have the same words but for case, and requests
that differ in one of these never have the same, whatever their prompts. -/
theorem fingerprint_eq_iff (hlower : LowersChars P.lowerChar)
    (hsha : Function.Injective P.sha256Hex) (teacherId : Int) {outputType : String}
    (htype : outputType ∈ allowedOutputTypes) (subjectId subSubjectId : Option Int)
    (p q : String) :
    (makeRequestFingerprint P teacherId p outputType subjectId subSubjectId =
        makeRequestFingerprint P teacherId q outputType subjectId subSubjectId ↔
      normalizedPrompt P p = normalizedPrompt P q) ∧
    ∀ (teacherId' : Int) (outputType' : String) (subjectId' subSubjectId' : Option Int),
      outputType' ∈ allowedOutputTypes →
      (teacherId, outputType, subjectId, subSubjectId) ≠
        (teacherId', outputType', subjectId', subSubjectId') →
      makeRequestFingerprint P teacherId p outputType subjectId subSubjectId ≠
        makeRequestFingerprint P teacherId' q outputType' subjectId' subSubjectId' := by
  have hread {teacherId' : Int} {outputType' : String} {subjectId' subSubjectId' : Option Int}
      (htype' : outputType' ∈ allowedOutputTypes)
      (h : makeRequestFingerprint P teacherId p outputType subjectId subSubjectId =
        makeRequestFingerprint P teacherId' q outputType' subjectId' subSubjectId') :=
    canonicalRequest_inj htype htype' (String.ofList_injective (hsha (by
      rw [← makeRequestFingerprint_eq hlower, ← makeRequestFingerprint_eq hlower]
      exact h)))
  refine ⟨⟨fun h => (hread htype h).2.2.2.2, fun h => ?_⟩, fun t o s s' htype' hne h => ?_⟩
  · rw [makeRequestFingerprint_eq hlower, makeRequestFingerprint_eq hlower, h]
  · obtain ⟨rfl, rfl, rfl, rfl, _⟩ := hread htype' h
    exact hne rfl

theorem lowersChars_ascii : LowersChars asciiPlatform.lowerChar := lowersChars_toLower

/-- The digests of two requests. -/
def digestPlatform : Platform where
  __ := asciiPlatform
  sha256Hex := (Equiv.swap "7|pptx|3|none|buat modul ipa"
      "7a4095d3a2b8f91c9abf565a690e5895d5ae17df92ad3c7b844a53ed0a42dae5").trans
    (Equiv.swap "7|auto|none|3|buat modul ipa"
      "2baeccfaf5a2b0d8bfedb6b8bfcbc1f912f34ae88ee4aea72ac25eb82e9368b9")

theorem fingerprint_eq_iff_sample :
    makeRequestFingerprint digestPlatform 7 "Buat  Modul IPA" "pptx" (some 3) none =
        makeRequestFingerprint digestPlatform 7 " buat modul\tipa" "pptx" (some 3) none ∧
      makeRequestFingerprint digestPlatform 7 "Buat  Modul IPA" "pptx" (some 3) none ≠
        makeRequestFingerprint digestPlatform 7 " buat modul\tipa" "auto" none (some 3) := by
  have htype : "pptx" ∈ allowedOutputTypes := by decide
  have h := fingerprint_eq_iff (P := digestPlatform) lowersChars_ascii (Equiv.injective _) 7
    htype (some 3) none "Buat  Modul IPA" " buat modul\tipa"
  exact ⟨h.1.2 (by decide +kernel), h.2 7 "auto" none (some 3) (by decide) (by decide)⟩

end KlassGateway.Orchestrator
