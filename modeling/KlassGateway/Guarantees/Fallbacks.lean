import KlassGateway.Contracts.ContentDraft
import KlassGateway.Contracts.Delivery
import KlassGateway.Contracts.PromptInterpretation
import KlassGateway.System
/-!
# The last resorts

When a completion is rejected, its service answers with a fallback that is built
without a language model.  `lastResorts_valid_iff` says for which inputs each of
the three fallbacks satisfies the contract that the completion did not.

* The interpretation and the draft cut their texts with `truncate_str`, which
  appends its ellipsis on top of the bound, so they are valid only where there
  is nothing to cut.
* The draft takes the texts of an interpretation, which may be blank.
* The delivery fallback cuts at a byte offset, which may be inside a character.
-/

namespace KlassGateway.Contracts

open Lib Lib.Json

/-- Each fallback is valid exactly under a condition on its input: a prompt that
fits into a title, an interpretation without blank texts, and texts that are not
cut inside a character. -/
theorem lastResorts_valid_iff (P : Platform) :
    (∀ teacherPrompt preferredOutputType, Text.trim teacherPrompt ≠ "" →
      ((PromptInterpretation.fallback P teacherPrompt preferredOutputType).Valid ↔
        teacherPrompt.utf8ByteSize ≤ 5000 ∧ (Text.trim teacherPrompt).utf8ByteSize ≤ 200)) ∧
    (∀ p : PromptInterpretation.InterpretationPayload, p.Valid →
      ((ContentDraft.fallbackFromInterpretation p.documentBlueprint.title
          p.documentBlueprint.summary p.teacherDeliverySummary).Valid ↔
        Text.trim p.documentBlueprint.title ≠ "" ∧ Text.trim p.documentBlueprint.summary ≠ "" ∧
          Text.trim p.teacherDeliverySummary ≠ "")) ∧
    (∀ now title previewSummary outputType fileUrl mimeType, Text.trim title ≠ "" →
      Text.trim previewSummary ≠ "" → HasLength 1 100 outputType → HasLength 1 2048 fileUrl →
      Text.trim mimeType ≠ "" → HasLength 1 100 (P.rfc3339 now) →
      (Yields (Delivery.fallback P now title previewSummary outputType fileUrl mimeType)
          Delivery.DeliveryResponsePayload.Valid ↔
        Delivery.CutsCleanly title 200 ∧ Delivery.CutsCleanly previewSummary 1000 ∧
          Delivery.CutsCleanly mimeType 255)) := by
  refine ⟨fun teacherPrompt preferredOutputType hprompt => ?_, fun p hp => ?_, ?_⟩
  · have hnonempty : teacherPrompt ≠ "" := Text.ne_empty_of_trim hprompt
    rw [PromptInterpretation.fallback_valid_iff, hasLength_iff]
    simp [Fits, hprompt, hnonempty]
  · -- The bounds of a valid interpretation leave nothing to cut.
    obtain ⟨_, _, _, _, _, _, _, ⟨htitle, hsummary, _⟩, hdelivery, _⟩ := hp
    have hfits {max : Nat} {s : String} (h : HasLength 1 max s) : Fits max s ↔ Text.trim s ≠ "" :=
      and_iff_left ((Text.utf8ByteSize_trim_le s).trans h.2)
    rw [ContentDraft.fallbackFromInterpretation_valid_iff, hfits htitle, hfits hsummary,
      hfits hdelivery]
  · intro now title previewSummary outputType fileUrl mimeType htitle hsummary htype hurl hmime
      hstamp
    exact Delivery.fallback_valid_iff htitle hsummary htype hurl hmime hstamp

/-- A short prompt, its interpretation, and a short delivery get valid
fallbacks. -/
theorem lastResorts_valid_sample :
    (PromptInterpretation.fallback asciiPlatform "fotosintesis" "auto").Valid ∧
    (ContentDraft.fallbackFromInterpretation "fotosintesis" "fotosintesis" "fotosintesis").Valid ∧
    Yields (Delivery.fallback asciiPlatform 0 "Fotosintesis" "Ringkasan" "pdf" "https://r2/1.pdf"
      "application/pdf") Delivery.DeliveryResponsePayload.Valid := by
  have hresorts := lastResorts_valid_iff asciiPlatform
  have hvalid : (PromptInterpretation.fallback asciiPlatform "fotosintesis" "auto").Valid :=
    (hresorts.1 "fotosintesis" "auto" (by decide)).2 (by decide)
  exact ⟨hvalid, (hresorts.2.1 _ hvalid).2 (by decide),
    (hresorts.2.2 0 "Fotosintesis" "Ringkasan" "pdf" "https://r2/1.pdf" "application/pdf"
      (by decide) (by decide) (by decide) (by decide) (by decide) (by decide)).2 (by decide)⟩

/-- A prompt of 201 letters. -/
def longPrompt : String := String.ofList (List.replicate 201 'a')

/-- A title of 101 letters with two bytes each. -/
def accentedTitle : String := String.ofList (List.replicate 101 'é')

/-- Byte 197 is the second one of a letter. -/
theorem accentedTitle_cut : (Text.takeBytes accentedTitle 197).isSome = false := by
  unfold accentedTitle Text.takeBytes
  rw [String.toList_ofList, Option.isSome_map]
  decide +kernel

/-- The fallback for the long prompt is invalid, and a delivery with the accented
title has none: its cut falls inside a letter. -/
theorem fallback_invalid :
    (Text.trim longPrompt ≠ "" ∧
      ¬ (PromptInterpretation.fallback asciiPlatform longPrompt "auto").Valid) ∧
    (Text.trim accentedTitle ≠ "" ∧ (Delivery.fallback asciiPlatform 0 accentedTitle "Ringkasan"
      "pdf" "https://r2/1.pdf" "application/pdf").isNone) := by
  have hletters : Text.trim longPrompt = longPrompt := Text.trim_replicate (by decide)
  have haccents : Text.trim accentedTitle = accentedTitle := Text.trim_replicate (by decide)
  have hbytes : longPrompt.utf8ByteSize = 201 := Text.utf8ByteSize_replicate 201 'a'
  have hbytes' : accentedTitle.utf8ByteSize = 202 := Text.utf8ByteSize_replicate 101 'é'
  have hlong : Text.trim longPrompt ≠ "" ∧ ¬ Fits 200 longPrompt := by
    rw [Fits, hletters]
    exact ⟨Text.utf8ByteSize_pos_iff.1 (by omega), by omega⟩
  have htitle : Text.trim accentedTitle ≠ "" ∧ ¬ Delivery.CutsCleanly accentedTitle 200 := by
    rw [Delivery.CutsCleanly, haccents]
    refine ⟨Text.utf8ByteSize_pos_iff.1 (by omega), ?_⟩
    rintro (hsize | hsome)
    · omega
    · exact absurd (accentedTitle_cut.symm.trans hsome) Bool.false_ne_true
  refine ⟨⟨hlong.1, fun hvalid => ?_⟩, htitle.1, ?_⟩
  · rw [PromptInterpretation.fallback_valid_iff] at hvalid
    exact hlong.2 hvalid.2
  · have hnone : Delivery.truncate accentedTitle 200 = none := by
      rw [← Option.not_isSome_iff_eq_none, Delivery.truncate_isSome_iff]
      exact htitle.2
    rw [Delivery.fallback, hnone]
    rfl

end KlassGateway.Contracts
