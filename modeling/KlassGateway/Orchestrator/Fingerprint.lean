import KlassGateway.Base
import KlassGateway.Lib.Text
/-!
# Output types and request fingerprints

Model of the helper functions of `orchestrator/submission.rs`: the
normalisation of a preferred output type, and the fingerprint that two equal
requests share.
-/

namespace KlassGateway.Orchestrator

open Lib

variable (P : Platform)

/-- `ALLOWED_OUTPUT_TYPES`. -/
def allowedOutputTypes : List String := ["auto", "docx", "pdf", "pptx"]

/-- `normalize_preferred_output_type`. -/
def normalizePreferredOutputType (preferredOutputType : Option String) : String :=
  match preferredOutputType with
  | none => "auto"
  | some raw =>
    let trimmed := Text.trim raw
    if trimmed = "" then "auto"
    else
      let normalized := P.toLowercase trimmed
      if normalized ∈ allowedOutputTypes then normalized else "auto"

/-- The pass of `squish_and_lower`: white space collapses, every other
character is lower-cased. -/
def squishList : Bool → List Char → List Char
  | _, [] => []
  | prev, c :: cs =>
    if Text.isWhitespace c then
      if prev then squishList true cs else ' ' :: squishList true cs
    else P.lowerChar c ++ squishList false cs

/-- `squish_and_lower`. -/
def squishAndLower (s : String) : String := Text.trim (String.ofList (squishList P false s.toList))

/-- An optional id in the canonical form of a request. -/
def idOrNone (id : Option Int) : String :=
  match id with
  | some n => toString n
  | none => "none"

/-- `make_request_fingerprint`. -/
def makeRequestFingerprint (teacherId : Int) (rawPrompt preferredOutputType : String)
    (subjectId subSubjectId : Option Int) : String :=
  P.sha256Hex (toString teacherId ++ "|" ++ preferredOutputType ++ "|" ++ idOrNone subjectId ++
    "|" ++ idOrNone subSubjectId ++ "|" ++ squishAndLower P rawPrompt)

end KlassGateway.Orchestrator
