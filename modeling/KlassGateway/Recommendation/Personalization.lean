import Mathlib.Data.List.Basic
/-!
# Personalization contexts

Model of `resolve` of `recommendation/personalization.rs`: the signals of a user that the
feed is personalized with.  The public part of a context, which only the response shows, is
left out, and so are the names and slugs.
-/

namespace KlassGateway.Recommendation

/-- `SubjectInfo`. -/
structure SubjectInfo where
  id : Int

/-- `ActivityRow`. -/
structure ActivityRow where
  subSubjectId : Int
  subjectId : Int

/-- `PersonalizationInput`. -/
structure PersonalizationInput where
  userId : Option Int := none
  primarySubject : Option SubjectInfo := none
  authoredTopicActivity : List ActivityRow := []

/-- `PERSONALIZED_MODE`. -/
def personalizedMode : String := "personalized_system_candidate_selection"

/-- `PersonalizationInternal`. -/
structure PersonalizationInternal where
  signalsAvailable : Bool
  primarySubjectId : Option Int
  preferredActivitySubSubjectIds : List Int
  secondaryActivitySubSubjectIds : List Int
  personalizedMode : String
  personalizedDescription : String

/-- `PersonalizationContext`, without its public part. -/
structure PersonalizationContext where
  internal : PersonalizationInternal

/-- `guest_context`. -/
def guestContext : PersonalizationContext where
  internal :=
    { signalsAvailable := false
      primarySubjectId := none
      preferredActivitySubSubjectIds := []
      secondaryActivitySubSubjectIds := []
      personalizedMode := personalizedMode
      personalizedDescription := "Select and order system-generated recommendations using " ++
        "authenticated user personalization signals." }

/-- `resolve_personalized_description`. -/
def resolvePersonalizedDescription (hasPrimarySubject hasAuthoredActivity : Bool) : String :=
  match hasPrimarySubject, hasAuthoredActivity with
  | true, true => "Select and order system-generated recommendations using the user " ++
      "primary subject and authored-topic activity."
  | true, false => "Select and order system-generated recommendations using the user " ++
      "primary subject when authored-topic activity is still sparse."
  | _, _ => "Select and order system-generated recommendations using authored-topic " ++
      "activity because no primary subject is set."

/-- `authenticated_context`. -/
def authenticatedContext (input : PersonalizationInput) : PersonalizationContext :=
  let hasPrimarySubject := input.primarySubject.isSome
  let hasAuthoredActivity := !input.authoredTopicActivity.isEmpty
  let preferred : List ActivityRow := match input.primarySubject with
    | some ps => input.authoredTopicActivity.filter fun r => r.subjectId = ps.id
    | none => input.authoredTopicActivity
  let secondary : List ActivityRow := match input.primarySubject with
    | some ps => input.authoredTopicActivity.filter fun r => r.subjectId ≠ ps.id
    | none => []
  { internal :=
      { signalsAvailable := hasPrimarySubject || hasAuthoredActivity
        primarySubjectId := input.primarySubject.map (·.id)
        preferredActivitySubSubjectIds := preferred.map (·.subSubjectId)
        secondaryActivitySubSubjectIds := secondary.map (·.subSubjectId)
        personalizedMode := personalizedMode
        personalizedDescription :=
          resolvePersonalizedDescription hasPrimarySubject hasAuthoredActivity } }

/-- `resolve`. -/
def resolve (input : PersonalizationInput) : PersonalizationContext :=
  match input.userId with
  | none => guestContext
  | some _ => authenticatedContext input

end KlassGateway.Recommendation
