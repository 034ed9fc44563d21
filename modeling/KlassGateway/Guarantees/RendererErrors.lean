import KlassGateway.Queue.Worker
import KlassGateway.System
import KlassGateway.Lib.Lowercase
/-!
# Which answers of the renderer are tried again

The client makes an error of an answer, and the worker looks for certain words
in the text of the error.  The text contains what the renderer wrote into the
body, and nothing of the status.

* `permanent_rendererText`, `permanent_httpText`: the fixed parts of the text
  decide nothing, so that it depends on the words of the answer alone.
* `endsRight_iff`: which answers end as their status says.
-/

namespace KlassGateway.Queue

open Lib Lib.Text Orchestrator MediaGen

variable {P : Platform}

/-! ## The outcome -/

/-- Whether the job is tried again after an answer of the renderer; `none` if the
job was accepted. -/
def triedAgain (P : Platform) (reply : RendererReply) : Option Bool :=
  match readReply reply with
  | .ok () => none
  | .error e => some (isRetryableError P (WorkflowError.stepProvider e.toText).toText)

/-- A status from 400 to 499 other than 429. -/
def Rejected (status : Nat) : Prop := 400 ≤ status ∧ status < 500 ∧ status ≠ 429

/-- The status 429 or one from 500 to 599. -/
def Unavailable (status : Nat) : Prop := status = 429 ∨ 500 ≤ status ∧ status < 600

instance (status : Nat) : Decidable (Rejected status) :=
  inferInstanceAs (Decidable (_ ∧ _ ∧ _))

instance (status : Nat) : Decidable (Unavailable status) :=
  inferInstanceAs (Decidable (_ ∨ _ ∧ _))

/-- A rejected job is not tried again, and one that the renderer could not take
is. -/
structure EndsRight (P : Platform) (status : Nat) (body : Except String Json) : Prop where
  rejected : Rejected status → triedAgain P (.replied status body) = some false
  unavailable : Unavailable status → triedAgain P (.replied status body) = some true

/-! ## The words of an answer -/

/-- The error code that a body names. -/
def errorHint (body : Json) : Option String :=
  (nonEmptyStr (body.pointer ["error", "laravel_error_code_hint"])).or
    (nonEmptyStr (body.get "error_code"))

/-- The message that a body has. -/
def errorMessage (body : Json) : Option String :=
  (((body.pointer ["error", "message"]).bind Json.asStr).or
    ((body.get "message").bind Json.asStr)).or ((body.get "error_message").bind Json.asStr)

/-- The texts of an answer: of a JSON body its code and message, otherwise what
the HTTP library says about it. -/
def replyTexts : Except String Json → List String
  | .ok body => (errorHint body).toList ++ (errorMessage body).toList
  | .error message => [message]

/-- The words that each make an error permanent. -/
def permanentWords : List String :=
  ["artifact_invalid", "incoming request payload failed validation", "missing required",
    "validation error"]

/-- A word occurs in one of the texts, whatever the case of its letters. -/
def Mentions (P : Platform) (word : String) (texts : List String) : Prop :=
  ∃ s ∈ texts, contains (P.toLowercase s) word = true

/-- Some words make an error permanent; those of a failed contract do unless a
timeout or a connection is mentioned too. -/
def Permanent (P : Platform) (texts : List String) : Prop :=
  (∃ word ∈ permanentWords, Mentions P word texts) ∨
    Mentions P "contract validation failed" texts ∧ ¬ Mentions P "timeout" texts ∧
      ¬ Mentions P "connection" texts

@[simp] theorem mentions_singleton {word s : String} :
    Mentions P word [s] ↔ contains (P.toLowercase s) word = true := by
  simp [Mentions]

theorem mentions_append {word : String} {texts texts' : List String} :
    Mentions P word (texts ++ texts') ↔ Mentions P word texts ∨ Mentions P word texts' := by
  simp only [Mentions, List.mem_append, or_and_right, exists_or]

/-- What the worker tests. -/
theorem isRetryableError_iff {s : String} : isRetryableError P s = true ↔ ¬ Permanent P [s] := by
  unfold isRetryableError Permanent
  simp only [mentions_singleton, permanentWords, List.mem_cons, List.not_mem_nil, or_false,
    exists_eq_or_imp, exists_eq_left]
  grind

/-! ## The fixed parts of the text -/

/-- The words that the worker looks for. -/
def words : List String := permanentWords ++ ["contract validation failed", "timeout", "connection"]

/-- What is used of the mapping to lower case. -/
structure LowersWords (P : Platform) : Prop where
  texts : LowersTexts P.lowerChar P.toLowercase
  ascii : LowersAscii P.lowerChar

/-- Characters that no word contains. -/
theorem words_chars : ∀ word ∈ words, NoSigma word.toList ∧ '(' ∉ word.toList ∧
    ')' ∉ word.toList ∧ ':' ∉ word.toList ∧ word.toList ≠ [] ∧ word.toList.head? ≠ some ' ' := by
  decide

theorem LowersWords.mentions_iff (h : LowersWords P) {word : String} (hword : word ∈ words)
    (s : String) : Mentions P word [s] ↔ word.toList <:+: s.toList.flatMap P.lowerChar := by
  rw [mentions_singleton, h.texts.contains_iff (words_chars word hword).1]

/-- A fixed text before a character that no word contains decides nothing. -/
theorem infix_after_fixed {word : String} (hword : word ∈ words) {fixed rest : List Char} {c : Char}
    (hc : c ∈ ['(', ')', ':']) (hfixed : ∀ w ∈ words, containsList w.toList fixed = false) :
    word.toList <:+: fixed ++ c :: rest ↔ word.toList <:+: rest := by
  obtain ⟨-, hopening, hclosing, hcolon, -⟩ := words_chars word hword
  have hnot : c ∉ word.toList := by
    simp only [List.mem_cons, List.not_mem_nil, or_false] at hc
    rcases hc with rfl | rfl | rfl <;> assumption
  have hnone : ¬ word.toList <:+: fixed := by
    rw [← containsList_iff_infix, hfixed word hword]
    decide
  rw [infix_append_cons_iff hnot, or_iff_right hnone]

/-- A blank before a text decides nothing. -/
theorem infix_after_blank {word : String} (hword : word ∈ words) {rest : List Char} :
    word.toList <:+: ' ' :: rest ↔ word.toList <:+: rest := by
  obtain ⟨-, -, -, -, hne, hhead⟩ := words_chars word hword
  rw [List.infix_cons_iff, or_iff_right]
  intro hbegins
  obtain ⟨d, ds, hds⟩ := List.exists_cons_of_ne_nil hne
  rw [hds] at hbegins hhead
  exact hhead (congrArg some (List.cons_prefix_cons.1 hbegins).1)

/-- The part of the text before the code. -/
theorem renderer_fixed : ∀ w ∈ words,
    containsList w.toList "step provider error: python renderer error ".toList = false := by
  decide +kernel

/-- The part of the text before what the HTTP library says. -/
theorem http_fixed : ∀ w ∈ words,
    containsList w.toList "step provider error: http request failed".toList = false := by
  decide +kernel

theorem nil_fixed : ∀ w ∈ words, containsList w.toList [] = false := by
  decide

theorem permanent_congr {texts texts' : List String}
    (h : ∀ word ∈ words, Mentions P word texts ↔ Mentions P word texts') :
    Permanent P texts ↔ Permanent P texts' := by
  unfold Permanent
  have hpermanent : (∃ word ∈ permanentWords, Mentions P word texts) ↔
      ∃ word ∈ permanentWords, Mentions P word texts' :=
    exists_congr fun word => and_congr_right fun hword =>
      h word (List.mem_append_left _ hword)
  rw [hpermanent, h "contract validation failed" (by decide), h "timeout" (by decide),
    h "connection" (by decide)]

/-- The text of an error of the renderer says what its code and its message
say. -/
theorem permanent_rendererText (h : LowersWords P) (code message : String) (status : Nat)
    (body : Json) :
    Permanent P [(WorkflowError.stepProvider
      (PythonClientError.rendererError code message status body).toText).toText] ↔
      Permanent P [code, message] := by
  apply permanent_congr
  intro word hword
  have hstep : "step provider error: ".toList.flatMap P.lowerChar = "step provider error: ".toList.map Char.toLower :=
    h.ascii.flatMap (by decide)
  have hopen : "Python renderer error (".toList.flatMap P.lowerChar = "Python renderer error (".toList.map Char.toLower :=
    h.ascii.flatMap (by decide)
  have hclose : "): ".toList.flatMap P.lowerChar = "): ".toList.map Char.toLower :=
    h.ascii.flatMap (by decide)
  have htext : (WorkflowError.stepProvider
      (PythonClientError.rendererError code message status body).toText).toText.toList.flatMap
        P.lowerChar = "step provider error: python renderer error ".toList ++
          '(' :: (code.toList.flatMap P.lowerChar ++ ')' :: ([] ++ ':' ::
            ' ' :: message.toList.flatMap P.lowerChar)) := by
    show ("step provider error: " ++
      ("Python renderer error (" ++ code ++ "): " ++ message)).toList.flatMap _ = _
    simp only [String.toList_append, List.flatMap_append, hstep, hopen, hclose]
    simp
  have hboth : Mentions P word [code, message] ↔
      Mentions P word [code] ∨ Mentions P word [message] :=
    @mentions_append P word [code] [message]
  have hclosing : ')' ∉ word.toList := (words_chars word hword).2.2.1
  rw [hboth, h.mentions_iff hword, h.mentions_iff hword, h.mentions_iff hword, htext,
    infix_after_fixed hword (by decide) renderer_fixed, infix_append_cons_iff hclosing,
    infix_after_fixed hword (by decide) nil_fixed, infix_after_blank hword]

/-- The text of a failed call says what the HTTP library says. -/
theorem permanent_httpText (h : LowersWords P) (message : String) :
    Permanent P [(WorkflowError.stepProvider (PythonClientError.http message).toText).toText] ↔
      Permanent P [message] := by
  apply permanent_congr
  intro word hword
  have hstep : "step provider error: ".toList.flatMap P.lowerChar = "step provider error: ".toList.map Char.toLower :=
    h.ascii.flatMap (by decide)
  have hhttp : "HTTP request failed: ".toList.flatMap P.lowerChar = "HTTP request failed: ".toList.map Char.toLower :=
    h.ascii.flatMap (by decide)
  have htext : (WorkflowError.stepProvider
      (PythonClientError.http message).toText).toText.toList.flatMap P.lowerChar =
        "step provider error: http request failed".toList ++
          ':' :: ' ' :: message.toList.flatMap P.lowerChar := by
    show ("step provider error: " ++ ("HTTP request failed: " ++ message)).toList.flatMap _ = _
    simp only [String.toList_append, List.flatMap_append, hstep, hhttp]
    simp
  rw [h.mentions_iff hword, h.mentions_iff hword, htext,
    infix_after_fixed hword (by decide) http_fixed, infix_after_blank hword]

/-! ## The texts that the client fills in -/

theorem mapErrorCode_eq (status : Nat) (body : Json) :
    mapErrorCode status body = (errorHint body).getD
      (if status = 429 ∨ (500 ≤ status ∧ status ≤ 599) then "PYTHON_SERVICE_UNAVAILABLE"
        else "ARTIFACT_INVALID") := by
  unfold mapErrorCode errorHint
  cases nonEmptyStr (body.pointer ["error", "laravel_error_code_hint"]) with
  | some hint => rfl
  | none => cases nonEmptyStr (body.get "error_code") <;> rfl

theorem extractErrorMessage_eq (body : Json) :
    extractErrorMessage body = (errorMessage body).getD "Unknown error from Python renderer" := rfl

/-- A text of the client that contains no word, in lower case. -/
theorem LowersWords.silent (h : LowersWords P) {s : String}
    (hascii : s.toList.all (fun c => c.toNat < 128) = true)
    (hnone : ∀ w ∈ words, containsList w.toList (s.toList.map Char.toLower) = false)
    {word : String} (hword : word ∈ words) : ¬ Mentions P word [s] := by
  rw [h.mentions_iff hword, h.ascii.flatMap hascii, ← containsList_iff_infix, hnone word hword]
  decide

/-- A text that the client fills in without a word counts as none. -/
theorem mentions_getD {word default : String} (hdefault : ¬ Mentions P word [default])
    (s : Option String) : Mentions P word [s.getD default] ↔ Mentions P word s.toList := by
  cases s with
  | none => simpa [Mentions] using hdefault
  | some s => exact Iff.rfl

/-- The client's code for a rejected job makes the error permanent. -/
theorem permanent_artifactInvalid (h : LowersWords P) (message : String) :
    Permanent P ["ARTIFACT_INVALID", message] := by
  have hmentions : Mentions P "artifact_invalid" ["ARTIFACT_INVALID"] := by
    rw [h.mentions_iff (by decide), h.ascii.flatMap (by decide), ← containsList_iff_infix]
    decide
  exact .inl ⟨"artifact_invalid", by decide, _, List.mem_cons_self .., by simpa using hmentions⟩

/-- A code and a message of the client say what those of the body say, if the
client's own code contains no word. -/
theorem permanent_filledIn (h : LowersWords P) {default : String}
    (hdefault : ∀ word ∈ words, ¬ Mentions P word [default]) (body : Json) :
    Permanent P [(errorHint body).getD default, extractErrorMessage body] ↔
      Permanent P (replyTexts (.ok body)) := by
  apply permanent_congr
  intro word hword
  have hboth : Mentions P word [(errorHint body).getD default, extractErrorMessage body] ↔
      Mentions P word [(errorHint body).getD default] ∨
        Mentions P word [extractErrorMessage body] :=
    @mentions_append P word [_] [_]
  have hunknown := h.silent (s := "Unknown error from Python renderer") (by decide)
    (by decide +kernel) hword
  rw [hboth, extractErrorMessage_eq, mentions_getD (hdefault word hword), mentions_getD hunknown,
    replyTexts, mentions_append]

/-! ## The guarantee -/

/-- The words of an answer match its status: those of a rejected job make the
error permanent, or the body leaves the code to the client; and those of a job
that the renderer could not take do not. -/
structure WordsMatch (P : Platform) (status : Nat) (body : Except String Json) : Prop where
  rejected : Rejected status →
    (∃ v, body = .ok v ∧ errorHint v = none) ∨ Permanent P (replyTexts body)
  unavailable : Unavailable status → ¬ Permanent P (replyTexts body)

theorem triedAgain_of_error {reply : RendererReply} {e : PythonClientError}
    (h : readReply reply = .error e) {texts : List String}
    (htexts : Permanent P [(WorkflowError.stepProvider e.toText).toText] ↔ Permanent P texts) :
    (triedAgain P reply = some false ↔ Permanent P texts) ∧
      (triedAgain P reply = some true ↔ ¬ Permanent P texts) := by
  have hretry := isRetryableError_iff (P := P) (s := (WorkflowError.stepProvider e.toText).toText)
  rw [htexts] at hretry
  simp only [triedAgain, h, Option.some.injEq]
  refine ⟨?_, hretry⟩
  rw [← Bool.not_eq_true, hretry, not_not]

/-- Answers end as their status says exactly where their words match it. -/
theorem endsRight_iff (h : LowersWords P) (status : Nat) (body : Except String Json) :
    EndsRight P status body ↔ WordsMatch P status body := by
  have hfailed : Rejected status ∨ Unavailable status → isSuccess status = false := by
    unfold Rejected Unavailable isSuccess
    intro hstatus
    simp only [Bool.and_eq_false_iff, decide_eq_false_iff_not]
    omega
  cases body with
  | error message =>
    have hreply : readReply (.replied status (.error message)) = .error (.http message) := rfl
    obtain ⟨hfinal, hagain⟩ := triedAgain_of_error hreply (permanent_httpText h message)
    constructor
    · exact fun hends => ⟨fun hrejected => .inr (hfinal.1 (hends.rejected hrejected)),
        fun hunavailable => hagain.1 (hends.unavailable hunavailable)⟩
    · intro hmatch
      refine ⟨fun hrejected => hfinal.2 ?_, fun hunavailable => hagain.2 (hmatch.unavailable hunavailable)⟩
      rcases hmatch.rejected hrejected with ⟨v, hv, _⟩ | hpermanent
      · cases hv
      · exact hpermanent
  | ok v =>
    -- The client's error, once the status is known to be one of an error.
    have herror (hstatus : Rejected status ∨ Unavailable status) :
        readReply (.replied status (.ok v)) =
          .error (.rendererError (mapErrorCode status v) (extractErrorMessage v) status v) := by
      rw [readReply, hfailed hstatus]
      rfl
    have hunavailable (hstatus : Unavailable status) :
        Permanent P [mapErrorCode status v, extractErrorMessage v] ↔
          Permanent P (replyTexts (.ok v)) := by
      have hcode : status = 429 ∨ (500 ≤ status ∧ status ≤ 599) := by
        unfold Unavailable at hstatus
        omega
      rw [mapErrorCode_eq, if_pos hcode]
      exact permanent_filledIn h (fun word => h.silent (by decide) (by decide +kernel)) v
    have hrejected (hstatus : Rejected status) :
        Permanent P [mapErrorCode status v, extractErrorMessage v] ↔
          errorHint v = none ∨ Permanent P (replyTexts (.ok v)) := by
      have hcode : ¬ (status = 429 ∨ (500 ≤ status ∧ status ≤ 599)) := by
        unfold Rejected at hstatus
        omega
      rw [mapErrorCode_eq, if_neg hcode]
      cases hhint : errorHint v with
      | none => exact iff_of_true (permanent_artifactInvalid h _) (.inl rfl)
      | some code =>
        -- The code of the body stands whatever the client would fill in.
        have hsilent (word : String) : word ∈ words → ¬ Mentions P word ["PYTHON_SERVICE_UNAVAILABLE"] :=
          h.silent (by decide) (by decide +kernel)
        have hfilled := permanent_filledIn h hsilent v
        rw [hhint] at hfilled
        simpa using hfilled
    constructor
    · intro hends
      refine ⟨fun hstatus => ?_, fun hstatus => ?_⟩
      · have hpermanent := (triedAgain_of_error (herror (.inl hstatus))
          (permanent_rendererText h _ _ _ _)).1.1 (hends.rejected hstatus)
        exact ((hrejected hstatus).1 hpermanent).imp_left fun hnone => ⟨v, rfl, hnone⟩
      · have hpermanent := (triedAgain_of_error (herror (.inr hstatus))
          (permanent_rendererText h _ _ _ _)).2.1 (hends.unavailable hstatus)
        rwa [hunavailable hstatus] at hpermanent
    · intro hmatch
      refine ⟨fun hstatus => ?_, fun hstatus => ?_⟩
      · apply (triedAgain_of_error (herror (.inl hstatus)) (permanent_rendererText h _ _ _ _)).1.2
        apply (hrejected hstatus).2
        rcases hmatch.rejected hstatus with ⟨w, hw, hnone⟩ | hpermanent
        · cases hw
          exact .inl hnone
        · exact .inr hpermanent
      · apply (triedAgain_of_error (herror (.inr hstatus)) (permanent_rendererText h _ _ _ _)).2.2
        rw [hunavailable hstatus]
        exact hmatch.unavailable hstatus

/-- The mapping of ASCII letters and of the capital sigma. -/
def lowerGreek (c : Char) : List Char := if c = 'Σ' then ['σ'] else [c.toLower]

/-- The ASCII platform with it. -/
def greekPlatform : Platform :=
  { asciiPlatform with
    lowerChar := lowerGreek
    toLowercase := fun s => String.ofList (s.toList.flatMap lowerGreek) }

theorem greekPlatform_lowers : LowersWords greekPlatform where
  texts := {
    chars := lowersChars_toLower.update (by decide) (by decide)
      (List.forall_mem_singleton.2 (by decide))
    sigma := by decide
    texts := fun s => by
      show Lowered lowerGreek s.toList (String.ofList (s.toList.flatMap lowerGreek)).toList
      rw [String.toList_ofList]
      exact lowered_flatMap _ _ }
  ascii c hc := by
    have hsigma : c ≠ 'Σ' := by
      rintro rfl
      revert hc
      decide
    exact if_neg hsigma

theorem endsRight_sample :
    EndsRight greekPlatform 422 (.ok (.obj [("message", "the field title is missing")])) :=
  (endsRight_iff greekPlatform_lowers _ _).2
    ⟨fun _ => .inl ⟨_, rfl, rfl⟩, fun h => absurd h (by decide)⟩

/-- A missing route that answers with a page of HTML, a refusal with a code of
its own, and an overloaded service whose message names a validation error. -/
theorem answers_misjudged :
    ¬ EndsRight greekPlatform 404 (.error "error decoding response body") ∧
      ¬ EndsRight greekPlatform 400 (.ok (.obj [("error_code", "INVALID_INPUT")])) ∧
      ¬ EndsRight greekPlatform 503 (.ok (.obj [("message", "schema validation error upstream")])) := by
  refine ⟨fun h => ?_, fun h => ?_, fun h => ?_⟩
  · have hfinal := h.rejected (by decide)
    revert hfinal
    decide +kernel
  · have hfinal := h.rejected (by decide)
    revert hfinal
    decide +kernel
  · have hagain := h.unavailable (by decide)
    revert hagain
    decide +kernel

end KlassGateway.Queue
