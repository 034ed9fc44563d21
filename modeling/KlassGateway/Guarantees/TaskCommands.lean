import KlassGateway.Footprints
import KlassGateway.Queue.Outcomes
/-!
# The commands of a worker task

The task of an entry is a program of the gateway, and `settle` is what the model of the
queue makes of its outcome.  The program, run with every Redis call a success, sends the
commands that `settle` lists, after a run that sends none.

* `commandSpec` keeps the commands that were sent.
* `readAdded_fieldsOf`, `reenqueueFields_toEntry`: the typed messages of the program are
  the texts of the queue.
* `afterRun_settles` and `workerTask_settles` are the connection.
-/

namespace KlassGateway.Queue.Wire

open Lib Lib.Prog Orchestrator

variable {P : Platform} {g : Uuid} {sent : List Command} {entryId : Nat} {message : JobMessage}

/-! ## Texts of a typed message -/

/-- The fields that `XADD` gets for a message. -/
def fieldsOf (P : Platform) (message : JobMessage) : Fields :=
  ("generation_id", message.generationId.toText) ::
    (match message.jobId with
      | some jobId => [("job_id", jobId.toText)]
      | none => []) ++
    [("attempt", attemptText message.attempt), ("enqueued_at", P.rfc3339 message.enqueuedAt)]

/-- What a worker reads of it. -/
def toEntry (entryId : Nat) (message : JobMessage) : StreamEntry :=
  ⟨entryIdText entryId, message.generationId.toText, message.jobId.map Uuid.toText, message.attempt⟩

theorem toText_ne_empty (u : Uuid) : u.toText ≠ "" := by
  intro h
  have hlist := congrArg String.toList h
  simp [Uuid.toText] at hlist

/-- The typed entry is what is read of its texts. -/
theorem readAdded_fieldsOf (h : -(2 ^ 63) ≤ message.attempt ∧ message.attempt < 2 ^ 63) :
    readAdded (entryIdText entryId) (fieldsOf P message) = toEntry entryId message := by
  cases hid : message.jobId with
  | none =>
    simp [readAdded, readEntry, fieldsOf, toEntry, hid, List.lookup_cons, parseI64_attempt h]
  | some jobId =>
    simp [readAdded, readEntry, fieldsOf, toEntry, hid, List.lookup_cons, parseI64_attempt h,
      Option.filter, toText_ne_empty]

/-- The typed message of a retry has the texts of one. -/
theorem reenqueueFields_toEntry (now : DateTime) :
    reenqueueFields (toEntry entryId message) (P.rfc3339 now) =
      fieldsOf P { message with attempt := message.attempt + 1, enqueuedAt := now } := by
  cases hid : message.jobId <;> simp [reenqueueFields, toEntry, fieldsOf, hid]

/-! ## The commands that are sent -/

/-- The commands with one more, unless it only takes a connection. -/
def tell (sent : List Command) : Command → List Command
  | .connect => sent
  | c => sent ++ [c]

/-- A Redis command succeeds and is sent, and other calls have any answer. -/
def Sends (sent : List Command) : (o : Operation) → o.Resp → List Command → Prop
  | .command c, r, sent' => (∃ v : c.Resp, r = Except.ok v) ∧ sent' = tell sent c
  | _, _, sent' => sent' = sent

/-- The commands of a program whose Redis calls succeed. -/
def commandSpec : OpSpec effects (List Command) where
  pre _ _ := True
  step := Sends

theorem wp_command_sent {c : Command} {Q : Except String c.Resp → List Command → Prop}
    (h : ∀ v, Q (.ok v) (tell sent c)) : (command c).run.wp commandSpec Q sent := by
  refine ⟨trivial, fun r sent' hsent => ?_⟩
  obtain ⟨⟨v, rfl⟩, rfl⟩ := hsent
  exact h v

theorem wp_utcNow_sent {Q : DateTime → List Command → Prop} (h : ∀ now, Q now sent) :
    utcNow.wp commandSpec Q sent := by
  refine ⟨trivial, fun now sent' hsent => ?_⟩
  obtain rfl : sent' = sent := hsent
  exact h now

/-- A call that is no command. -/
def NoCommand : Operation → Prop
  | .command _ => False
  | _ => True

theorem wp_of_noCommand {α : Type} {p : Gateway α} {φ : Operation → Prop} (hp : OnlyCalls φ p)
    (h : ∀ o, φ o → NoCommand o) : p.wp commandSpec (fun _ sent' => sent' = sent) sent := by
  refine hp.wp fun o ho => ⟨trivial, fun r sent' hsent => ?_⟩
  have hno := h o ho
  cases o with
  | command c => cases hno
  | _ => exact hsent

theorem RunCall.noCommand {o : Operation} (h : RunCall g o) : NoCommand o := by
  cases o with
  | command c =>
    rcases h with ((h | h) | h) | ⟨jobId, h | ⟨request, h, _⟩⟩
    · cases h
    · cases h
    · cases h
    · cases h
    · cases h
  | _ => trivial

theorem FailCall.noCommand {o : Operation} (h : FailCall g o) : NoCommand o := by
  cases o with
  | command c => cases h
  | _ => trivial

/-- `XACK` of the entry. -/
theorem wp_ackEntry {Q : Unit → List Command → Prop} (h : Q () (sent ++ [.xack entryId])) :
    (ackEntry entryId).wp commandSpec Q sent := by
  rw [ackEntry, bind_eq, wp_bind, wp_attempt]
  refine wp_command_sent fun _ => ?_
  change ((attempt (command (.xack entryId))).bind fun _ => ret ()).wp commandSpec Q sent
  rw [wp_bind, wp_attempt]
  exact wp_command_sent fun _ => h

/-- One dead letter. -/
theorem wp_sendToDlq {attempt : Int} {errorCode errorMsg : String} {Q : Unit → List Command → Prop}
    (h : ∀ movedAt retryMovedAt, Q () (sent ++ [.xaddDlq ⟨g, attempt,
      dlqPayload P g attempt errorCode errorMsg movedAt retryMovedAt⟩])) :
    (sendToDlq P g attempt errorCode errorMsg).wp commandSpec Q sent := by
  rw [sendToDlq, bind_eq, wp_bind]
  refine wp_utcNow_sent fun movedAt => ?_
  rw [bind_eq, wp_bind]
  refine wp_utcNow_sent fun retryMovedAt => ?_
  rw [bind_eq, wp_bind, wp_attempt, xaddDlq]
  refine (wp_run_bind _ _ _ _).2 (wp_command_sent fun _ => wp_command_sent fun _ => ?_)
  rw [bind_eq, wp_bind, wp_attempt]
  refine wp_mono (fun _ sent' hsent => ?_)
    (wp_of_noCommand (only_markFailed _ _ _ _ _ _) fun _ => FailCall.noCommand)
  rw [hsent]
  exact h movedAt retryMovedAt

/-- `XACK` of the entry and one message. -/
theorem wp_reenqueue {Q : Unit → List Command → Prop}
    (h : ∀ now, Q () (sent ++ [.xack entryId] ++
      [.xadd { message with attempt := message.attempt + 1, enqueuedAt := now }])) :
    (reenqueue entryId message).wp commandSpec Q sent := by
  rw [reenqueue, bind_eq, wp_bind, wp_attempt]
  refine wp_command_sent fun _ => ?_
  change ((attempt (command (.xack entryId))).bind fun _ => utcNow.bind fun now =>
    (attempt (command (.xadd { message with attempt := message.attempt + 1, enqueuedAt := now }))).bind
      fun _ => ret ()).wp commandSpec Q sent
  rw [wp_bind, wp_attempt]
  refine wp_command_sent fun _ => ?_
  rw [wp_bind]
  refine wp_utcNow_sent fun now => ?_
  rw [wp_bind, wp_attempt]
  exact wp_command_sent fun _ => h now

/-! ## The task -/

/-- The command of an act. -/
inductive Does (P : Platform) (entryId : Nat) (message : JobMessage) : Act → Command → Prop
  | xack : Does P entryId message .xack (.xack entryId)
  | xadd (now : DateTime) : Does P entryId message .xadd
      (.xadd { message with attempt := message.attempt + 1, enqueuedAt := now })
  | sendToDlq (attempt : Int) (errorCode errorMsg : String) (movedAt retryMovedAt : DateTime) :
      Does P entryId message (.sendToDlq attempt errorCode errorMsg)
        (.xaddDlq ⟨message.generationId, attempt,
          dlqPayload P message.generationId attempt errorCode errorMsg movedAt retryMovedAt⟩)

/-- After a failed run the task sends what `settle` lists. -/
theorem handleFailure_settles (errorMsg : String) :
    (handleFailure P entryId message errorMsg).wp commandSpec (fun _ sent =>
      List.Forall₂ (Does P entryId message) (settle P (toEntry entryId message) (.error errorMsg))
        sent) [] := by
  have hattempt : (toEntry entryId message).attempt = message.attempt := rfl
  rw [handleFailure, settle, hattempt]
  split_ifs with hpermanent hlast
  · rw [bind_eq, wp_bind]
    refine wp_sendToDlq fun movedAt retryMovedAt => wp_ackEntry ?_
    exact .cons (.sendToDlq _ _ _ _ _) (.cons .xack .nil)
  · rw [bind_eq, wp_bind]
    refine wp_sendToDlq fun movedAt retryMovedAt => wp_ackEntry ?_
    exact .cons (.sendToDlq _ _ _ _ _) (.cons .xack .nil)
  · exact wp_reenqueue fun now => .cons .xack (.cons (.xadd now) .nil)

/-- What the task does with the outcome of its run. -/
def afterRun (P : Platform) (entryId : Nat) (message : JobMessage) :
    Except WorkflowError Unit → Gateway Unit
  | .ok () => ackEntry entryId
  | .error e => handleFailure P entryId message e.toText

theorem workerTask_eq (P : Platform) (steps : Steps) (entryId : Nat) (message : JobMessage) :
    workerTask P steps entryId message =
      (attempt (process P steps message.generationId message.jobId (some message.attempt)
        (some workerJobContext))).bind (afterRun P entryId message) := rfl

/-- After its run the task sends what `settle` lists for the outcome. -/
theorem afterRun_settles (result : Except WorkflowError Unit) :
    (afterRun P entryId message result).wp commandSpec (fun _ sent =>
      List.Forall₂ (Does P entryId message)
        (settle P (toEntry entryId message) (result.mapError WorkflowError.toText)) sent) [] := by
  cases result with
  | ok u => exact wp_ackEntry (.cons .xack .nil)
  | error e => exact handleFailure_settles e.toText

/-- The commands of a task are what `settle` lists for the outcome of its run. -/
theorem workerTask_settles (P : Platform) (url : String) (entryId : Nat) (message : JobMessage) :
    (workerTask P (workerSteps P url) entryId message).wp commandSpec (fun _ sent =>
      ∃ result : Except WorkflowError Unit, List.Forall₂ (Does P entryId message)
        (settle P (toEntry entryId message) (result.mapError WorkflowError.toText)) sent) [] := by
  rw [workerTask_eq, wp_bind, wp_attempt]
  refine wp_mono (fun result sent hsent => ?_)
    (wp_of_noCommand (only_process (g := message.generationId) _) fun _ => RunCall.noCommand)
  rw [hsent]
  exact wp_mono (fun _ _ hdoes => ⟨result, hdoes⟩) (afterRun_settles result)

end KlassGateway.Queue.Wire
