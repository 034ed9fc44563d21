import KlassGateway.Effects
/-!
# Retries from the dead-letter stream

Model of `retry_from_dlq` and `delete_dlq_entry` in `queue/dead_letter.rs`.  No
request and no worker calls them, so they are no programs of the system.  They
have an interface of their own, with the two commands on the dead-letter stream
that nothing else sends.

An entry of the stream is parsed, so the branches for entries of another shape
are left out: `send_to_dlq` is the only writer.
-/

namespace KlassGateway.Queue

open Lib

/-- The calls of a retry. -/
inductive RetryOperation where
  | command (c : Command)
  /-- `Utc::now()`. -/
  | now
  /-- `XRANGE` of the whole dead-letter stream. -/
  | xrangeDlq
  | xdelDlq (entryId : Nat)

namespace RetryOperation

/-- The answer of a call. -/
def Resp : RetryOperation → Type
  | command c => Except String c.Resp
  | now => DateTime
  | xrangeDlq => Except String (List (StreamEntry DeadLetter))
  | xdelDlq _ => Except String Unit

/-- Run a call. -/
def exec (r : Redis) : (o : RetryOperation) → Choice → o.Resp × Redis
  | command cmd, c => withFault id c.fault r (cmd.exec r)
  | now, c => (c.clock, r)
  | xrangeDlq, c => withFault id c.fault r (.ok r.dlq.entries, r)
  | xdelDlq entryId, c => withFault id c.fault r (.ok (), { r with dlq := r.dlq.delete entryId })

end RetryOperation

/-- The interface of a retry. -/
def retryEffects : Interface := ⟨RetryOperation, RetryOperation.Resp⟩

/-- The machine that runs it. -/
def retryMachine : Machine retryEffects := ⟨Redis, Choice, RetryOperation.exec⟩

/-- A command that the queue sends too. -/
def retryCommand (c : Command) : Fallible retryEffects String c.Resp :=
  ExceptT.mk (perform (I := retryEffects) (.command c))

/-- `XRANGE`. -/
def xrangeDlq : Fallible retryEffects String (List (StreamEntry DeadLetter)) :=
  ExceptT.mk (perform (I := retryEffects) .xrangeDlq)

/-- `XDEL`. -/
def xdelDlq (entryId : Nat) : Fallible retryEffects String Unit :=
  ExceptT.mk (perform (I := retryEffects) (.xdelDlq entryId))

/-- `XDEL` of each listed entry: the replies are dropped. -/
def deleteAll : List Nat → Prog retryEffects Unit
  | [] => pure ()
  | entryId :: rest => do
    let _ ← attempt (xdelDlq entryId)
    deleteAll rest

/-- `delete_dlq_entry`: whether there was an entry for the generation. -/
def deleteDlqEntry (generationId : Uuid) : Fallible retryEffects String Bool := do
  let _ ← retryCommand .connect
  let entries ← xrangeDlq
  let entryIds := (entries.filter fun e => e.fields.generationId = generationId).map StreamEntry.id
  if entryIds.isEmpty then return false
  else
    deleteAll entryIds
    return true

/-- The message of a retry: its job id is the empty text, which a worker reads
as none. -/
def retryMessage (generationId : Uuid) (enqueuedAt : DateTime) : JobMessage :=
  { generationId, jobId := none, attempt := 1, enqueuedAt }

/-- `retry_from_dlq`. -/
def retryFromDlq (generationId : Uuid) : Fallible retryEffects String Bool := do
  if ← deleteDlqEntry generationId then
    let _ ← retryCommand .connect
    let enqueuedAt ← perform (I := retryEffects) .now
    let _ ← retryCommand (.xadd (retryMessage generationId enqueuedAt))
    return true
  else return false

end KlassGateway.Queue
