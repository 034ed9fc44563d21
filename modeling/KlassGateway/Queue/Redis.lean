import KlassGateway.Base
import KlassGateway.Lib.RedisStream
/-!
# The Redis store of the queue

The job stream `klass:media-gen` with the group `klass-workers`, the
dead-letter stream `klass:media-gen-dlq`, and the commands that
`queue/redis_streams.rs`, `queue/dead_letter.rs` and `queue/worker.rs` send.

A message carries UUIDs instead of their texts: every producer writes the text
of a UUID.
-/

namespace KlassGateway.Queue

open Lib

/-- The fields of an entry of the job stream. -/
structure JobMessage where
  generationId : Uuid
  jobId : Option Uuid
  attempt : Int
  enqueuedAt : DateTime := 0

/-- The fields of an entry of the dead-letter stream. -/
structure DeadLetter where
  generationId : Uuid
  attempt : Int
  payload : Json

/-- The two streams. -/
structure Redis where
  jobs : Stream JobMessage := {}
  dlq : Stream DeadLetter := {}

/-- The commands, and `connect` for `pool.get()`. -/
inductive Command where
  | connect
  | xgroupCreate
  | xadd (message : JobMessage)
  | xaddDlq (letter : DeadLetter)
  | xack (entryId : Nat)
  | xpending (count : Nat)
  | xclaim (consumer : String) (entryId : Nat)

namespace Command

/-- The value of a reply. -/
def Resp : Command → Type
  | xadd _ => Nat
  | xaddDlq _ => Nat
  | xpending _ => List Nat
  | _ => Unit

/-- Run a command. -/
def exec (r : Redis) : (c : Command) → Except String c.Resp × Redis
  | connect => (.ok (), r)
  | xgroupCreate =>
    match r.jobs.createGroup with
    | some jobs => (.ok (), { r with jobs })
    | none => (.error "BUSYGROUP: Consumer Group name already exists", r)
  | xadd message =>
    let (entryId, jobs) := r.jobs.add message
    (.ok entryId, { r with jobs })
  | xaddDlq letter =>
    let (entryId, dlq) := r.dlq.add letter
    (.ok entryId, { r with dlq })
  | xack entryId => (.ok (), { r with jobs := r.jobs.ack entryId })
  | xpending count =>
    if r.jobs.group.isSome then (.ok (r.jobs.pendingIds count), r)
    else (.error "NOGROUP: No such key or consumer group", r)
  | xclaim consumer entryId => (.ok (), { r with jobs := r.jobs.claim consumer entryId })

end Command

end KlassGateway.Queue
