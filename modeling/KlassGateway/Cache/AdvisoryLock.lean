import KlassGateway.Cache.CacheKey
import KlassGateway.Governance.Preflight
import KlassGateway.Lib.Typestate
/-!
# The lock of a cache entry

Model of `try_acquire_lock`, `release_lock` and `wait_for_entry` in `cache/mod.rs`, and of the
steps of `interpret` in `llm/interpret.rs` around them.  The services in `llm/respond.rs` and
`llm/draft.rs` go through the same steps.

An advisory lock belongs to a session of the database, which may take it several times; a
statement runs in any session of the connection pool.  What a request reads and what a provider
answers is chosen at each call.

The statements may fail, but for that of `release_lock`: its error is only logged and leaves the
lock with its session in any pool, so the runs here are those in which every release is executed.
-/

namespace KlassGateway.Cache

open Lib

/-! ## Locks of sessions -/

/-- `build_lock_id`.  `digest` gives the first eight bytes of the digest of a text. -/
def buildLockId (digest : String → Int) (route : CacheRoute) (cacheKey : String) : Int :=
  let lockId := digest (route.asStr ++ ":" ++ Text.trim cacheKey)
  if lockId ≤ 0 then 1 else lockId

/-- The locks that each session holds, with the requests that have taken them. -/
abbrev SessionLocks (sessions : Nat) : Type := Fin sessions → Int → List Nat

namespace SessionLocks

variable {sessions : Nat}

/-- The requests by which other sessions hold a lock. -/
def blockers (held : SessionLocks sessions) (session : Fin sessions) (lockId : Int) : List Nat :=
  (List.finRange sessions).flatMap fun other => if other = session then [] else held other lockId

/-- The requests by which a session holds a lock are now `owners`. -/
def set (held : SessionLocks sessions) (session : Fin sessions) (lockId : Int)
    (owners : List Nat) : SessionLocks sessions :=
  fun s id => if s = session ∧ id = lockId then owners else held s id

/-- `pg_try_advisory_lock`. -/
def tryLock (held : SessionLocks sessions) (session : Fin sessions) (lockId : Int)
    (request : Nat) : Bool × SessionLocks sessions :=
  if (held.blockers session lockId).isEmpty then
    (true, held.set session lockId (request :: held session lockId))
  else (false, held)

/-- `pg_advisory_unlock`: it undoes one `pg_try_advisory_lock` of the session, that of the
request if there is one. -/
def unlock (held : SessionLocks sessions) (session : Fin sessions) (lockId : Int)
    (request : Nat) : Bool × SessionLocks sessions :=
  match held session lockId with
  | [] => (false, held)
  | owner :: owners =>
    (true, held.set session lockId
      (if request ∈ owner :: owners then (owner :: owners).erase request else owners))

end SessionLocks

/-! ## Calls -/

/-- The errors of a service. -/
inductive LlmError where
  | governance (e : SqlxError)
  | rateLimited
  | cache (e : SqlxError)
  | contract (message : String)
  | provider (message : String)

/-- What a service returns. -/
structure LlmResult where
  payload : Json
  cacheHit : Bool

/-- The calls of a request.  `executeProvider` is the call of the provider with all that follows
it but the release of the lock, `polls` how often the entry is looked for before the deadline of
`wait_for_entry`, and `finish` the return of the service. -/
inductive CacheOp where
  | preflightCheck
  | lookup
  | tryAcquireLock (request : Nat) (lockId : Int)
  | polls
  | peek
  | executeProvider (shouldCache : Bool)
  | releaseLock (request : Nat) (lockId : Int)
  | finish (request : Nat) (result : Except LlmError LlmResult)

/-- Their answers. -/
abbrev CacheOp.Resp : CacheOp → Type
  | preflightCheck => Except SqlxError Governance.ExhaustionAction
  | lookup => Except SqlxError (Option Json)
  | tryAcquireLock _ _ => Except SqlxError Bool
  | polls => Nat
  | peek => Except SqlxError (Option Json)
  | executeProvider _ => Except LlmError LlmResult
  | releaseLock _ _ => Except SqlxError Bool
  | finish _ _ => Unit

/-- The calls with their answers. -/
def cacheOps : Interface := ⟨CacheOp, CacheOp.Resp⟩

/-! ## The services -/

/-- `wait_for_entry`, which looks once more than there are sleeps. -/
def waitForEntry : Nat → Prog cacheOps (Except SqlxError (Option Json))
  | 0 => .op .peek .ret
  | sleeps + 1 => .op .peek fun
    | .error e => .ret (.error e)
    | .ok (some entry) => .ret (.ok (some entry))
    | .ok none => waitForEntry sleeps

section Service

variable (decode : Json → Except String Json) (request : Nat) (lockId : Int) (bypassCache : Bool)

/-- The result of a service from an entry of the cache. -/
def fromEntry (entry : Json) : Except LlmError LlmResult :=
  match decode entry with
  | .ok payload => .ok { payload, cacheHit := true }
  | .error message => .error (.contract message)

/-- The steps of a service after a cache miss. -/
def afterMiss : Prog cacheOps (Except LlmError LlmResult) :=
  .op (.tryAcquireLock request lockId) fun
    | .error e => .ret (.error (.cache e))
    | .ok true =>
      .op (.executeProvider (!bypassCache)) fun result =>
        -- the lock is released in any session, and an error is only logged
        .op (.releaseLock request lockId) fun _ => .ret result
    | .ok false =>
      .op .polls fun sleeps => (waitForEntry sleeps).bind fun
        | .error e => .ret (.error (.cache e))
        | .ok (some entry) => .ret (fromEntry decode entry)
        | .ok none => .op (.executeProvider (!bypassCache)) .ret

/-- The steps of a service after its preflight check has allowed the request. -/
def whenAllowed : Prog cacheOps (Except LlmError LlmResult) :=
  if bypassCache then afterMiss decode request lockId bypassCache
  else .op .lookup fun
    | .error e => .ret (.error (.cache e))
    | .ok (some entry) => .ret (fromEntry decode entry)
    | .ok none => afterMiss decode request lockId bypassCache

/-- `interpret`, and `respond` and `draft`. -/
def service : Prog cacheOps (Except LlmError LlmResult) :=
  .op .preflightCheck fun
    | .error e => .ret (.error (.governance e))
    | .ok .deny => .ret (.error .rateLimited)
    | .ok .degrade => .op (.executeProvider false) .ret
    | .ok .allow => whenAllowed decode request lockId bypassCache

end Service

/-- A request to one of the services, with its cache key. -/
inductive LlmRequest where
  | interpret (cacheKey : String)
  | respond (cacheKey : String)
  | draft (cacheKey : String) (bypassCache : Bool)

namespace LlmRequest

/-- The route and the key of its entry. -/
def entry : LlmRequest → CacheRoute × String
  | interpret cacheKey => (.interpret, cacheKey)
  | respond cacheKey => (.respond, cacheKey)
  | draft cacheKey _ => (.respond, cacheKey)

/-- `bypass_cache`. -/
def bypassCache : LlmRequest → Bool
  | draft _ bypassCache => bypassCache
  | _ => false

end LlmRequest

/-- The text functions of the services: the digest of a lock id, and the check of an entry. -/
structure CachePlatform where
  digest : String → Int
  decode : CacheRoute → Json → Except String Json

/-- What the requests share: the functions, the sessions of the pool, and the requests. -/
structure LlmRequests where
  platform : CachePlatform
  sessions : Nat
  requests : List LlmRequest

namespace LlmRequests

variable (u : LlmRequests)

/-- The lock of a request. -/
def lockId (r : LlmRequest) : Int := buildLockId u.platform.digest r.entry.1 r.entry.2

/-- The request with the number. -/
def prog (number : Nat) (r : LlmRequest) : Prog cacheOps Unit :=
  (service (u.platform.decode r.entry.1) number (u.lockId r) r.bypassCache).bind fun result =>
    .op (.finish number result) .ret

/-- The locks, and what has happened: the requests between the two calls of their lock, those
that have returned, and for each refused lock the request and one that the lock was held by. -/
structure World where
  held : SessionLocks u.sessions
  holding : List Nat
  finished : List Nat
  refusals : List (Nat × Nat)

/-- What a call gets from outside: the session of the pool, an error of the statement, and what
it reads. -/
structure Choice where
  session : Fin u.sessions
  error : Option SqlxError
  action : Governance.ExhaustionAction
  entry : Option Json
  sleeps : Nat
  provided : Except LlmError LlmResult

/-- An answer, or the error of the statement. -/
def orError {α : Type} (error : Option SqlxError) (a : α) : Except SqlxError α :=
  match error with
  | none => .ok a
  | some e => .error e

/-- What the calls do. -/
def exec (w : u.World) : (o : CacheOp) → u.Choice → o.Resp × u.World
  | .preflightCheck, c => (orError c.error c.action, w)
  | .lookup, c => (orError c.error c.entry, w)
  | .tryAcquireLock request lockId, c =>
    match c.error with
    | some e => (.error e, w)
    | none =>
      match w.held.tryLock c.session lockId request with
      | (true, held) => (.ok true, { w with held, holding := request :: w.holding })
      | (false, _) =>
        (.ok false, { w with
          refusals := (w.held.blockers c.session lockId).map (Prod.mk request) ++ w.refusals })
  | .polls, c => (c.sleeps, w)
  | .peek, c => (orError c.error c.entry, w)
  | .executeProvider _, c => (c.provided, w)
  | .releaseLock request lockId, c =>
    -- `c.error` is not looked at: a release does not fail
    let answer := w.held.unlock c.session lockId request
    (.ok answer.1, { w with held := answer.2, holding := w.holding.filter (· ≠ request) })
  | .finish request _, _ => ((), { w with finished := request :: w.finished })

/-- Requests beside each other. -/
def system : Pool cacheOps where
  World := u.World
  Choice := u.Choice
  exec w o c := u.exec w o c
  Label := Unit
  Arrival := Empty
  relabel _ _ _ := ()
  arrive _ arrival := arrival.elim

/-- Before the first call. -/
def start : u.system.State where
  world := { held := fun _ _ => [], holding := [], finished := [], refusals := [] }
  next := u.requests.length
  tasks i := u.requests[i]?.bind fun r => Pool.keep () (u.prog i r)

/-- The states of all runs: every step is a call of one of the requests. -/
def Reached (s : u.system.State) : Prop :=
  Pool.Reach (fun _ a => ∃ i c, a = Pool.Action.act i c) u.start s

end LlmRequests

end KlassGateway.Cache
