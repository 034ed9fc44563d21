import KlassGateway.Cache.CacheKey
import KlassGateway.Governance.Preflight
import KlassGateway.Lib.Evicting
import KlassGateway.Lib.Sorting
/-!
# The entries of the cache

Model of `LlmCacheRepo` in `cache/mod.rs` without its locks, over the table `llm_cache_entries`.

A request is a program of statements.  Each statement is atomic and has its own `NOW()`; it may
fail, or work and lose its reply.  The clocks are chosen at each call and need not agree.  Only
`cleanup_sql` is not atomic: it picks the ids of expired rows from its snapshot and then deletes
the rows that have these ids.  A row that was changed in between is deleted all the same, since
`READ COMMITTED` checks only the condition on the id again.

The column `cache_key` is a `CHAR(64)`, which keeps the digests of `build_cache_key` as they are.
The payloads are `JSONB` values: what comes back has the floats of `Platform.fromJsonb`, and a
payload that is no such value (a text with `U+0000`) makes the statement fail.  `JSONB` also sorts
the keys of objects; objects that differ only in that are the same payload.

The world also keeps a history, newest event first: what each statement has done that could be
seen later, and what each request has returned.
-/

namespace KlassGateway.Cache

open Lib

/-! ## Rows -/

/-- `CacheRoute::default_ttl_seconds`. -/
def CacheRoute.defaultTtlSeconds : CacheRoute → Int
  | interpret => 3600
  | respond => 86400

/-- A key as `build_cache_key` makes it: the 64 hexadecimal digits of a digest. -/
structure CacheKey where
  text : String
  length : text.length = 64
  digits : ∀ c ∈ text.toList, c ∈ "0123456789abcdef".toList
  deriving DecidableEq

/-- `CacheEntry`. -/
structure CacheEntry where
  cacheKey : CacheKey
  requestPayload : Json
  responsePayload : Json
  createdAt : DateTime
  expiresAt : DateTime
  hitCount : Int
  lastHitAt : Option DateTime

/-- A row of `llm_cache_entries`. -/
structure LlmCacheRow extends CacheEntry where
  id : Int
  route : CacheRoute

/-- `CleanupResult`. -/
structure CleanupResult where
  route : CacheRoute
  deletedCount : Int

namespace LlmCacheRow

/-- The column `cache_key`. -/
def key (r : LlmCacheRow) : CacheKey := r.cacheKey

/-- The columns that the statements return. -/
def entry (r : LlmCacheRow) : CacheEntry := r.toCacheEntry

/-- The condition of `lookup_sql` and of `touch_sql`. -/
def Found (route : CacheRoute) (cacheKey : CacheKey) (now : DateTime) (r : LlmCacheRow) : Bool :=
  r.cacheKey = cacheKey && r.route = route && now < r.expiresAt

end LlmCacheRow

/-- `hit_count` and `last_hit_at` after a hit. -/
def CacheEntry.hit (now : DateTime) (e : CacheEntry) : CacheEntry :=
  { e with hitCount := e.hitCount + 1, lastHitAt := some now }

section Sql

variable (rows : List LlmCacheRow) (route : CacheRoute) (cacheKey : CacheKey) (now : DateTime)

/-- `lookup_sql`, of which the first row is fetched. -/
def lookupSql : Option LlmCacheRow := rows.find? (LlmCacheRow.Found route cacheKey now)

/-- A row after `touch_sql`. -/
def touched (r : LlmCacheRow) : LlmCacheRow :=
  if r.Found route cacheKey now then { r with toCacheEntry := r.entry.hit now } else r

/-- `touch_sql`. -/
def touchSql : List LlmCacheRow := rows.map (touched route cacheKey now)

/-- `ON CONFLICT (cache_key) DO UPDATE SET ...`: the id and the route stay. -/
def mergeEntry (new old : LlmCacheRow) : LlmCacheRow := { old with toCacheEntry := new.entry }

/-- `upsert_sql`. -/
def upsertSql (new : LlmCacheRow) : List LlmCacheRow :=
  Table.upsert LlmCacheRow.key mergeEntry new rows

/-- `delete_expired_by_key_sql`. -/
def deleteExpiredByKeySql : List LlmCacheRow :=
  rows.filter fun r => !(decide (r.cacheKey = cacheKey) && decide (r.expiresAt ≤ now))

/-- `expired` in `cleanup_sql`. -/
def expiredSql (limit : Nat) : List LlmCacheRow :=
  ((rows.filter fun r => decide (r.route = route) && decide (r.expiresAt ≤ now)).mergeSort
    fun r r' => decide (r.expiresAt ≤ r'.expiresAt)).take limit

/-- What is left by the `DELETE` of `cleanup_sql`. -/
def deletePickedSql (ids : List Int) : List LlmCacheRow := rows.filter fun r => r.id ∉ ids

end Sql

/-! ## Calls -/

/-- The calls of a request.  `lazyCleanupDue` is what happens under the lock of
`lazy_cleanup_last`, `pickExpired` and `deletePicked` are the parts of `cleanup_sql`, `polls` is
how often an entry is looked for before the deadline of `wait_for_entry`, and `returned` the end
of the request. -/
inductive StoreOp (Result : Type) where
  | lazyCleanupDue (repo : Nat)
  | pickExpired (route : CacheRoute) (limit : Int)
  | deletePicked (ids : List Int)
  | deleteExpiredByKey (cacheKey : CacheKey)
  | touch (request : Nat) (route : CacheRoute) (cacheKey : CacheKey)
  | lookup (request : Nat) (route : CacheRoute) (cacheKey : CacheKey)
  | utcNow
  | upsert (request : Nat) (route : CacheRoute) (cacheKey : CacheKey)
      (requestPayload responsePayload : Json) (expiresAt : DateTime)
  | polls
  | returned (request : Nat) (result : Result)

/-- What a request returns. -/
inductive CacheResult where
  | found (result : Except SqlxError (Option CacheEntry))
  | stored (result : Except SqlxError CacheEntry)
  | cleaned (result : Except SqlxError CleanupResult)

/-- Their answers. -/
abbrev StoreOp.Resp : StoreOp CacheResult → Type
  | lazyCleanupDue _ => Bool
  | pickExpired _ _ => Except SqlxError (List Int)
  | deletePicked _ => Except SqlxError (Option Int)
  | deleteExpiredByKey _ => Except SqlxError Unit
  | touch _ _ _ => Except SqlxError (Option CacheEntry)
  | lookup _ _ _ => Except SqlxError (Option CacheEntry)
  | utcNow => DateTime
  | upsert _ _ _ _ _ _ => Except SqlxError CacheEntry
  | polls => Nat
  | returned _ _ => Unit

/-- The calls with their answers. -/
def storeOps : Interface := ⟨StoreOp CacheResult, StoreOp.Resp⟩

/-- `Utc::now() + chrono::Duration::seconds(ttl)`.  `none` is the panic outside of the range of
durations, which count milliseconds in 64 bits, or of dates. -/
def expiryTime (now : DateTime) (ttl : Int) : Option DateTime :=
  let t := now + ttl * 1000000000
  if ttl.natAbs ≤ 9223372036854775 ∧ -8334601228800000000000 ≤ t ∧ t < 8210266876800000000000 then
    some t
  else none

/-! ## The repository -/

namespace LlmCacheRepo

/-- `cleanup_expired`.  `deleted_count` is the scalar of the first row that the statement
returns. -/
def cleanupExpired (route : CacheRoute) (limit : Int) :
    Prog storeOps (Except SqlxError CleanupResult) :=
  .op (.pickExpired route limit) fun
    | .error e => .ret (.error e)
    | .ok ids => .op (.deletePicked ids) fun
      | .error e => .ret (.error e)
      | .ok deleted => .ret (.ok ⟨route, deleted.getD 0⟩)

/-- `maybe_run_lazy_cleanup`. -/
def maybeRunLazyCleanup (repo : Nat) (route : CacheRoute) : Prog storeOps Unit :=
  .op (.lazyCleanupDue repo) fun
    -- an error is only logged
    | true => (cleanupExpired route 100).bind fun _ => .ret ()
    | false => .ret ()

section Methods

variable (repo request : Nat) (route : CacheRoute) (cacheKey : CacheKey)

/-- `lookup`. -/
def lookup : Prog storeOps (Except SqlxError (Option CacheEntry)) :=
  (maybeRunLazyCleanup repo route).bind fun _ => .op (.deleteExpiredByKey cacheKey) fun
    | .error e => .ret (.error e)
    | .ok _ => .op (.touch request route cacheKey) .ret

/-- `peek`. -/
def peek : Prog storeOps (Except SqlxError (Option CacheEntry)) :=
  .op (.lookup request route cacheKey) .ret

/-- `store`. -/
def store (requestPayload responsePayload : Json) (ttlSeconds : Option Int) :
    Prog storeOps (Except SqlxError CacheEntry) :=
  (maybeRunLazyCleanup repo route).bind fun _ => .op .utcNow fun now =>
    match expiryTime now (ttlSeconds.getD route.defaultTtlSeconds) with
    | none => .abort
    | some expiresAt =>
      .op (.upsert request route cacheKey requestPayload responsePayload expiresAt) .ret

/-- The loop of `wait_for_entry`, which looks once more than there are sleeps. -/
def waitLoop : Nat → Prog storeOps (Except SqlxError (Option CacheEntry))
  | 0 => peek request route cacheKey
  | sleeps + 1 => (peek request route cacheKey).bind fun
    | .error e => .ret (.error e)
    | .ok (some entry) => .ret (.ok (some entry))
    | .ok none => waitLoop sleeps

/-- `wait_for_entry`. -/
def waitForEntry : Prog storeOps (Except SqlxError (Option CacheEntry)) :=
  .op .polls fun sleeps => waitLoop request route cacheKey sleeps

end Methods

end LlmCacheRepo

/-- A call of the repository, with the instance that it is made on. -/
inductive CacheRequest where
  | lookup (repo : Nat) (route : CacheRoute) (cacheKey : CacheKey)
  | peek (route : CacheRoute) (cacheKey : CacheKey)
  | waitForEntry (route : CacheRoute) (cacheKey : CacheKey)
  | store (repo : Nat) (route : CacheRoute) (cacheKey : CacheKey)
      (requestPayload responsePayload : Json) (ttlSeconds : Option Int)
  | cleanupExpired (route : CacheRoute) (limit : Int)

/-- A request with its number, and its end. -/
def CacheRequest.prog (request : Nat) : CacheRequest → Prog storeOps Unit
  | lookup repo route cacheKey => (LlmCacheRepo.lookup repo request route cacheKey).bind fun r =>
    .op (.returned request (.found r)) .ret
  | peek route cacheKey => (LlmCacheRepo.peek request route cacheKey).bind fun r =>
    .op (.returned request (.found r)) .ret
  | waitForEntry route cacheKey =>
    (LlmCacheRepo.waitForEntry request route cacheKey).bind fun r =>
      .op (.returned request (.found r)) .ret
  | store repo route cacheKey requestPayload responsePayload ttlSeconds =>
    (LlmCacheRepo.store repo request route cacheKey requestPayload responsePayload
      ttlSeconds).bind fun r => .op (.returned request (.stored r)) .ret
  | cleanupExpired route limit => (LlmCacheRepo.cleanupExpired route limit).bind fun r =>
    .op (.returned request (.cleaned r)) .ret

/-! ## Requests beside each other -/

/-- What has happened: a statement has written an entry, has looked for one (and counted the
hit, if `touch`), or has deleted expired rows of a key; a cleanup has picked the rows of some keys,
or has deleted those of some keys; or a request has returned. -/
inductive CacheEvent where
  | stored (request : Nat) (route : CacheRoute) (now : DateTime) (entry : CacheEntry)
  | looked (request : Nat) (route : CacheRoute) (cacheKey : CacheKey) (touch : Bool)
      (now : DateTime) (found : Option CacheEntry)
  | deleted (now : DateTime)
  | picked (now : DateTime) (keys : List CacheKey)
  | swept (keys : List CacheKey)
  | returned (request : Nat) (result : CacheResult)

/-- The table with the next value of its sequence, the time of the last lazy cleanup of each
instance, and the history. -/
structure CacheStore where
  rows : List LlmCacheRow
  nextId : Int
  lazyCleanupLast : Nat → Option Int
  history : List CacheEvent

/-- What a call gets from outside: the time of the statement or of the gateway's clock, a
monotonic clock in nanoseconds, what happens to the statement, the sleeps of a loop, and which of
the deleted rows comes first. -/
structure StoreChoice where
  now : DateTime
  instant : Int
  fault : Governance.StatementFault
  sleeps : Nat
  first : Nat

namespace CacheStore

/-- The end of a statement with its answer and what it leaves. -/
def statement {α : Type} (w : CacheStore) (fault : Governance.StatementFault) (answer : α)
    (after : CacheStore) : Except SqlxError α × CacheStore :=
  match fault with
  | .none => (.ok answer, after)
  | .failed e => (.error e, w)
  | .lost e => (.error e, after)

/-- A column of type `TIMESTAMPTZ` counts microseconds. -/
def timestamptz (t : DateTime) : DateTime := t / 1000 * 1000

/-- The row that `upsert_sql` would insert, as it is read. -/
def newRow (P : Platform) (w : CacheStore) (route : CacheRoute) (cacheKey : CacheKey)
    (requestPayload responsePayload : Json) (now expiresAt : DateTime) : LlmCacheRow where
  cacheKey := cacheKey
  requestPayload := P.fromJsonb requestPayload
  responsePayload := P.fromJsonb responsePayload
  createdAt := now
  expiresAt := timestamptz expiresAt
  hitCount := 0
  lastHitAt := none
  id := w.nextId
  route := route

/-- What the calls do. -/
def exec (P : Platform) (w : CacheStore) : (o : StoreOp CacheResult) → StoreChoice → o.Resp × CacheStore
  | .lazyCleanupDue repo, c =>
    let due : Bool := (w.lazyCleanupLast repo).all fun t => 60000000000 ≤ c.instant - t
    (due, if due then
        { w with lazyCleanupLast := Function.update w.lazyCleanupLast repo (some c.instant) }
      else w)
  | .pickExpired route limit, c =>
    if limit < 0 then (.error (.database "2201W" "LIMIT must not be negative"), w) else
    let expired := expiredSql w.rows route c.now limit.toNat
    (.ok (expired.map LlmCacheRow.id),
      { w with history := .picked c.now (expired.map LlmCacheRow.key) :: w.history })
  | .deletePicked ids, c =>
    let gone := w.rows.filter fun r => r.id ∈ ids
    w.statement c.fault (gone.map LlmCacheRow.id)[c.first % gone.length]? { w with
      rows := deletePickedSql w.rows ids
      history := .swept (gone.map LlmCacheRow.key) :: w.history }
  | .deleteExpiredByKey cacheKey, c =>
    w.statement c.fault () { w with
      rows := deleteExpiredByKeySql w.rows cacheKey c.now
      history := .deleted c.now :: w.history }
  | .touch request route cacheKey, c =>
    let found := (lookupSql w.rows route cacheKey c.now).map fun r => r.entry.hit c.now
    w.statement c.fault found { w with
      rows := touchSql w.rows route cacheKey c.now
      history := .looked request route cacheKey true c.now found :: w.history }
  | .lookup request route cacheKey, c =>
    let found := (lookupSql w.rows route cacheKey c.now).map LlmCacheRow.entry
    w.statement c.fault found { w with
      history := .looked request route cacheKey false c.now found :: w.history }
  | .utcNow, c => (c.now, w)
  | .upsert request route cacheKey requestPayload responsePayload expiresAt, c =>
    let new := newRow P w route cacheKey requestPayload responsePayload c.now expiresAt
    w.statement c.fault new.entry { w with
      rows := upsertSql w.rows new
      nextId := w.nextId + 1
      history := .stored request route c.now new.entry :: w.history }
  | .polls, c => (c.sleeps, w)
  | .returned request result, _ => ((), { w with history := .returned request result :: w.history })

end CacheStore

/-- Any number of requests beside each other. -/
structure CacheRequests where
  platform : Platform
  requests : List CacheRequest

namespace CacheRequests

variable (u : CacheRequests)

/-- Requests beside each other. -/
def system : Pool storeOps where
  World := CacheStore
  Choice := StoreChoice
  exec w o c := CacheStore.exec u.platform w o c
  Label := Unit
  Arrival := Empty
  relabel _ _ _ := ()
  arrive _ arrival := arrival.elim

/-- Before the first call, with an empty table. -/
def start : u.system.State where
  world := { rows := [], nextId := 1, lazyCleanupLast := fun _ => none, history := [] }
  next := u.requests.length
  tasks i := u.requests[i]?.bind fun r => Pool.keep () (r.prog i)

/-- The states of all runs.  Every step is a call of one of the requests, or the crash of one. -/
def Reached (s : u.system.State) : Prop := Pool.Reach (fun _ _ => True) u.start s

end CacheRequests

end KlassGateway.Cache
