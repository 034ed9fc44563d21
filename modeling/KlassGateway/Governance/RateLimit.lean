import KlassGateway.Lib.Sorting
import KlassGateway.Lib.Upsert
import Mathlib.Data.Prod.Lex
import Mathlib.Data.Rat.Defs
/-!
# Rate limits of the LLM calls

Model of `governance/rate_limit.rs`: the fixed windows, the policies and the buckets that count
the calls of a policy in a window.  Times are those of the date crate: a day between its first
and its last one, the second of the day, and nanoseconds that go on to two seconds during a leap
second.  An `unwrap` or an addition that panics is `none`.

The code writes policies with `upsert_default` only, and nothing calls it.  The runs therefore
start from any table of policies with distinct ids, which somebody has filled by hand, and may
upsert policies as well.
-/

namespace KlassGateway.Governance

open Lib

/-! ## Times -/

/-- `NaiveTime`: the second of the day and its nanoseconds. -/
@[ext] structure NaiveTime where
  secs : Nat
  frac : Nat
  secs_lt : secs < 86400
  frac_lt : frac < 2000000000
  deriving DecidableEq

namespace NaiveTime

/-- `with_hour`. -/
def withHour (hour : Nat) (t : NaiveTime) : Option NaiveTime :=
  if h : hour < 24 then
    some ⟨hour * 3600 + t.secs % 3600, t.frac, by omega, t.frac_lt⟩
  else none

/-- `with_minute`. -/
def withMinute (min : Nat) (t : NaiveTime) : Option NaiveTime :=
  if h : min < 60 then
    some ⟨t.secs / 3600 * 3600 + min * 60 + t.secs % 60, t.frac,
      by have := t.secs_lt; omega, t.frac_lt⟩
  else none

/-- `with_second`. -/
def withSecond (sec : Nat) (t : NaiveTime) : Option NaiveTime :=
  if h : sec < 60 then
    some ⟨t.secs / 60 * 60 + sec, t.frac, by have := t.secs_lt; omega, t.frac_lt⟩
  else none

/-- `with_nanosecond`. -/
def withNanosecond (nano : Nat) (t : NaiveTime) : Option NaiveTime :=
  if h : nano < 2000000000 then some ⟨t.secs, nano, t.secs_lt, h⟩ else none

end NaiveTime

/-- `NaiveDate::MIN`, the first day of the year -262143, in days since the epoch. -/
def minDate : Int := -96465292

/-- `NaiveDate::MAX`, the last day of the year 262142. -/
def maxDate : Int := 95026236

/-- `DateTime<Utc>`. -/
@[ext] structure DateTime where
  date : Int
  time : NaiveTime
  date_range : minDate ≤ date ∧ date ≤ maxDate
  deriving DecidableEq

namespace DateTime

/-- Times are compared by day, second and nanosecond. -/
instance : LinearOrder DateTime :=
  LinearOrder.lift' (fun t => toLex (t.date, toLex (t.time.secs, t.time.frac))) <| by
    intro t u h
    have hpair := Prod.ext_iff.1 (toLex.injective h)
    have htime := Prod.ext_iff.1 (toLex.injective hpair.2)
    exact DateTime.ext hpair.1 (NaiveTime.ext htime.1 htime.2)

theorem le_iff {t u : DateTime} :
    t ≤ u ↔ t.date < u.date ∨ (t.date = u.date ∧
      (t.time.secs < u.time.secs ∨ (t.time.secs = u.time.secs ∧ t.time.frac ≤ u.time.frac))) := by
  change toLex (t.date, toLex (t.time.secs, t.time.frac)) ≤
    toLex (u.date, toLex (u.time.secs, u.time.frac)) ↔ _
  rw [Prod.Lex.toLex_le_toLex, Prod.Lex.toLex_le_toLex]

theorem lt_iff {t u : DateTime} :
    t < u ↔ t.date < u.date ∨ (t.date = u.date ∧
      (t.time.secs < u.time.secs ∨ (t.time.secs = u.time.secs ∧ t.time.frac < u.time.frac))) := by
  change toLex (t.date, toLex (t.time.secs, t.time.frac)) <
    toLex (u.date, toLex (u.time.secs, u.time.frac)) ↔ _
  rw [Prod.Lex.toLex_lt_toLex, Prod.Lex.toLex_lt_toLex]

/-- `MIN_UTC`. -/
def minUtc : DateTime := ⟨minDate, ⟨0, 0, by decide, by decide⟩, by decide⟩

/-- `MAX_UTC`. -/
def maxUtc : DateTime := ⟨maxDate, ⟨86399, 999999999, by decide, by decide⟩, by decide⟩

/-- `map_local` for UTC. -/
def mapLocal (f : NaiveTime → Option NaiveTime) (t : DateTime) : Option DateTime :=
  ((f t.time).map fun time => { t with time }).filter fun r => minUtc ≤ r ∧ r ≤ maxUtc

/-- `with_hour`. -/
def withHour (hour : Nat) : DateTime → Option DateTime := mapLocal (NaiveTime.withHour hour)

/-- `with_minute`. -/
def withMinute (min : Nat) : DateTime → Option DateTime := mapLocal (NaiveTime.withMinute min)

/-- `with_second`. -/
def withSecond (sec : Nat) : DateTime → Option DateTime := mapLocal (NaiveTime.withSecond sec)

/-- `with_nanosecond`. -/
def withNanosecond (nano : Nat) : DateTime → Option DateTime :=
  mapLocal (NaiveTime.withNanosecond nano)

/-- The addition of some seconds, which leaves a leap second. -/
def addSeconds (t : DateTime) (n : Nat) : Option DateTime :=
  if h : t.date + ((t.time.secs + n) / 86400 : Nat) ≤ maxDate then
    some
      { date := t.date + ((t.time.secs + n) / 86400 : Nat)
        time :=
          { secs := (t.time.secs + n) % 86400
            frac := if n = 0 then t.time.frac else t.time.frac % 1000000000
            secs_lt := by omega
            frac_lt := by have := t.time.frac_lt; split <;> omega }
        date_range := ⟨by have := t.date_range; omega, h⟩ }
  else none

end DateTime

/-! ## Windows -/

/-- `WindowUnit`. -/
inductive WindowUnit where
  | minute
  | hour
  | day
  deriving DecidableEq

namespace WindowUnit

/-- The unit that `increment` reads in the `window_unit` of a policy. -/
def ofText (text : String) : WindowUnit :=
  if text = "minute" then .minute else if text = "hour" then .hour else .day

end WindowUnit

/-- `window_start`. -/
def windowStart (t : DateTime) : WindowUnit → Option DateTime
  | .minute => do (← t.withSecond 0).withNanosecond 0
  | .hour => do (← (← t.withMinute 0).withSecond 0).withNanosecond 0
  | .day => do (← (← (← t.withHour 0).withMinute 0).withSecond 0).withNanosecond 0

/-- `window_end`. -/
def windowEnd (start : DateTime) : WindowUnit → Option DateTime
  | .minute => start.addSeconds 60
  | .hour => start.addSeconds 3600
  | .day => start.addSeconds 86400

/-! ## Policies -/

/-- `RateLimitPolicy`. -/
structure RateLimitPolicy where
  id : Int
  scopeType : String
  route : String
  provider : String
  model : String
  windowUnit : String
  maxRequests : Option Int
  maxInputTokens : Option Int
  maxOutputTokens : Option Int
  maxTotalTokens : Option Int
  maxEstimatedCostUsd : Option Rat
  enabled : Bool
  deriving DecidableEq

/-- The columns of the unique index of the policies. -/
def RateLimitPolicy.scope (p : RateLimitPolicy) : String × String × String × String × String :=
  (p.scopeType, p.route, p.provider, p.model, p.windowUnit)

/-- `DO UPDATE SET` of `POLICY_UPSERT_SQL`. -/
def mergePolicy (new old : RateLimitPolicy) : RateLimitPolicy :=
  { old with
    maxRequests := new.maxRequests
    maxInputTokens := new.maxInputTokens
    maxOutputTokens := new.maxOutputTokens
    maxTotalTokens := new.maxTotalTokens
    maxEstimatedCostUsd := new.maxEstimatedCostUsd
    enabled := new.enabled }

/-- The limits that `upsert_default` is called with. -/
structure PolicyLimits where
  maxRequests : Option Int := none
  maxInputTokens : Option Int := none
  maxOutputTokens : Option Int := none
  maxTotalTokens : Option Int := none
  maxEstimatedCostUsd : Option Rat := none

/-- The row that `upsert_default` inserts; `id` is the next value of the sequence. -/
def defaultPolicy (id : Int) (route scopeType windowUnit : String) (limits : PolicyLimits) :
    RateLimitPolicy where
  id := id
  scopeType := scopeType
  route := route
  provider := "*"
  model := "*"
  windowUnit := windowUnit
  maxRequests := limits.maxRequests
  maxInputTokens := limits.maxInputTokens
  maxOutputTokens := limits.maxOutputTokens
  maxTotalTokens := limits.maxTotalTokens
  maxEstimatedCostUsd := limits.maxEstimatedCostUsd
  enabled := true

/-- `upsert_default`. -/
def upsertDefault (id : Int) (route scopeType windowUnit : String) (limits : PolicyLimits)
    (policies : List RateLimitPolicy) : List RateLimitPolicy :=
  Table.upsert RateLimitPolicy.scope mergePolicy
    (defaultPolicy id route scopeType windowUnit limits) policies

/-- `ORDER BY` of `APPLICABLE_POLICIES_SQL`. -/
def compareApplicable (p q : RateLimitPolicy) : Ordering :=
  let unitRank (p : RateLimitPolicy) : Nat :=
    if p.windowUnit = "minute" then 1 else if p.windowUnit = "hour" then 2 else 3
  let scopeRank (p : RateLimitPolicy) : Nat :=
    if p.scopeType = "route" then 1 else if p.scopeType = "provider" then 2
    else if p.scopeType = "model" then 3 else 4
  (compare (unitRank p) (unitRank q)).then <|
    (compare (scopeRank p) (scopeRank q)).then <| compare p.id q.id

/-- `find_applicable`. -/
def findApplicable (route provider model : String) (policies : List RateLimitPolicy) :
    List RateLimitPolicy :=
  sortBy compareApplicable <| policies.filter fun p =>
    p.enabled ∧ (p.route = route ∨ p.route = "all") ∧ (p.provider = provider ∨ p.provider = "*") ∧
      (p.model = model ∨ p.model = "*")

/-! ## Buckets -/

/-- `RateLimitBucket`, without its id and the times at which it was written. -/
structure RateLimitBucket where
  policyId : Int
  scopeType : String
  route : String
  provider : String
  model : String
  windowUnit : String
  windowStartedAt : DateTime
  windowEndsAt : DateTime
  requestCount : Int
  inputTokens : Int
  outputTokens : Int
  totalTokens : Int
  estimatedCostUsd : Rat
  denyCount : Int
  lastRequestId : Option String
  lastGenerationId : Option String

/-- The columns of the unique index of the buckets. -/
def RateLimitBucket.window (b : RateLimitBucket) : Int × DateTime := (b.policyId, b.windowStartedAt)

/-- `BucketMutation`. -/
structure BucketMutation where
  policyId : Int
  route : String
  provider : String
  model : String
  windowUnit : String
  requestCount : Int
  inputTokens : Int
  outputTokens : Int
  totalTokens : Int
  estimatedCostUsd : Rat
  denyCount : Int
  lastRequestId : Option String
  lastGenerationId : Option String

/-- `VALUES` of `BUCKET_UPSERT_SQL`. -/
def bucketRow (policy : RateLimitPolicy) (mutation : BucketMutation) (ws we : DateTime) :
    RateLimitBucket where
  policyId := policy.id
  scopeType := policy.scopeType
  route := mutation.route
  provider := mutation.provider
  model := mutation.model
  windowUnit := mutation.windowUnit
  windowStartedAt := ws
  windowEndsAt := we
  requestCount := mutation.requestCount
  inputTokens := mutation.inputTokens
  outputTokens := mutation.outputTokens
  totalTokens := mutation.totalTokens
  estimatedCostUsd := mutation.estimatedCostUsd
  denyCount := mutation.denyCount
  lastRequestId := mutation.lastRequestId
  lastGenerationId := mutation.lastGenerationId

/-- `DO UPDATE SET` of `BUCKET_UPSERT_SQL`. -/
def mergeBucket (new old : RateLimitBucket) : RateLimitBucket :=
  { old with
    requestCount := old.requestCount + new.requestCount
    inputTokens := old.inputTokens + new.inputTokens
    outputTokens := old.outputTokens + new.outputTokens
    totalTokens := old.totalTokens + new.totalTokens
    estimatedCostUsd := old.estimatedCostUsd + new.estimatedCostUsd
    denyCount := old.denyCount + new.denyCount
    lastRequestId := new.lastRequestId.or old.lastRequestId
    lastGenerationId := new.lastGenerationId.or old.lastGenerationId }

/-- `increment`. -/
def increment (policy : RateLimitPolicy) (mutation : BucketMutation) (now : DateTime)
    (buckets : List RateLimitBucket) : Option (List RateLimitBucket) := do
  let unit := WindowUnit.ofText policy.windowUnit
  let ws ← windowStart now unit
  let we ← windowEnd ws unit
  some (Table.upsert RateLimitBucket.window mergeBucket (bucketRow policy mutation ws we) buckets)

/-- `check_mutation` of `preflight_check`, which counts nothing. -/
def checkMutation (policy : RateLimitPolicy) : BucketMutation where
  policyId := policy.id
  route := policy.route
  provider := policy.provider
  model := policy.model
  windowUnit := policy.windowUnit
  requestCount := 0
  inputTokens := 0
  outputTokens := 0
  totalTokens := 0
  estimatedCostUsd := 0
  denyCount := 0
  lastRequestId := none
  lastGenerationId := none

/-- What a successful call has used. -/
structure Usage where
  inputTokens : Int
  outputTokens : Int
  totalTokens : Int
  estimatedCostUsd : Rat
  requestId : String
  generationId : String

/-- `record_usage`. -/
def recordUsage (policy : RateLimitPolicy) (usage : Usage) (now : DateTime)
    (buckets : List RateLimitBucket) : Option (List RateLimitBucket) :=
  increment policy
    { checkMutation policy with
      requestCount := 1
      inputTokens := usage.inputTokens
      outputTokens := usage.outputTokens
      totalTokens := usage.totalTokens
      estimatedCostUsd := usage.estimatedCostUsd
      lastRequestId := some usage.requestId
      lastGenerationId := some usage.generationId }
    now buckets

/-- `record_denial`. -/
def recordDenial (policy : RateLimitPolicy) (requestId generationId : String) (now : DateTime)
    (buckets : List RateLimitBucket) : Option (List RateLimitBucket) :=
  increment policy
    { checkMutation policy with
      denyCount := 1
      lastRequestId := some requestId
      lastGenerationId := some generationId }
    now buckets

/-! ## Runs -/

/-- The two tables, with the policies that queries have returned and the calls that were
recorded: the policy and the time of each. -/
structure Tables where
  policies : List RateLimitPolicy := []
  buckets : List RateLimitBucket := []
  fetched : List RateLimitPolicy := []
  usages : List (Int × DateTime) := []

/-- What the statements of any number of requests leave, in any order.  A statement that fails
leaves nothing.  A request uses the policies that its query has returned, which may be older
than the table. -/
inductive Reachable : Tables → Prop
  | start {policies : List RateLimitPolicy} (hids : (policies.map RateLimitPolicy.id).Nodup) :
      Reachable { policies }
  | upsertDefault {g : Tables} {id : Int} (h : Reachable g)
      (hid : id ∉ g.policies.map RateLimitPolicy.id) (route scopeType windowUnit : String)
      (limits : PolicyLimits) :
      Reachable { g with
        policies := upsertDefault id route scopeType windowUnit limits g.policies }
  | findApplicable {g : Tables} (h : Reachable g) (route provider model : String) :
      Reachable { g with fetched := g.fetched ++ findApplicable route provider model g.policies }
  | check {g : Tables} {policy : RateLimitPolicy} {now : DateTime} {buckets : List RateLimitBucket}
      (h : Reachable g) (hp : policy ∈ g.fetched)
      (hb : increment policy (checkMutation policy) now g.buckets = some buckets) :
      Reachable { g with buckets }
  | recordDenial {g : Tables} {policy : RateLimitPolicy} {requestId generationId : String}
      {now : DateTime} {buckets : List RateLimitBucket} (h : Reachable g) (hp : policy ∈ g.fetched)
      (hb : recordDenial policy requestId generationId now g.buckets = some buckets) :
      Reachable { g with buckets }
  | recordUsage {g : Tables} {policy : RateLimitPolicy} {usage : Usage} {now : DateTime}
      {buckets : List RateLimitBucket} (h : Reachable g) (hp : policy ∈ g.fetched)
      (hb : recordUsage policy usage now g.buckets = some buckets) :
      Reachable { g with buckets, usages := g.usages ++ [(policy.id, now)] }

end KlassGateway.Governance
