import KlassGateway.Lib.Pool
import KlassGateway.Lib.Text
/-!
# Fixed-window rate limits

Model of `check_user_rate_limit` and `rate_limit_middleware` in
`auth/middleware.rs`, and of the Redis keys that they count in.

Both are `fixedWindow` on a key of their own.  A request makes up to three calls: a
connection, `INCR`, and `EXPIRE` if it has created the key.  Any call can fail, with or
without its effect, and other requests run between two calls.

The counter of a key carries the replies that its `INCR`s have given, which no program
reads.
-/

namespace KlassGateway.Auth

open Lib

/-- `RateLimitConfig`. -/
structure RateLimitConfig where
  maxRequests : Nat
  windowSeconds : Nat
  deriving DecidableEq

/-! ## Redis -/

/-- A counter key. -/
structure Counter where
  count : Nat
  expiresAt : Option Nat := none
  replies : List Nat := []

/-- The counter keys, and the time in milliseconds. -/
structure RateWorld where
  now : Nat := 0
  counters : String → Option Counter := fun _ => none

/-- The calls of a request. -/
inductive RateOp where
  | connect
  | incr (key : String)
  | expire (key : String) (seconds : Nat)

/-- Their answers: `false` and `none` are errors. -/
abbrev RateOp.Resp : RateOp → Type
  | connect => Bool
  | incr _ => Option Nat
  | expire _ _ => Bool

/-- The calls with their answers. -/
def rateOps : Interface := ⟨RateOp, RateOp.Resp⟩

/-- What happens to a call: it works, it is executed but its reply is lost, or it is not
executed. -/
inductive RateFault where
  | none
  | lost
  | failed
  deriving DecidableEq

/-- A key lives until it expires. -/
def Counter.alive (now : Nat) (c : Counter) : Bool := c.expiresAt.all (now < ·)

namespace RateWorld

/-- Put a counter under a key. -/
def put (w : RateWorld) (key : String) (c : Option Counter) : RateWorld :=
  { w with counters := fun k => if k = key then c else w.counters k }

@[simp] theorem put_self (w : RateWorld) (key : String) (c : Option Counter) :
    (w.put key c).counters key = c := if_pos rfl

@[simp] theorem put_now (w : RateWorld) (key : String) (c : Option Counter) :
    (w.put key c).now = w.now := rfl

theorem put_of_ne {w : RateWorld} {key k : String} {c : Option Counter} (h : k ≠ key) :
    (w.put key c).counters k = w.counters k := if_neg h

/-- `INCR`: the count, unless it is at the bound of Redis. -/
def incremented (w : RateWorld) (key : String) : Option Counter :=
  let c := (w.counters key).getD { count := 0 }
  if c.count + 1 < 2 ^ 63 then some { c with count := c.count + 1 } else none

/-- `EXPIRE`: a key that is there gets its time to live. -/
def expired (w : RateWorld) (key : String) (seconds : Nat) : Option Counter :=
  ((w.counters key).map fun c =>
    { c with expiresAt := some (w.now + 1000 * seconds) }).filter (Counter.alive w.now)

/-- The time goes on, and keys expire. -/
def tick (w : RateWorld) (ms : Nat) : RateWorld where
  now := w.now + ms
  counters key := (w.counters key).filter (Counter.alive (w.now + ms))

/-- What the calls do.  A count is answered as an `u32`. -/
def exec (w : RateWorld) : (o : RateOp) → RateFault → o.Resp × RateWorld
  | .connect, fault => (fault = .none, w)
  | .incr key, fault =>
    match fault, w.incremented key with
    | .failed, _ | _, none => (none, w)
    | .lost, some c => (none, w.put key (some c))
    | .none, some c =>
      if c.count < 2 ^ 32 then
        (some c.count, w.put key (some { c with replies := c.count :: c.replies }))
      else (none, w.put key (some c))
  | .expire key seconds, fault =>
    match fault with
    | .failed => (false, w)
    | .lost => (false, w.put key (w.expired key seconds))
    | .none => (true, w.put key (w.expired key seconds))

end RateWorld

/-! ## The limiters -/

/-- Whether a request with a count is let through. -/
def allows (limit : RateLimitConfig) (count : Nat) : Bool := count ≤ limit.maxRequests

/-- The two limiters on a key: whether the request is let through.  Without Redis it
is. -/
def fixedWindow (key : String) (limit : RateLimitConfig) : Prog rateOps Bool :=
  .op .connect fun connected : Bool =>
    if connected then
      .op (.incr key) fun
        | none => .ret true
        | some count =>
          if count = 1 then
            .op (.expire key limit.windowSeconds) fun _ => .ret (allows limit count)
          else .ret (allows limit count)
    else .ret true

/-- A 429 response. -/
structure Rejection where
  retryAfter : Nat
  code : String := "too_many_requests"
  message : String
  deriving DecidableEq

/-- The key of a user's requests to a route. -/
def userKey (userId : Int) (route : String) : String :=
  "rate_limit:user:" ++ toString userId ++ ":" ++ route

/-- `check_user_rate_limit`. -/
def checkUserRateLimit (userId : Int) (route : String) (limit : RateLimitConfig) :
    Prog rateOps (Except Rejection Unit) :=
  (fixedWindow (userKey userId route) limit).bind fun allowed =>
    .ret (if allowed then .ok () else .error
      { retryAfter := limit.windowSeconds
        message := "Anda telah mencapai batas maksimum generasi (" ++ toString limit.maxRequests ++
          " kali dalam " ++ toString limit.windowSeconds ++ " detik). Silakan coba lagi nanti." })

/-- The limit of a path. -/
def pathLimit (path : String) : Option RateLimitConfig :=
  if Text.contains path "/auth/register" then some { maxRequests := 3, windowSeconds := 60 }
  else if Text.contains path "/auth/login" then some { maxRequests := 5, windowSeconds := 60 }
  else none

/-- The key of a client's requests to a path.  The client is the first address of
`X-Forwarded-For`. -/
def clientKey (path : String) (forwardedFor : Option String) : String :=
  let clientIp := (forwardedFor.map fun s =>
    String.ofList (s.toList.takeWhile (· ≠ ','))).getD "unknown"
  "rate_limit:" ++ path ++ ":" ++ clientIp

/-- `rate_limit_middleware`, up to the handler that a request goes on to. -/
def rateLimitMiddleware (redisPool : Bool) (path : String) (forwardedFor : Option String) :
    Prog rateOps (Except Rejection Unit) :=
  match pathLimit path with
  | none => .ret (.ok ())
  | some limit =>
    if redisPool then
      (fixedWindow (clientKey path forwardedFor) limit).bind fun allowed =>
        .ret (if allowed then .ok () else .error
          { retryAfter := limit.windowSeconds
            message := "rate limit exceeded, try again later" })
    else .ret (.ok ())

/-! ## All requests together -/

/-- A request that one of the limiters checks. -/
inductive LimitedRequest where
  | user (userId : Int) (route : String) (limit : RateLimitConfig)
  | client (redisPool : Bool) (path : String) (forwardedFor : Option String)

namespace LimitedRequest

/-- What the request runs. -/
def prog : LimitedRequest → Prog rateOps Unit
  | user userId route limit => (checkUserRateLimit userId route limit).bind fun _ => .ret ()
  | client redisPool path forwardedFor =>
    (rateLimitMiddleware redisPool path forwardedFor).bind fun _ => .ret ()

/-- The key that it counts in, with its limit. -/
def counted : LimitedRequest → Option (String × RateLimitConfig)
  | user userId route limit => some (userKey userId route, limit)
  | client redisPool path forwardedFor =>
    if redisPool then (pathLimit path).map fun limit => (clientKey path forwardedFor, limit)
    else none

end LimitedRequest

/-- What comes from outside: a request, or time. -/
inductive RateArrival where
  | request (r : LimitedRequest)
  | tick (ms : Nat)

variable (limitOf : String → RateLimitConfig)

/-- Any number of requests beside each other.  The requests on one key have one
limit. -/
def rateSystem : Pool rateOps where
  World := RateWorld
  Choice := RateFault
  exec w o fault := w.exec o fault
  Label := Unit
  Arrival := RateArrival
  relabel _ _ _ := ()
  arrive w
    | .request r =>
      if r.counted.all fun kl => kl.2 = limitOf kl.1 then some (w, [((), r.prog)]) else none
    | .tick ms => some (w.tick ms, [])

end KlassGateway.Auth
