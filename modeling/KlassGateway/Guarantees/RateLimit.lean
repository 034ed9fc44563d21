import KlassGateway.Auth.RateLimit
import Mathlib.Data.Finset.Card
/-!
# What the rate limits guarantee

* `rateLimit_bounds`: in every run a counter key lets through at most as many requests as
  its limit says, and as long as no fresh counter loses its `EXPIRE`, a counter key that
  nobody is about to expire expires within one window.
* `expire_lost`: after an `EXPIRE` that fails the key stays for ever.

A request is followed through its stages (`Connecting`, `Counting`, `Expiring`), and the
invariant says that a key without a time to live has a request in the last stage.
-/

namespace KlassGateway.Auth

open Lib

variable {limitOf : String → RateLimitConfig}

/-! ## The stages of a request -/

/-- No call is left. -/
def Finished (p : Prog rateOps Unit) : Prop := ∀ o k, p ≠ .op o k

/-- The next call is the `EXPIRE` of a key that the request has created. -/
def Expiring (key : String) (limit : RateLimitConfig) (p : Prog rateOps Unit) : Prop :=
  ∃ k, p = .op (.expire key limit.windowSeconds) k ∧ ∀ r, Finished (k r)

/-- The next call is the `INCR` of the key. -/
def Counting (key : String) (limit : RateLimitConfig) (p : Prog rateOps Unit) : Prop :=
  ∃ k, p = .op (.incr key) k ∧ Finished (k none) ∧ Expiring key limit (k (some 1)) ∧
    ∀ n, n ≠ 1 → Finished (k (some n))

/-- The next call gets a connection. -/
def Connecting (key : String) (limit : RateLimitConfig) (p : Prog rateOps Unit) : Prop :=
  ∃ k, p = .op .connect k ∧ Finished (k false) ∧ Counting key limit (k true)

/-- A request in one of its stages. -/
def Staged (limitOf : String → RateLimitConfig) (p : Prog rateOps Unit) : Prop :=
  ∃ key, Connecting key (limitOf key) p ∨ Counting key (limitOf key) p ∨
    Expiring key (limitOf key) p

theorem finished_ret : Finished (.ret ()) := fun _ _ h => by cases h

theorem connecting_fixedWindow {key : String} {limit : RateLimitConfig} :
    Connecting key limit ((fixedWindow key limit).bind fun _ => .ret ()) := by
  refine ⟨_, rfl, finished_ret, _, rfl, finished_ret, ⟨_, rfl, fun _ => finished_ret⟩, ?_⟩
  intro n hn
  simp only [hn, if_false, Prog.ret_bind]
  exact finished_ret

/-- A request starts with its first stage, unless it is not limited. -/
theorem staged_of_request {r : LimitedRequest} (h : r.counted.all fun kl => kl.2 = limitOf kl.1) :
    Finished r.prog ∨ Staged limitOf r.prog := by
  cases r with
  | user userId route limit =>
    right
    have hlimit : limit = limitOf (userKey userId route) := by
      simpa [LimitedRequest.counted] using h
    refine ⟨userKey userId route, .inl ?_⟩
    rw [← hlimit]
    simp only [LimitedRequest.prog, checkUserRateLimit, Prog.bind_assoc, Prog.ret_bind]
    exact connecting_fixedWindow
  | client redisPool path forwardedFor =>
    cases hpath : pathLimit path with
    | none =>
      left
      have hprog : (LimitedRequest.client redisPool path forwardedFor).prog = .ret () := by
        simp [LimitedRequest.prog, rateLimitMiddleware, hpath]
      rw [hprog]
      exact finished_ret
    | some limit =>
      cases redisPool with
      | false =>
        left
        have hprog : (LimitedRequest.client false path forwardedFor).prog = .ret () := by
          simp [LimitedRequest.prog, rateLimitMiddleware, hpath]
        rw [hprog]
        exact finished_ret
      | true =>
        right
        have hlimit : limit = limitOf (clientKey path forwardedFor) := by
          simpa [LimitedRequest.counted, hpath] using h
        have hprog : (LimitedRequest.client true path forwardedFor).prog =
            (fixedWindow (clientKey path forwardedFor) limit).bind fun _ => .ret () := by
          simp [LimitedRequest.prog, rateLimitMiddleware, hpath, Prog.bind_assoc]
        refine ⟨clientKey path forwardedFor, .inl ?_⟩
        rw [hprog, ← hlimit]
        exact connecting_fixedWindow

/-- A stage is followed by the next one, or by nothing. -/
theorem Staged.next {o : RateOp} {k : o.Resp → Prog rateOps Unit}
    (h : Staged limitOf (.op (I := rateOps) o k)) (r : o.Resp) :
    Finished (k r) ∨ Staged limitOf (k r) := by
  obtain ⟨key, ⟨k', hp, hfalse, htrue⟩ | ⟨k', hp, hnone, hone, hmore⟩ | ⟨k', hp, hall⟩⟩ := h
  · cases hp
    cases r with
    | false => exact .inl hfalse
    | true => exact .inr ⟨key, .inr (.inl htrue)⟩
  · cases hp
    cases r with
    | none => exact .inl hnone
    | some n =>
      by_cases hn : n = 1
      · subst hn
        exact .inr ⟨key, .inr (.inr hone)⟩
      · exact .inl (hmore n hn)
  · cases hp
    exact .inl (hall r)

/-! ## The counters alone -/

/-- What holds of a counter whatever happens: it expires within a window, if at all, and
its replies were different numbers up to its count. -/
structure CounterOk (limit : RateLimitConfig) (now : Nat) (c : Counter) : Prop where
  deadline : ∀ t, c.expiresAt = some t → t ≤ now + 1000 * limit.windowSeconds
  distinct : c.replies.Nodup
  bounded : ∀ n ∈ c.replies, 1 ≤ n ∧ n ≤ c.count

/-- The counters of all keys are in order. -/
def CountersOk (limitOf : String → RateLimitConfig) (w : RateWorld) : Prop :=
  ∀ key c, w.counters key = some c → CounterOk (limitOf key) w.now c

theorem CountersOk.put {w : RateWorld} {key : String} {o : Option Counter}
    (hw : CountersOk limitOf w) (ho : ∀ c, o = some c → CounterOk (limitOf key) w.now c) :
    CountersOk limitOf (w.put key o) := by
  intro k c hc
  by_cases hk : k = key
  · subst hk
    rw [RateWorld.put_self] at hc
    exact ho c hc
  · rw [RateWorld.put_of_ne hk] at hc
    exact hw k c hc

theorem CountersOk.put_some {w : RateWorld} {key : String} {c : Counter}
    (hw : CountersOk limitOf w) (hc : CounterOk (limitOf key) w.now c) :
    CountersOk limitOf (w.put key (some c)) := by
  apply hw.put
  intro c' h
  rw [← Option.some.inj h]
  exact hc

theorem CountersOk.tick {w : RateWorld} (hw : CountersOk limitOf w) (ms : Nat) :
    CountersOk limitOf (w.tick ms) := by
  intro key c hc
  have hold : w.counters key = some c := (Option.filter_eq_some_iff.1 hc).1
  have hok := hw key c hold
  refine ⟨?_, hok.distinct, hok.bounded⟩
  intro t ht
  have hle := hok.deadline t ht
  simp only [RateWorld.tick]
  omega

/-- What `INCR` makes of a key. -/
theorem incremented_cases {w : RateWorld} {key : String} {c : Counter}
    (h : w.incremented key = some c) :
    (w.counters key = none ∧ c = { count := 1 }) ∨
      ∃ c₀, w.counters key = some c₀ ∧ c = { c₀ with count := c₀.count + 1 } := by
  unfold RateWorld.incremented at h
  cases hkey : w.counters key with
  | none =>
    rw [hkey] at h
    left
    simpa using h.symm
  | some c₀ =>
    rw [hkey] at h
    right
    simp only [Option.getD_some] at h
    split at h
    · exact ⟨c₀, rfl, (Option.some.inj h).symm⟩
    · cases h

/-- What a call of `INCR` does: nothing, or it counts without an answer, or it counts and
answers. -/
theorem incr_cases (w : RateWorld) (key : String) (fault : RateFault) :
    w.exec (.incr key) fault = (none, w) ∨
      ∃ c, w.incremented key = some c ∧
        (w.exec (.incr key) fault = (none, w.put key (some c)) ∧
            (fault = .lost ∨ 2 ^ 32 ≤ c.count) ∨
          w.exec (.incr key) fault =
            (some c.count, w.put key (some { c with replies := c.count :: c.replies }))) := by
  unfold RateWorld.exec
  dsimp only
  cases hc : w.incremented key with
  | none =>
    left
    cases fault <;> rfl
  | some c =>
    cases fault with
    | failed => exact .inl rfl
    | lost => exact .inr ⟨c, rfl, .inl ⟨rfl, .inl rfl⟩⟩
    | none =>
      right
      refine ⟨c, rfl, ?_⟩
      by_cases hsmall : c.count < 2 ^ 32
      · exact .inr (if_pos hsmall)
      · exact .inl ⟨if_neg hsmall, .inr (Nat.le_of_not_lt hsmall)⟩

/-- An incremented counter is in order, also with its count as a reply. -/
theorem counterOk_incremented {w : RateWorld} (hw : CountersOk limitOf w) {key : String}
    {c : Counter} (h : w.incremented key = some c) :
    CounterOk (limitOf key) w.now c ∧
      CounterOk (limitOf key) w.now { c with replies := c.count :: c.replies } := by
  obtain ⟨_, rfl⟩ | ⟨c₀, hold, rfl⟩ := incremented_cases h
  · have hdeadline : ∀ t, (none : Option Nat) = some t →
        t ≤ w.now + 1000 * (limitOf key).windowSeconds := by
      intro t ht
      cases ht
    refine ⟨⟨hdeadline, List.nodup_nil, by simp⟩, ⟨hdeadline, List.nodup_singleton _, ?_⟩⟩
    intro n hn
    rw [List.mem_singleton.1 hn]
    exact ⟨Nat.le_refl _, Nat.le_refl _⟩
  · have hok := hw key c₀ hold
    refine ⟨⟨hok.deadline, hok.distinct, ?_⟩, ⟨hok.deadline, ?_, ?_⟩⟩
    · intro n hn
      have hle := hok.bounded n hn
      exact ⟨hle.1, Nat.le_succ_of_le hle.2⟩
    · refine List.nodup_cons.2 ⟨?_, hok.distinct⟩
      intro hmem
      have hle := hok.bounded _ hmem
      dsimp only at hle
      omega
    · intro n hn
      rcases List.mem_cons.1 hn with rfl | hn
      · exact ⟨Nat.succ_le_succ (Nat.zero_le _), Nat.le_refl _⟩
      · have hle := hok.bounded n hn
        exact ⟨hle.1, Nat.le_succ_of_le hle.2⟩

/-- A counter that gets its time to live expires within the window. -/
theorem counterOk_expired {w : RateWorld} (hw : CountersOk limitOf w) {key : String} {c : Counter}
    (h : w.expired key (limitOf key).windowSeconds = some c) : CounterOk (limitOf key) w.now c := by
  obtain ⟨c₀, hold, rfl⟩ := Option.map_eq_some_iff.1 (Option.filter_eq_some_iff.1 h).1
  have hok := hw key c₀ hold
  refine ⟨?_, hok.distinct, hok.bounded⟩
  intro t ht
  cases ht
  exact Nat.le_refl _

theorem countersOk_exec {w : RateWorld} (hw : CountersOk limitOf w) {o : RateOp}
    {k : o.Resp → Prog rateOps Unit} (hstage : Staged limitOf (.op (I := rateOps) o k))
    (fault : RateFault) : CountersOk limitOf (w.exec o fault).2 := by
  obtain ⟨key, ⟨k', hp, _⟩ | ⟨k', hp, _⟩ | ⟨k', hp, _⟩⟩ := hstage
  · cases hp
    exact hw
  · cases hp
    obtain hexec | ⟨c, hc, ⟨hexec, _⟩ | hexec⟩ := incr_cases w key fault
    · rw [hexec]
      exact hw
    · rw [hexec]
      exact hw.put_some (counterOk_incremented hw hc).1
    · rw [hexec]
      exact hw.put_some (counterOk_incremented hw hc).2
  · cases hp
    cases fault with
    | failed => exact hw
    | lost => exact hw.put fun _ h => counterOk_expired hw h
    | none => exact hw.put fun _ h => counterOk_expired hw h

/-- A key without a time to live after `INCR` had none before, or is new; then the reply says so,
unless it is lost. -/
theorem incr_immortal {w : RateWorld} {key key' : String} {fault : RateFault} {c : Counter}
    (hc : (w.exec (.incr key) fault).2.counters key' = some c) (hnone : c.expiresAt = none) :
    (∃ c₀, w.counters key' = some c₀ ∧ c₀.expiresAt = none) ∨
      key' = key ∧ w.counters key = none ∧
        (fault ≠ .lost → (w.exec (.incr key) fault).1 = some 1) := by
  obtain hexec | ⟨c₁, hc₁, hcase⟩ := incr_cases w key fault
  · rw [hexec] at hc
    exact .inl ⟨c, hc, hnone⟩
  · obtain ⟨c₂, hput, hexpires⟩ : ∃ c₂, (w.exec (.incr key) fault).2 = w.put key (some c₂) ∧
        c₂.expiresAt = c₁.expiresAt := by
      obtain ⟨hexec, _⟩ | hexec := hcase
      · exact ⟨c₁, by rw [hexec], rfl⟩
      · exact ⟨_, congrArg Prod.snd hexec, rfl⟩
    rw [hput] at hc
    by_cases hkey : key' = key
    · subst hkey
      rw [RateWorld.put_self] at hc
      obtain rfl := Option.some.inj hc
      obtain ⟨hfresh, rfl⟩ | ⟨c₀, hc₀, rfl⟩ := incremented_cases hc₁
      · refine .inr ⟨rfl, hfresh, fun hlost => ?_⟩
        obtain ⟨_, hfault | hlarge⟩ | hexec := hcase
        · exact absurd hfault hlost
        · exact absurd hlarge (by decide)
        · rw [hexec]
      · exact .inl ⟨c₀, hc₀, hexpires.symm.trans hnone⟩
    · rw [RateWorld.put_of_ne hkey] at hc
      exact .inl ⟨c, hc, hnone⟩

/-- A key without a time to live after `EXPIRE` is another one. -/
theorem expire_immortal {w : RateWorld} {key key' : String} {seconds : Nat} {fault : RateFault}
    {c : Counter} (hfault : fault ≠ .failed)
    (hc : (w.exec (.expire key seconds) fault).2.counters key' = some c)
    (hnone : c.expiresAt = none) : key' ≠ key ∧ w.counters key' = some c := by
  have hput : (w.exec (.expire key seconds) fault).2 = w.put key (w.expired key seconds) := by
    cases fault with
    | failed => exact absurd rfl hfault
    | lost => rfl
    | none => rfl
  rw [hput] at hc
  by_cases hkey : key' = key
  · rw [hkey, RateWorld.put_self] at hc
    obtain ⟨c₁, _, rfl⟩ := Option.map_eq_some_iff.1 (Option.filter_eq_some_iff.1 hc).1
    cases hnone
  · rw [RateWorld.put_of_ne hkey] at hc
    exact ⟨hkey, hc⟩

/-! ## Runs -/

/-- A state of the requests and their keys. -/
abbrev RateState (limitOf : String → RateLimitConfig) : Type := (rateSystem limitOf).State

/-- What holds after every step. -/
structure RateInv (s : RateState limitOf) : Prop where
  staged : Pool.AllTasks (fun t => Staged limitOf t.prog) s
  counters : CountersOk limitOf s.world

/-- Tasks are spawned and kept in their stages. -/
theorem staged_keep {p : Prog rateOps Unit} {t : Task (rateSystem limitOf)}
    (h : Finished p ∨ Staged limitOf p) (ht : Pool.keep () p = some t) :
    Staged limitOf t.prog := by
  rw [Pool.keep_eq_some ht]
  rcases h with hfinished | hstaged
  · cases p with
    | op o k => exact absurd rfl (hfinished o k)
    | ret a => cases ht
    | abort => cases ht
  · exact hstaged

/-- Time passes, or a request starts with its first stage. -/
theorem arrive_cases {w w' : RateWorld} {arr : RateArrival} {spawned : List (Unit × Prog rateOps Unit)}
    (h : (rateSystem limitOf).arrive w arr = some (w', spawned)) :
    (∃ ms, w' = w.tick ms ∧ spawned = []) ∨
      ∃ p, (Finished p ∨ Staged limitOf p) ∧ w' = w ∧ spawned = [((), p)] := by
  cases arr with
  | tick ms =>
    cases h
    exact .inl ⟨ms, rfl, rfl⟩
  | request r =>
    simp only [rateSystem] at h
    split at h
    · next hlimit =>
      cases h
      exact .inr ⟨r.prog, staged_of_request hlimit, rfl, rfl⟩
    · cases h

theorem rateInv_step {s s' : RateState limitOf} {a : (rateSystem limitOf).Action} (hs : RateInv s)
    (h : Pool.step s a = some s') : RateInv s' := by
  have hstaged : Pool.AllTasks (fun t => Staged limitOf t.prog) s' := by
    refine hs.staged.step (fun arr w spawned harr l p hmem t hkeep => ?_)
      (fun c l o k hstage t hkeep => staged_keep (hstage.next _) hkeep) h
    obtain ⟨_, _, rfl⟩ | ⟨p', hp', _, rfl⟩ := arrive_cases harr
    · cases hmem
    · cases List.mem_singleton.1 hmem
      exact staged_keep hp' hkeep
  refine ⟨hstaged, ?_⟩
  obtain ⟨arr, w, spawned, rfl, harr, rfl⟩ | ⟨i, c, l, o, k, rfl, hti, rfl⟩ | ⟨i, u, rfl, hti, rfl⟩ :=
    Pool.step_cases h
  · obtain ⟨ms, rfl, _⟩ | ⟨_, _, rfl, _⟩ := arrive_cases harr
    · exact hs.counters.tick ms
    · exact hs.counters
  · exact countersOk_exec hs.counters (hs.staged i _ hti) c
  · exact hs.counters

theorem rateInv_of_reach {ok : RateState limitOf → (rateSystem limitOf).Action → Prop}
    {s : RateState limitOf} (h : Pool.Reach ok ((rateSystem limitOf).start {}) s) : RateInv s := by
  refine h.invariant (fun t a t' _ ht he => rateInv_step ht he) ⟨?_, ?_⟩
  · intro i t ht
    cases ht
  · intro key c hc
    cases hc

/-! ## Keys without a time to live -/

/-- A request is between its `INCR` and its `EXPIRE` of the key. -/
def Between (s : RateState limitOf) (i : Nat) (key : String) : Prop :=
  ∃ seconds k, s.tasks i = some ⟨(), .op (.expire key seconds) k⟩

/-- No fresh counter loses its `EXPIRE`: each `EXPIRE` is executed, the reply of an `INCR`
that creates its key arrives, and no request crashes between the two. -/
def ExpireSafe (s : RateState limitOf) : (rateSystem limitOf).Action → Prop
  | .arrive _ => True
  | .act i fault => (∀ key, Between s i key → fault ≠ .failed) ∧
      ∀ key k, s.tasks i = some ⟨(), .op (.incr key) k⟩ → s.world.counters key = none →
        fault ≠ .lost
  | .crash i => ∀ key, ¬ Between s i key

/-- A key without a time to live has a request that is about to expire it. -/
def NoOrphan (s : RateState limitOf) : Prop :=
  ∀ key c, s.world.counters key = some c → c.expiresAt = none → ∃ i, Between s i key

/-- A request that is about to expire a key stays so while another one does something. -/
theorem Between.update {s : RateState limitOf} {i j : Nat} {key : String} (h : Between s j key)
    (hji : j ≠ i) (w : RateWorld) (o : Option (Task (rateSystem limitOf))) :
    Between { s with world := w, tasks := Function.update s.tasks i o } j key := by
  obtain ⟨seconds, k, hj⟩ := h
  exact ⟨seconds, k, (Function.update_of_ne hji _ _).trans hj⟩

theorem Between.ne {s : RateState limitOf} {i j : Nat} {key : String} (h : Between s j key)
    {o : RateOp} {k : o.Resp → Prog rateOps Unit}
    (hi : s.tasks i = some ⟨(), .op (I := rateOps) o k⟩) (ho : ∀ seconds, o ≠ .expire key seconds) :
    j ≠ i := by
  rintro rfl
  obtain ⟨seconds, k', hj⟩ := h
  rw [hi] at hj
  cases hj
  exact ho seconds rfl

/-- Who was about to expire a key still is, if every key without a time to live was one before. -/
theorem NoOrphan.of_before {s s' : RateState limitOf} (hs : NoOrphan s)
    (h : ∀ key c, s'.world.counters key = some c → c.expiresAt = none →
      (∃ c₀, s.world.counters key = some c₀ ∧ c₀.expiresAt = none) ∧
        ∀ j, Between s j key → Between s' j key) : NoOrphan s' := by
  intro key c hc hnone
  obtain ⟨⟨c₀, hc₀, hnone₀⟩, hstays⟩ := h key c hc hnone
  obtain ⟨j, hj⟩ := hs key c₀ hc₀ hnone₀
  exact ⟨j, hstays j hj⟩

section Calls

variable {s : RateState limitOf} {i : Nat} {key : String}

/-- Time passes, or a request is spawned. -/
theorem NoOrphan.arrive (hs : NoOrphan s) (hbelow : Pool.NumberedBelow s) {arr : RateArrival}
    {w : RateWorld} {spawned : List (Unit × Prog rateOps Unit)}
    (harr : (rateSystem limitOf).arrive s.world arr = some (w, spawned))
    {tasks : Nat → Option (Task (rateSystem limitOf))}
    (htasks : ∀ j, j < s.next → tasks j = s.tasks j) (next : Nat) :
    NoOrphan { world := w, next, tasks } := by
  refine hs.of_before fun key c hc hnone => ⟨⟨c, ?_, hnone⟩, ?_⟩
  · obtain ⟨ms, rfl, _⟩ | ⟨_, _, rfl, _⟩ := arrive_cases harr
    · exact (Option.filter_eq_some_iff.1 hc).1
    · exact hc
  · rintro j ⟨seconds, k, hj⟩
    have hlt : j < s.next := by
      by_contra hge
      rw [hbelow j (by omega)] at hj
      cases hj
    exact ⟨seconds, k, (htasks j hlt).trans hj⟩

/-- `INCR`, after which a new key has the request that goes on to `EXPIRE`. -/
theorem NoOrphan.incr (hs : NoOrphan s) {k : Option Nat → Prog rateOps Unit}
    (hti : s.tasks i = some ⟨(), .op (I := rateOps) (.incr key) k⟩)
    (hone : Expiring key (limitOf key) (k (some 1))) {fault : RateFault}
    (hlost : s.world.counters key = none → fault ≠ .lost) :
    NoOrphan { s with
      world := (RateWorld.exec s.world (.incr key) fault).2
      tasks := Function.update s.tasks i
        (Pool.keep () (k (RateWorld.exec s.world (.incr key) fault).1)) } := by
  intro key' c hc hnone
  obtain ⟨c₀, hc₀, hnone₀⟩ | ⟨rfl, hfresh, hreply⟩ := incr_immortal hc hnone
  · obtain ⟨j, hj⟩ := hs key' c₀ hc₀ hnone₀
    exact ⟨j, hj.update (hj.ne hti fun _ h => by cases h) _ _⟩
  · obtain ⟨k₁, hk₁, _⟩ := hone
    refine ⟨i, (limitOf key').windowSeconds, k₁, ?_⟩
    dsimp only
    rw [hreply (hlost hfresh), Function.update_self, hk₁]
    rfl

/-- `EXPIRE`, after which the key has a time to live. -/
theorem NoOrphan.expire (hs : NoOrphan s) {seconds : Nat} {k : Bool → Prog rateOps Unit}
    (hti : s.tasks i = some ⟨(), .op (I := rateOps) (.expire key seconds) k⟩) {fault : RateFault}
    (hfault : fault ≠ .failed) (o : Option (Task (rateSystem limitOf))) :
    NoOrphan { s with
      world := (RateWorld.exec s.world (.expire key seconds) fault).2
      tasks := Function.update s.tasks i o } := by
  refine hs.of_before fun key' c hc hnone => ?_
  obtain ⟨hkey, hold⟩ := expire_immortal hfault hc hnone
  refine ⟨⟨c, hold, hnone⟩, fun j hj => hj.update (hj.ne hti fun seconds' h => ?_) _ _⟩
  cases h
  exact hkey rfl

end Calls

theorem noOrphan_step {s s' : RateState limitOf} {a : (rateSystem limitOf).Action}
    (hok : ExpireSafe s a) (hinv : RateInv s) (hbelow : Pool.NumberedBelow s) (hs : NoOrphan s)
    (h : Pool.step s a = some s') : NoOrphan s' := by
  obtain ⟨arr, w, spawned, rfl, harr, rfl⟩ | ⟨i, c, l, o, k, rfl, hti, rfl⟩ | ⟨i, u, rfl, hti, rfl⟩ :=
    Pool.step_cases h
  · exact hs.arrive hbelow harr (fun j hlt => if_pos hlt) _
  · obtain ⟨key, ⟨k', hp, _⟩ | ⟨k', hp, _, hone, _⟩ | ⟨k', hp, _⟩⟩ := hinv.staged i _ hti
    · cases hp
      refine hs.of_before fun key' c' hc' hnone => ⟨⟨c', hc', hnone⟩, fun j hj => ?_⟩
      exact hj.update (hj.ne hti fun _ h => by cases h) _ _
    · cases hp
      exact hs.incr hti hone (hok.2 key _ hti)
    · cases hp
      exact hs.expire hti (hok.1 key ⟨_, _, hti⟩) _
  · refine hs.of_before fun key c hc hnone => ⟨⟨c, hc, hnone⟩, fun j hj => hj.update ?_ _ _⟩
    rintro rfl
    exact hok key hj

theorem noOrphan_of_reach {s : RateState limitOf}
    (h : Pool.Reach ExpireSafe ((rateSystem limitOf).start {}) s) : NoOrphan s := by
  have hrun : Pool.Reach (fun t a => ExpireSafe t a ∧
      RateInv t ∧ ∀ i, t.next ≤ i → t.tasks i = none) ((rateSystem limitOf).start {}) s :=
    h.with_invariant fun t ht => ⟨rateInv_of_reach ht, Pool.tasks_of_le ht⟩
  refine hrun.invariant (fun t a t' hok ht he => noOrphan_step hok.1 hok.2.1 hok.2.2 ht he) ?_
  intro key c hc
  cases hc

/-! ## Main result -/

/-- Different numbers from 1 to a bound. -/
theorem length_le_of_nodup {ns : List Nat} {max : Nat} (hdistinct : ns.Nodup)
    (hbound : ∀ n ∈ ns, 1 ≤ n ∧ n ≤ max) : ns.length ≤ max := by
  have hsubset : ns ⊆ List.range' 1 max := by
    intro n hn
    have hle := hbound n hn
    rw [List.mem_range'_1]
    omega
  have hle := (hdistinct.subperm hsubset).length_le
  rwa [List.length_range'] at hle

/-- In every run a counter key lets through at most as many of the requests that have
got a count as the limit says.  And in every run in which no fresh counter loses its
`EXPIRE`, a counter key that no request is about to expire is gone within a window. -/
theorem rateLimit_bounds (limitOf : String → RateLimitConfig) (key : String) :
    (∀ s : RateState limitOf, Pool.Reach (fun _ _ => True) ((rateSystem limitOf).start {}) s →
      ∀ c, s.world.counters key = some c →
        (c.replies.filter (allows (limitOf key))).length ≤ (limitOf key).maxRequests) ∧
      ∀ s : RateState limitOf, Pool.Reach ExpireSafe ((rateSystem limitOf).start {}) s →
        (∀ i, ¬ Between s i key) → ∀ c, s.world.counters key = some c →
          ∃ t, c.expiresAt = some t ∧ t ≤ s.world.now + 1000 * (limitOf key).windowSeconds := by
  constructor
  · intro s hs c hc
    have hok := (rateInv_of_reach hs).counters key c hc
    apply length_le_of_nodup (hok.distinct.filter _)
    intro n hn
    obtain ⟨hmem, hallowed⟩ := List.mem_filter.1 hn
    exact ⟨(hok.bounded n hmem).1, by simpa [allows] using hallowed⟩
  · intro s hs hnobody c hc
    cases hexpires : c.expiresAt with
    | none =>
      obtain ⟨i, hi⟩ := noOrphan_of_reach hs key c hc hexpires
      exact absurd hi (hnobody i)
    | some t => exact ⟨t, rfl, ((rateInv_of_reach hs).counters key c hc).deadline t hexpires⟩

/-! ## Concrete histories -/

/-- An action without a fault. -/
def calm : (rateSystem limitOf).Action → Bool
  | .arrive _ => true
  | .act _ RateFault.none => true
  | _ => false

theorem expireSafe_of_calm (s : RateState limitOf) (a : (rateSystem limitOf).Action)
    (h : calm a = true) : ExpireSafe s a := by
  cases a with
  | arrive arr => trivial
  | act i fault =>
    have hfault : fault = RateFault.none := by
      cases fault with
      | none => rfl
      | lost => cases h
      | failed => cases h
    subst hfault
    constructor
    · intro _ _ hfailed
      cases hfailed
    · intro _ _ _ _ hlost
      cases hlost
  | crash i => cases h

/-- The limit of the login path for every key. -/
def sampleLimits : String → RateLimitConfig := fun _ => { maxRequests := 5, windowSeconds := 60 }

/-- A client that logs in. -/
def sampleLogin : (rateSystem sampleLimits).Action :=
  .arrive (.request (.client true "/api/auth/login" (some "10.0.0.1")))

/-- The key of this client. -/
def sampleKey : String := "rate_limit:/api/auth/login:10.0.0.1"

/-- Its first login makes the three calls. -/
theorem rateLimit_bounds_sample : ∃ s : RateState sampleLimits,
    Pool.Reach ExpireSafe ((rateSystem sampleLimits).start {}) s ∧
      ∃ c, s.world.counters sampleKey = some c ∧ ∃ t, c.expiresAt = some t ∧ t ≤ 60000 := by
  have hplay : ((Pool.play (fun _ a => calm a = true) ((rateSystem sampleLimits).start {})
      [sampleLogin, .act 0 RateFault.none, .act 0 RateFault.none, .act 0 RateFault.none]).map fun s =>
        ((s.world.counters sampleKey).isSome, s.world.now, s.next, (s.tasks 0).isSome)) =
      some (true, 0, 1, false) := by decide +kernel
  obtain ⟨s, hs, hdata⟩ := Pool.exists_of_play hplay
  simp only [Prod.mk.injEq] at hdata
  obtain ⟨hkey, hnow, hnext, htask⟩ := hdata
  obtain ⟨c, hc⟩ := Option.isSome_iff_exists.1 hkey
  have hreach : Pool.Reach ExpireSafe ((rateSystem sampleLimits).start {}) s :=
    hs.mono expireSafe_of_calm
  have hnobody : ∀ i, ¬ Between s i sampleKey := by
    rintro i ⟨seconds, k, hi⟩
    by_cases hzero : i = 0
    · subst hzero
      rw [hi] at htask
      cases htask
    · rw [Pool.tasks_of_le hs i (by omega)] at hi
      cases hi
  obtain ⟨t, ht, hle⟩ := (rateLimit_bounds sampleLimits sampleKey).2 s hreach hnobody c hc
  refine ⟨s, hreach, c, hc, t, ht, ?_⟩
  rw [hnow] at hle
  exact hle

/-- A login of the client, up to its count. -/
def loginCalls (i : Nat) : List (rateSystem sampleLimits).Action :=
  [sampleLogin, .act i RateFault.none, .act i RateFault.none]

/-- The `EXPIRE` of the first login fails.  Five logins and a day later nobody is about to
expire the key, which has no time to live, and its count is above the limit. -/
theorem expire_lost : ∃ s : RateState sampleLimits,
    Pool.Reach (fun _ _ => True) ((rateSystem sampleLimits).start {}) s ∧
      s.world.now = 86400000 ∧ (∀ i, ¬ Between s i sampleKey) ∧
        ∃ c, s.world.counters sampleKey = some c ∧ c.expiresAt = none ∧
          allows (sampleLimits sampleKey) c.count = false := by
  have hplay : ((Pool.play (fun _ _ => True) ((rateSystem sampleLimits).start {})
      (loginCalls 0 ++ [.act 0 RateFault.failed] ++ loginCalls 1 ++ loginCalls 2 ++ loginCalls 3 ++ loginCalls 4 ++ loginCalls 5 ++
        [.arrive (.tick 86400000)])).map fun s =>
        ((s.world.counters sampleKey).map fun c => (c.count, c.expiresAt), s.world.now, s.next,
          (List.range 6).all fun i => (s.tasks i).isNone)) =
      some (some (6, none), 86400000, 6, true) := by decide +kernel
  obtain ⟨s, hs, hdata⟩ := Pool.exists_of_play hplay
  simp only [Prod.mk.injEq, List.all_eq_true, List.mem_range, Option.isNone_iff_eq_none] at hdata
  obtain ⟨hkey, hnow, hnext, htasks⟩ := hdata
  obtain ⟨c, hc, hcount⟩ := Option.map_eq_some_iff.1 hkey
  simp only [Prod.mk.injEq] at hcount
  refine ⟨s, hs, hnow, ?_, c, hc, hcount.2, ?_⟩
  · rintro i ⟨seconds, k, hi⟩
    by_cases hlt : i < 6
    · rw [htasks i hlt] at hi
      cases hi
    · rw [Pool.tasks_of_le hs i (by omega)] at hi
      cases hi
  · rw [hcount.1]
    decide

end KlassGateway.Auth
