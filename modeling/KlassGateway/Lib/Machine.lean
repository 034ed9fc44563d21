import KlassGateway.Lib.Wp
/-!
# Machines, and programs that run alone

A `Machine` gives the operations of an interface their meaning on a world.
What the world does not determine (an answer of another service, a clock
value, a fault) is the `Choice` made at the call.

`Prog.run` runs one program alone against a stream of choices and records
every call; `Prog.runWith` answers every call with the same choice and computes
only the result and the last world.  `Machine.spec` is the specification that the machine itself
satisfies, and `run_of_wp` is its soundness: a weakest precondition with this
specification speaks about every run.
-/

namespace KlassGateway.Lib

/-- The meaning of the operations of `I` on a world. -/
structure Machine (I : Interface) where
  World : Type
  Choice : Type
  exec : World → (o : I.Op) → Choice → I.Resp o × World

/-- One call of a run: the world it found, the operation and the choice. -/
structure Call {I : Interface} (M : Machine I) where
  before : M.World
  op : I.Op
  choice : M.Choice

/-- What a run leaves: its calls in order, its result unless it panicked, and
the last world. -/
structure Outcome {I : Interface} (M : Machine I) (α : Type) where
  calls : List (Call M)
  result : Option α
  world : M.World

namespace Call

variable {I : Interface} {M : Machine I}

/-- The world that the call leaves. -/
def after (c : Call M) : M.World := (M.exec c.before c.op c.choice).2

end Call

namespace Prog

variable {I : Interface} {α : Type}

/-- Run a program alone.  Call `n` is answered with choice `env n`. -/
def run (M : Machine I) : Prog I α → (Nat → M.Choice) → M.World → Outcome M α
  | ret a, _, w => ⟨[], some a, w⟩
  | abort, _, w => ⟨[], none, w⟩
  | op o k, env, w =>
    let answer := M.exec w o (env 0)
    let rest := (k answer.1).run M (fun n => env (n + 1)) answer.2
    { rest with calls := ⟨w, o, env 0⟩ :: rest.calls }

/-- Run a program alone with one choice for all calls. -/
def runWith (M : Machine I) (c : M.Choice) : Prog I α → M.World → Option α × M.World
  | ret a, w => (some a, w)
  | abort, w => (none, w)
  | op o k, w => (k (M.exec w o c).1).runWith M c (M.exec w o c).2

section RunWith

variable {M : Machine I} {c : M.Choice} {β ε ε' : Type}

@[simp] theorem runWith_ret (a : α) (w : M.World) : (ret a : Prog I α).runWith M c w = (some a, w) :=
  rfl

/-- The second program starts where the first ends. -/
theorem runWith_bind (p : Prog I α) (f : α → Prog I β) (w : M.World) :
    (p.bind f).runWith M c w =
      match p.runWith M c w with
      | (some a, w') => (f a).runWith M c w'
      | (none, w') => (none, w') := by
  induction p generalizing w with
  | ret a => rfl
  | abort => rfl
  | op o k ih => exact ih _ _

@[simp] theorem runWith_run_pure (a : α) (w : M.World) :
    (pure a : Fallible I ε α).run.runWith M c w = (some (.ok a), w) := rfl

@[simp] theorem runWith_run_throw (e : ε) (w : M.World) :
    (throw e : Fallible I ε α).run.runWith M c w = (some (.error e), w) := rfl

/-- `?`. -/
theorem runWith_run_bind (p : Fallible I ε α) (f : α → Fallible I ε β) (w : M.World) :
    (p >>= f).run.runWith M c w =
      match p.run.runWith M c w with
      | (some (.ok a), w') => (f a).run.runWith M c w'
      | (some (.error e), w') => (some (.error e), w')
      | (none, w') => (none, w') := by
  change (Prog.bind p.run _).runWith M c w = _
  rw [runWith_bind]
  split
  · next r w' hp =>
    rw [hp]
    cases r <;> rfl
  · next hp => rw [hp]

theorem runWith_run_mapErr (f : ε → ε') (p : Fallible I ε α) (w : M.World) :
    (mapErr f p).run.runWith M c w =
      ((p.run.runWith M c w).1.map (Except.mapError f), (p.run.runWith M c w).2) := by
  change (Prog.bind p.run _).runWith M c w = _
  rw [runWith_bind]
  split
  · next hp => rw [hp]; rfl
  · next hp => rw [hp]; rfl

end RunWith

section Run

variable {M : Machine I} {β ε ε' : Type} {env : Nat → M.Choice} {w : M.World}

/-- A call whose answer is known. -/
theorem run_op_of_answer {o : I.Op} {answer : I.Resp o} (h : (M.exec w o (env 0)).1 = answer)
    (k : I.Resp o → Prog I α) : (op o k).run M env w =
      let rest := (k answer).run M (fun n => env (n + 1)) (M.exec w o (env 0)).2
      { rest with calls := ⟨w, o, env 0⟩ :: rest.calls } := by
  rw [← h]
  rfl

/-- The second program of a sequence starts where the first ends, and its
calls follow those of the first. -/
theorem run_bind_of_result {p : Prog I α} {a : α} (h : (p.run M env w).result = some a)
    (f : α → Prog I β) : (p.bind f).run M env w =
      let first := p.run M env w
      let rest := (f a).run M (fun n => env (n + first.calls.length)) first.world
      { rest with calls := first.calls ++ rest.calls } := by
  induction p generalizing env w with
  | ret b =>
    obtain rfl : b = a := Option.some.inj h
    rfl
  | abort => cases h
  | op o k ih =>
    simp only [op_bind, run, ih _ h]
    rfl

/-- A panic ends the sequence. -/
theorem run_bind_of_none {p : Prog I α} (h : (p.run M env w).result = none)
    (f : α → Prog I β) : (p.bind f).run M env w =
      { p.run M env w with result := none } := by
  induction p generalizing env w with
  | ret b => cases h
  | abort => rfl
  | op o k ih => simp only [op_bind, run, ih _ h]

/-- `?` after an error. -/
theorem run_run_bind_error {p : Fallible I ε α} {e : ε}
    (h : (p.run.run M env w).result = some (.error e)) (f : α → Fallible I ε β) :
    (p >>= f).run.run M env w = { p.run.run M env w with result := some (.error e) } := by
  refine (run_bind_of_result h _).trans ?_
  simp [ExceptT.bindCont, run]

theorem run_run_mapErr (f : ε → ε') (p : Fallible I ε α) :
    (mapErr f p).run.run M env w =
      { p.run.run M env w with result := (p.run.run M env w).result.map (Except.mapError f) } := by
  cases h : (p.run.run M env w).result with
  | none => exact run_bind_of_none h _
  | some r =>
    refine (run_bind_of_result h _).trans ?_
    simp [run]

end Run

/-- A run that makes `n` calls, has a result and leaves a world. -/
structure Ends (M : Machine I) (p : Prog I α) (env : Nat → M.Choice) (w : M.World) (n : Nat) (a : α)
    (w' : M.World) : Prop where
  length : (p.run M env w).calls.length = n
  result : (p.run M env w).result = some a
  world : (p.run M env w).world = w'

section Ends

variable {M : Machine I} {β ε ε' : Type} {env : Nat → M.Choice} {w w' w'' : M.World} {n m : Nat}

theorem ends_ret (a : α) (env : Nat → M.Choice) (w : M.World) : Ends M (ret a) env w 0 a w :=
  ⟨rfl, rfl, rfl⟩

theorem ends_perform (o : I.Op) (env : Nat → M.Choice) (w : M.World) :
    Ends M (perform o) env w 1 (M.exec w o (env 0)).1 (M.exec w o (env 0)).2 := ⟨rfl, rfl, rfl⟩

/-- The second program of a sequence starts where the first ends. -/
theorem Ends.bind {p : Prog I α} {f : α → Prog I β} {a : α} {b : β} (h : Ends M p env w n a w')
    (h' : Ends M (f a) (fun i => env (i + n)) w' m b w'') :
    Ends M (p.bind f) env w (n + m) b w'' := by
  have hrun := run_bind_of_result h.result f
  simp only [h.length, h.world] at hrun
  refine ⟨?_, ?_, ?_⟩
  · rw [hrun, List.length_append, h.length, h'.length]
  · rw [hrun, h'.result]
  · rw [hrun, h'.world]

/-- `?` after a success. -/
theorem Ends.bind_ok {p : Fallible I ε α} {f : α → Fallible I ε β} {a : α} {b : Except ε β}
    (h : Ends M p.run env w n (.ok a) w')
    (h' : Ends M (f a).run (fun i => env (i + n)) w' m b w'') :
    Ends M (p >>= f).run env w (n + m) b w'' := h.bind h'

/-- `?` after an error. -/
theorem Ends.bind_error {p : Fallible I ε α} {f : α → Fallible I ε β} {e : ε}
    (h : Ends M p.run env w n (.error e) w') : Ends M (p >>= f).run env w n (.error e) w' :=
  Ends.bind (m := 0) (f := ExceptT.bindCont f) h (ends_ret (Except.error e) _ _)

/-- A program without errors inside a fallible one. -/
theorem Ends.liftM {p : Prog I α} {a : α} (h : Ends M p env w n a w') :
    Ends M (liftM p : Fallible I ε α).run env w n (.ok a) w' :=
  Ends.bind (m := 0) (f := fun a => ret (Except.ok a)) h (ends_ret (Except.ok a) _ _)

end Ends

end Prog

namespace Machine

variable {I : Interface} {α : Type} (M : Machine I)

/-- The machine among others: the world that a call finds is part of its
choice, since anything may have happened to it since the last call. -/
abbrev interleaved : Machine I := ⟨Unit, M.World × M.Choice, fun _ o c => ((M.exec c.1 o c.2).1, ())⟩

/-- The specification that `M` satisfies by definition, under an obligation
`req` on each call and a restriction `allow` on the choices. -/
def spec (req : M.World → I.Op → Prop) (allow : M.World → I.Op → M.Choice → Prop) :
    OpSpec I M.World where
  pre := req
  step w o r w' := ∃ c, allow w o c ∧ M.exec w o c = (r, w')

variable {M} {req : M.World → I.Op → Prop} {allow : M.World → I.Op → M.Choice → Prop}

/-- Every answer that `spec` allows is an answer of the machine. -/
theorem forall_spec_step {w : M.World} {o : I.Op} {R : I.Resp o → M.World → Prop} :
    (∀ r w', (M.spec req allow).step w o r w' → R r w') ↔
      ∀ c, allow w o c → R (M.exec w o c).1 (M.exec w o c).2 := by
  constructor
  · exact fun h c hc => h _ _ ⟨c, hc, rfl⟩
  · rintro h r w' ⟨c, hc, he⟩
    simpa [he] using h c hc

/-- A weakest precondition speaks about every run: each call meets its
obligation, and the result meets the postcondition. -/
theorem run_of_wp {p : Prog I α} {Q : α → M.World → Prop} {env : Nat → M.Choice}
    {w : M.World} (h : p.wp (M.spec req allow) Q w)
    (henv : ∀ c ∈ (p.run M env w).calls, allow c.before c.op c.choice) :
    (∀ c ∈ (p.run M env w).calls, req c.before c.op) ∧
      ∀ a, (p.run M env w).result = some a → Q a (p.run M env w).world := by
  induction p generalizing env w with
  | ret a =>
    refine ⟨by simp [Prog.run], fun b hb => ?_⟩
    simp only [Prog.run, Option.some.injEq] at hb ⊢
    exact hb ▸ h
  | abort => exact ⟨by simp [Prog.run], by simp [Prog.run]⟩
  | op o k ih =>
    rw [Prog.wp_op, forall_spec_step] at h
    simp only [Prog.run, List.mem_cons, forall_eq_or_imp] at henv ⊢
    obtain ⟨hcalls, hresult⟩ := ih _ (h.2 _ henv.1) henv.2
    exact ⟨⟨h.1, hcalls⟩, hresult⟩

/-- An obligation that the first part of a program settles for the rest of it. -/
theorem exists_req_of_wp {β ι : Type} [Inhabited ι] {reqOf : ι → M.World → I.Op → Prop}
    (hreq : ∀ i w o, req w o → reqOf i w o) {p : Prog I β} {f : β → Prog I α}
    {env : Nat → M.Choice} {w : M.World}
    (h : p.wp (M.spec req allow)
      (fun b w' => ∃ i, (f b).wp (M.spec (reqOf i) allow) (fun _ _ => True) w') w)
    (henv : ∀ c ∈ ((p.bind f).run M env w).calls, allow c.before c.op c.choice) :
    ∃ i, ∀ c ∈ ((p.bind f).run M env w).calls, reqOf i c.before c.op := by
  induction p generalizing env w with
  | ret b =>
    obtain ⟨i, hi⟩ := h
    exact ⟨i, (run_of_wp hi henv).1⟩
  | abort => exact ⟨default, by simp [Prog.run]⟩
  | op o k ih =>
    rw [Prog.wp_op, forall_spec_step] at h
    simp only [Prog.op_bind, Prog.run, List.mem_cons, forall_eq_or_imp] at henv ⊢
    obtain ⟨i, hi⟩ := ih _ (h.2 _ henv.1) henv.2
    exact ⟨i, hreq i _ _ h.1, hi⟩

/-- The postcondition alone, for a run that owes nothing at its calls. -/
theorem result_of_wp {p : Prog I α} {Q : α → M.World → Prop} {env : Nat → M.Choice}
    {w : M.World} (h : p.wp (M.spec req allow) Q w)
    (henv : ∀ c ∈ (p.run M env w).calls, allow c.before c.op c.choice) {a : α}
    (ha : (p.run M env w).result = some a) : Q a (p.run M env w).world :=
  (run_of_wp h henv).2 a ha

end Machine

end KlassGateway.Lib
