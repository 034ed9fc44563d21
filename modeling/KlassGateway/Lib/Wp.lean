import KlassGateway.Lib.Program
/-!
# Weakest preconditions of programs

What an operation may do to an abstract state is an `OpSpec`: the condition
under which it may be called, and the answers and next states that are
possible then.  `wp` folds an `OpSpec` over a program.  The state is whatever
the proof at hand needs.

* It is the whole world when a program runs alone (`Lib.Machine`).
* It is a local mode when the program follows a discipline on its calls while
  others run beside it (`Lib.Typestate`).

The rules below unfold a program written in `do` notation one call at a time.
They are the only way in which later proofs look inside a program.
-/

namespace KlassGateway.Lib

/-- The abstract effect of each operation on states of type `St`: `pre` is
what the caller owes, `step` what it may observe afterwards. -/
structure OpSpec (I : Interface) (St : Type) where
  pre : St → I.Op → Prop
  step : St → (o : I.Op) → I.Resp o → St → Prop

namespace Prog

variable {I : Interface} {St : Type} {α β ε ε' : Type}

/-- From `s`, every call of the program is allowed and every result satisfies
`Q`.  A panic has no result, so it owes nothing. -/
def wp (spec : OpSpec I St) : Prog I α → (α → St → Prop) → St → Prop
  | ret a, Q, s => Q a s
  | abort, _, _ => True
  | op o k, Q, s => spec.pre s o ∧ ∀ r s', spec.step s o r s' → (k r).wp spec Q s'

variable {spec : OpSpec I St}

@[simp] theorem wp_ret (a : α) (Q : α → St → Prop) (s : St) :
    (ret a : Prog I α).wp spec Q s ↔ Q a s := Iff.rfl

@[simp] theorem wp_abort (Q : α → St → Prop) (s : St) :
    (abort : Prog I α).wp spec Q s ↔ True := Iff.rfl

theorem wp_op (o : I.Op) (k : I.Resp o → Prog I α) (Q : α → St → Prop) (s : St) :
    (op o k).wp spec Q s ↔
      spec.pre s o ∧ ∀ r s', spec.step s o r s' → (k r).wp spec Q s' := Iff.rfl

/-- The rule of sequential composition. -/
@[simp] theorem wp_bind (p : Prog I α) (f : α → Prog I β) (Q : β → St → Prop) (s : St) :
    (p.bind f).wp spec Q s ↔ p.wp spec (fun a s' => (f a).wp spec Q s') s := by
  induction p generalizing s with
  | ret a => rfl
  | abort => rfl
  | op o k ih =>
    simp only [op_bind, wp_op]
    exact and_congr_right fun _ =>
      forall_congr' fun r => forall_congr' fun s' => imp_congr_right fun _ => ih r s'

/-- The rule of consequence. -/
theorem wp_mono {p : Prog I α} {Q R : α → St → Prop} (h : ∀ a s', Q a s' → R a s')
    {s : St} (hp : p.wp spec Q s) : p.wp spec R s := by
  induction p generalizing s with
  | ret a => exact h a s hp
  | abort => trivial
  | op o k ih =>
    rw [wp_op] at hp ⊢
    exact ⟨hp.1, fun r s' hr => ih r (hp.2 r s' hr)⟩

/-- A specification with weaker obligations and fewer possible answers proves
more. -/
theorem wp_refine {spec' : OpSpec I St} {p : Prog I α} {Q : α → St → Prop}
    (hpre : ∀ s o, spec.pre s o → spec'.pre s o)
    (hstep : ∀ s o r s', spec'.step s o r s' → spec.step s o r s')
    {s : St} (hp : p.wp spec Q s) : p.wp spec' Q s := by
  induction p generalizing s with
  | ret a => exact hp
  | abort => trivial
  | op o k ih =>
    rw [wp_op] at hp ⊢
    exact ⟨hpre s o hp.1, fun r s' hr => ih r (hp.2 r s' (hstep s o r s' hr))⟩

/-! ## Fallible programs -/

@[simp] theorem wp_run_pure (a : α) (Q : Except ε α → St → Prop) (s : St) :
    (pure a : Fallible I ε α).run.wp spec Q s ↔ Q (.ok a) s := Iff.rfl

@[simp] theorem wp_run_throw (e : ε) (Q : Except ε α → St → Prop) (s : St) :
    (throw e : Fallible I ε α).run.wp spec Q s ↔ Q (.error e) s := Iff.rfl

@[simp] theorem wp_run_panicked (Q : Except ε α → St → Prop) (s : St) :
    (panicked : Fallible I ε α).run.wp spec Q s ↔ True := Iff.rfl

@[simp] theorem wp_run_liftM (p : Prog I α) (Q : Except ε α → St → Prop) (s : St) :
    (liftM p : Fallible I ε α).run.wp spec Q s ↔ p.wp spec (fun a => Q (.ok a)) s := by
  change (p.bind _).wp spec Q s ↔ _
  rw [wp_bind]
  rfl

/-- `?`: the rest runs on success and an error ends the program. -/
theorem wp_run_bind (p : Fallible I ε α) (f : α → Fallible I ε β)
    (Q : Except ε β → St → Prop) (s : St) :
    (p >>= f).run.wp spec Q s ↔
      p.run.wp spec (fun r s' => match r with
        | .ok a => (f a).run.wp spec Q s'
        | .error e => Q (.error e) s') s := by
  change (Prog.bind p.run _).wp spec Q s ↔ _
  rw [wp_bind]
  refine iff_of_eq (congrArg (fun R => p.run.wp spec R s) ?_)
  funext r s'
  cases r <;> rfl

@[simp] theorem wp_attempt (p : Fallible I ε α) (Q : Except ε α → St → Prop) (s : St) :
    (attempt p).wp spec Q s ↔ p.run.wp spec Q s := Iff.rfl

@[simp] theorem wp_run_resultOf (p : Fallible I ε α) (Q : Except ε' (Except ε α) → St → Prop)
    (s : St) :
    (resultOf p : Fallible I ε' _).run.wp spec Q s ↔ p.run.wp spec (fun r => Q (.ok r)) s := by
  change (Prog.bind p.run _).wp spec Q s ↔ _
  rw [wp_bind]
  rfl

@[simp] theorem wp_run_onSuccess (p : Fallible I ε α) (Q : Except ε' α → St → Prop) (s : St) :
    (onSuccess p : Fallible I ε' α).run.wp spec Q s ↔
      p.run.wp spec (fun r s' => ∀ a, r = .ok a → Q (.ok a) s') s := by
  change (Prog.bind p.run _).wp spec Q s ↔ _
  rw [wp_bind]
  refine iff_of_eq (congrArg (fun R => p.run.wp spec R s) ?_)
  funext r s'
  cases r <;> simp

@[simp] theorem wp_run_mapErr (f : ε → ε') (p : Fallible I ε α)
    (Q : Except ε' α → St → Prop) (s : St) :
    (mapErr f p).run.wp spec Q s ↔ p.run.wp spec (fun r => Q (r.mapError f)) s := by
  change (Prog.bind p.run _).wp spec Q s ↔ _
  rw [wp_bind]
  rfl

end Prog

end KlassGateway.Lib
