import KlassGateway.Lib.Wp
/-!
# Safe programs and footprints

`Safe spec p` says that `p` meets the obligations of `spec` from every state.
`Only φ p` is the case of a specification without states: every call of `p`,
in every run, satisfies `φ`.  A footprint is proved once for each program and
then used under any specification:

* `Only.wp` is the frame rule: calls that keep the state keep it over the whole
  program.
* `Only.wp_pre` is the same for a condition on the state.
* `Only.safe` is for obligations that hold in every state.
* `Persists.bind` is for obligations that hold once something is known that no step takes away.

`wp_simulates` carries what is proved under one specification over to another.
-/

namespace KlassGateway.Lib.Prog

variable {I : Interface} {St : Type} {spec : OpSpec I St} {α β ε ε' : Type} {φ ψ : I.Op → Prop}

/-- The program meets its obligations from every state. -/
def Safe (spec : OpSpec I St) (p : Prog I α) : Prop := ∀ s, p.wp spec (fun _ _ => True) s

/-- The specification that allows the calls of `φ` and says nothing about
their answers. -/
def footprintSpec (φ : I.Op → Prop) : OpSpec I Unit := ⟨fun _ o => φ o, fun _ _ _ _ => True⟩

/-- Every call of the program satisfies `φ`. -/
abbrev Only (φ : I.Op → Prop) (p : Prog I α) : Prop := Safe (footprintSpec φ) p

/-! ## Rules of `Safe` -/

theorem safe_ret (a : α) : Safe spec (ret a) := fun _ => trivial

theorem safe_perform {o : I.Op} (h : ∀ s, spec.pre s o) : Safe spec (perform o) :=
  fun s => ⟨h s, fun _ _ _ => trivial⟩

theorem safe_bind {p : Prog I α} {f : α → Prog I β} (hp : Safe spec p)
    (hf : ∀ a, Safe spec (f a)) : Safe spec (p.bind f) := by
  intro s
  rw [wp_bind]
  exact wp_mono (fun a s' _ => hf a s') (hp s)

theorem safe_run_pure (a : α) : Safe spec (pure a : Fallible I ε α).run := fun _ => trivial

theorem safe_run_throw (e : ε) : Safe spec (throw e : Fallible I ε α).run := fun _ => trivial

theorem safe_run_panicked : Safe spec (panicked : Fallible I ε α).run := fun _ => trivial

theorem safe_run_bind {p : Fallible I ε α} {f : α → Fallible I ε β} (hp : Safe spec p.run)
    (hf : ∀ a, Safe spec (f a).run) : Safe spec (p >>= f).run := by
  intro s
  rw [wp_run_bind]
  refine wp_mono (fun r s' _ => ?_) (hp s)
  cases r with
  | ok a => exact hf a s'
  | error e => trivial

theorem safe_run_liftM {p : Prog I α} (hp : Safe spec p) :
    Safe spec (liftM p : Fallible I ε α).run := by
  intro s
  rw [wp_run_liftM]
  exact hp s

theorem safe_run_mapErr {f : ε → ε'} {p : Fallible I ε α} (hp : Safe spec p.run) :
    Safe spec (mapErr f p).run := by
  intro s
  rw [wp_run_mapErr]
  exact hp s

theorem safe_run_resultOf {p : Fallible I ε α} (hp : Safe spec p.run) :
    Safe spec (resultOf p : Fallible I ε' _).run := by
  intro s
  rw [wp_run_resultOf]
  exact hp s

/-! ## Use of a footprint -/

theorem only_perform {o : I.Op} (h : φ o) : Only φ (perform o) := safe_perform fun _ => h

/-- Nothing is said about the calls. -/
theorem only_true (p : Prog I α) : Only (fun _ => True) p := by
  intro s
  induction p generalizing s with
  | ret a => trivial
  | abort => trivial
  | op o k ih => exact ⟨trivial, fun r s' _ => ih r s'⟩

theorem Only.mono (h : ∀ o, φ o → ψ o) {p : Prog I α} (hp : Only φ p) : Only ψ p := by
  have hpre : ∀ (s : Unit) (o : I.Op), (footprintSpec φ).pre s o → (footprintSpec ψ).pre s o :=
    fun _ o => h o
  exact fun s => wp_refine hpre (fun _ _ _ _ _ => trivial) (hp s)

/-- Two footprints of one program. -/
theorem Only.and {p : Prog I α} (hp : Only φ p) (hq : Only ψ p) :
    Only (fun o => φ o ∧ ψ o) p := by
  intro s
  induction p generalizing s with
  | ret a => trivial
  | abort => trivial
  | op o k ih =>
    obtain ⟨hφ, hk⟩ := hp s
    obtain ⟨hψ, hk'⟩ := hq s
    exact ⟨⟨hφ, hψ⟩, fun r s' hr => ih r (fun t => hk r t trivial) (fun t => hk' r t trivial) s'⟩

/-- Calls that are allowed under a condition `J` on the state and keep it. -/
theorem Only.wp_pre {p : Prog I α} (hp : Only φ p) {J : St → Prop} {s : St} (hs : J s)
    (h : ∀ s o, J s → φ o → spec.pre s o ∧ ∀ r s', spec.step s o r s' → J s') :
    p.wp spec (fun _ s' => J s') s := by
  induction p generalizing s with
  | ret a => exact hs
  | abort => trivial
  | op o k ih =>
    obtain ⟨hφ, hk⟩ := hp ()
    obtain ⟨hpre, hkeep⟩ := h s o hs hφ
    exact ⟨hpre, fun r s' hr => ih r (fun _ => hk r () trivial) (hkeep r s' hr)⟩

/-- Calls that are allowed in `s` and keep it make up a program that keeps
`s`. -/
theorem Only.wp {p : Prog I α} (hp : Only φ p) {s : St}
    (h : ∀ o, φ o → spec.pre s o ∧ ∀ r s', spec.step s o r s' → s' = s) :
    p.wp spec (fun _ s' => s' = s) s :=
  hp.wp_pre rfl fun _ o hs hφ => by subst hs; exact h o hφ

/-- Calls that are allowed in every state. -/
theorem Only.safe {p : Prog I α} (hp : Only φ p) (h : ∀ o, φ o → ∀ s, spec.pre s o) :
    Safe spec p := fun s =>
  wp_mono (fun _ _ _ => trivial)
    (hp.wp_pre (J := fun _ => True) (s := s) trivial fun s o _ hφ =>
      ⟨h o hφ s, fun _ _ _ => trivial⟩)

/-! ## Simulation -/

/-- A program that follows one specification follows another, whose obligations are met and whose
steps are matched along a relation between the states. -/
theorem wp_simulates {St' : Type} {spec' : OpSpec I St'} {R : St → St' → Prop}
    (hpre : ∀ s t o, R s t → spec.pre s o → spec'.pre t o)
    (hstep : ∀ s t o r t', R s t → spec'.step t o r t' → ∃ s', spec.step s o r s' ∧ R s' t')
    {p : Prog I α} {Q : α → St → Prop} {s : St} {t : St'} (hst : R s t) (hp : p.wp spec Q s) :
    p.wp spec' (fun a t' => ∃ s', R s' t' ∧ Q a s') t := by
  induction p generalizing s t with
  | ret a => exact ⟨s, hst, hp⟩
  | abort => trivial
  | op o k ih =>
    refine ⟨hpre s t o hst hp.1, fun r t' ht => ?_⟩
    obtain ⟨s', hs, hst'⟩ := hstep s t o r t' hst ht
    exact ih r hst' (hp.2 r s' hs)

/-! ## Knowledge -/

/-- No step of the specification takes `J` away. -/
def Persists (spec : OpSpec I St) (J : St → Prop) : Prop :=
  ∀ s o r s', spec.step s o r s' → J s → J s'

/-- The program meets its obligations from every state with `J`. -/
def SafeFrom (spec : OpSpec I St) (J : St → Prop) (p : Prog I α) : Prop :=
  ∀ s, J s → p.wp spec (fun _ _ => True) s

section SafeFrom

variable {J : St → Prop}

theorem Safe.safeFrom {p : Prog I α} (hp : Safe spec p) : SafeFrom spec J p := fun s _ => hp s

theorem safeFrom_run_liftM {p : Prog I α} (hp : SafeFrom spec J p) :
    SafeFrom spec J (liftM p : Fallible I ε α).run := fun s hs =>
  (wp_run_liftM _ _ _).2 (hp s hs)

theorem safeFrom_run_mapErr {f : ε → ε'} {p : Fallible I ε α} (hp : SafeFrom spec J p.run) :
    SafeFrom spec J (mapErr f p).run := fun s hs => (wp_run_mapErr _ _ _ _).2 (hp s hs)

variable (hJ : Persists spec J)
include hJ

/-- What persists holds after the program. -/
theorem Persists.wp {p : Prog I α} {Q : α → St → Prop} {s : St} (hs : J s) (hp : p.wp spec Q s) :
    p.wp spec (fun a s' => Q a s' ∧ J s') s := by
  induction p generalizing s with
  | ret a => exact ⟨hp, hs⟩
  | abort => trivial
  | op o k ih => exact ⟨hp.1, fun r s' hr => ih r (hJ s o r s' hr hs) (hp.2 r s' hr)⟩

/-- A persistent condition holds for the rest of a program. -/
theorem Persists.bind {p : Prog I α} {f : α → Prog I β} (hp : SafeFrom spec J p)
    (hf : ∀ a, SafeFrom spec J (f a)) : SafeFrom spec J (p.bind f) := fun s hs =>
  (wp_bind _ _ _ _).2 (wp_mono (fun a s' h => hf a s' h.2) (hJ.wp hs (hp s hs)))

theorem Persists.run_bind {p : Fallible I ε α} {f : α → Fallible I ε β}
    (hp : SafeFrom spec J p.run) (hf : ∀ a, SafeFrom spec J (f a).run) :
    SafeFrom spec J (p >>= f).run :=
  hJ.bind hp fun r => by
    cases r with
    | ok a => exact hf a
    | error e => exact fun _ _ => trivial

end SafeFrom

/-! ## Results -/

/-- The program has a result in every run. -/
def Total : Prog I α → Prop
  | ret _ => True
  | abort => False
  | op _ k => ∀ r, (k r).Total

theorem total_bind {p : Prog I α} {f : α → Prog I β} (hp : p.Total) (hf : ∀ a, (f a).Total) :
    (p.bind f).Total := by
  induction p with
  | ret a => exact hf a
  | abort => cases hp
  | op o k ih => exact fun r => ih r (hp r)

theorem total_run_bind {p : Fallible I ε α} {f : α → Fallible I ε β} (hp : p.run.Total)
    (hf : ∀ a, (f a).run.Total) : (p >>= f).run.Total :=
  total_bind hp fun r => by
    cases r with
    | ok a => exact hf a
    | error e => trivial

theorem total_run_mapErr {f : ε → ε'} {p : Fallible I ε α} (hp : p.run.Total) :
    (mapErr f p).run.Total := total_bind hp fun _ => trivial

theorem total_run_resultOf {p : Fallible I ε α} (hp : p.run.Total) :
    (resultOf p : Fallible I ε' _).run.Total := total_bind hp fun _ => trivial

/-- Every result of the program satisfies `R`, whatever its calls answer. -/
def Returns (R : α → Prop) (p : Prog I α) : Prop :=
  p.wp (footprintSpec fun _ => True) (fun a _ => R a) ()

theorem wp_of_returns {R : α → Prop} {p : Prog I α} {Q : α → St → Prop} {s : St}
    (hp : p.wp spec Q s) (hr : Returns R p) : p.wp spec (fun a s' => Q a s' ∧ R a) s := by
  induction p generalizing s with
  | ret a => exact ⟨hp, hr⟩
  | abort => trivial
  | op o k ih => exact ⟨hp.1, fun r s' h => ih r (hp.2 r s' h) (hr.2 r () trivial)⟩

theorem returns_bind {R : β → Prop} (p : Prog I α) {f : α → Prog I β}
    (h : ∀ a, Returns R (f a)) : Returns R (p.bind f) := by
  induction p with
  | ret a => exact h a
  | abort => trivial
  | op o k ih => exact ⟨trivial, fun r _ _ => ih r⟩

/-- A condition on the success of a fallible program is one on its last part. -/
theorem returns_run_bind {R : β → Prop} (p : Fallible I ε α) {f : α → Fallible I ε β}
    (h : ∀ a, Returns (fun r => ∀ b, r = .ok b → R b) (f a).run) :
    Returns (fun r => ∀ b, r = .ok b → R b) (p >>= f).run := by
  refine returns_bind p.run fun r => ?_
  cases r with
  | ok a => exact h a
  | error e => exact fun _ he => by cases he

/-- The condition holds if the program succeeds. -/
def OnOk (J : St → Prop) (r : Except ε α) (s : St) : Prop := r.isOk → J s

theorem onOk_error {J : St → Prop} (e : ε) (s : St) : OnOk J (.error e : Except ε α) s :=
  fun h => by cases h

theorem wp_onOk {J : St → Prop} {p : Fallible I ε α} {s : St}
    (hp : p.run.wp spec (fun _ s' => J s') s) : p.run.wp spec (OnOk J) s :=
  wp_mono (R := OnOk J) (fun _ _ h _ => h) hp

theorem wp_onOk_mapErr {J : St → Prop} {f : ε → ε'} {p : Fallible I ε α} {s : St}
    (hp : p.run.wp spec (OnOk J) s) : (mapErr f p).run.wp spec (OnOk J) s :=
  (wp_run_mapErr _ _ _ _).2 (wp_mono (fun r _ h => by cases r <;> exact h) hp)

theorem wp_onOk_bind {J K : St → Prop} {p : Fallible I ε α} {f : α → Fallible I ε β} {s : St}
    (hp : p.run.wp spec (OnOk J) s) (hf : ∀ a s', J s' → (f a).run.wp spec (OnOk K) s') :
    (p >>= f).run.wp spec (OnOk K) s := by
  rw [wp_run_bind]
  refine wp_mono (fun r s' h => ?_) hp
  cases r with
  | ok a => exact hf a s' (h rfl)
  | error e => exact onOk_error e s'

/-- The condition holds of the value if the program succeeds. -/
def OnValue (R : α → St → Prop) (r : Except ε α) (s : St) : Prop := ∀ a, r = .ok a → R a s

theorem onValue_ok {R : α → St → Prop} {a : α} {s : St} (h : R a s) :
    OnValue R (.ok a : Except ε α) s := by
  rintro b ⟨⟩
  exact h

theorem onValue_error {R : α → St → Prop} (e : ε) (s : St) :
    OnValue R (.error e : Except ε α) s := fun _ h => by cases h

theorem wp_onValue_mapErr {R : α → St → Prop} {f : ε → ε'} {p : Fallible I ε α} {s : St}
    (hp : p.run.wp spec (OnValue R) s) : (mapErr f p).run.wp spec (OnValue R) s := by
  refine (wp_run_mapErr _ _ _ _).2 (wp_mono (fun r s' h => ?_) hp)
  cases r with
  | ok a => exact onValue_ok (h a rfl)
  | error e => exact onValue_error _ s'

theorem wp_onValue_bind {R : α → St → Prop} {T : β → St → Prop} {p : Fallible I ε α}
    {f : α → Fallible I ε β} {s : St} (hp : p.run.wp spec (OnValue R) s)
    (hf : ∀ a s', R a s' → (f a).run.wp spec (OnValue T) s') :
    (p >>= f).run.wp spec (OnValue T) s := by
  rw [wp_run_bind]
  refine wp_mono (fun r s' h => ?_) hp
  cases r with
  | ok a => exact hf a s' (h a rfl)
  | error e => exact onValue_error e s'

/-- The rule of `?` with an intermediate condition. -/
theorem wp_run_seq {p : Fallible I ε α} {f : α → Fallible I ε β} {R : Except ε α → St → Prop}
    {Q : Except ε β → St → Prop} {s : St} (hp : p.run.wp spec R s)
    (hok : ∀ a s', R (.ok a) s' → (f a).run.wp spec Q s')
    (herr : ∀ e s', R (.error e) s' → Q (.error e) s') : (p >>= f).run.wp spec Q s := by
  rw [wp_run_bind]
  refine wp_mono (fun r s' hr => ?_) hp
  cases r with
  | ok a => exact hok a s' hr
  | error e => exact herr e s' hr

end KlassGateway.Lib.Prog
