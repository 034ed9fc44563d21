import KlassGateway.Lib.Pool
/-!
# Disciplines: invariants of a pool that speak about its tasks

An invariant of a pool often depends on where each task stands: what it has
read, which call it has made already.  A `Discipline` names these positions as
modes.  Its `spec` says which calls a task may make in a mode and which mode
follows each answer; its `inv` relates the world to the labels and modes of
all tasks.

The two halves are proved apart.  That a program follows the discipline is a
weakest precondition of that program alone.  That the invariant survives a
call is a fact about one call, whatever the program.  `holds_of_reach` puts
them together for every interleaving.  `Pool.Reach.follows_task` is the rule for
one task among others of which nothing is said.
-/

namespace KlassGateway.Lib

/-- A discipline on the calls of the tasks of `P`. -/
structure Discipline {I : Interface} (P : Pool I) (Mode : Type) where
  spec : OpSpec I Mode
  inv : P.World → (Nat → Option (P.Label × Mode)) → Prop

namespace Discipline

variable {I : Interface} {P : Pool I} {Mode : Type}

/-- The tasks as the invariant sees them: label and mode. -/
def view (s : P.State) (f : Nat → Mode) : Nat → Option (P.Label × Mode) :=
  fun i => (s.tasks i).map fun t => (t.label, f i)

theorem view_of_task {s : P.State} {f : Nat → Mode} {i : Nat} {t : Task P}
    (h : s.tasks i = some t) : view s f i = some (t.label, f i) := by
  rw [view, h]
  rfl

/-- A program follows the discipline from mode `m`. -/
def Follows (D : Discipline P Mode) (p : Prog I Unit) (m : Mode) : Prop :=
  p.wp D.spec (fun _ _ => True) m

/-- Some assignment of modes satisfies the invariant, and every task follows
the discipline from its mode. -/
def Holds (D : Discipline P Mode) (s : P.State) : Prop :=
  ∃ f : Nat → Mode, D.inv s.world (view s f) ∧
    ∀ i t, s.tasks i = some t → D.Follows t.prog (f i)

/-- The obligations under which a discipline is kept by the steps that meet
`ok`. -/
structure Kept (D : Discipline P Mode) (ok : P.State → P.Action → Prop) : Prop where
  /-- A task that is gone takes nothing away. -/
  mono : ∀ w v v', (∀ i, v' i = none ∨ v' i = v i) → D.inv w v → D.inv w v'
  /-- One call of one task. -/
  act : ∀ s f i c l o k, ok s (.act i c) → s.tasks i = some ⟨l, .op o k⟩ →
    D.inv s.world (view s f) → D.spec.pre (f i) o →
    ∃ m, D.spec.step (f i) o (P.exec s.world o c).1 m ∧
      D.inv (P.exec s.world o c).2
        (Function.update (view s f) i (some (P.relabel l o (P.exec s.world o c).1, m)))
  /-- An arrival. -/
  arrive : ∀ s f arr w spawned, ok s (.arrive arr) → P.arrive s.world arr = some (w, spawned) →
    D.inv s.world (view s f) →
    ∃ ms : Nat → Mode,
      (∀ j l p, spawned[j]? = some (l, p) → D.Follows p (ms j)) ∧
      D.inv w (fun j => if j < s.next then view s f j
        else spawned[j - s.next]?.map fun lp => (lp.1, ms (j - s.next)))

/-- The same obligations, where a call may rely on what the other tasks are
going to do. -/
structure KeptAll (D : Discipline P Mode) (ok : P.State → P.Action → Prop) : Prop where
  mono : ∀ w v v', (∀ i, v' i = none ∨ v' i = v i) → D.inv w v → D.inv w v'
  act : ∀ s f i c l o k, ok s (.act i c) → s.tasks i = some ⟨l, .op o k⟩ →
    (∀ j t, s.tasks j = some t → D.Follows t.prog (f j)) →
    D.inv s.world (view s f) → D.spec.pre (f i) o →
    ∃ m, D.spec.step (f i) o (P.exec s.world o c).1 m ∧
      D.inv (P.exec s.world o c).2
        (Function.update (view s f) i (some (P.relabel l o (P.exec s.world o c).1, m)))
  arrive : ∀ s f arr w spawned, ok s (.arrive arr) → P.arrive s.world arr = some (w, spawned) →
    D.inv s.world (view s f) →
    ∃ ms : Nat → Mode,
      (∀ j l p, spawned[j]? = some (l, p) → D.Follows p (ms j)) ∧
      D.inv w (fun j => if j < s.next then view s f j
        else spawned[j - s.next]?.map fun lp => (lp.1, ms (j - s.next)))

variable {D : Discipline P Mode} {ok : P.State → P.Action → Prop}

theorem Kept.all (hD : D.Kept ok) : D.KeptAll ok where
  mono := hD.mono
  act := fun s f i c l o k hok hti _ => hD.act s f i c l o k hok hti
  arrive := hD.arrive

private theorem holds_act (hD : D.KeptAll ok) {s : P.State} {i : Nat} {c : P.Choice} {l : P.Label}
    {o : I.Op} {k : I.Resp o → Prog I Unit} (hok : ok s (.act i c))
    (ht : s.tasks i = some ⟨l, .op o k⟩) (hs : D.Holds s) :
    D.Holds { s with
      world := (P.exec s.world o c).2
      tasks := Function.update s.tasks i
        (Pool.keep (P.relabel l o (P.exec s.world o c).1) (k (P.exec s.world o c).1)) } := by
  obtain ⟨f, hinv, hprog⟩ := hs
  have hp := hprog i _ ht
  rw [Follows, Prog.wp_op] at hp
  obtain ⟨m, hstep, hinv'⟩ := hD.act s f i c l o k hok ht hprog hinv hp.1
  refine ⟨Function.update f i m, hD.mono _ _ _ (fun j => ?_) hinv', fun j t hj => ?_⟩
  · by_cases hji : j = i
    · subst hji
      simp only [view, Function.update_self]
      cases hk : Pool.keep (P := P) (P.relabel l o (P.exec s.world o c).1)
          (k (P.exec s.world o c).1) with
      | none => exact .inl rfl
      | some t => exact .inr (by rw [Pool.keep_eq_some hk]; rfl)
    · exact .inr (by simp [view, Function.update_of_ne hji])
  · by_cases hji : j = i
    · subst hji
      simp only [Function.update_self] at hj ⊢
      rw [Pool.keep_eq_some hj]
      exact hp.2 _ _ hstep
    · simp only [Function.update_of_ne hji] at hj ⊢
      exact hprog j t hj

private theorem holds_arrive (hD : D.KeptAll ok) {s : P.State} {arr : P.Arrival} {w : P.World}
    {spawned : List (P.Label × Prog I Unit)} (hok : ok s (.arrive arr))
    (harr : P.arrive s.world arr = some (w, spawned)) (hs : D.Holds s) :
    D.Holds { world := w
              next := s.next + spawned.length
              tasks := fun j =>
                if j < s.next then s.tasks j
                else spawned[j - s.next]?.bind fun (l, p) => Pool.keep l p } := by
  obtain ⟨f, hinv, hprog⟩ := hs
  obtain ⟨ms, hms, hinv'⟩ := hD.arrive s f arr w spawned hok harr hinv
  refine ⟨fun j => if j < s.next then f j else ms (j - s.next),
    hD.mono _ _ _ (fun j => ?_) hinv', fun j t hj => ?_⟩
  · by_cases hlt : j < s.next
    · exact .inr (by simp [view, hlt])
    · simp only [view, if_neg hlt]
      cases hsp : spawned[j - s.next]? with
      | none => exact .inl rfl
      | some lp =>
        cases hk : Pool.keep (P := P) lp.1 lp.2 with
        | none => exact .inl (by simp [hk])
        | some t => exact .inr (by simp [hk, Pool.keep_eq_some hk])
  · by_cases hlt : j < s.next
    · simp only [if_pos hlt] at hj ⊢
      exact hprog j t hj
    · simp only [if_neg hlt] at hj ⊢
      obtain ⟨⟨l, p⟩, hsp, hk⟩ := Option.bind_eq_some_iff.1 hj
      rw [Pool.keep_eq_some hk]
      exact hms _ l p hsp

/-- A discipline that is kept holds in every state reached. -/
theorem KeptAll.holds_of_reach (hD : D.KeptAll ok) {s s' : P.State} (h : Pool.Reach ok s s')
    (hs : D.Holds s) : D.Holds s' := by
  refine h.invariant (fun t a t' hok ht he => ?_) hs
  obtain ⟨arr, w, spawned, rfl, harr, rfl⟩ | ⟨i, c, l, o, k, rfl, hti, rfl⟩ | ⟨i, u, rfl, _, rfl⟩ :=
    Pool.step_cases he
  · exact holds_arrive hD hok harr ht
  · exact holds_act hD hok hti ht
  · obtain ⟨f, hinv, hprog⟩ := ht
    refine ⟨f, hD.mono _ _ _ (fun j => ?_) hinv, fun j u hj => ?_⟩
    · by_cases hji : j = i
      · exact .inl (by simp [view, hji])
      · exact .inr (by simp [view, Function.update_of_ne hji])
    · by_cases hji : j = i
      · simp [hji] at hj
      · exact hprog j u (by simpa [Function.update_of_ne hji] using hj)

theorem holds_of_reach (hD : D.Kept ok) {s s' : P.State} (h : Pool.Reach ok s s')
    (hs : D.Holds s) : D.Holds s' := hD.all.holds_of_reach h hs

/-- The modes of tasks that start where their labels say. -/
def startModes {L T : Type} [Inhabited Mode] (start : L → Mode) (spawned : List (L × T)) (n : Nat) :
    Mode := (spawned[n]?.map fun lp => start lp.1).getD default

theorem startModes_of_getElem {L T : Type} [Inhabited Mode] (start : L → Mode)
    {spawned : List (L × T)} {n : Nat} {l : L} {p : T} (h : spawned[n]? = some (l, p)) :
    startModes start spawned n = start l := by
  unfold startModes
  rw [h]
  rfl

/-- Before any arrival a discipline holds as soon as its invariant does. -/
theorem holds_start [Nonempty Mode] {w : P.World} (h : D.inv w fun _ => none) :
    D.Holds (P.start w) :=
  ⟨fun _ => Classical.arbitrary Mode, h, fun _ _ ht => by cases ht⟩

end Discipline

/-- Where labels say all that a specification asks for, every task follows it
from its label. -/
theorem Pool.Reach.follows {I : Interface} {P : Pool I} {spec : OpSpec I P.Label}
    (hstep : ∀ l o r, spec.step l o r (P.relabel l o r))
    (hspawn : ∀ w arr w' spawned, P.arrive w arr = some (w', spawned) →
      ∀ l p, (l, p) ∈ spawned → p.wp spec (fun _ _ => True) l)
    {ok : P.State → P.Action → Prop} {w : P.World} {s : P.State}
    (h : Pool.Reach ok (P.start w) s) {i : Nat} {t : Task P} (ht : s.tasks i = some t) :
    t.prog.wp spec (fun _ _ => True) t.label := by
  have hall : Pool.AllTasks (Task.Follows spec) s := by
    refine h.invariant (fun s _ _ _ hs he => hs.step ?_ ?_ he) fun _ _ hu => by cases hu
    · intro arr w spawned harr l p hmem t hkeep
      rw [Pool.keep_eq_some hkeep]
      exact hspawn s.world arr w spawned harr l p hmem
    · intro c l o k hcall t hkeep
      rw [Pool.keep_eq_some hkeep]
      exact hcall.2 _ _ (hstep l o _)
  exact hall i t ht

section Task

variable {I : Interface} {P : Pool I} {Mode : Type} {spec : OpSpec I Mode}
  {R : P.World → Mode → Prop}

/-- Task `i` has arrived, and follows its specification from a mode of which `R` holds. -/
def Pool.FollowsTask (spec : OpSpec I Mode) (R : P.World → Mode → Prop) (i : Nat) (s : P.State) :
    Prop :=
  i < s.next ∧
    ∀ t, s.tasks i = some t → ∃ m, R s.world m ∧ t.prog.wp spec (fun _ _ => True) m

variable (hcall : ∀ w o c m, R w m → R (P.exec w o c).2 m)
  (harrive : ∀ w arr w' spawned m, P.arrive w arr = some (w', spawned) → R w m → R w' m)
  (hown : ∀ w o c m, R w m → spec.pre m o →
    ∃ m', spec.step m o (P.exec w o c).1 m' ∧ R (P.exec w o c).2 m')
include hcall harrive hown

theorem Pool.FollowsTask.step {i : Nat} {s s' : P.State} {a : P.Action}
    (h : Pool.FollowsTask spec R i s) (he : Pool.step s a = some s') :
    Pool.FollowsTask spec R i s' := by
  obtain ⟨hlt, hs⟩ := h
  obtain ⟨arr, w, spawned, rfl, harr, rfl⟩ | ⟨j, c, l, o, k, rfl, htj, rfl⟩ | ⟨j, u, rfl, _, rfl⟩ :=
    Pool.step_cases he
  · refine ⟨by dsimp only; omega, fun t ht => ?_⟩
    obtain ⟨m, hm, hwp⟩ := hs t (by simpa only [if_pos hlt] using ht)
    exact ⟨m, harrive _ _ _ _ m harr hm, hwp⟩
  · refine ⟨hlt, fun t ht => ?_⟩
    by_cases hij : i = j
    · subst hij
      simp only [Function.update_self] at ht
      obtain ⟨m, hm, hpre, hrest⟩ := hs _ htj
      obtain ⟨m', hstep, hm'⟩ := hown _ o c m hm hpre
      rw [Pool.keep_eq_some ht]
      exact ⟨m', hm', hrest _ _ hstep⟩
    · simp only [Function.update_of_ne hij] at ht
      obtain ⟨m, hm, hwp⟩ := hs t ht
      exact ⟨m, hcall _ _ _ m hm, hwp⟩
  · refine ⟨hlt, fun t ht => ?_⟩
    by_cases hij : i = j
    · simp [hij] at ht
    · exact hs t (by simpa only [Function.update_of_ne hij] using ht)

/-- One task follows its specification, whatever the others do, if no call and no arrival breaks
what it relies on. -/
theorem Pool.Reach.follows_task {ok : P.State → P.Action → Prop} {s s' : P.State}
    (h : Pool.Reach ok s s') {i : Nat} (hi : i < s.next)
    (hs : ∀ t, s.tasks i = some t → ∃ m, R s.world m ∧ t.prog.wp spec (fun _ _ => True) m) :
    ∀ t, s'.tasks i = some t → ∃ m, R s'.world m ∧ t.prog.wp spec (fun _ _ => True) m := by
  have hend : Pool.FollowsTask spec R i s' :=
    h.invariant (fun _ _ _ _ hbefore he => hbefore.step hcall harrive hown he) ⟨hi, hs⟩
  exact hend.2

end Task

end KlassGateway.Lib
