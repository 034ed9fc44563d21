import KlassGateway.Lib.Machine
import Mathlib.Logic.Relation
import Mathlib.Logic.Function.Basic
/-!
# Pools: programs that run beside each other

A `Pool` is a machine together with what may start: an arrival changes the
world and spawns tasks, each a program with a label.  One step of the pool is
an arrival, one call of one task, or the loss of a task (a crash between two
calls).  Nothing else is atomic, so a run of the pool is an arbitrary
interleaving of the calls of all its tasks.

* `Pool.step` is executable, and `Pool.play` runs a concrete history, which is
  a list of actions.
* `Pool.Reach` is reachability by steps that meet a condition, and
  `Reach.invariant` is its induction rule; `Reach.exists_act` extends a run by
  a call.
* `step_cases` says once what a step can do, and `step_labels` says it of the
  labels alone.
* `AllTasks.step`: what a step has to keep so that something holds of every task.
* `Run` is a run with all its states, for results about several moments of one
  run.
-/

namespace KlassGateway.Lib

/-- A machine with its arrivals.  `relabel` keeps a task's label up to date
with the calls the task has made. -/
structure Pool (I : Interface) extends Machine I where
  Label : Type
  Arrival : Type
  relabel : Label → (o : I.Op) → I.Resp o → Label
  arrive : World → Arrival → Option (World × List (Label × Prog I Unit))

/-- A program in progress. -/
structure Task {I : Interface} (P : Pool I) where
  label : P.Label
  prog : Prog I Unit

/-- The task has a call left. -/
def Task.HasCall {I : Interface} {P : Pool I} (t : Task P) : Prop := ∃ o k, t.prog = .op o k

/-- The task follows a specification from its label. -/
def Task.Follows {I : Interface} {P : Pool I} (spec : OpSpec I P.Label) (t : Task P) : Prop :=
  t.prog.wp spec (fun _ _ => True) t.label

namespace Pool

variable {I : Interface} (P : Pool I)

/-- A state of the pool.  Tasks are numbered in the order they were spawned;
a task that has finished or crashed is gone. -/
structure State where
  world : P.World
  next : Nat
  tasks : Nat → Option (Task P)

/-- The state before any arrival. -/
def start (w : P.World) : P.State := ⟨w, 0, fun _ => none⟩

/-- What may happen next. -/
inductive Action where
  | arrive (a : P.Arrival)
  | act (i : Nat) (c : P.Choice)
  | crash (i : Nat)

variable {P}

/-- A task that has a call left stays in the pool. -/
def keep (l : P.Label) : Prog I Unit → Option (Task P)
  | .op o k => some ⟨l, .op o k⟩
  | _ => none

/-- One step, or `none` where the action is not possible. -/
def step (s : P.State) : P.Action → Option P.State
  | .arrive a =>
    (P.arrive s.world a).map fun (w, spawned) =>
      { world := w
        next := s.next + spawned.length
        tasks := fun j =>
          if j < s.next then s.tasks j
          else spawned[j - s.next]?.bind fun (l, p) => keep l p }
  | .act i c =>
    match s.tasks i with
    | some ⟨l, .op o k⟩ =>
      let answer := P.exec s.world o c
      some { s with
        world := answer.2
        tasks := Function.update s.tasks i (keep (P.relabel l o answer.1) (k answer.1)) }
    | _ => none
  | .crash i => (s.tasks i).map fun _ => { s with tasks := Function.update s.tasks i none }

/-- The call that an action makes, with the label of its task. -/
def called (s : P.State) : P.Action → Option (P.Label × I.Op)
  | .act i _ =>
    match s.tasks i with
    | some ⟨l, .op o _⟩ => some (l, o)
    | _ => none
  | _ => none

theorem called_act {s : P.State} {i : Nat} {c : P.Choice} {l : P.Label} {o : I.Op}
    {k : I.Resp o → Prog I Unit} (h : s.tasks i = some ⟨l, .op o k⟩) :
    called s (.act i c) = some (l, o) := by
  simp only [called, h]

/-- The call that an action makes is that of a task. -/
theorem act_of_called {s : P.State} {a : P.Action} {l : P.Label} {o : I.Op}
    (h : called s a = some (l, o)) : ∃ i c k, a = .act i c ∧ s.tasks i = some ⟨l, .op o k⟩ := by
  cases a with
  | act i c =>
    simp only [called] at h
    split at h
    · next l' o' k hti =>
      cases h
      exact ⟨i, c, k, rfl, hti⟩
    · cases h
  | arrive arr => cases h
  | crash i => cases h
/-- Run a list of actions that all meet `ok`. -/
def play (ok : P.State → P.Action → Prop) [∀ s a, Decidable (ok s a)] (s : P.State) :
    List P.Action → Option P.State
  | [] => some s
  | a :: as => if ok s a then (step s a).bind fun s' => play ok s' as else none

/-- Reachability by steps that meet `ok`. -/
def Reach (ok : P.State → P.Action → Prop) : P.State → P.State → Prop :=
  Relation.ReflTransGen fun s s' => ∃ a, ok s a ∧ step s a = some s'

theorem Reach.refl {ok : P.State → P.Action → Prop} (s : P.State) : Reach ok s s :=
  Relation.ReflTransGen.refl

theorem Reach.trans {ok : P.State → P.Action → Prop} {s₁ s₂ s₃ : P.State}
    (h : Reach ok s₁ s₂) (h' : Reach ok s₂ s₃) : Reach ok s₁ s₃ :=
  Relation.ReflTransGen.trans h h'

theorem Reach.mono {ok ok' : P.State → P.Action → Prop} (himp : ∀ s a, ok s a → ok' s a)
    {s s' : P.State} (h : Reach ok s s') : Reach ok' s s' :=
  Relation.ReflTransGen.mono (fun _ _ hstep => hstep.imp fun a ha => ⟨himp _ a ha.1, ha.2⟩) _ _ h

/-- What holds at the start and is kept by every step holds in every state
reached. -/
theorem Reach.invariant {ok : P.State → P.Action → Prop} {Inv : P.State → Prop}
    (hstep : ∀ s a s', ok s a → Inv s → step s a = some s' → Inv s') {s s' : P.State}
    (h : Reach ok s s') (hs : Inv s) : Inv s' := by
  induction h with
  | refl => exact hs
  | tail _ hlast ih =>
    obtain ⟨a, hok, he⟩ := hlast
    exact hstep _ a _ hok ih he

/-- A run goes to its end without a step of a kind, or up to the first one. -/
theorem Reach.until {ok : P.State → P.Action → Prop} {s s' : P.State} (h : Reach ok s s')
    (event : P.State → P.Action → Prop) :
    Reach (fun t a => ok t a ∧ ¬ event t a) s s' ∨
    ∃ t a t', Reach (fun t a => ok t a ∧ ¬ event t a) s t ∧ event t a ∧ step t a = some t' ∧
      Reach ok t' s' := by
  induction h with
  | refl => exact .inl (.refl _)
  | @tail u _ _ hlast ih =>
    obtain ⟨a, hok, he⟩ := hlast
    obtain hbefore | ⟨t, b, t', hbefore, hevent, hstep, hafter⟩ := ih
    · by_cases hevent : event u a
      · exact .inr ⟨_, a, _, hbefore, hevent, he, .refl _⟩
      · exact .inl (hbefore.tail ⟨a, ⟨hok, hevent⟩, he⟩)
    · exact .inr ⟨t, b, t', hbefore, hevent, hstep, hafter.tail ⟨a, hok, he⟩⟩

/-- What holds in every state on the way may be assumed of the steps. -/
theorem Reach.with_invariant {ok : P.State → P.Action → Prop} {Inv : P.State → Prop}
    {s s' : P.State} (h : Reach ok s s') (hinv : ∀ t, Reach ok s t → Inv t) :
    Reach (fun t a => ok t a ∧ Inv t) s s' := by
  induction h with
  | refl => exact .refl _
  | tail hbefore hlast ih =>
    obtain ⟨a, hok, he⟩ := hlast
    exact ih.tail ⟨a, ⟨hok, hinv _ hbefore⟩, he⟩

/-- The first step of a history that plays. -/
theorem play_cons {ok : P.State → P.Action → Prop} [∀ s a, Decidable (ok s a)] {s s' : P.State}
    {a : P.Action} {as : List P.Action} (h : play ok s (a :: as) = some s') :
    ∃ t, ok s a ∧ step s a = some t ∧ play ok t as = some s' := by
  rw [play] at h
  split at h
  · next hok =>
    obtain ⟨t, ht, h'⟩ := Option.bind_eq_some_iff.1 h
    exact ⟨t, hok, ht, h'⟩
  · cases h

/-- A history goes on where its first part ends. -/
theorem play_append {ok : P.State → P.Action → Prop} [∀ s a, Decidable (ok s a)] {s : P.State}
    {as bs : List P.Action} : play ok s (as ++ bs) = (play ok s as).bind fun t => play ok t bs := by
  induction as generalizing s with
  | nil => rfl
  | cons a as ih =>
    simp only [List.cons_append, play]
    split
    · cases step s a with
      | none => rfl
      | some t => exact ih
    · rfl

/-- A history that plays is a run. -/
theorem Reach.of_play {ok : P.State → P.Action → Prop} [∀ s a, Decidable (ok s a)]
    {s s' : P.State} {as : List P.Action} (h : play ok s as = some s') : Reach ok s s' := by
  induction as generalizing s with
  | nil =>
    cases h
    exact .refl _
  | cons a as ih =>
    obtain ⟨t, hok, ht, h'⟩ := play_cons h
    exact Relation.ReflTransGen.head ⟨a, hok, ht⟩ (ih h')

/-- A state that a concrete history reaches, seen through `f`. -/
theorem exists_of_play {ok : P.State → P.Action → Prop} [∀ s a, Decidable (ok s a)] {R : Type}
    {f : P.State → R} {s : P.State} {as : List P.Action} {x : R}
    (h : (play ok s as).map f = some x) : ∃ t, Reach ok s t ∧ f t = x := by
  obtain ⟨t, ht, hx⟩ := Option.map_eq_some_iff.1 h
  exact ⟨t, .of_play ht, hx⟩

/-- Two states of one concrete history. -/
theorem exists_of_plays {ok ok' : P.State → P.Action → Prop} [∀ s a, Decidable (ok s a)]
    [∀ s a, Decidable (ok' s a)] {R : Type} {f : P.State → P.State → R} {s : P.State}
    {as bs : List P.Action} {x : R}
    (h : ((play ok s as).bind fun t => (play ok' t bs).map (f t)) = some x) :
    ∃ t t', Reach ok s t ∧ Reach ok' t t' ∧ f t t' = x := by
  obtain ⟨t, ht, h⟩ := Option.bind_eq_some_iff.1 h
  obtain ⟨t', ht', hx⟩ := exists_of_play h
  exact ⟨t, t', .of_play ht, ht', hx⟩

/-- A call of one task, from a state reached. -/
theorem Reach.exists_act {ok : P.State → P.Action → Prop} {s₀ s : P.State} (h : Reach ok s₀ s)
    {i : Nat} {l : P.Label} {o : I.Op} {k : I.Resp o → Prog I Unit}
    (ht : s.tasks i = keep l (.op o k)) (c : P.Choice) (hok : ok s (.act i c)) :
    ∃ s', Reach ok s₀ s' ∧ s'.world = (P.exec s.world o c).2 ∧
      s'.tasks i = keep (P.relabel l o (P.exec s.world o c).1) (k (P.exec s.world o c).1) ∧
      ∀ j, j ≠ i → s'.tasks j = s.tasks j := by
  refine ⟨{ s with
    world := (P.exec s.world o c).2
    tasks := Function.update s.tasks i
      (keep (P.relabel l o (P.exec s.world o c).1) (k (P.exec s.world o c).1)) }, ?_, rfl,
    Function.update_self .., fun j hj => Function.update_of_ne hj _ _⟩
  refine h.tail ⟨.act i c, hok, ?_⟩
  unfold step
  dsimp only
  rw [ht]
  rfl

/-! ## What a step can do -/

theorem keep_eq_some {l : P.Label} {p : Prog I Unit} {t : Task P} (h : keep l p = some t) :
    t = ⟨l, p⟩ := by
  cases p with
  | op o k => exact (Option.some.inj h).symm
  | ret a => cases h
  | abort => cases h

/-- A step is an arrival, one call of one task, or a crash. -/
theorem step_cases {s s' : P.State} {a : P.Action} (h : step s a = some s') :
    (∃ arr w spawned, a = .arrive arr ∧ P.arrive s.world arr = some (w, spawned) ∧
      s' = { world := w
             next := s.next + spawned.length
             tasks := fun j =>
               if j < s.next then s.tasks j
               else spawned[j - s.next]?.bind fun (l, p) => keep l p }) ∨
    (∃ i c l o k, a = .act i c ∧ s.tasks i = some ⟨l, .op o k⟩ ∧
      s' = { s with
        world := (P.exec s.world o c).2
        tasks := Function.update s.tasks i
          (keep (P.relabel l o (P.exec s.world o c).1) (k (P.exec s.world o c).1)) }) ∨
    (∃ i t, a = .crash i ∧ s.tasks i = some t ∧
      s' = { s with tasks := Function.update s.tasks i none }) := by
  cases a with
  | arrive arr =>
    obtain ⟨⟨w, spawned⟩, harr, rfl⟩ := Option.map_eq_some_iff.1 h
    exact .inl ⟨arr, w, spawned, rfl, harr, rfl⟩
  | act i c =>
    rw [step] at h
    split at h
    · next l o k ht => exact .inr (.inl ⟨i, c, l, o, k, rfl, ht, (Option.some.inj h).symm⟩)
    · cases h
  | crash i =>
    obtain ⟨t, ht, rfl⟩ := Option.map_eq_some_iff.1 h
    exact .inr (.inr ⟨i, t, rfl, ht, rfl⟩)

/-- The label of a task. -/
def labelAt (s : P.State) (i : Nat) : Option P.Label := (s.tasks i).map Task.label

theorem labelAt_keep {l : P.Label} {p : Prog I Unit} {l' : P.Label}
    (h : (keep (P := P) l p).map Task.label = some l') : l' = l := by
  obtain ⟨t, ht, rfl⟩ := Option.map_eq_some_iff.1 h
  rw [keep_eq_some ht]

/-- What a step does to the world and to the labels: an arrival adds labels, a
call renews the label of its task, and a crash takes one away. -/
theorem step_labels {s s' : P.State} {a : P.Action} (h : step s a = some s') :
    (∃ arr spawned, a = .arrive arr ∧ P.arrive s.world arr = some (s'.world, spawned) ∧
      ∀ i l, labelAt s' i = some l → labelAt s i = some l ∨ s.next ≤ i ∧ ∃ p, (l, p) ∈ spawned) ∨
    (∃ i c l o k, a = .act i c ∧ s.tasks i = some ⟨l, .op o k⟩ ∧
      s'.world = (P.exec s.world o c).2 ∧
      (∀ l', labelAt s' i = some l' → l' = P.relabel l o (P.exec s.world o c).1) ∧
      ∀ j, j ≠ i → labelAt s' j = labelAt s j) ∨
    (∃ i, a = .crash i ∧ s'.world = s.world ∧
      ∀ j l, labelAt s' j = some l → labelAt s j = some l) := by
  obtain ⟨arr, w, spawned, rfl, harr, rfl⟩ | ⟨i, c, l, o, k, rfl, hti, rfl⟩ | ⟨i, u, rfl, _, rfl⟩ :=
    step_cases h
  · refine .inl ⟨arr, spawned, rfl, harr, fun i l hi => ?_⟩
    by_cases hlt : i < s.next
    · exact .inl (by simpa [labelAt, hlt] using hi)
    · refine .inr ⟨Nat.le_of_not_lt hlt, ?_⟩
      simp only [labelAt, if_neg hlt] at hi
      obtain ⟨t, ht, rfl⟩ := Option.map_eq_some_iff.1 hi
      obtain ⟨⟨l, p⟩, hsp, hk⟩ := Option.bind_eq_some_iff.1 ht
      rw [keep_eq_some hk]
      exact ⟨p, List.mem_of_getElem? hsp⟩
  · refine .inr (.inl ⟨i, c, l, o, k, rfl, hti, rfl, fun l' hi => ?_, fun j hj => ?_⟩)
    · simp only [labelAt, Function.update_self] at hi
      exact labelAt_keep hi
    · simp only [labelAt, Function.update_of_ne hj]
  · refine .inr (.inr ⟨i, rfl, rfl, fun j l hj => ?_⟩)
    by_cases hji : j = i
    · simp [labelAt, hji] at hj
    · simpa [labelAt, Function.update_of_ne hji] using hj

/-- Numbers are not used again. -/
theorem next_le_of_step {s s' : P.State} {a : P.Action} (h : step s a = some s') :
    s.next ≤ s'.next := by
  obtain ⟨_, _, spawned, _, _, rfl⟩ | ⟨_, _, _, _, _, _, _, rfl⟩ | ⟨_, _, _, _, rfl⟩ := step_cases h
  · exact Nat.le_add_right _ _
  · exact Nat.le_refl _
  · exact Nat.le_refl _

theorem Reach.next_le {ok : P.State → P.Action → Prop} {s s' : P.State} (h : Reach ok s s') :
    s.next ≤ s'.next := by
  induction h with
  | refl => exact Nat.le_refl _
  | tail _ hlast ih =>
    obtain ⟨a, _, he⟩ := hlast
    exact Nat.le_trans ih (next_le_of_step he)

/-- The numbers from `next` on are free. -/
def NumberedBelow (s : P.State) : Prop := ∀ i, s.next ≤ i → s.tasks i = none

theorem NumberedBelow.step {s s' : P.State} {a : P.Action} (hs : NumberedBelow s)
    (h : Pool.step s a = some s') : NumberedBelow s' := by
  obtain ⟨arr, w, spawned, rfl, _, rfl⟩ | ⟨i, c, l, o, k, rfl, hti, rfl⟩ | ⟨i, u, rfl, _, rfl⟩ :=
    step_cases h
  · intro j hj
    dsimp only at hj ⊢
    rw [if_neg (by omega), List.getElem?_eq_none (by omega)]
    rfl
  · intro j hj
    have hji : j ≠ i := by
      rintro rfl
      rw [hs j hj] at hti
      cases hti
    exact (Function.update_of_ne hji _ _).trans (hs j hj)
  · intro j hj
    by_cases hji : j = i
    · exact hji ▸ Function.update_self ..
    · exact (Function.update_of_ne hji _ _).trans (hs j hj)

/-- Tasks are numbered below `next`. -/
theorem tasks_of_le {ok : P.State → P.Action → Prop} {w : P.World} {s : P.State}
    (h : Reach ok (P.start w) s) : NumberedBelow s :=
  h.invariant (fun _ _ _ _ hs he => hs.step he) fun _ _ => rfl

/-- Every task is so. -/
def AllTasks (q : Task P → Prop) (s : P.State) : Prop := ∀ i t, s.tasks i = some t → q t

/-- What holds of all tasks holds of them after a step, if it holds of those that have arrived and
of the one that has made a call. -/
theorem AllTasks.step {q : Task P → Prop} {s s' : P.State} {a : P.Action} (hs : AllTasks q s)
    (hspawn : ∀ arr w spawned, P.arrive s.world arr = some (w, spawned) →
      ∀ l p, (l, p) ∈ spawned → ∀ t, keep l p = some t → q t)
    (hcall : ∀ c l o k, q ⟨l, .op o k⟩ → ∀ t,
      keep (P.relabel l o (P.exec s.world o c).1) (k (P.exec s.world o c).1) = some t → q t)
    (h : Pool.step s a = some s') : AllTasks q s' := by
  obtain ⟨arr, w, spawned, rfl, harr, rfl⟩ | ⟨i, c, l, o, k, rfl, hti, rfl⟩ | ⟨i, u, rfl, _, rfl⟩ :=
    step_cases h
  · intro j t hj
    by_cases hlt : j < s.next
    · exact hs j t (by simpa [hlt] using hj)
    · simp only [if_neg hlt] at hj
      obtain ⟨⟨l, p⟩, hsp, hk⟩ := Option.bind_eq_some_iff.1 hj
      exact hspawn arr w spawned harr l p (List.mem_of_getElem? hsp) t hk
  · intro j t hj
    by_cases hji : j = i
    · subst hji
      simp only [Function.update_self] at hj
      exact hcall c l o k (hs j _ hti) t hj
    · simp only [Function.update_of_ne hji] at hj
      exact hs j t hj
  · intro j t hj
    by_cases hji : j = i
    · simp [hji] at hj
    · exact hs j t (by simpa [Function.update_of_ne hji] using hj)

theorem hasCall_of_keep {l : P.Label} {p : Prog I Unit} {t : Task P} (h : keep l p = some t) :
    t.HasCall := by
  rw [keep_eq_some h]
  cases p with
  | op o k => exact ⟨o, k, rfl⟩
  | ret a => cases h
  | abort => cases h

/-- A task of a state reached has a call left. -/
theorem prog_eq_op {ok : P.State → P.Action → Prop} {w : P.World} {s : P.State}
    (h : Reach ok (P.start w) s) : AllTasks Task.HasCall s := by
  refine h.invariant (fun _ _ _ _ hs he => hs.step ?_ ?_ he) fun _ _ hu => by cases hu
  · exact fun _ _ _ _ _ _ _ _ => hasCall_of_keep
  · exact fun _ _ _ _ _ _ => hasCall_of_keep

/-- A property of the world that every arrival and every call keeps. -/
theorem Reach.world_invariant {ok : P.State → P.Action → Prop} {Inv : P.World → Prop}
    (harrive : ∀ s arr w spawned, ok s (.arrive arr) → P.arrive s.world arr = some (w, spawned) →
      Inv s.world → Inv w)
    (hact : ∀ s i c l o k, ok s (.act i c) → s.tasks i = some ⟨l, .op o k⟩ →
      Inv s.world → Inv (P.exec s.world o c).2)
    {s s' : P.State} (h : Reach ok s s') (hs : Inv s.world) : Inv s'.world := by
  refine h.invariant (fun t a t' hok (ht : Inv t.world) he => (?_ : Inv t'.world)) hs
  obtain ⟨arr, w, spawned, rfl, harr, rfl⟩ | ⟨i, c, l, o, k, rfl, hti, rfl⟩ | ⟨i, _, rfl, _, rfl⟩ :=
    step_cases he
  · exact harrive t arr w spawned hok harr ht
  · exact hact t i c l o k hok hti ht
  · exact ht

/-! ## Runs with all their states -/

/-- A finite run from `s`: state `n` for each `n` up to `length`. -/
structure Run (ok : P.State → P.Action → Prop) (s : P.State) where
  state : Nat → P.State
  length : Nat
  first : state 0 = s
  steps : ∀ n, n < length → ∃ a, ok (state n) a ∧ step (state n) a = some (state (n + 1))

namespace Run

variable {ok : P.State → P.Action → Prop} {s : P.State} (run : Run ok s)

theorem reach {m n : Nat} (hmn : m ≤ n) (hn : n ≤ run.length) :
    Reach ok (run.state m) (run.state n) := by
  induction hmn with
  | refl => exact .refl _
  | step _ ih =>
    obtain ⟨a, hok, he⟩ := run.steps _ hn
    exact (ih (Nat.le_of_lt hn)).tail ⟨a, hok, he⟩

theorem reach_first {n : Nat} (hn : n ≤ run.length) : Reach ok s (run.state n) := by
  have h := run.reach (Nat.zero_le n) hn
  rw [run.first] at h
  exact h

/-- What holds at a moment, and did not hold at the start, has begun to hold at
some step before. -/
theorem exists_begin {p : P.State → Prop} (hs : ¬ p s) {n : Nat} (hp : p (run.state n)) :
    ∃ m, m < n ∧ ¬ p (run.state m) ∧ p (run.state (m + 1)) := by
  induction n with
  | zero =>
    rw [run.first] at hp
    exact absurd hp hs
  | succ n ih =>
    by_cases hn : p (run.state n)
    · obtain ⟨m, hm, h⟩ := ih hn
      exact ⟨m, Nat.lt_succ_of_lt hm, h⟩
    · exact ⟨n, Nat.lt_succ_self n, hn, hp⟩

end Run

/-- Every state reached is the last of a run. -/
theorem Reach.exists_run {ok : P.State → P.Action → Prop} {s s' : P.State} (h : Reach ok s s') :
    ∃ run : Run ok s, run.state run.length = s' := by
  induction h with
  | refl => exact ⟨⟨fun _ => s, 0, rfl, fun n hn => absurd hn (Nat.not_lt_zero n)⟩, rfl⟩
  | @tail t t' _ hlast ih =>
    obtain ⟨run, rfl⟩ := ih
    let state : Nat → P.State := fun n => if n ≤ run.length then run.state n else t'
    have hstate {n : Nat} (hn : n ≤ run.length) : state n = run.state n := if_pos hn
    have hend : state (run.length + 1) = t' := if_neg (Nat.not_succ_le_self _)
    refine ⟨⟨state, run.length + 1, (hstate (Nat.zero_le _)).trans run.first, fun n hn => ?_⟩, hend⟩
    obtain hlt | rfl := Nat.lt_or_eq_of_le (Nat.le_of_lt_succ hn)
    · rw [hstate (Nat.le_of_lt hlt), hstate hlt]
      exact run.steps n hlt
    · rw [hstate (Nat.le_refl _), hend]
      exact hlast

end Pool

end KlassGateway.Lib
