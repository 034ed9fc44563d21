import KlassGateway.Lib.Typestate
/-!
# Names that are bound once

Tasks draw fresh names, and bind each to an owner: they write it down somewhere, or hand it to
somebody.  A task may also bind a name again that it has learned with its owner.  Then a name has
one owner, wherever it is written.

* `Naming` says what the calls of a pool do to names, and `Naming.Lawful` what is asked of it.
* `Naming.spec` is the discipline of a task: it binds a name that it has drawn last, or one that it
  knows, to its owner.
* `Naming.owner_unique` is the result.  Its invariant is a map from names to owners that only
  grows.
-/

namespace KlassGateway.Lib

/-- What the calls of a pool do to names. -/
structure Naming {I : Interface} (P : Pool I) (Owner Name : Type) where
  /-- The name is written down with this owner. -/
  bound : P.World → Owner → Name → Prop
  /-- The name is not fresh. -/
  drawn : P.World → Name → Prop
  /-- The calls that may be made. -/
  allowed : I.Op → Prop
  draws : (o : I.Op) → I.Resp o → Option Name
  binds : I.Op → Option (Owner × Name)
  learns : (o : I.Op) → I.Resp o → List (Owner × Name)

/-- What a task knows about names: some with their owners, and the last one it has drawn. -/
structure Names (Owner Name : Type) where
  known : List (Owner × Name) := []
  spare : Option Name := none

namespace Naming

variable {I : Interface} {P : Pool I} {Owner Name : Type} [DecidableEq Name]
  (N : Naming P Owner Name)

/-- The laws of names. -/
structure Lawful : Prop where
  bound_exec : ∀ w o c g j, N.allowed o → N.bound (P.exec w o c).2 g j →
    N.bound w g j ∨ N.binds o = some (g, j)
  drawn_exec : ∀ w o c j, N.drawn w j → N.drawn (P.exec w o c).2 j
  fresh : ∀ w o c j, N.draws o (P.exec w o c).1 = some j →
    ¬ N.drawn w j ∧ N.drawn (P.exec w o c).2 j
  learned : ∀ w o c g j, (g, j) ∈ N.learns o (P.exec w o c).1 → N.bound w g j
  bound_arrive : ∀ w arr w' spawned g j, P.arrive w arr = some (w', spawned) →
    N.bound w' g j → N.bound w g j
  drawn_arrive : ∀ w arr w' spawned j, P.arrive w arr = some (w', spawned) →
    N.drawn w j → N.drawn w' j

/-- What a task knows after it has bound what the call binds. -/
def afterBind (m : Names Owner Name) (o : I.Op) : Names Owner Name :=
  match N.binds o with
  | some (g, j) => if m.spare = some j then { known := (g, j) :: m.known, spare := none } else m
  | none => m

/-- What a task knows after a call. -/
def after (m : Names Owner Name) (o : I.Op) (r : I.Resp o) : Names Owner Name where
  known := N.learns o r ++ (N.afterBind m o).known
  spare := (N.draws o r).or (N.afterBind m o).spare

/-- A task binds names that it knows, or the last that it has drawn. -/
def spec : OpSpec I (Names Owner Name) where
  pre m o := N.allowed o ∧ ∀ g j, N.binds o = some (g, j) → (g, j) ∈ m.known ∨ m.spare = some j
  step m o r m' := m' = N.after m o r

/-! ## The owners -/

/-- The owners of the names, for the world and all tasks. -/
structure Owned (owner : Name → Option Owner) (w : P.World)
    (v : Nat → Option (P.Label × Names Owner Name)) : Prop where
  bound : ∀ g j, N.bound w g j → owner j = some g
  drawn : ∀ g j, owner j = some g → N.drawn w j
  known : ∀ i l m g j, v i = some (l, m) → (g, j) ∈ m.known → owner j = some g
  spare : ∀ i l m j, v i = some (l, m) → m.spare = some j → owner j = none ∧ N.drawn w j
  exclusive : ∀ i i' l l' m m' j, v i = some (l, m) → v i' = some (l', m') →
    m.spare = some j → m'.spare = some j → i = i'

/-- The discipline of names. -/
def discipline : Discipline P (Names Owner Name) where
  spec := N.spec
  inv w v := ∃ owner, N.Owned owner w v

variable {N} {owner : Name → Option Owner} {w w' : P.World}
  {v v' : Nat → Option (P.Label × Names Owner Name)}

omit [DecidableEq Name] in
theorem Owned.mono (h : N.Owned owner w v) (hv : ∀ i, v' i = none ∨ v' i = v i) :
    N.Owned owner w v' := by
  have hold {i : Nat} {x : P.Label × Names Owner Name} (hi : v' i = some x) : v i = some x := by
    rcases hv i with hnone | hsame
    · rw [hnone] at hi
      cases hi
    · rwa [← hsame]
  exact ⟨h.bound, h.drawn, fun i l m g j hi => h.known i l m g j (hold hi),
    fun i l m j hi => h.spare i l m j (hold hi),
    fun i i' l l' m m' j hi hi' => h.exclusive i i' l l' m m' j (hold hi) (hold hi')⟩

omit [DecidableEq Name] in
/-- A task may know more, if it is true and what it has drawn is its own. -/
theorem Owned.update (h : N.Owned owner w v) {i : Nat} {l : P.Label} {m : Names Owner Name}
    (hknown : ∀ g j, (g, j) ∈ m.known → owner j = some g)
    (hspare : ∀ j, m.spare = some j → owner j = none ∧ N.drawn w j)
    (hexclusive : ∀ i' l' m' j, i' ≠ i → v i' = some (l', m') → m.spare = some j →
      m'.spare ≠ some j) : N.Owned owner w (Function.update v i (some (l, m))) := by
  have hview : ∀ {i' : Nat} {l' : P.Label} {m' : Names Owner Name},
      Function.update v i (some (l, m)) i' = some (l', m') →
      (i' = i ∧ m' = m) ∨ (i' ≠ i ∧ v i' = some (l', m')) := by
    intro i' l' m' hi'
    by_cases hii : i' = i
    · subst hii
      rw [Function.update_self] at hi'
      exact Or.inl ⟨rfl, (Prod.mk.inj (Option.some.inj hi')).2.symm⟩
    · rw [Function.update_of_ne hii] at hi'
      exact Or.inr ⟨hii, hi'⟩
  refine ⟨h.bound, h.drawn, fun i' l' m' g j hi' hin => ?_, fun i' l' m' j hi' hj => ?_,
    fun i₁ i₂ l₁ l₂ m₁ m₂ j h₁ h₂ hj₁ hj₂ => ?_⟩
  · obtain ⟨-, rfl⟩ | ⟨-, hold⟩ := hview hi'
    · exact hknown g j hin
    · exact h.known i' l' m' g j hold hin
  · obtain ⟨-, rfl⟩ | ⟨-, hold⟩ := hview hi'
    · exact hspare j hj
    · exact h.spare i' l' m' j hold hj
  · obtain ⟨rfl, rfl⟩ | ⟨hne₁, hold₁⟩ := hview h₁
    · obtain ⟨rfl, -⟩ | ⟨hne₂, hold₂⟩ := hview h₂
      · rfl
      · exact absurd hj₂ (hexclusive i₂ l₂ m₂ j hne₂ hold₂ hj₁)
    · obtain ⟨rfl, rfl⟩ | ⟨-, hold₂⟩ := hview h₂
      · exact absurd hj₁ (hexclusive i₁ l₁ m₁ j hne₁ hold₁ hj₂)
      · exact h.exclusive i₁ i₂ l₁ l₂ m₁ m₂ j hold₁ hold₂ hj₁ hj₂

/-- A task binds the name that it has drawn. -/
theorem Owned.bind (h : N.Owned owner w v) {i : Nat} {l : P.Label} {m : Names Owner Name}
    (hi : v i = some (l, m)) {j : Name} (hj : m.spare = some j) (g : Owner) :
    N.Owned (Function.update owner j (some g)) w
      (Function.update v i (some (l, ⟨(g, j) :: m.known, none⟩))) := by
  obtain ⟨hfree, hdrawn⟩ := h.spare i l m j hi hj
  have hkeep : ∀ {g' : Owner} {j' : Name}, owner j' = some g' →
      Function.update owner j (some g) j' = some g' := by
    intro g' j' howner
    rw [Function.update_of_ne (fun heq => by rw [heq, hfree] at howner; cases howner)]
    exact howner
  have hothers : N.Owned (Function.update owner j (some g)) w (Function.update v i none) := by
    have hview : ∀ {i' : Nat} {x : P.Label × Names Owner Name},
        Function.update v i none i' = some x → i' ≠ i ∧ v i' = some x := by
      intro i' x hi'
      by_cases hii : i' = i
      · subst hii
        rw [Function.update_self] at hi'
        cases hi'
      · rw [Function.update_of_ne hii] at hi'
        exact ⟨hii, hi'⟩
    refine ⟨fun g' j' hb => hkeep (h.bound g' j' hb), fun g' j' howner => ?_,
      fun i' l' m' g' j' hi' hin => hkeep (h.known i' l' m' g' j' (hview hi').2 hin),
      fun i' l' m' j' hi' hj' => ?_, fun i₁ i₂ l₁ l₂ m₁ m₂ j' h₁ h₂ =>
        h.exclusive i₁ i₂ l₁ l₂ m₁ m₂ j' (hview h₁).2 (hview h₂).2⟩
    · by_cases hjj : j' = j
      · rw [hjj]
        exact hdrawn
      · rw [Function.update_of_ne hjj] at howner
        exact h.drawn g' j' howner
    · obtain ⟨hne, hold⟩ := hview hi'
      have hjj : j' ≠ j := fun heq => hne (h.exclusive i' i l' l m' m j hold hi (heq ▸ hj') hj)
      rw [Function.update_of_ne hjj]
      exact h.spare i' l' m' j' hold hj'
  have hidem (x : Option (P.Label × Names Owner Name)) :
      Function.update v i x = Function.update (Function.update v i none) i x :=
    (Function.update_idem _ _ _).symm
  rw [hidem]
  refine hothers.update (fun g' j' hin => ?_) (fun _ hnone => by cases hnone)
    fun _ _ _ _ _ _ hnone => by cases hnone
  rcases List.mem_cons.1 hin with heq | hin
  · obtain ⟨rfl, rfl⟩ := Prod.mk.inj heq
    exact Function.update_self ..
  · exact hkeep (h.known i l m g' j' hi hin)

/-- A task binds what its call binds. -/
theorem Owned.afterBind (h : N.Owned owner w v) {i : Nat} {l : P.Label} {m : Names Owner Name}
    (hi : v i = some (l, m)) {o : I.Op} (hpre : N.spec.pre m o) :
    ∃ owner', N.Owned owner' w (Function.update v i (some (l, N.afterBind m o))) ∧
      ∀ g j, N.binds o = some (g, j) → owner' j = some g := by
  have hself : Function.update v i (some (l, m)) = v := by rw [← hi, Function.update_eq_self]
  unfold Naming.afterBind
  cases hbinds : N.binds o with
  | none =>
    refine ⟨owner, ?_, fun g j hb => by cases hb⟩
    dsimp only
    rw [hself]
    exact h
  | some b =>
    obtain ⟨g, j⟩ := b
    dsimp only
    by_cases hj : m.spare = some j
    · rw [if_pos hj]
      refine ⟨_, h.bind hi hj g, fun g' j' hb => ?_⟩
      obtain ⟨rfl, rfl⟩ := Prod.mk.inj (Option.some.inj hb)
      exact Function.update_self ..
    · rw [if_neg hj, hself]
      refine ⟨owner, h, fun g' j' hb => ?_⟩
      obtain ⟨rfl, rfl⟩ := Prod.mk.inj (Option.some.inj hb)
      exact h.known i l m g j hi ((hpre.2 g j hbinds).resolve_right hj)

/-- A call keeps the owners, once the task has bound what it binds. -/
theorem Owned.exec (hN : N.Lawful) (h : N.Owned owner w v) {i : Nat} {l : P.Label}
    {m : Names Owner Name} (hi : v i = some (l, m)) {o : I.Op} (hpre : N.spec.pre m o)
    (c : P.Choice) (l' : P.Label) :
    ∃ owner', N.Owned owner' (P.exec w o c).2
      (Function.update v i (some (l', N.after m o (P.exec w o c).1))) := by
  obtain ⟨owner', h', hbinds⟩ := h.afterBind hi hpre
  have hself : Function.update v i (some (l, N.afterBind m o)) i = some (l, N.afterBind m o) :=
    Function.update_self ..
  have hworld : N.Owned owner' (P.exec w o c).2
      (Function.update v i (some (l, N.afterBind m o))) := by
    refine ⟨fun g j hb => ?_, fun g j howner => hN.drawn_exec w o c j (h'.drawn g j howner),
      h'.known, fun i' l' m' j hi' hj => ?_, h'.exclusive⟩
    · rcases hN.bound_exec w o c g j hpre.1 hb with hold | hnew
      · exact h'.bound g j hold
      · exact hbinds g j hnew
    · obtain ⟨hfree, hdrawn⟩ := h'.spare i' l' m' j hi' hj
      exact ⟨hfree, hN.drawn_exec w o c j hdrawn⟩
  have hidem (x : Option (P.Label × Names Owner Name)) : Function.update v i x =
      Function.update (Function.update v i (some (l, N.afterBind m o))) i x :=
    (Function.update_idem _ _ _).symm
  refine ⟨owner', ?_⟩
  rw [hidem]
  refine hworld.update (fun g j hin => ?_) (fun j hj => ?_) fun i' l'' m' j hne hi' hj hj' => ?_
  · rcases List.mem_append.1 hin with hlearned | hknown
    · exact h'.bound g j (hN.learned w o c g j hlearned)
    · exact h'.known i l _ g j hself hknown
  · rcases Option.or_eq_some_iff.1 hj with hdraws | ⟨-, hspare⟩
    · obtain ⟨hnot, hdrawn⟩ := hN.fresh w o c j hdraws
      refine ⟨Option.eq_none_iff_forall_ne_some.2 fun g howner => ?_, hdrawn⟩
      exact hnot (h'.drawn g j howner)
    · exact hworld.spare i l _ j hself hspare
  · rcases Option.or_eq_some_iff.1 hj with hdraws | ⟨-, hspare⟩
    · exact (hN.fresh w o c j hdraws).1 (h'.spare i' l'' m' j hi' hj').2
    · exact hne (h'.exclusive i' i l'' l m' _ j hi' hself hj' hspare)

omit [DecidableEq Name] in
/-- An arrival keeps the owners, where its tasks know names that are written down. -/
theorem Owned.arrive (hN : N.Lawful) (h : N.Owned owner w v) {arr : P.Arrival}
    {spawned : List (P.Label × Prog I Unit)} (harr : P.arrive w arr = some (w', spawned))
    (hv : ∀ i l m, v' i = some (l, m) → v i = some (l, m) ∨
      m.spare = none ∧ ∀ g j, (g, j) ∈ m.known → N.bound w g j) : N.Owned owner w' v' := by
  refine ⟨fun g j hb => h.bound g j (hN.bound_arrive w arr w' spawned g j harr hb),
    fun g j howner => hN.drawn_arrive w arr w' spawned j harr (h.drawn g j howner),
    fun i l m g j hi hin => ?_, fun i l m j hi hj => ?_, fun i i' l l' m m' j hi hi' hj hj' => ?_⟩
  · rcases hv i l m hi with hold | ⟨-, hknown⟩
    · exact h.known i l m g j hold hin
    · exact h.bound g j (hknown g j hin)
  · rcases hv i l m hi with hold | ⟨hnone, -⟩
    · obtain ⟨hfree, hdrawn⟩ := h.spare i l m j hold hj
      exact ⟨hfree, hN.drawn_arrive w arr w' spawned j harr hdrawn⟩
    · rw [hnone] at hj
      cases hj
  · rcases hv i l m hi with hold | ⟨hnone, -⟩
    · rcases hv i' l' m' hi' with hold' | ⟨hnone, -⟩
      · exact h.exclusive i i' l l' m m' j hold hold' hj hj'
      · rw [hnone] at hj'
        cases hj'
    · rw [hnone] at hj
      cases hj

/-! ## The result -/

/-- Every step keeps the discipline, if the tasks follow it from names that are written down. -/
theorem Lawful.kept (hN : N.Lawful)
    (hspawn : ∀ w arr w' spawned, P.arrive w arr = some (w', spawned) → ∀ l p, (l, p) ∈ spawned →
      ∃ known, (∀ g j, (g, j) ∈ known → N.bound w g j) ∧
        p.wp N.spec (fun _ _ => True) { known })
    (ok : P.State → P.Action → Prop) : N.discipline.Kept ok where
  mono w v v' hv h := by
    obtain ⟨owner, h⟩ := h
    exact ⟨owner, h.mono hv⟩
  act s f i c l o k _ hti h hpre := by
    obtain ⟨owner, h⟩ := h
    have hi : Discipline.view s f i = some (l, f i) := by
      unfold Discipline.view
      rw [hti]
      rfl
    exact ⟨_, rfl, h.exec hN hi hpre c _⟩
  arrive s f arr w spawned _ harr h := by
    obtain ⟨owner, h⟩ := h
    have hmode : ∀ j : Nat, ∃ m : Names Owner Name, ∀ l p, spawned[j]? = some (l, p) →
        N.discipline.Follows p m ∧ m.spare = none ∧
          ∀ g n, (g, n) ∈ m.known → N.bound s.world g n := by
      intro j
      cases hj : spawned[j]? with
      | none => exact ⟨{}, fun l p hlp => by cases hlp⟩
      | some lp =>
        obtain ⟨known, hknown, hwp⟩ := hspawn _ _ _ _ harr lp.1 lp.2 (List.mem_of_getElem? hj)
        refine ⟨{ known }, fun l p hlp => ?_⟩
        obtain rfl := Option.some.inj hlp
        exact ⟨hwp, rfl, hknown⟩
    obtain ⟨ms, hms⟩ := Classical.axiomOfChoice hmode
    refine ⟨ms, fun j l p hj => (hms j l p hj).1, owner, h.arrive hN harr fun i l m hi => ?_⟩
    split at hi
    · exact Or.inl hi
    · obtain ⟨⟨l', p⟩, hsp, heq⟩ := Option.map_eq_some_iff.1 hi
      obtain ⟨rfl, rfl⟩ := Prod.mk.inj heq
      exact Or.inr (hms _ _ _ hsp).2

/-- A name has one owner, wherever it is written. -/
theorem Lawful.owner_unique (hN : N.Lawful)
    (hspawn : ∀ w arr w' spawned, P.arrive w arr = some (w', spawned) → ∀ l p, (l, p) ∈ spawned →
      ∃ known, (∀ g j, (g, j) ∈ known → N.bound w g j) ∧
        p.wp N.spec (fun _ _ => True) { known })
    {ok : P.State → P.Action → Prop} {w : P.World} {s : P.State}
    (hw : ∀ g j, ¬ N.bound w g j) (h : Pool.Reach ok (P.start w) s) {g g' : Owner} {j : Name}
    (hg : N.bound s.world g j) (hg' : N.bound s.world g' j) : g = g' := by
  have hstart : N.Owned (fun _ => none) w (fun _ : Nat => none) :=
    ⟨fun g j hb => absurd hb (hw g j), fun _ _ ho => (by cases ho),
      fun _ _ _ _ _ hi => (by cases hi), fun _ _ _ _ hi => (by cases hi),
      fun _ _ _ _ _ _ _ hi => (by cases hi)⟩
  have : Nonempty (Names Owner Name) := ⟨{}⟩
  obtain ⟨f, ⟨owner, howned⟩, -⟩ := Discipline.holds_of_reach (hN.kept hspawn ok) h
    (Discipline.holds_start ⟨_, hstart⟩)
  have hone := howned.bound g j hg
  rw [howned.bound g' j hg'] at hone
  exact (Option.some.inj hone).symm

end Naming

end KlassGateway.Lib
