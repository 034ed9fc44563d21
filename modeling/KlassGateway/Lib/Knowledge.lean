import KlassGateway.Lib.Footprint
import KlassGateway.Lib.Typestate
/-!
# What tasks know

Each task of a pool collects facts from the answers of its calls, and relies on them in later calls.
A fact that holds is never taken away, by whichever task, so what a task knows is true whenever it
uses it.

* `Knowledge` says what a call teaches and what it needs, and `Knowledge.Lawful` what is asked of
  the facts.
* `Lawful.needs_hold` is the result: in every state reached, what the next call of a task needs
  holds, and with it an invariant of the world that rests on the needs being met.
-/

namespace KlassGateway.Lib

/-- The facts that the calls of a pool teach and need. -/
structure Knowledge {I : Interface} (P : Pool I) (Fact : Type) where
  holds : P.World → Fact → Prop
  learns : (o : I.Op) → I.Resp o → List Fact
  needs : I.Op → Fact → Prop
  /-- An invariant of the world. -/
  inv : P.World → Prop

namespace Knowledge

variable {I : Interface} {P : Pool I} {Fact : Type} (K : Knowledge P Fact)

/-- Facts stay, what is learned holds, and calls whose needs are met keep the invariant. -/
structure Lawful : Prop where
  holds_exec : ∀ w o c x, K.holds w x → K.holds (P.exec w o c).2 x
  learned : ∀ w o c x, K.inv w → x ∈ K.learns o (P.exec w o c).1 → K.holds (P.exec w o c).2 x
  inv_exec : ∀ w o c, K.inv w → (∀ x, K.needs o x → K.holds w x) → K.inv (P.exec w o c).2
  holds_arrive : ∀ w arr w' spawned x, P.arrive w arr = some (w', spawned) → K.holds w x →
    K.holds w' x
  inv_arrive : ∀ w arr w' spawned, P.arrive w arr = some (w', spawned) → K.inv w → K.inv w'

/-- A task needs what it has learned. -/
def spec : OpSpec I (List Fact) where
  pre known o := ∀ x, K.needs o x → x ∈ known
  step known o r known' := known' = K.learns o r ++ known

/-- The discipline of knowledge. -/
def discipline : Discipline P (List Fact) where
  spec := K.spec
  inv w v := K.inv w ∧ ∀ i l known, v i = some (l, known) → ∀ x ∈ known, K.holds w x

variable {K}

/-- What a task knows stays known. -/
theorem persists (x : Fact) : Prog.Persists K.spec (x ∈ ·) := by
  intro known o r known' hstep hx
  subst hstep
  exact List.mem_append_right _ hx

/-- Every step keeps the discipline, if the tasks follow it from facts that hold. -/
theorem Lawful.kept (hK : K.Lawful)
    (hspawn : ∀ w arr w' spawned, P.arrive w arr = some (w', spawned) → K.inv w →
      ∀ l p, (l, p) ∈ spawned →
        ∃ known, (∀ x ∈ known, K.holds w x) ∧ p.wp K.spec (fun _ _ => True) known)
    (ok : P.State → P.Action → Prop) : K.discipline.Kept ok where
  mono w v v' hv h := by
    refine ⟨h.1, fun i l known hi => ?_⟩
    rcases hv i with hnone | hsame
    · rw [hnone] at hi
      cases hi
    · exact h.2 i l known (hsame ▸ hi)
  act s f i c l o k _ hti h hpre := by
    have hknown : ∀ x ∈ f i, K.holds s.world x := by
      refine h.2 i l (f i) ?_
      unfold Discipline.view
      rw [hti]
      rfl
    refine ⟨_, rfl, hK.inv_exec _ _ _ h.1 fun x hx => hknown x (hpre x hx),
      fun j l' known hj x hx => ?_⟩
    by_cases hji : j = i
    · subst hji
      rw [Function.update_self] at hj
      obtain ⟨-, rfl⟩ := Prod.mk.inj (Option.some.inj hj)
      rcases List.mem_append.1 hx with hnew | hold
      · exact hK.learned _ _ _ _ h.1 hnew
      · exact hK.holds_exec _ _ _ _ (hknown x hold)
    · rw [Function.update_of_ne hji] at hj
      exact hK.holds_exec _ _ _ _ (h.2 j l' known hj x hx)
  arrive s f arr w spawned _ harr h := by
    have hmode : ∀ j : Nat, ∃ known : List Fact, (∀ x ∈ known, K.holds s.world x) ∧
        ∀ l p, spawned[j]? = some (l, p) → K.discipline.Follows p known := by
      intro j
      cases hj : spawned[j]? with
      | none => exact ⟨[], fun x hx => absurd hx List.not_mem_nil, fun l p hlp => by cases hlp⟩
      | some lp =>
        obtain ⟨known, hknown, hwp⟩ :=
          hspawn _ _ _ _ harr h.1 lp.1 lp.2 (List.mem_of_getElem? hj)
        refine ⟨known, hknown, fun l p hlp => ?_⟩
        obtain rfl := Option.some.inj hlp
        exact hwp
    obtain ⟨ms, hms⟩ := Classical.axiomOfChoice hmode
    refine ⟨ms, fun j => (hms j).2, hK.inv_arrive _ _ _ _ harr h.1, fun i l known hi x hx =>
      hK.holds_arrive _ _ _ _ _ harr ?_⟩
    dsimp only at hi
    split at hi
    · exact h.2 i l known hi x hx
    · obtain ⟨lp, -, heq⟩ := Option.map_eq_some_iff.1 hi
      obtain ⟨-, rfl⟩ := Prod.mk.inj heq
      exact (hms _).1 x hx

/-- What the next call of a task needs holds, whatever the others have done. -/
theorem Lawful.needs_hold (hK : K.Lawful)
    (hspawn : ∀ w arr w' spawned, P.arrive w arr = some (w', spawned) → K.inv w →
      ∀ l p, (l, p) ∈ spawned →
        ∃ known, (∀ x ∈ known, K.holds w x) ∧ p.wp K.spec (fun _ _ => True) known)
    {ok : P.State → P.Action → Prop} {w : P.World} {s : P.State} (hw : K.inv w)
    (h : Pool.Reach ok (P.start w) s) :
    K.inv s.world ∧ ∀ i l o k, s.tasks i = some ⟨l, .op o k⟩ →
      ∀ x, K.needs o x → K.holds s.world x := by
  obtain ⟨f, hinv, hfollows⟩ := Discipline.holds_of_reach (hK.kept hspawn ok) h
    (Discipline.holds_start (D := K.discipline) ⟨hw, fun _ _ _ hi => by cases hi⟩)
  refine ⟨hinv.1, fun i l o k hi x hx => hinv.2 i l (f i) ?_ x ((hfollows i _ hi).1 x hx)⟩
  unfold Discipline.view
  rw [hi]
  rfl

end Knowledge

end KlassGateway.Lib
