import Mathlib.Order.WithBot
/-!
# Windows of a linear order

A `Windowing` sends every point to the start of its window and every start to the end of the
window, if the order has one: each point lies in its own window, and every point of a window
has the start of the window as its own.  The rest follows: the start is idempotent and
monotone, and two points have one start exactly when one window holds both.
-/

namespace KlassGateway.Lib

/-- A cut of a linear order into half-open windows. -/
structure Windowing (T : Type) [LinearOrder T] where
  start : T → T
  /-- The first point after the window, or `⊤`. -/
  stop : T → WithTop T
  start_le : ∀ t, start t ≤ t
  lt_stop : ∀ t : T, (t : WithTop T) < stop (start t)
  start_eq_of_mem : ∀ t u : T, start t ≤ u → (u : WithTop T) < stop (start t) → start u = start t

namespace Windowing

variable {T : Type} [LinearOrder T] (W : Windowing T)

/-- A point lies in the window that begins at `s`. -/
def Mem (s t : T) : Prop := s ≤ t ∧ (t : WithTop T) < W.stop s

/-- The windows of two points are one. -/
def Same (t u : T) : Prop := ∃ s, W.start s = s ∧ W.Mem s t ∧ W.Mem s u

theorem mem_start (t : T) : W.Mem (W.start t) t := ⟨W.start_le t, W.lt_stop t⟩

/-- The start of a window is in it. -/
@[simp] theorem start_start (t : T) : W.start (W.start t) = W.start t := by
  apply W.start_eq_of_mem t (W.start t) (le_refl _)
  exact lt_of_le_of_lt (WithTop.coe_le_coe.2 (W.start_le t)) (W.lt_stop t)

theorem start_eq_iff {t u : T} : W.start u = W.start t ↔ W.Mem (W.start t) u := by
  constructor
  · intro h
    rw [← h]
    exact W.mem_start u
  · intro h
    exact W.start_eq_of_mem t u h.1 h.2

/-- A later point does not start earlier. -/
theorem start_mono : Monotone W.start := by
  intro t u htu
  by_contra hlt
  have hlt : W.start u < W.start t := not_le.1 hlt
  -- the start of `t` lies between the start of `u` and `u`, so in the window of `u`
  have hmem : W.Mem (W.start u) (W.start t) := by
    refine ⟨le_of_lt hlt, lt_of_le_of_lt (WithTop.coe_le_coe.2 ?_) (W.lt_stop u)⟩
    exact le_trans (W.start_le t) htu
  have heq : W.start (W.start t) = W.start u := W.start_eq_iff.2 hmem
  rw [W.start_start] at heq
  exact absurd heq (ne_of_gt hlt)

theorem start_eq_of_mem_start {s t : T} (hs : W.start s = s) (h : W.Mem s t) : W.start t = s := by
  have hmem : W.Mem (W.start s) t := by
    rw [hs]
    exact h
  rw [W.start_eq_iff.2 hmem, hs]

/-- Two points have one start exactly when one window holds both. -/
theorem start_eq_start_iff {t u : T} : W.start t = W.start u ↔ W.Same t u := by
  constructor
  · intro h
    refine ⟨W.start t, W.start_start t, W.mem_start t, ?_⟩
    rw [h]
    exact W.mem_start u
  · rintro ⟨s, hs, ht, hu⟩
    rw [W.start_eq_of_mem_start hs ht, W.start_eq_of_mem_start hs hu]

end Windowing

end KlassGateway.Lib
