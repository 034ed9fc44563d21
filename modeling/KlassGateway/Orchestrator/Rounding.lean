import KlassGateway.Orchestrator.Decision
import Mathlib.Algebra.Order.Ring.Rat
import Mathlib.Data.Rat.Floor
import Mathlib.Tactic.Linarith
import Mathlib.Tactic.Ring
/-!
# Rounding

What `roundHalfAway` and `round4` do with whole numbers, with ten-thousandths and with
fractions.
-/

namespace KlassGateway.Orchestrator

theorem roundHalfAway_intCast (n : Int) : roundHalfAway n = n := by
  have hfloor : ∀ m : Int, ((m : Rat) + 1 / 2).floor = m := by
    intro m
    have hhalf : (1 / 2 : Rat).floor = 0 := by decide +kernel
    rw [add_comm, Rat.floor_add_intCast, hhalf, zero_add]
  rw [roundHalfAway]
  split_ifs
  · exact hfloor n
  · rw [← Int.cast_neg, hfloor, neg_neg]

/-- A multiple of a ten-thousandth. -/
def IsTenThousandths (q : Rat) : Prop := ∃ n : Int, q = n / 10000

theorem isTenThousandths_round4 (q : Rat) : IsTenThousandths (round4 q) := ⟨_, rfl⟩

theorem IsTenThousandths.add {q r : Rat} (hq : IsTenThousandths q) (hr : IsTenThousandths r) :
    IsTenThousandths (q + r) := by
  obtain ⟨n, rfl⟩ := hq
  obtain ⟨m, rfl⟩ := hr
  exact ⟨n + m, by push_cast; ring⟩

theorem isTenThousandths_sum {qs : List Rat} (h : ∀ q ∈ qs, IsTenThousandths q) :
    IsTenThousandths qs.sum := by
  induction qs with
  | nil => exact ⟨0, by simp⟩
  | cons q qs ih =>
    rw [List.sum_cons]
    exact (h q (by simp)).add (ih fun r hr => h r (List.mem_cons_of_mem q hr))

/-- Rounding to four digits keeps them. -/
theorem round4_eq {q : Rat} (h : IsTenThousandths q) : round4 q = q := by
  obtain ⟨n, rfl⟩ := h
  rw [round4, div_mul_cancel₀ _ (by norm_num), roundHalfAway_intCast]

/-- A fraction that is not negative is rounded by a division. -/
theorem roundHalfAway_div {n : Int} (hn : 0 ≤ n) {d : Nat} (hd : 0 < d) :
    roundHalfAway ((n : Rat) / d) = (2 * n + d) / (2 * d) := by
  have hpos : (0 : Rat) < d := by exact_mod_cast hd
  have hle : (0 : Rat) ≤ (n : Rat) / d := div_nonneg (by exact_mod_cast hn) hpos.le
  have hhalf : (n : Rat) / d + 1 / 2 = ((2 * n + d : Int) : Rat) / ((2 * d : Nat) : Rat) := by
    push_cast
    field_simp
  rw [roundHalfAway, if_pos hle, hhalf]
  exact (Rat.floor_intCast_div_natCast _ _).trans (by push_cast; rfl)

end KlassGateway.Orchestrator
