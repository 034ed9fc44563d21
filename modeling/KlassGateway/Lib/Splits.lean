import Mathlib.Data.List.Basic
/-!
# Lists split at an element
-/

namespace KlassGateway.Lib

variable {α : Type} {l l' before after : List α} {x y : α}

/-- A list is split at an index, and what is set there is set in the split. -/
theorem exists_split {i : Nat} (h : l[i]? = some x) :
    ∃ before after, l = before ++ x :: after ∧ ∀ y, l.set i y = before ++ y :: after := by
  obtain ⟨hi, rfl⟩ := List.getElem?_eq_some_iff.1 h
  refine ⟨l.take i, l.drop (i + 1), ?_, fun y => List.set_eq_take_append_cons_drop.trans (if_pos hi)⟩
  rw [← List.drop_eq_getElem_cons hi, List.take_append_drop]

/-- Where a list is split at an element that its first part does not have. -/
theorem exists_append_of_not_mem (hx : x ∉ l) (h : l ++ l' = before ++ x :: after) :
    ∃ t, before = l ++ t ∧ l' = t ++ x :: after := by
  rcases List.append_eq_append_iff.1 h with ⟨t, hbefore, hl'⟩ | ⟨t, hl, hafter⟩
  · exact ⟨t, hbefore, hl'⟩
  · cases t with
    | nil => exact ⟨[], by simpa using hl.symm, hafter.symm⟩
    | cons y t =>
      refine absurd ?_ hx
      rw [hl, (List.cons.inj hafter).1]
      simp

/-- Nothing comes before an element that is first or nowhere. -/
theorem eq_nil_of_cons_eq {t : List α} (hy : y ∉ l) (h : x :: l = t ++ y :: after) :
    t = [] ∧ x = y ∧ l = after := by
  cases t with
  | nil => exact ⟨rfl, List.cons.inj h⟩
  | cons z t =>
    refine absurd ?_ hy
    rw [(List.cons.inj h).2]
    simp

end KlassGateway.Lib
