import Mathlib.Data.List.Basic
import Mathlib.Data.List.Chain
/-!
# Bounded logs

A log that keeps its newest `n` events.  Appending to the bounded log and
cutting it again is the same as cutting the log of everything that was ever
appended (`newest_push`), so a property of neighbours or of the last event is
read off the whole log.
-/

namespace KlassGateway.Lib

variable {α β : Type} {n : Nat} {log : List α}

/-- The newest `n` events of a log. -/
def newest (n : Nat) (log : List α) : List α := log.drop (log.length - n)

theorem newest_suffix (n : Nat) (log : List α) : newest n log <:+ log := List.drop_suffix _ _

theorem length_newest_le (n : Nat) (log : List α) : (newest n log).length ≤ n := by
  rw [newest, List.length_drop]
  omega

/-- Cutting before an event is appended changes nothing. -/
theorem newest_push (n : Nat) (log : List α) (e : α) :
    newest n (newest n log ++ [e]) = newest n (log ++ [e]) := by
  have hle : log.length - n ≤ log.length := Nat.sub_le _ _
  have hdrop : newest n log ++ [e] = (log ++ [e]).drop (log.length - n) :=
    (List.drop_append_of_le_length hle).symm
  rw [hdrop]
  unfold newest
  rw [List.drop_drop]
  congr 1
  simp only [List.length_drop, List.length_append, List.length_singleton]
  omega

/-- What the last event of a part of the log is, if the part has one. -/
theorem getLast?_of_suffix {part : List α} (h : part <:+ log) {e : α}
    (he : part.getLast? = some e) : log.getLast? = some e := by
  obtain ⟨older, rfl⟩ := h
  rw [List.getLast?_append, he]
  rfl

end KlassGateway.Lib
