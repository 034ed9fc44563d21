import Mathlib.Data.List.Basic
import Mathlib.Logic.Function.Basic
/-!
# Read, merge, write

A partial update that is made of two statements: the first reads the row, and
the second writes every column that an update may set, with the value that was
read for each column that this one does not set.  Updates of one row interleave
in any way.

* `Updating`: what is known about the second statement.
* `map_getD_of_some`, `map_getD_of_none`, `getD_congr`: a field that is merged
  by its own rule, `getD`.
* `Run`: the runs of any number of updates of a row.
* `Run.serial`: if no update writes a value that is not the row's any more, the
  run has the result of its updates one after the other.
-/

namespace KlassGateway.Lib.ReadMergeWrite

/-- Partial updates with payloads `P` of rows `R`.  `C` are the columns that an
update may set, and `F` is the rest of a row, but for the time `T` of the last
update. -/
structure Updating (R P T C V F : Type) where
  /-- The value of a column. -/
  col : R → C → V
  /-- The columns that no update sets. -/
  rest : R → F
  /-- The value that a payload has for a column. -/
  sets : P → C → Option V
  /-- The row after the second statement, by the row that was read, the time and
  the row that is there. -/
  write : P → R → T → R → R
  /-- Of a row there is a value for every column that the payload does not set. -/
  Complete : P → R → Prop
  write_rest : ∀ p read now row, rest (write p read now row) = rest row
  write_set : ∀ {p read now row c v}, sets p c = some v → col (write p read now row) c = v
  write_unset : ∀ {p now row c}, Complete p row → sets p c = none →
    col (write p row now row) c = col row c
  write_congr : ∀ {p read now row}, (∀ c, sets p c = none → col read c = col row c) →
    write p read now row = write p row now row

/-! ## Merging one field -/

section

variable {A V : Type} {g : A → V} {given : Option A} {v : V} {read row : A}

theorem map_getD_of_some (h : given.map g = some v) : g (given.getD read) = v := by
  obtain ⟨a, rfl, rfl⟩ := Option.map_eq_some_iff.1 h
  rfl

theorem map_getD_of_none (h : given.map g = none) : g (given.getD read) = g read := by
  rw [Option.map_eq_none_iff.1 h]
  rfl

theorem getD_congr (hg : Function.Injective g) (h : given.map g = none → g read = g row) :
    given.getD read = given.getD row := by
  cases given with
  | none => exact hg (h rfl)
  | some a => rfl

end

/-! ## Runs -/

variable {R P T C V F : Type}

/-- A row, the updates that have read it, and those that have written it in the
order of their writes. -/
structure State (R P T : Type) where
  row : R
  held : List (P × R) := []
  log : List (P × T) := []

variable (U : Updating R P T C V F)

/-- The updates one after the other. -/
def serial (row : R) (log : List (P × T)) : R :=
  log.foldl (fun row u => U.write u.1 row u.2 row) row

/-- The runs of updates whose writes all meet `ok`, a condition on the payload,
the row that was read and the row that is there. -/
inductive Run (ok : P → R → R → Prop) (start : State R P T) : State R P T → Prop
  | refl : Run ok start start
  | read {s : State R P T} (h : Run ok start s) (p : P) :
      Run ok start { s with held := s.held ++ [(p, s.row)] }
  | write {s : State R P T} {before after : List (P × R)} {p : P} {read : R}
      (h : Run ok start s) (hheld : s.held = before ++ (p, read) :: after) (now : T)
      (hok : ok p read s.row) :
      Run ok start ⟨U.write p read now s.row, before ++ after, s.log ++ [(p, now)]⟩

/-- Every column that the payload does not set is as it was read, and the row
has a value for it. -/
def Settled (p : P) (read row : R) : Prop :=
  (∀ c, U.sets p c = none → U.col read c = U.col row c) ∧ U.Complete p row

/-- The updates of a state have done what they do one after the other. -/
structure Serial (row : R) (s : State R P T) : Prop where
  serial : s.row = serial U row s.log
  rest : U.rest s.row = U.rest row
  /-- A column that none of them sets is as it was. -/
  kept : ∀ c, (∀ u ∈ s.log, U.sets u.1 c = none) → U.col s.row c = U.col row c
  /-- A column that one of them sets has its value. -/
  took : ∀ before p now after c v, s.log = before ++ (p, now) :: after →
    (∀ u ∈ before ++ after, U.sets u.1 c = none) → U.sets p c = some v → U.col s.row c = v

theorem serial_append (row : R) (log : List (P × T)) (p : P) (now : T) :
    serial U row (log ++ [(p, now)]) = U.write p (serial U row log) now (serial U row log) := by
  rw [serial, List.foldl_append]
  rfl

/-- One more write on a row as it was read. -/
theorem Serial.write {row read : R} {s : State R P T} {p : P} (h : Serial U row s)
    (hsettled : Settled U p read s.row) (now : T) (held : List (P × R)) :
    Serial U row ⟨U.write p read now s.row, held, s.log ++ [(p, now)]⟩ := by
  have hwrite : U.write p read now s.row = U.write p s.row now s.row := U.write_congr hsettled.1
  refine ⟨?_, ?_, ?_, ?_⟩
  · rw [serial_append, ← h.serial, hwrite]
  · rw [U.write_rest, h.rest]
  · intro c hnone
    have hp : U.sets p c = none := hnone (p, now) (by simp)
    rw [hwrite, U.write_unset hsettled.2 hp]
    exact h.kept c fun u hu => hnone u (List.mem_append_left _ hu)
  · intro before q time after c v hlog hnone hv
    rcases List.eq_nil_or_concat after with rfl | ⟨after', u, rfl⟩
    · -- The update is the last one.
      have hlast := (List.append_inj' hlog rfl).2
      obtain ⟨rfl, _⟩ := Prod.mk.inj (List.cons.inj hlast).1
      exact U.write_set hv
    · rw [List.concat_eq_append, ← List.cons_append, ← List.append_assoc] at hlog
      obtain ⟨hlog', hlast⟩ := List.append_inj' hlog rfl
      have hp : U.sets p c = none := by
        apply hnone (p, now)
        rw [(List.cons.inj hlast).1]
        simp
      rw [hwrite, U.write_unset hsettled.2 hp]
      refine h.took before q time after' c v hlog' (fun w hw => hnone w ?_) hv
      rw [List.concat_eq_append, ← List.append_assoc]
      exact List.mem_append_left _ hw

/-- A run whose writes are all settled does what its updates do one after the
other. -/
theorem Run.serial {row : R} {s : State R P T} (h : Run U (Settled U) ⟨row, [], []⟩ s) :
    Serial U row s := by
  induction h with
  | refl =>
    refine ⟨rfl, rfl, fun _ _ => rfl, ?_⟩
    intro before p now after c v hlog
    simp at hlog
  | read _ p ih => exact ⟨ih.serial, ih.rest, ih.kept, ih.took⟩
  | write _ _ now hok ih => exact ih.write U hok now _

end KlassGateway.Lib.ReadMergeWrite
