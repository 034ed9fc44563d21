import Mathlib.Data.List.Basic
import Mathlib.Data.List.Nodup
import Mathlib.Data.List.ReduceOption
/-!
# Updates with numbered placeholders

`UPDATE t SET c1 = $1, c2 = $2, touched = NOW() WHERE key = $3` and the list of
values that is bound to it.  A row is a function of its columns; `eq` is the
equality of the server on values.

Such a statement is built in two passes over the optional fields of a request:
one numbers the columns that are set, the other binds their values.

* `UpdateStatement.run`: what the server does with a statement and its values.
* `addCols`, `bindAll`: the two passes.
* `SetsFields`: the statement sets what the request says and nothing else.
* `setsFields_of_fields`: two passes over the same fields give such a statement.
-/

namespace KlassGateway.Lib.Sql

/-- `column = $placeholder`. -/
structure Assignment (C : Type) where
  column : C
  placeholder : Nat

/-- `UPDATE ... SET set, touched = NOW() WHERE key = $keyPlaceholder`. -/
structure UpdateStatement (C : Type) where
  set : List (Assignment C)
  touched : C
  key : C
  keyPlaceholder : Nat

variable {C V : Type}

/-- The value of a placeholder; the first one is `$1`. -/
def bound (binds : List V) : Nat → Option V
  | 0 => none
  | n + 1 => binds[n]?

namespace UpdateStatement

variable [DecidableEq C] (stmt : UpdateStatement C) (binds : List V)

/-- The placeholders of a statement. -/
def placeholders : List Nat := stmt.set.map Assignment.placeholder ++ [stmt.keyPlaceholder]

/-- The server accepts a statement that sets no column twice, with one value
for each placeholder. -/
def accepted : Bool :=
  decide (stmt.touched :: stmt.set.map Assignment.column).Nodup &&
    stmt.placeholders.all (fun n => (bound binds n).isSome) &&
    (List.range' 1 binds.length).all fun n => stmt.placeholders.contains n

/-- The value that the `SET` clause gives a column. -/
def assigned (c : C) : Option V :=
  (stmt.set.find? fun a => a.column = c).bind fun a => bound binds a.placeholder

/-- A row after the `SET` clause. -/
def write (now : V) (row : C → V) : C → V := fun c =>
  if c = stmt.touched then now else (stmt.assigned binds c).getD (row c)

/-- The table after the statement; `none` is an error of the server. -/
def run (eq : V → V → Bool) (now : V) (table : List (C → V)) : Option (List (C → V)) :=
  if stmt.accepted binds then
    some (table.map fun row =>
      if (bound binds stmt.keyPlaceholder).any (eq (row stmt.key)) then stmt.write binds now row
      else row)
  else none

end UpdateStatement

/-! ## The two passes -/

/-- Push `column = $idx` for a field that is present, and count on. -/
def addCol (parts : List (Assignment C) × Nat) (field : C × Bool) : List (Assignment C) × Nat :=
  if field.2 then (parts.1 ++ [⟨field.1, parts.2⟩], parts.2 + 1) else parts

/-- The parts of the `SET` clause, numbered from one. -/
def addCols (fields : List (C × Bool)) : List (Assignment C) := (fields.foldl addCol ([], 1)).1

/-- Bind a value that is present. -/
def bindSome (query : List V) : Option V → List V
  | some v => query ++ [v]
  | none => query

/-- The values that are bound, in order. -/
def bindAll (values : List (Option V)) : List V := values.foldl bindSome []

/-! ## What the two passes build -/

/-- The columns that are present, numbered from `n`. -/
def numberFrom : Nat → List (C × Option V) → List (Assignment C)
  | _, [] => []
  | n, (c, some _) :: fields => ⟨c, n⟩ :: numberFrom (n + 1) fields
  | n, (_, none) :: fields => numberFrom n fields

theorem foldl_addCol (fields : List (C × Option V)) (parts : List (Assignment C)) (n : Nat) :
    ((fields.map fun f => (f.1, f.2.isSome)).foldl addCol (parts, n)).1 =
      parts ++ numberFrom n fields := by
  induction fields generalizing parts n with
  | nil => simp [numberFrom]
  | cons field fields ih =>
    obtain ⟨c, v⟩ := field
    cases v with
    | none => simp [addCol, numberFrom, ih]
    | some v => simp [addCol, numberFrom, ih]

theorem addCols_eq (fields : List (C × Option V)) :
    addCols (fields.map fun f => (f.1, f.2.isSome)) = numberFrom 1 fields := by
  rw [addCols, foldl_addCol, List.nil_append]

theorem foldl_bindSome (values : List (Option V)) (query : List V) :
    values.foldl bindSome query = query ++ values.reduceOption := by
  induction values generalizing query with
  | nil => simp
  | cons v values ih => cases v <;> simp [bindSome, ih]

theorem bindAll_eq (values : List (Option V)) : bindAll values = values.reduceOption := by
  rw [bindAll, foldl_bindSome, List.nil_append]

variable {fields : List (C × Option V)} {n : Nat}

theorem numberFrom_placeholders (n : Nat) (fields : List (C × Option V)) :
    (numberFrom n fields).map Assignment.placeholder =
      List.range' n (fields.map Prod.snd).reduceOption.length := by
  induction fields generalizing n with
  | nil => rfl
  | cons field fields ih =>
    obtain ⟨c, v⟩ := field
    cases v with
    | none => simpa [numberFrom] using ih _
    | some v => simpa [numberFrom, List.range'_succ] using ih _

theorem numberFrom_columns :
    (numberFrom n fields).map Assignment.column =
      (fields.filter fun f => f.2.isSome).map Prod.fst := by
  induction fields generalizing n with
  | nil => rfl
  | cons field fields ih =>
    obtain ⟨c, v⟩ := field
    cases v with
    | none => simpa [numberFrom] using ih
    | some v => simpa [numberFrom] using ih

/-- The value at the place of a column's number is that column's. -/
theorem numberFrom_value {a : Assignment C} (h : a ∈ numberFrom n fields) :
    ∃ v i, (a.column, some v) ∈ fields ∧ a.placeholder = n + i ∧
      (fields.map Prod.snd).reduceOption[i]? = some v := by
  induction fields generalizing n with
  | nil => cases h
  | cons field fields ih =>
    obtain ⟨c, v⟩ := field
    cases v with
    | none =>
      obtain ⟨v, i, hmem, hplace, hvalue⟩ := ih h
      exact ⟨v, i, List.mem_cons_of_mem _ hmem, hplace, by simpa using hvalue⟩
    | some v =>
      rw [numberFrom] at h
      rcases List.mem_cons.1 h with rfl | h
      · exact ⟨v, 0, List.mem_cons_self .., rfl, by simp⟩
      · obtain ⟨w, i, hmem, hplace, hvalue⟩ := ih h
        refine ⟨w, i + 1, List.mem_cons_of_mem _ hmem, by omega, ?_⟩
        simpa using hvalue

/-! ## The effect of the statement -/

/-- A statement and its values set the fields that `value` gives, in the row
with key `id`, and touch no other column but `touched`. -/
structure SetsFields [DecidableEq C] (stmt : UpdateStatement C) (binds : List V)
    (value : C → Option V) (id : V) : Prop where
  /-- Every placeholder is bound to the value of its column. -/
  bound : ∀ a ∈ stmt.set, ∃ v, value a.column = some v ∧ bound binds a.placeholder = some v
  /-- The columns of the fields that are present are set. -/
  columns : ∀ c, (∃ a ∈ stmt.set, a.column = c) ↔ (value c).isSome
  /-- The last placeholder is bound to the key. -/
  key : stmt.keyPlaceholder = binds.length ∧ binds.getLast? = some id
  /-- The whole effect on a table. -/
  run : ∀ eq now table, stmt.run binds eq now table = some (table.map fun row =>
    if eq (row stmt.key) id then
      fun c => if c = stmt.touched then now else (value c).getD (row c)
    else row)

/-- The value of a column in a request. -/
def fieldValue [DecidableEq C] (fields : List (C × Option V)) (c : C) : Option V :=
  (fields.find? fun f => f.1 = c).bind Prod.snd

theorem fieldValue_of_mem [DecidableEq C] (hnd : (fields.map Prod.fst).Nodup) {c : C}
    {v : Option V} (h : (c, v) ∈ fields) : fieldValue fields c = v := by
  induction fields with
  | nil => cases h
  | cons field fields ih =>
    rw [List.map_cons, List.nodup_cons] at hnd
    rcases List.mem_cons.1 h with rfl | h
    · simp [fieldValue]
    · have hne : field.1 ≠ c := fun he => hnd.1 (he ▸ List.mem_map_of_mem h)
      simpa [fieldValue, hne] using ih hnd.2 h

theorem mem_of_fieldValue [DecidableEq C] {c : C} {v : V} (h : fieldValue fields c = some v) :
    (c, some v) ∈ fields := by
  obtain ⟨f, hfind, hv⟩ := Option.bind_eq_some_iff.1 h
  have hmem := List.mem_of_find?_eq_some hfind
  have hc : f.1 = c := by simpa using List.find?_some hfind
  rw [← hc, ← hv]
  exact hmem

theorem bound_append {values : List V} {i : Nat} {v w : V} (h : values[i]? = some v) :
    bound (values ++ [w]) (1 + i) = some v := by
  rw [Nat.add_comm]
  show (values ++ [w])[i]? = some v
  obtain ⟨hlt, _⟩ := List.getElem?_eq_some_iff.1 h
  rw [List.getElem?_append_left hlt, h]

section

variable [DecidableEq C]

theorem bound_of_mem {a : Assignment C} {id : V} (hnd : (fields.map Prod.fst).Nodup)
    (ha : a ∈ numberFrom 1 fields) :
    ∃ v, fieldValue fields a.column = some v ∧
      bound ((fields.map Prod.snd).reduceOption ++ [id]) a.placeholder = some v := by
  obtain ⟨v, i, hmem, hplace, hvalue⟩ := numberFrom_value ha
  refine ⟨v, fieldValue_of_mem hnd hmem, ?_⟩
  rw [hplace]
  exact bound_append hvalue

theorem column_numbered_iff (hnd : (fields.map Prod.fst).Nodup) (c : C) :
    (∃ a ∈ numberFrom n fields, a.column = c) ↔ (fieldValue fields c).isSome := by
  have hmem : (∃ a ∈ numberFrom n fields, a.column = c) ↔
      c ∈ (numberFrom n fields).map Assignment.column := List.mem_map.symm
  rw [hmem, numberFrom_columns]
  constructor
  · intro h
    obtain ⟨f, hf, rfl⟩ := List.mem_map.1 h
    obtain ⟨hmem, hsome⟩ := List.mem_filter.1 hf
    rw [fieldValue_of_mem hnd hmem]
    exact hsome
  · intro h
    obtain ⟨v, hv⟩ := Option.isSome_iff_exists.1 h
    exact List.mem_map.2 ⟨_, List.mem_filter.2 ⟨mem_of_fieldValue hv, rfl⟩, rfl⟩

/-- Placeholders that count from one to the number of values are accepted. -/
theorem accepted_of_numbered {stmt : UpdateStatement C} {binds : List V}
    (hnodup : (stmt.touched :: stmt.set.map Assignment.column).Nodup)
    (hnumbers : stmt.placeholders = List.range' 1 binds.length) :
    stmt.accepted binds = true := by
  have hall : stmt.placeholders.all (fun n => (bound binds n).isSome) = true := by
    rw [List.all_eq_true, hnumbers]
    intro n hn
    obtain ⟨hlow, hhigh⟩ := List.mem_range'_1.1 hn
    obtain ⟨i, rfl⟩ : ∃ i, n = i + 1 := ⟨n - 1, by omega⟩
    show (binds[i]?).isSome = true
    rw [List.getElem?_eq_getElem (by omega)]
    rfl
  simp only [UpdateStatement.accepted, hall, decide_eq_true hnodup, Bool.true_and,
    List.all_eq_true]
  intro n hn
  rw [hnumbers]
  exact List.contains_iff_mem.2 hn

theorem assigned_eq {stmt : UpdateStatement C} {binds : List V} {value : C → Option V}
    (hbound : ∀ a ∈ stmt.set, ∃ v, value a.column = some v ∧ bound binds a.placeholder = some v)
    (hcolumns : ∀ c, (∃ a ∈ stmt.set, a.column = c) ↔ (value c).isSome) (c : C) :
    stmt.assigned binds c = value c := by
  unfold UpdateStatement.assigned
  cases hfind : stmt.set.find? fun a => a.column = c with
  | none =>
    have hnone : ¬ ∃ a ∈ stmt.set, a.column = c := by
      rintro ⟨a, ha, rfl⟩
      simpa using List.find?_eq_none.1 hfind a ha
    rw [hcolumns, Option.not_isSome_iff_eq_none] at hnone
    rw [hnone]
    rfl
  | some a =>
    obtain ⟨v, hvalue, hv⟩ := hbound a (List.mem_of_find?_eq_some hfind)
    have hc : a.column = c := by simpa using List.find?_some hfind
    rw [← hc, hvalue]
    exact hv

/-- Two passes over the same fields, one for the columns and one for the values,
give a statement that sets these fields. -/
theorem setsFields_of_fields {stmt : UpdateStatement C} {binds : List V} {id : V}
    (hnd : (fields.map Prod.fst).Nodup) (htouched : stmt.touched ∉ fields.map Prod.fst)
    (hset : stmt.set = addCols (fields.map fun f => (f.1, f.2.isSome)))
    (hkey : stmt.keyPlaceholder = stmt.set.length + 1)
    (hbinds : binds = bindAll (fields.map Prod.snd) ++ [id]) :
    SetsFields stmt binds (fieldValue fields) id := by
  rw [addCols_eq] at hset
  rw [bindAll_eq] at hbinds
  have hbound : ∀ a ∈ stmt.set, ∃ v, fieldValue fields a.column = some v ∧
      bound binds a.placeholder = some v := by
    rw [hset, hbinds]
    exact fun a => bound_of_mem hnd
  have hcolumns : ∀ c, (∃ a ∈ stmt.set, a.column = c) ↔ (fieldValue fields c).isSome := by
    rw [hset]
    exact column_numbered_iff hnd
  have hcount : stmt.set.length = (fields.map Prod.snd).reduceOption.length := by
    have hnumbers := congrArg List.length (numberFrom_placeholders 1 fields)
    rwa [List.length_map, List.length_range', ← hset] at hnumbers
  have hlength : stmt.keyPlaceholder = binds.length := by
    rw [hkey, hcount, hbinds, List.length_append, List.length_singleton]
  have hlast : bound binds stmt.keyPlaceholder = some id := by
    rw [hlength, hbinds, List.length_append, List.length_singleton]
    show (_ ++ [id])[_]? = some id
    rw [List.getElem?_concat_length]
  have haccepted : stmt.accepted binds = true := by
    apply accepted_of_numbered
    · rw [hset, numberFrom_columns, List.nodup_cons]
      have hsub : ((fields.filter fun f => f.2.isSome).map Prod.fst).Sublist
          (fields.map Prod.fst) := List.filter_sublist.map _
      exact ⟨fun h => htouched (hsub.subset h), hnd.sublist hsub⟩
    · rw [UpdateStatement.placeholders, hset, numberFrom_placeholders, hlength, hbinds,
        List.length_append, List.length_singleton, List.range'_concat]
      simp [Nat.add_comm]
  refine ⟨hbound, hcolumns, ⟨hlength, by simp [hbinds]⟩, fun eq now table => ?_⟩
  rw [UpdateStatement.run, if_pos haccepted, hlast]
  congr 1
  apply List.map_congr_left
  intro row _
  simp only [Option.any_some]
  split
  · funext c
    rw [UpdateStatement.write, assigned_eq hbound hcolumns]
  · rfl

end

end KlassGateway.Lib.Sql
