import Mathlib.Data.List.Basic
/-!
# Tables of keyed rows

A table is a list of rows with a key function, in insertion order.  `find` is
a lookup by key, `modify` an update of the row under a key.  The lemmas say
how the two compose; they assume only that the update keeps the key it is
applied under.
-/

namespace KlassGateway.Lib.Table

variable {K R : Type} [DecidableEq K]

/-- The row under a key. -/
def find (key : R → K) (k : K) (rows : List R) : Option R := rows.find? fun r => key r = k

/-- Update the row under a key. -/
def modify (key : R → K) (k : K) (f : R → R) (rows : List R) : List R :=
  rows.map fun r => if key r = k then f r else r

variable {key : R → K} {k k' : K} {f : R → R} {rows : List R} {r : R}

theorem find_key (h : find key k rows = some r) : key r = k := by
  simpa using List.find?_some h

theorem find_mem (h : find key k rows = some r) : r ∈ rows := List.mem_of_find?_eq_some h

/-- With distinct keys, a row of the table is what its key finds. -/
theorem find_of_mem (hnd : (rows.map key).Nodup) (h : r ∈ rows) :
    find key (key r) rows = some r := by
  induction rows with
  | nil => cases h
  | cons a rows ih =>
    rw [List.map_cons, List.nodup_cons] at hnd
    rcases List.mem_cons.1 h with rfl | h
    · simp [find]
    · have hne : key a ≠ key r := fun he => hnd.1 (he ▸ List.mem_map_of_mem h)
      simpa [find, hne] using ih hnd.2 h

theorem find_cons (a : R) (rows : List R) :
    find key k (a :: rows) = if key a = k then some a else find key k rows := by
  by_cases ha : key a = k <;> simp [find, ha]

theorem modify_cons (a : R) (rows : List R) :
    modify key k f (a :: rows) = (if key a = k then f a else a) :: modify key k f rows := rfl

@[simp] theorem find_modify_self (hf : ∀ r, key r = k → key (f r) = k) :
    find key k (modify key k f rows) = (find key k rows).map f := by
  induction rows with
  | nil => rfl
  | cons a rows ih =>
    rw [modify_cons, find_cons, find_cons]
    by_cases ha : key a = k
    · simp [ha, hf]
    · simp [ha, ih]

@[simp] theorem find_modify_of_ne (hf : ∀ r, key r = k → key (f r) = k) (hne : k' ≠ k) :
    find key k' (modify key k f rows) = find key k' rows := by
  induction rows with
  | nil => rfl
  | cons a rows ih =>
    rw [modify_cons, find_cons, find_cons]
    by_cases ha : key a = k
    · simp [ha, hf, hne.symm, ih]
    · simp [ha, ih]

/-- A lookup by another key that the update keeps. -/
theorem find_modify_of_key {K' : Type} [DecidableEq K'] {key' : R → K'}
    (hf : ∀ r, key' (f r) = key' r) (k' : K') :
    find key' k' (modify key k f rows) =
      (find key' k' rows).map fun r => if key r = k then f r else r := by
  induction rows with
  | nil => rfl
  | cons a rows ih =>
    have hkey : key' (if key a = k then f a else a) = key' a := by
      split
      · exact hf a
      · rfl
    rw [modify_cons, find_cons, find_cons, hkey, ih]
    by_cases ha : key' a = k'
    · rw [if_pos ha, if_pos ha]
      rfl
    · rw [if_neg ha, if_neg ha]

/-- An update that keeps the key keeps the list of keys. -/
@[simp] theorem map_key_modify (hf : ∀ r, key r = k → key (f r) = k) :
    (modify key k f rows).map key = rows.map key := by
  induction rows with
  | nil => rfl
  | cons a rows ih =>
    by_cases ha : key a = k
    · simpa [modify, ha, hf] using ih
    · simpa [modify, ha] using ih

/-- Two updates that agree on the row that the key finds are the same. -/
theorem modify_congr {g : R → R} (hnd : (rows.map key).Nodup) (hr : find key k rows = some r)
    (hfg : f r = g r) : modify key k f rows = modify key k g rows := by
  unfold modify
  apply List.map_congr_left
  intro a ha
  by_cases hk : key a = k
  · have hfound := find_of_mem hnd ha
    rw [hk, hr] at hfound
    obtain rfl := Option.some.inj hfound
    rw [if_pos hk, if_pos hk, hfg]
  · rw [if_neg hk, if_neg hk]

/-- An update that keeps the row that the key finds changes nothing. -/
theorem modify_eq_self (hnd : (rows.map key).Nodup) (hr : find key k rows = some r)
    (hf : f r = r) : modify key k f rows = rows := by
  have hid : modify key k f rows = modify key k id rows := modify_congr hnd hr hf
  rw [hid]
  simp [modify]

/-- A row of an updated table is an old row, or the update of one. -/
theorem mem_modify (h : r ∈ modify key k f rows) :
    (r ∈ rows ∧ key r ≠ k) ∨ ∃ a ∈ rows, key a = k ∧ r = f a := by
  obtain ⟨a, ha, rfl⟩ := List.mem_map.1 h
  by_cases hk : key a = k
  · exact .inr ⟨a, ha, hk, by simp [hk]⟩
  · exact .inl ⟨by simpa [hk] using ha, by simp [hk]⟩

/-- A lookup after an insertion finds the old rows first. -/
theorem find_append (new : R) :
    find key k (rows ++ [new]) =
      (find key k rows).or (if key new = k then some new else none) := by
  unfold find
  rw [List.find?_append]
  congr 1
  by_cases h : key new = k <;> simp [h]

/-- A lookup that finds no excluded row finds the same among the others. -/
theorem find_filter {p : R → Bool} (h : ∀ r, find key k rows = some r → p r = true) :
    find key k (rows.filter p) = find key k rows := by
  induction rows with
  | nil => rfl
  | cons a rows ih =>
    rw [find_cons] at h ⊢
    by_cases ha : key a = k
    · rw [if_pos ha] at h ⊢
      rw [List.filter_cons_of_pos (h a rfl), find_cons, if_pos ha]
    · rw [if_neg ha] at h ⊢
      by_cases hp : p a
      · rw [List.filter_cons_of_pos hp, find_cons, if_neg ha, ih h]
      · rw [List.filter_cons_of_neg hp, ih h]

end KlassGateway.Lib.Table
