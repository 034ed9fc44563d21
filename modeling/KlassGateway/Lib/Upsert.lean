import KlassGateway.Lib.Table
import Mathlib.Data.List.Nodup
/-!
# Insertions that may meet a row of their key

`upsert` is `INSERT ... ON CONFLICT (key) DO UPDATE`: a row under a new key is appended, and
the row that has the key already is merged with the one that was to be inserted.  The lemmas
assume that the merge keeps the key.
-/

namespace KlassGateway.Lib.Table

variable {K R : Type} [DecidableEq K]

/-- Insert a row, or merge it into the row under its key. -/
def upsert (key : R → K) (merge : R → R → R) (new : R) (rows : List R) : List R :=
  if (find key (key new) rows).isSome then modify key (key new) (merge new) rows
  else rows ++ [new]

variable {key : R → K} {merge : R → R → R} {new r : R} {rows : List R} {k : K}

theorem find_eq_none_iff : find key k rows = none ↔ k ∉ rows.map key := by
  simp only [find, List.find?_eq_none, decide_eq_true_eq, List.mem_map, not_exists, not_and]

theorem find_isSome_iff : (find key k rows).isSome ↔ k ∈ rows.map key := by
  rw [Option.isSome_iff_ne_none, ne_eq, find_eq_none_iff, not_not]

/-- A row after an insertion is an old row under another key, the new row, or a merge. -/
theorem mem_upsert (h : r ∈ upsert key merge new rows) :
    (r ∈ rows ∧ key r ≠ key new) ∨ (r = new ∧ key new ∉ rows.map key) ∨
      ∃ old ∈ rows, key old = key new ∧ r = merge new old := by
  unfold upsert at h
  split at h
  · rcases mem_modify h with hold | hmerged
    · exact Or.inl hold
    · exact Or.inr (Or.inr hmerged)
  · next hnone =>
    have hkey : key new ∉ rows.map key := fun hmem => hnone (find_isSome_iff.2 hmem)
    rcases List.mem_append.1 h with hold | hnew
    · refine Or.inl ⟨hold, fun heq => hkey ?_⟩
      rw [← heq]
      exact List.mem_map_of_mem hold
    · exact Or.inr (Or.inl ⟨List.mem_singleton.1 hnew, hkey⟩)

/-- A row of the table stays, as it is or merged. -/
theorem mem_upsert_of_mem (h : r ∈ rows) :
    r ∈ upsert key merge new rows ∨ merge new r ∈ upsert key merge new rows := by
  unfold upsert
  split
  · by_cases hk : key r = key new
    · exact Or.inr (List.mem_map.2 ⟨r, h, if_pos hk⟩)
    · exact Or.inl (List.mem_map.2 ⟨r, h, if_neg hk⟩)
  · exact Or.inl (List.mem_append_left _ h)

theorem mem_upsert_of_ne (h : r ∈ rows) (hne : key r ≠ key new) :
    r ∈ upsert key merge new rows := by
  unfold upsert
  split
  · exact List.mem_map.2 ⟨r, h, if_neg hne⟩
  · exact List.mem_append_left _ h

/-- A column that the merge keeps gets at most the value of the new row. -/
theorem map_upsert_of_merge {C : Type} {col : R → C} (hcol : ∀ old, col (merge new old) = col old) :
    (upsert key merge new rows).map col = rows.map col ∨
      (upsert key merge new rows).map col = rows.map col ++ [col new] := by
  unfold upsert
  split
  · refine Or.inl ?_
    unfold modify
    rw [List.map_map]
    refine List.map_congr_left fun r _ => ?_
    by_cases hk : key r = key new
    · simp [hk, hcol]
    · simp [hk]
  · exact Or.inr List.map_append

section MergeKeepsKey

variable (hmerge : ∀ new old, key old = key new → key (merge new old) = key new)
include hmerge

theorem map_key_upsert :
    (upsert key merge new rows).map key =
      if key new ∈ rows.map key then rows.map key else rows.map key ++ [key new] := by
  unfold upsert
  by_cases h : key new ∈ rows.map key
  · rw [if_pos (find_isSome_iff.2 h), if_pos h, map_key_modify (hmerge new)]
  · rw [if_neg (fun hsome => h (find_isSome_iff.1 hsome)), if_neg h, List.map_append]
    rfl

/-- An insertion keeps the keys distinct. -/
theorem nodup_upsert (h : (rows.map key).Nodup) : ((upsert key merge new rows).map key).Nodup := by
  rw [map_key_upsert hmerge]
  split
  · exact h
  · next hnew =>
    rw [List.nodup_append]
    refine ⟨h, List.nodup_singleton _, ?_⟩
    intro a ha b hb
    obtain rfl := List.mem_singleton.1 hb
    intro heq
    exact hnew (heq ▸ ha)

theorem mem_map_key_upsert :
    k ∈ (upsert key merge new rows).map key ↔ k ∈ rows.map key ∨ k = key new := by
  rw [map_key_upsert hmerge]
  split
  · next hnew =>
    constructor
    · exact Or.inl
    · rintro (h | rfl)
      · exact h
      · exact hnew
  · rw [List.mem_append, List.mem_singleton]

theorem find_upsert_self :
    find key (key new) (upsert key merge new rows) =
      some ((find key (key new) rows).elim new (merge new)) := by
  unfold upsert
  cases h : find key (key new) rows with
  | none =>
    rw [if_neg (by simp), find_append, h]
    simp
  | some old =>
    rw [if_pos (by simp), find_modify_self (hmerge new), h]
    rfl

/-- The row under the key of an insertion is a row of the table. -/
theorem exists_mem_upsert : ∃ r ∈ upsert key merge new rows, key r = key new := by
  have hfound : find key (key new) (upsert key merge new rows) = _ := find_upsert_self hmerge
  exact ⟨_, find_mem hfound, find_key hfound⟩

end MergeKeepsKey

/-! ## Several insertions -/

/-- Insert some rows in order. -/
def upsertAll (key : R → K) (merge : R → R → R) (news rows : List R) : List R :=
  news.foldl (fun rows new => upsert key merge new rows) rows

/-- A row whose key is not inserted stays. -/
theorem mem_upsertAll_of_not_mem {news : List R} (h : r ∈ rows) (hkey : key r ∉ news.map key) :
    r ∈ upsertAll key merge news rows := by
  induction news generalizing rows with
  | nil => exact h
  | cons new news ih =>
    rw [List.map_cons, List.mem_cons, not_or] at hkey
    exact ih (mem_upsert_of_ne h hkey.1) hkey.2

section MergeKeepsKey

variable {news : List R} (hmerge : ∀ new old, key old = key new → key (merge new old) = key new)
include hmerge

/-- With distinct new keys, a row is an old one under another key, a new one, or a merge of a new
one with the old one of its key. -/
theorem mem_upsertAll (hnews : (news.map key).Nodup) (h : r ∈ upsertAll key merge news rows) :
    (r ∈ rows ∧ key r ∉ news.map key) ∨ ∃ new ∈ news, (r = new ∧ key new ∉ rows.map key) ∨
      ∃ old ∈ rows, key old = key new ∧ r = merge new old := by
  induction news generalizing rows with
  | nil => exact Or.inl ⟨h, List.not_mem_nil⟩
  | cons new news ih =>
    rw [List.map_cons, List.nodup_cons] at hnews
    have hstep : r ∈ upsertAll key merge news (upsert key merge new rows) := h
    rcases ih hnews.2 hstep with ⟨hold, hkey⟩ | ⟨new', hnew', hcases⟩
    · rcases mem_upsert hold with ⟨hmem, hne⟩ | hfresh | hmerged
      · refine Or.inl ⟨hmem, fun hin => ?_⟩
        rcases List.mem_cons.1 hin with heq | hin
        · exact hne heq
        · exact hkey hin
      · exact Or.inr ⟨new, List.mem_cons_self, Or.inl hfresh⟩
      · exact Or.inr ⟨new, List.mem_cons_self, Or.inr hmerged⟩
    · have hne : key new' ≠ key new := by
        intro heq
        exact hnews.1 (heq ▸ List.mem_map_of_mem hnew')
      refine Or.inr ⟨new', List.mem_cons_of_mem _ hnew', ?_⟩
      rcases hcases with ⟨hr, habsent⟩ | ⟨old, hold, hkey, hr⟩
      · exact Or.inl ⟨hr, fun hin => habsent ((mem_map_key_upsert hmerge).2 (Or.inl hin))⟩
      · rcases mem_upsert hold with ⟨hmem, -⟩ | ⟨hfresh, -⟩ | ⟨older, hmem, hokey, hmerged⟩
        · exact Or.inr ⟨old, hmem, hkey, hr⟩
        · exact absurd (hkey.symm.trans (congrArg key hfresh)) hne
        · have holdkey : key old = key new := by
            rw [hmerged, hmerge new older hokey]
          exact absurd (hkey.symm.trans holdkey) hne

theorem mem_map_key_upsertAll :
    k ∈ (upsertAll key merge news rows).map key ↔ k ∈ rows.map key ∨ k ∈ news.map key := by
  induction news generalizing rows with
  | nil => simp [upsertAll]
  | cons new news ih =>
    have hstep := @ih (upsert key merge new rows)
    rw [mem_map_key_upsert hmerge] at hstep
    rw [List.map_cons, List.mem_cons, ← or_assoc]
    exact hstep

end MergeKeepsKey

end KlassGateway.Lib.Table
