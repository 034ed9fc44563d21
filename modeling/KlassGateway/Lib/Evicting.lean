import KlassGateway.Lib.Upsert
import Mathlib.Logic.Function.Basic
/-!
# Tables that may lose rows

A cache keeps what was last put under a key, but not for ever.  `Caches` relates such a table to
the map of what was put: every row is up to date, and a key without a row was never put, or is one
that may be gone.

* `Caches.upsert`: an insertion is a new value of the map.
* `Caches.map`: an update of rows in place.
* `Caches.filter`: rows may be removed if their keys may be gone.
-/

namespace KlassGateway.Lib.Table

variable {K R V : Type} [DecidableEq K]

/-- The table holds of the map `m` what may not be `gone`. -/
structure Caches (key : R → K) (view : R → V) (gone : K → V → Prop) (rows : List R)
    (m : K → Option V) : Prop where
  nodup : (rows.map key).Nodup
  current : ∀ r ∈ rows, m (key r) = some (view r)
  missing : ∀ k v, m k = some v → k ∉ rows.map key → gone k v

variable {key : R → K} {view : R → V} {gone gone' : K → V → Prop} {rows : List R}
  {m m' : K → Option V} {k : K} {r : R}

namespace Caches

omit [DecidableEq K] in
/-- The empty table holds the empty map. -/
theorem nil : Caches key view gone [] fun _ => none where
  nodup := List.nodup_nil
  current _ h := absurd h List.not_mem_nil
  missing _ _ h := by cases h

/-- Rows of one key are one row. -/
theorem eq_of_key (h : Caches key view gone rows m) {r' : R} (hr : r ∈ rows) (hr' : r' ∈ rows)
    (hkey : key r = key r') : r = r' := by
  have hfound := find_of_mem h.nodup hr
  rw [hkey, find_of_mem h.nodup hr'] at hfound
  exact (Option.some.inj hfound).symm

omit [DecidableEq K] in
/-- More may be gone. -/
theorem mono (h : Caches key view gone rows m) (hgone : ∀ k v, gone k v → gone' k v) :
    Caches key view gone' rows m where
  nodup := h.nodup
  current := h.current
  missing k v hv hk := hgone k v (h.missing k v hv hk)

/-- An insertion, where a merge has the value of the new row. -/
theorem upsert {merge : R → R → R} {new : R} (h : Caches key view gone rows m)
    (hmerge : ∀ new old, key old = key new → key (merge new old) = key new)
    (hview : ∀ old, view (merge new old) = view new)
    (hgone : ∀ k v, k ≠ key new → gone k v → gone' k v) :
    Caches key view gone' (Table.upsert key merge new rows)
      (Function.update m (key new) (some (view new))) where
  nodup := nodup_upsert hmerge h.nodup
  current r hr := by
    rcases mem_upsert hr with ⟨hold, hne⟩ | ⟨rfl, -⟩ | ⟨old, -, hkey, rfl⟩
    · rw [Function.update_of_ne hne]
      exact h.current r hold
    · exact Function.update_self ..
    · rw [hmerge new old hkey, Function.update_self, hview]
  missing k v hv hk := by
    rw [mem_map_key_upsert hmerge, not_or] at hk
    rw [Function.update_of_ne hk.2] at hv
    exact hgone k v hk.2 (h.missing k v hv hk.1)

omit [DecidableEq K] in
/-- An update of rows in place, with the map after it. -/
theorem map {f : R → R} (h : Caches key view gone rows m) (hkey : ∀ r, key (f r) = key r)
    (hcurrent : ∀ r ∈ rows, m' (key r) = some (view (f r)))
    (hmissing : ∀ k v, m' k = some v → k ∉ rows.map key → gone' k v) :
    Caches key view gone' (rows.map f) m' := by
  have hkeys : (rows.map f).map key = rows.map key := by
    rw [List.map_map]
    exact List.map_congr_left fun r _ => hkey r
  refine ⟨?_, fun r hr => ?_, fun k v hv hk => hmissing k v hv (hkeys ▸ hk)⟩
  · rw [hkeys]
    exact h.nodup
  · obtain ⟨old, hold, rfl⟩ := List.mem_map.1 hr
    rw [hkey]
    exact hcurrent old hold

omit [DecidableEq K] in
/-- Rows may be removed if their keys may be gone. -/
theorem filter {p : R → Bool} (h : Caches key view gone rows m)
    (hgone : ∀ k v, gone k v → gone' k v)
    (hremoved : ∀ r ∈ rows, p r = false → gone' (key r) (view r)) :
    Caches key view gone' (rows.filter p) m where
  nodup := h.nodup.sublist (List.filter_sublist.map key)
  current r hr := h.current r (List.mem_filter.1 hr).1
  missing k v hv hk := by
    by_cases hin : k ∈ rows.map key
    · obtain ⟨r, hr, rfl⟩ := List.mem_map.1 hin
      have hcurrent := h.current r hr
      rw [hv] at hcurrent
      rw [Option.some.inj hcurrent]
      refine hremoved r hr (Bool.eq_false_iff.2 fun hp => hk ?_)
      exact List.mem_map_of_mem (List.mem_filter.2 ⟨hr, hp⟩)
    · exact hgone k v (h.missing k v hv hin)

end Caches

end KlassGateway.Lib.Table
