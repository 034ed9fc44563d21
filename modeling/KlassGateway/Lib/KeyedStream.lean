import KlassGateway.Lib.RedisStream
/-!
# Streams whose entries carry keys

Several entries of a stream may be about one piece of work, which their key names.  `under k` are
the entries of a key in their order, and `IsLast k e` says that `e` is the newest of them.

* `Sound` is what every command keeps: the entries are in order, and the group has seen no id that
  has not been given.
* `unread_of_add` and `not_unread_of_read` say which entries a read can still deliver.
* `under_of_isLast` and `under_add` are for a chain of entries of which each replaces the one
  before.
-/

namespace KlassGateway.Lib.Stream

variable {M K : Type} {s s' : Stream M} {e e' : StreamEntry M}

/-! ## Sound streams -/

/-- The entries are in order, and the group has seen no id that has not been given. -/
structure Sound (s : Stream M) : Prop where
  wf : s.WF
  seen : ∀ g, s.group = some g → g.lastDelivered ≤ s.lastId

theorem sound_empty : ({} : Stream M).Sound := ⟨wf_empty, fun _ hg => by cases hg⟩

theorem Sound.add (h : s.Sound) (fields : M) : (s.add fields).2.Sound :=
  ⟨h.wf.add fields, fun g hg => Nat.le_succ_of_le (h.seen g hg)⟩

/-- Entries with one id are one entry. -/
theorem WF.eq_of_id (h : s.WF) (he : e ∈ s.entries) (he' : e' ∈ s.entries) (hid : e.id = e'.id) :
    e = e' := by
  have hnodup : (s.entries.map StreamEntry.id).Nodup :=
    List.pairwise_map.2 (h.sorted.imp fun hlt => Nat.ne_of_lt hlt)
  exact List.inj_on_of_nodup_map hnodup he he' hid

theorem WF.unread_sorted (h : s.WF) : s.unread.Pairwise fun a b => a.id < b.id := by
  unfold unread
  cases s.group with
  | none => exact List.Pairwise.nil
  | some g => exact h.sorted.sublist List.filter_sublist

/-- A read delivers unread entries, which are not unread after it. -/
theorem not_unread_of_read {c : String} {n : Nat} {es : List (StreamEntry M)} (h : s.WF)
    (hs : s.readGroup c n = some (es, s')) (he : e ∈ es) : e ∈ s.unread ∧ e ∉ s'.unread := by
  have hsplit := unread_readGroup h hs
  refine ⟨hsplit ▸ List.mem_append_left _ he, fun hrest => ?_⟩
  have hsorted := h.unread_sorted
  rw [hsplit, List.pairwise_append] at hsorted
  exact Nat.lt_irrefl _ (hsorted.2.2 e he e hrest)

/-- A read delivers each entry once. -/
theorem nodup_of_read {c : String} {n : Nat} {es : List (StreamEntry M)} (h : s.WF)
    (hs : s.readGroup c n = some (es, s')) : es.Nodup := by
  have hsorted := h.unread_sorted
  rw [unread_readGroup h hs, List.pairwise_append] at hsorted
  refine hsorted.1.imp fun hlt => ?_
  rintro rfl
  exact Nat.lt_irrefl _ hlt

theorem Sound.read {c : String} {n : Nat} {es : List (StreamEntry M)} (h : s.Sound)
    (hs : s.readGroup c n = some (es, s')) : s'.Sound := by
  refine ⟨h.wf.readGroup hs, fun g' hg' => ?_⟩
  obtain ⟨g, hg, he⟩ := Option.map_eq_some_iff.1 hs
  obtain ⟨-, rfl⟩ := Prod.mk.inj he
  obtain rfl := Option.some.inj hg'
  cases hlast : (s.unread.take n).getLast? with
  | none => exact h.seen g hg
  | some e =>
    have hmem : e ∈ s.unread := List.mem_of_mem_take (List.mem_of_getLast? hlast)
    exact h.wf.le_lastId e (unread_subset hmem)

/-- An entry that is unread after `XADD` was unread before, or it is the new one. -/
theorem unread_of_add {fields : M} (he : e ∈ (s.add fields).2.unread) :
    e ∈ s.unread ∨ e = ⟨s.lastId + 1, fields⟩ := by
  obtain ⟨hmem, g, hg, hlt⟩ := mem_unread.1 he
  rcases List.mem_append.1 hmem with hold | hnew
  · exact .inl (mem_unread.2 ⟨hold, g, hg, hlt⟩)
  · exact .inr (List.mem_singleton.1 hnew)

/-! ## Commands that keep the entries -/

/-- The entries stay, and none of them becomes unread. -/
structure Keeps (s s' : Stream M) : Prop where
  entries : s'.entries = s.entries
  unread : ∀ e ∈ s'.unread, e ∈ s.unread

theorem Keeps.refl (s : Stream M) : Keeps s s := ⟨rfl, fun _ he => he⟩

theorem keeps_ack (s : Stream M) (id : Nat) : Keeps s (s.ack id) :=
  ⟨rfl, fun _ he => s.unread_ack id ▸ he⟩

theorem keeps_claim (s : Stream M) (consumer : String) (id : Nat) :
    Keeps s (s.claim consumer id) := ⟨rfl, fun _ he => s.unread_claim consumer id ▸ he⟩

/-- A new group starts after the last entry. -/
theorem keeps_createGroup (h : s.WF) (hs : s.createGroup = some s') : Keeps s s' := by
  unfold createGroup at hs
  split at hs
  · cases hs
  · cases hs
    refine ⟨rfl, fun e he => ?_⟩
    obtain ⟨hmem, g, hg, hlt⟩ := mem_unread.1 he
    obtain rfl := Option.some.inj hg
    exact absurd (h.le_lastId e hmem) (Nat.not_le_of_lt hlt)

theorem keeps_read {c : String} {n : Nat} {es : List (StreamEntry M)} (h : s.WF)
    (hs : s.readGroup c n = some (es, s')) : Keeps s s' := by
  refine ⟨?_, fun e he => unread_readGroup h hs ▸ List.mem_append_right _ he⟩
  obtain ⟨g, _, hg⟩ := Option.map_eq_some_iff.1 hs
  cases hg
  rfl

theorem Sound.mapGroup (h : s.Sound) {f : ConsumerGroup → ConsumerGroup}
    (hf : ∀ g, (f g).lastDelivered = g.lastDelivered) : (s.mapGroup f).Sound := by
  refine ⟨h.wf.mapGroup f, fun g' hg' => ?_⟩
  obtain ⟨g, hg, rfl⟩ := Option.map_eq_some_iff.1 hg'
  rw [hf]
  exact h.seen g hg

theorem Sound.createGroup (h : s.Sound) (hs : s.createGroup = some s') : s'.Sound := by
  refine ⟨h.wf.createGroup hs, fun g hg => ?_⟩
  unfold Stream.createGroup at hs
  split at hs
  · cases hs
  · cases hs
    obtain rfl := Option.some.inj hg
    exact Nat.le_refl _

/-! ## Entries of one key -/

variable {key : M → Option K} {k : K} {fields : M}

/-- The newest entry of a key. -/
structure IsLast (key : M → Option K) (k : K) (s : Stream M) (e : StreamEntry M) : Prop where
  mem : e ∈ s.entries
  key_eq : key e.fields = some k
  newest : ∀ e' ∈ s.entries, key e'.fields = some k → e'.id ≤ e.id

theorem IsLast.eq (h : s.WF) (he : IsLast key k s e) (he' : IsLast key k s e') : e = e' :=
  h.eq_of_id he.mem he'.mem
    (Nat.le_antisymm (he'.newest e he.mem he.key_eq) (he.newest e' he'.mem he'.key_eq))

/-- A new entry is the newest of its key. -/
theorem isLast_add (h : s.WF) (hk : key fields = some k) :
    IsLast key k (s.add fields).2 ⟨s.lastId + 1, fields⟩ := by
  refine ⟨List.mem_append_right _ List.mem_cons_self, hk, fun e' he' _ => ?_⟩
  rcases List.mem_append.1 he' with hold | hnew
  · exact Nat.le_succ_of_le (h.le_lastId e' hold)
  · rw [List.mem_singleton.1 hnew]

/-- A new entry of another key leaves the newest of this one. -/
theorem IsLast.add (he : IsLast key k s e) (hk : key fields ≠ some k) :
    IsLast key k (s.add fields).2 e := by
  refine ⟨List.mem_append_left _ he.mem, he.key_eq, fun e' he' hkey => ?_⟩
  rcases List.mem_append.1 he' with hold | hnew
  · exact he.newest e' hold hkey
  · rw [List.mem_singleton.1 hnew] at hkey
    exact absurd hkey hk

variable [DecidableEq K]

/-- The entries of a key, in their order. -/
def under (key : M → Option K) (k : K) (s : Stream M) : List (StreamEntry M) :=
  s.entries.filter fun e => key e.fields = some k

theorem mem_under : e ∈ under key k s ↔ e ∈ s.entries ∧ key e.fields = some k := by
  simp [under]

theorem under_add : under key k (s.add fields).2 =
    under key k s ++ if key fields = some k then [⟨s.lastId + 1, fields⟩] else [] := by
  unfold under
  by_cases hk : key fields = some k
  · simp [add, hk]
  · simp [add, hk]

/-- The entries of a key end with the newest. -/
theorem under_of_isLast (h : s.WF) (he : IsLast key k s e) :
    ∃ before, under key k s = before ++ [e] := by
  have hsorted : (under key k s).Pairwise fun a b => a.id < b.id :=
    h.sorted.sublist List.filter_sublist
  have hmem : e ∈ under key k s := mem_under.2 ⟨he.mem, he.key_eq⟩
  obtain ⟨before, after, hsplit⟩ := List.append_of_mem hmem
  refine ⟨before, ?_⟩
  cases after with
  | nil => exact hsplit
  | cons a rest =>
    rw [hsplit, List.pairwise_append, List.pairwise_cons] at hsorted
    have hlt := hsorted.2.1.1 a List.mem_cons_self
    have ha : a ∈ under key k s := by
      rw [hsplit]
      exact List.mem_append_right _ (List.mem_cons_of_mem _ List.mem_cons_self)
    obtain ⟨hmem', hkey⟩ := mem_under.1 ha
    exact absurd (he.newest a hmem' hkey) (Nat.not_le_of_lt hlt)

end KlassGateway.Lib.Stream
