import Mathlib.Data.List.Basic
import Mathlib.Data.List.Sort
/-!
# Redis streams with one consumer group

The commands of a Redis stream that a work queue uses, for entries with fields
of any type.  Entry ids are numbered in the order of `XADD`.

* `add` is `XADD key *`, `createGroup` is `XGROUP CREATE key group $ MKSTREAM`.
* `readGroup` is `XREADGROUP ... COUNT n STREAMS key >`: it delivers the
  entries that the group has not seen and makes them pending.
* `ack` is `XACK`, `claim` is `XCLAIM`, `pendingIds` reads `XPENDING`.
* `delete` is `XDEL`.

`unread` are the entries that a `>` read can still deliver.  The lemmas say
how each command changes it; `unread_readGroup` is the main one: what a read
delivers is a prefix of the unread entries, and it is delivered only once.
-/

namespace KlassGateway.Lib

/-- An entry of a stream. -/
structure StreamEntry (M : Type) where
  id : Nat
  fields : M

/-- An entry that was delivered and not acknowledged. -/
structure PendingEntry where
  id : Nat
  consumer : String
  deliveries : Nat

/-- A consumer group. -/
structure ConsumerGroup where
  lastDelivered : Nat
  pending : List PendingEntry := []

/-- A stream and its consumer group, if that has been created. -/
structure Stream (M : Type) where
  entries : List (StreamEntry M) := []
  lastId : Nat := 0
  group : Option ConsumerGroup := none

namespace Stream

variable {M : Type}

/-- `XADD key *`: the id of the new entry and the stream with it. -/
def add (s : Stream M) (fields : M) : Nat × Stream M :=
  (s.lastId + 1,
    { s with entries := s.entries ++ [⟨s.lastId + 1, fields⟩], lastId := s.lastId + 1 })

/-- `XGROUP CREATE ... $`: the group starts after the last entry.  `none` is
`BUSYGROUP`. -/
def createGroup (s : Stream M) : Option (Stream M) :=
  match s.group with
  | some _ => none
  | none => some { s with group := some { lastDelivered := s.lastId } }

/-- The entries that the group has not seen. -/
def unread (s : Stream M) : List (StreamEntry M) :=
  match s.group with
  | some g => s.entries.filter fun e => g.lastDelivered < e.id
  | none => []

/-- `XREADGROUP`: at most `count` unread entries.  `none` is `NOGROUP`. -/
def readGroup (s : Stream M) (consumer : String) (count : Nat) :
    Option (List (StreamEntry M) × Stream M) :=
  s.group.map fun g =>
    let es := s.unread.take count
    let g' : ConsumerGroup :=
      { lastDelivered := (es.getLast?.map StreamEntry.id).getD g.lastDelivered
        pending := g.pending ++ es.map fun e => ⟨e.id, consumer, 1⟩ }
    (es, { s with group := some g' })

/-- Change the group, if there is one. -/
def mapGroup (s : Stream M) (f : ConsumerGroup → ConsumerGroup) : Stream M :=
  { s with group := s.group.map f }

/-- `XACK`. -/
def ack (s : Stream M) (id : Nat) : Stream M :=
  s.mapGroup fun g => { g with pending := g.pending.filter fun p => p.id ≠ id }

/-- `XCLAIM` of one pending entry. -/
def claim (s : Stream M) (consumer : String) (id : Nat) : Stream M :=
  s.mapGroup fun g => { g with
    pending := g.pending.map fun p =>
      if p.id = id then ⟨p.id, consumer, p.deliveries + 1⟩ else p }

/-- `XDEL`. -/
def delete (s : Stream M) (id : Nat) : Stream M :=
  { s with entries := s.entries.filter fun e => e.id ≠ id }

/-- The pending entries. -/
def pending (s : Stream M) : List PendingEntry :=
  match s.group with
  | some g => g.pending
  | none => []

/-- The ids that `XPENDING ... - + count` lists. -/
def pendingIds (s : Stream M) (count : Nat) : List Nat := (s.pending.take count).map PendingEntry.id

/-! ## Well-formed streams -/

/-- Ids grow with the position, and none is above `lastId`. -/
structure WF (s : Stream M) : Prop where
  sorted : s.entries.Pairwise fun e e' => e.id < e'.id
  le_lastId : ∀ e ∈ s.entries, e.id ≤ s.lastId

theorem wf_empty : ({} : Stream M).WF := ⟨List.Pairwise.nil, by simp⟩

theorem WF.add {s : Stream M} (h : s.WF) (fields : M) : (s.add fields).2.WF := by
  refine ⟨List.pairwise_append.2 ⟨h.sorted, List.pairwise_singleton _ _, ?_⟩, ?_⟩
  · intro e he e' he'
    rw [List.mem_singleton.1 he']
    exact Nat.lt_succ_of_le (h.le_lastId e he)
  · intro e he
    rcases List.mem_append.1 he with he | he
    · exact Nat.le_succ_of_le (h.le_lastId e he)
    · rw [List.mem_singleton.1 he]
      exact Nat.le_refl _

theorem WF.mapGroup {s : Stream M} (h : s.WF) (f : ConsumerGroup → ConsumerGroup) :
    (s.mapGroup f).WF := ⟨h.sorted, h.le_lastId⟩

theorem WF.createGroup {s s' : Stream M} (h : s.WF) (hs : s.createGroup = some s') : s'.WF := by
  unfold Stream.createGroup at hs
  split at hs
  · cases hs
  · cases hs
    exact ⟨h.sorted, h.le_lastId⟩

theorem WF.readGroup {s s' : Stream M} {c : String} {n : Nat} {es : List (StreamEntry M)}
    (h : s.WF) (hs : s.readGroup c n = some (es, s')) : s'.WF := by
  obtain ⟨g, _, hg⟩ := Option.map_eq_some_iff.1 hs
  cases hg
  exact ⟨h.sorted, h.le_lastId⟩

/-! ## Unread entries -/

theorem mem_unread {s : Stream M} {e : StreamEntry M} :
    e ∈ s.unread ↔ e ∈ s.entries ∧ ∃ g, s.group = some g ∧ g.lastDelivered < e.id := by
  unfold unread
  cases s.group with
  | none => simp
  | some g => simp

theorem unread_subset {s : Stream M} {e : StreamEntry M} (h : e ∈ s.unread) : e ∈ s.entries :=
  (mem_unread.1 h).1

/-- A group change that does not move `lastDelivered` changes no unread
entry. -/
theorem unread_mapGroup (s : Stream M) {f : ConsumerGroup → ConsumerGroup}
    (hf : ∀ g, (f g).lastDelivered = g.lastDelivered) : (s.mapGroup f).unread = s.unread := by
  unfold unread mapGroup
  cases s.group with
  | none => rfl
  | some g => simp [hf]

@[simp] theorem unread_ack (s : Stream M) (id : Nat) : (s.ack id).unread = s.unread :=
  s.unread_mapGroup fun _ => rfl

@[simp] theorem unread_claim (s : Stream M) (c : String) (id : Nat) :
    (s.claim c id).unread = s.unread :=
  s.unread_mapGroup fun _ => rfl

/-- A new entry is unread as soon as the group exists. -/
theorem unread_add (s : Stream M) (fields : M) (hg : s.group.isSome)
    (hle : ∀ g, s.group = some g → g.lastDelivered ≤ s.lastId) :
    (s.add fields).2.unread = s.unread ++ [⟨s.lastId + 1, fields⟩] := by
  obtain ⟨g, hg⟩ := Option.isSome_iff_exists.1 hg
  have hlt : g.lastDelivered < s.lastId + 1 := Nat.lt_succ_of_le (hle g hg)
  simp [unread, add, hg, hlt]

/-- Before the group exists nothing is unread. -/
theorem unread_of_group_none {s : Stream M} (hg : s.group = none) : s.unread = [] := by
  simp [unread, hg]

/-- A new entry is unread if the group exists, and stays unseen before. -/
theorem unread_add_eq (s : Stream M) (fields : M)
    (hle : ∀ g, s.group = some g → g.lastDelivered ≤ s.lastId) :
    (s.add fields).2.unread =
      s.unread ++ if s.group.isSome then [⟨s.lastId + 1, fields⟩] else [] := by
  cases hg : s.group with
  | none => simp [unread, add, hg]
  | some g => exact s.unread_add fields (by simp [hg]) hle

/-- A group that starts after the last entry has nothing to read. -/
theorem WF.unread_start {s : Stream M} (h : s.WF) (pending : List PendingEntry) :
    { s with group := some ⟨s.lastId, pending⟩ }.unread = [] := by
  refine List.filter_eq_nil_iff.2 fun e he => ?_
  have hle := h.le_lastId e he
  simpa using hle

/-- The last entry of a sorted list separates it from what follows. -/
private theorem filter_lt_getLast {es fs : List (StreamEntry M)} {e : StreamEntry M}
    (hs : (es ++ fs).Pairwise fun a b => a.id < b.id) (he : es.getLast? = some e) :
    (es ++ fs).filter (fun a => e.id < a.id) = fs := by
  obtain ⟨ds, rfl⟩ := List.getLast?_eq_some_iff.1 he
  rw [List.pairwise_append] at hs
  obtain ⟨hds, -, hsep⟩ := hs
  rw [List.pairwise_append] at hds
  rw [List.filter_append]
  have h1 : (ds ++ [e]).filter (fun a => e.id < a.id) = [] := by
    rw [List.filter_eq_nil_iff]
    intro a ha
    rcases List.mem_append.1 ha with ha | ha
    · have := hds.2.2 a ha e (List.mem_singleton_self e)
      simp only [decide_eq_true_eq]
      omega
    · simp [List.mem_singleton.1 ha]
  have h2 : fs.filter (fun a => e.id < a.id) = fs := by
    rw [List.filter_eq_self]
    intro a ha
    exact decide_eq_true (hsep e (by simp) a ha)
  rw [h1, h2, List.nil_append]

/-- What a read delivers is a prefix of the unread entries, and the rest stays
unread. -/
theorem unread_readGroup {s s' : Stream M} {c : String} {n : Nat} {es : List (StreamEntry M)}
    (h : s.WF) (hs : s.readGroup c n = some (es, s')) : s.unread = es ++ s'.unread := by
  obtain ⟨g, hg, he⟩ := Option.map_eq_some_iff.1 hs
  have hu : s.unread = s.entries.filter fun e => g.lastDelivered < e.id := by
    simp [unread, hg]
  obtain ⟨rfl, rfl⟩ := Prod.mk.inj he
  cases hlast : (s.unread.take n).getLast? with
  | none =>
    simp only [Option.map_none, Option.getD_none]
    rw [List.getLast?_eq_none_iff.1 hlast, hu]
    rfl
  | some e =>
    have hsorted : (s.unread.take n ++ s.unread.drop n).Pairwise fun a b => a.id < b.id := by
      rw [List.take_append_drop, hu]
      exact h.sorted.sublist List.filter_sublist
    have hmem : e ∈ s.unread := List.mem_of_mem_take (List.mem_of_getLast? hlast)
    have hge : g.lastDelivered < e.id := by
      obtain ⟨_, g', hg', hlt⟩ := mem_unread.1 hmem
      rw [hg] at hg'
      cases hg'
      exact hlt
    have hrest : s.entries.filter (fun a => e.id < a.id) = s.unread.drop n := by
      have hdrop := filter_lt_getLast hsorted hlast
      rw [List.take_append_drop] at hdrop
      rw [← hdrop, hu, List.filter_filter]
      refine List.filter_congr fun a _ => ?_
      by_cases ha : e.id < a.id
      · simp [ha, Nat.lt_trans hge ha]
      · simp [ha]
    simp only [Option.map_some, Option.getD_some]
    rw [show ({ s with group := some ⟨e.id, _⟩ } : Stream M).unread =
      s.entries.filter (fun a => e.id < a.id) from rfl, hrest, List.take_append_drop]

/-- A read delivers as many unread entries as it may. -/
theorem eq_take_of_readGroup {s s' : Stream M} {c : String} {n : Nat} {es : List (StreamEntry M)}
    (hs : s.readGroup c n = some (es, s')) : es = s.unread.take n := by
  obtain ⟨g, _, he⟩ := Option.map_eq_some_iff.1 hs
  exact (Prod.mk.inj he).1.symm

end Stream

end KlassGateway.Lib
