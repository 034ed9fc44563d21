import KlassGateway.Lib.Sorting
import Mathlib.Data.List.Induction
/-!
# The best of each group

`groupBy` collects a list in a hash map of lists, and `topPerGroup` takes the first `n` of
each group, sorted by one comparator, and sorts them all by another one.

* `filter_topPerGroup`: what is left of a group is the first `n` of it.
* `topPerGroup_eq_iff`: the result depends on nothing else, in particular not on the order in
  which the map is read.
* `take_sortBy_of_perm` and `le_rank_of_take_eq`: the first `n` of a list change with its
  arrangement exactly when a tie reaches among them.
-/

namespace KlassGateway.Lib

/-- The order in which a hash map is read. -/
structure IterationOrder where
  run : {κ ν : Type} → List (κ × ν) → List (κ × ν)
  perm : ∀ {κ ν : Type} (entries : List (κ × ν)), (run entries).Perm entries

instance : Inhabited IterationOrder where
  default := { run := fun entries => entries, perm := fun _ => .refl _ }

variable {α κ : Type} [DecidableEq κ]

/-- `entry(key).or_default().push(a)`. -/
def pushEntry (key : κ) (a : α) : List (κ × List α) → List (κ × List α)
  | [] => [(key, [a])]
  | g :: groups =>
    if g.1 = key then (g.1, g.2 ++ [a]) :: groups else g :: pushEntry key a groups

/-- The members of a list by their keys. -/
def groupBy (key : α → κ) (l : List α) : List (κ × List α) :=
  l.foldl (fun groups a => pushEntry (key a) a groups) []

/-- The first `n` of each group by `cmp`, all sorted by `outer`. -/
def topPerGroup (order : IterationOrder) (key : α → κ) (cmp outer : α → α → Ordering) (n : Nat)
    (l : List α) : List α :=
  sortBy outer ((order.run (groupBy key l)).flatMap fun g => (sortBy cmp g.2).take n)

/-! ## The groups -/

theorem filter_pushEntry_self (key : κ) (a : α) (groups : List (κ × List α)) :
    (pushEntry key a groups).filter (·.1 = key) = pushEntry key a (groups.filter (·.1 = key)) := by
  induction groups with
  | nil => simp [pushEntry]
  | cons g groups ih =>
    by_cases hg : g.1 = key
    · simp [pushEntry, hg]
    · simp [pushEntry, hg, ih]

theorem filter_pushEntry_of_ne {key k : κ} (h : key ≠ k) (a : α) (groups : List (κ × List α)) :
    (pushEntry key a groups).filter (·.1 = k) = groups.filter (·.1 = k) := by
  induction groups with
  | nil => simp [pushEntry, h]
  | cons g groups ih =>
    by_cases hg : g.1 = key
    · have hgk : g.1 ≠ k := fun hgk => h (hg.symm.trans hgk)
      simp [pushEntry, hg, h]
    · by_cases hgk : g.1 = k
      · simp [pushEntry, hgk, ih, Ne.symm h]
      · simp [pushEntry, hg, hgk, ih]

/-- The entry of a key holds the members with that key. -/
theorem filter_groupBy (key : α → κ) (l : List α) (k : κ) :
    (groupBy key l).filter (·.1 = k) =
      if l.filter (key · = k) = [] then [] else [(k, l.filter (key · = k))] := by
  induction l using List.reverseRecOn with
  | nil => rfl
  | append_singleton l a ih =>
    have hstep : groupBy key (l ++ [a]) = pushEntry (key a) a (groupBy key l) := by
      simp [groupBy]
    rw [hstep, List.filter_append]
    by_cases ha : key a = k
    · subst ha
      rw [filter_pushEntry_self, ih]
      by_cases hnil : l.filter (key · = key a) = [] <;> simp [pushEntry, hnil]
    · rw [filter_pushEntry_of_ne ha, ih]
      simp [ha]

theorem snd_of_mem_groupBy {key : α → κ} {l : List α} {g : κ × List α} (h : g ∈ groupBy key l) :
    g.2 = l.filter (key · = g.1) := by
  have hg : g ∈ (groupBy key l).filter (·.1 = g.1) := by simpa using h
  rw [filter_groupBy] at hg
  split_ifs at hg
  · cases hg
  · rw [List.mem_singleton] at hg
    exact congrArg Prod.snd hg

/-- Reading the map in any order finds each group once. -/
theorem filter_run_groupBy (order : IterationOrder) (key : α → κ) (l : List α) (k : κ) :
    (order.run (groupBy key l)).filter (·.1 = k) =
      if l.filter (key · = k) = [] then [] else [(k, l.filter (key · = k))] := by
  have hperm := (order.perm (groupBy key l)).filter (·.1 = k)
  rw [filter_groupBy] at hperm
  split_ifs at hperm ⊢
  · exact List.perm_nil.mp hperm
  · exact List.perm_singleton.mp hperm

/-! ## The first of each group -/

section Top

variable {order : IterationOrder} {key : α → κ} {cmp outer : α → α → Ordering} {n : Nat}
  {l : List α}

/-- What is taken, before it is sorted. -/
theorem filter_flatMap_top (k : κ) :
    ((order.run (groupBy key l)).flatMap fun g => (sortBy cmp g.2).take n).filter (key · = k) =
      (sortBy cmp (l.filter (key · = k))).take n := by
  have hgroup : ∀ gs : List (κ × List α), (∀ g ∈ gs, g.2 = l.filter (key · = g.1)) →
      (gs.flatMap fun g => (sortBy cmp g.2).take n).filter (key · = k) =
        (gs.filter (·.1 = k)).flatMap fun g => (sortBy cmp g.2).take n := by
    intro gs hgs
    induction gs with
    | nil => rfl
    | cons g gs ih =>
      have hkey : ∀ a ∈ (sortBy cmp g.2).take n, key a = g.1 := by
        intro a ha
        have ha : a ∈ g.2 := mem_sortBy.mp (List.mem_of_mem_take ha)
        rw [hgs g (by simp)] at ha
        simpa using (List.mem_filter.mp ha).2
      rw [List.flatMap_cons, List.filter_append, ih fun g hg => hgs g (List.mem_cons_of_mem _ hg)]
      by_cases hg : g.1 = k
      · rw [List.filter_cons_of_pos (by simpa using hg), List.flatMap_cons,
          List.filter_eq_self.mpr fun a ha => by simp [hkey a ha, hg]]
      · rw [List.filter_cons_of_neg (by simpa using hg),
          List.filter_eq_nil_iff.mpr fun a ha => by simp [hkey a ha, hg], List.nil_append]
  rw [hgroup _ fun g hg => snd_of_mem_groupBy ((order.perm _).subset hg), filter_run_groupBy]
  split_ifs with hnil
  · simp [hnil, sortBy]
  · simp

theorem mem_topPerGroup {a : α} (h : a ∈ topPerGroup order key cmp outer n l) : a ∈ l := by
  obtain ⟨g, hg, ha⟩ := List.mem_flatMap.mp (mem_sortBy.mp h)
  have ha : a ∈ g.2 := mem_sortBy.mp (List.mem_of_mem_take ha)
  rw [snd_of_mem_groupBy ((order.perm _).subset hg)] at ha
  exact List.mem_of_mem_filter ha

variable [Std.TransCmp cmp] [Std.TransCmp outer]

/-- The last sort keeps the order in a group when it compares its members as `cmp` does. -/
theorem filter_topPerGroup (hcmp : ∀ a ∈ l, ∀ b ∈ l, key a = key b → outer a b = cmp a b) (k : κ) :
    (topPerGroup order key cmp outer n l).filter (key · = k) =
      (sortBy cmp (l.filter (key · = k))).take n := by
  rw [topPerGroup, filter_sortBy (.of_transCmp _), filter_flatMap_top]
  refine sortBy_of_sortedBy ?_
  have hsorted : SortedBy cmp ((sortBy cmp (l.filter (key · = k))).take n) :=
    (sortedBy_sortBy (.of_transCmp _)).sublist (List.take_sublist _ _)
  refine hsorted.imp_of_mem fun {a b} ha hb hab => ?_
  have hmem : ∀ {a}, a ∈ (sortBy cmp (l.filter (key · = k))).take n → a ∈ l ∧ key a = k := by
    intro a ha
    simpa using mem_sortBy.mp (List.mem_of_mem_take ha)
  rwa [hcmp a (hmem ha).1 b (hmem hb).1 ((hmem ha).2.trans (hmem hb).2.symm)]

/-- The result is known from the first `n` of each group. -/
theorem topPerGroup_eq_iff {order' : IterationOrder} {l' : List α}
    (hkey : ∀ a b, outer a b = .eq → key a = key b)
    (hcmp : ∀ a ∈ l, ∀ b ∈ l, key a = key b → outer a b = cmp a b)
    (hcmp' : ∀ a ∈ l', ∀ b ∈ l', key a = key b → outer a b = cmp a b) :
    topPerGroup order key cmp outer n l = topPerGroup order' key cmp outer n l' ↔
      ∀ k, (sortBy cmp (l.filter (key · = k))).take n =
        (sortBy cmp (l'.filter (key · = k))).take n := by
  have hfilter : ∀ k, (topPerGroup order key cmp outer n l).filter (key · = k) =
      (sortBy cmp (l.filter (key · = k))).take n := filter_topPerGroup hcmp
  have hfilter' : ∀ k, (topPerGroup order' key cmp outer n l').filter (key · = k) =
      (sortBy cmp (l'.filter (key · = k))).take n := filter_topPerGroup hcmp'
  constructor
  · intro h k
    rw [← hfilter, ← hfilter', h]
  · intro h
    refine eq_of_ties_eq (sortedBy_sortBy (.of_transCmp _)) (sortedBy_sortBy (.of_transCmp _))
      fun u => ?_
    -- ties of `u` have its key
    have hties : ∀ s : List α, s.filter (outer · u = .eq) =
        (s.filter (key · = key u)).filter (outer · u = .eq) := by
      intro s
      rw [List.filter_filter]
      refine List.filter_congr fun a _ => ?_
      by_cases ha : outer a u = .eq
      · simp [ha, hkey a u ha]
      · simp [ha]
    change (topPerGroup order key cmp outer n l).filter (outer · u = .eq) =
      (topPerGroup order' key cmp outer n l').filter (outer · u = .eq)
    rw [hties, hties (topPerGroup order' key cmp outer n l'), hfilter, hfilter', h]

end Top

/-! ## Rearranging a list -/

section Rearranged

variable {cmp : α → α → Ordering} [Std.TransCmp cmp] {n : Nat} {l l' : List α}

/-- The first `n` of a list do not change when it is rearranged, if every tie comes after at
least `n` others. -/
theorem take_sortBy_of_perm (hperm : l'.Perm l)
    (hties : ∀ a ∈ l, ∀ b ∈ l, a ≠ b → cmp a b = .eq → n ≤ rank cmp l a) :
    (sortBy cmp l').take n = (sortBy cmp l).take n :=
  take_eq_of_sortedBy (.of_transCmp l) (sortedBy_sortBy (.of_transCmp _))
    (sortedBy_sortBy (.of_transCmp _)) ((sortBy_perm cmp l').trans hperm) (sortBy_perm cmp l) hties

/-- Of two ties, the one that comes first in the list is first when sorted. -/
theorem le_rank_of_take_eq {a b : α} (hne : a ≠ b) (hab : cmp a b = .eq)
    (h : (sortBy cmp (a :: b :: l)).take n = (sortBy cmp (b :: a :: l)).take n) :
    n ≤ rank cmp (a :: b :: l) a := by
  by_contra hlt
  have hba : cmp b a = .eq := Std.OrientedCmp.eq_symm hab
  have hrank : rank cmp (b :: a :: l) b = rank cmp (a :: b :: l) a := by
    rw [rank_perm (List.Perm.swap a b l)]
    refine Nat.le_antisymm (rank_le_rank (.of_transCmp _) (by simp) (by simp) (by simp [hba]))
      (rank_le_rank (.of_transCmp _) (by simp) (by simp) (by simp [hab]))
  have ha : ((sortBy cmp (a :: b :: l)).take n)[rank cmp (a :: b :: l) a]? = some a := by
    rw [List.getElem?_take_of_lt (by omega)]
    exact getElem?_sortBy_rank (.of_transCmp _)
  have hb : ((sortBy cmp (b :: a :: l)).take n)[rank cmp (a :: b :: l) a]? = some b := by
    rw [← hrank, List.getElem?_take_of_lt (by omega)]
    exact getElem?_sortBy_rank (.of_transCmp _)
  rw [h, hb] at ha
  exact hne (Option.some.inj ha).symm

end Rearranged

end KlassGateway.Lib
