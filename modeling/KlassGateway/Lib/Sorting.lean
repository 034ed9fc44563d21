import Mathlib.Data.List.Sort
import Mathlib.Data.List.GetD
/-!
# Sorting by a comparator

* `TotalPreorderOn` is what a sort asks of its comparator on the list to be sorted.
* `sortBy` is the stable sort.  `filter_sortBy` is its stability.
* `rank` counts what a comparator puts before an element.  `map_rank_eq` says that two
  sorted arrangements of a list agree position by position, up to ties.
* `SliceSort` is a sort of which nothing is known when the comparator is not a total
  preorder.
-/

namespace KlassGateway.Lib

variable {α β : Type} {cmp : α → α → Ordering} {l s t : List α}

/-! ## Comparators -/

/-- The comparator is a total preorder on the list. -/
structure TotalPreorderOn (cmp : α → α → Ordering) (l : List α) : Prop where
  swap : ∀ a ∈ l, ∀ b ∈ l, cmp b a = (cmp a b).swap
  trans : ∀ a ∈ l, ∀ b ∈ l, ∀ c ∈ l, (cmp a b).isLE → (cmp b c).isLE → (cmp a c).isLE

namespace TotalPreorderOn

theorem refl (h : TotalPreorderOn cmp l) {a : α} (ha : a ∈ l) : cmp a a = .eq := by
  have hswap := h.swap a ha a ha
  generalize cmp a a = o at hswap
  cases o <;> simp_all

theorem total (h : TotalPreorderOn cmp l) {a b : α} (ha : a ∈ l) (hb : b ∈ l) :
    (cmp a b).isLE ∨ (cmp b a).isLE := by
  rw [h.swap a ha b hb]
  cases cmp a b <;> simp

theorem mono (h : TotalPreorderOn cmp l) (hs : ∀ a ∈ s, a ∈ l) : TotalPreorderOn cmp s where
  swap a ha b hb := h.swap a (hs a ha) b (hs b hb)
  trans a ha b hb c hc := h.trans a (hs a ha) b (hs b hb) c (hs c hc)

theorem of_transCmp [Std.TransCmp cmp] (l : List α) : TotalPreorderOn cmp l where
  swap _ _ _ _ := Std.OrientedCmp.eq_swap
  trans _ _ _ _ _ _ := Std.TransCmp.isLE_trans

theorem comap [Std.TransCmp cmp] (f : β → α) (l : List β) :
    TotalPreorderOn (fun a b => cmp (f a) (f b)) l where
  swap _ _ _ _ := Std.OrientedCmp.eq_swap
  trans _ _ _ _ _ _ := Std.TransCmp.isLE_trans

theorem isLE_of_not_lt (h : TotalPreorderOn cmp l) {a b : α} (ha : a ∈ l) (hb : b ∈ l)
    (hab : cmp a b ≠ .lt) : (cmp b a).isLE := by
  rw [h.swap a ha b hb]
  cases hcmp : cmp a b <;> simp_all

theorem lt_of_lt_of_le (h : TotalPreorderOn cmp l) {a b c : α} (ha : a ∈ l) (hb : b ∈ l)
    (hc : c ∈ l) (hab : cmp a b = .lt) (hbc : (cmp b c).isLE) : cmp a c = .lt := by
  by_contra hac
  have hba := h.trans b hb c hc a ha hbc (h.isLE_of_not_lt ha hc hac)
  rw [h.swap a ha b hb, hab] at hba
  simp at hba

theorem lt_of_le_of_lt (h : TotalPreorderOn cmp l) {a b c : α} (ha : a ∈ l) (hb : b ∈ l)
    (hc : c ∈ l) (hab : (cmp a b).isLE) (hbc : cmp b c = .lt) : cmp a c = .lt := by
  by_contra hac
  have hcb := h.trans c hc a ha b hb (h.isLE_of_not_lt ha hc hac) hab
  rw [h.swap b hb c hc, hbc] at hcb
  simp at hcb

end TotalPreorderOn

theorem isLE_of_not_isLE [Std.OrientedCmp cmp] {a b : α} (h : ¬ (cmp a b).isLE) :
    (cmp b a).isLE := by
  have hswap : cmp b a = (cmp a b).swap := Std.OrientedCmp.eq_swap
  cases hcmp : cmp a b <;> simp_all

/-! ## Two layers -/

section Layered

variable (p : α → Prop) [DecidablePred p] (inner outer : α → α → Ordering)

/-- Two members of the class `p` compare by `inner` and then by `outer`, any other two by
`outer` alone. -/
def layered (a b : α) : Ordering :=
  if p a ∧ p b ∧ inner a b ≠ .eq then inner a b else outer a b

/-- No element outside the class lies between two of the class that `inner` puts the other
way round. -/
def Uncrossed (l : List α) : Prop :=
  ∀ a ∈ l, ∀ x ∈ l, ∀ b ∈ l, p a → ¬ p x → p b →
    (outer a x).isLE → (outer x b).isLE → (inner a b).isLE

variable {p inner outer}

theorem layered_isLE_of_mem {a b : α} (ha : p a) (hb : p b) :
    (layered p inner outer a b).isLE ↔
      (inner a b).isLE ∧ (inner a b = .lt ∨ (outer a b).isLE) := by
  cases hi : inner a b <;> simp [layered, ha, hb, hi]

theorem layered_of_not_mem {a b : α} (h : ¬ (p a ∧ p b)) :
    layered p inner outer a b = outer a b := by
  rw [layered, if_neg fun h' => h ⟨h'.1, h'.2.1⟩]

variable [Std.TransCmp inner] [Std.TransCmp outer]

theorem layered_swap (a b : α) :
    layered p inner outer b a = (layered p inner outer a b).swap := by
  have hinner : inner b a = (inner a b).swap := Std.OrientedCmp.eq_swap
  have houter : outer b a = (outer a b).swap := Std.OrientedCmp.eq_swap
  by_cases h : p a ∧ p b
  · cases hi : inner a b <;> simp [layered, h, hinner, hi, houter]
  · rw [layered_of_not_mem h, layered_of_not_mem fun h' => h h'.symm, houter]

omit [Std.TransCmp outer] in
/-- Two that `inner` puts neither before the other are compared by `outer`. -/
theorem outer_of_layered {a b : α} (ha : p a) (hb : p b)
    (hab : (layered p inner outer a b).isLE) (hba : (inner b a).isLE) : (outer a b).isLE := by
  have hab := (layered_isLE_of_mem ha hb).mp hab
  have heq : inner a b = .eq := Std.OrientedCmp.isLE_antisymm hab.1 hba
  simpa [heq] using hab.2

theorem layered_trans {l : List α} (h : Uncrossed p inner outer l) {a b c : α} (ha : a ∈ l)
    (hb : b ∈ l) (hc : c ∈ l) (hab : (layered p inner outer a b).isLE)
    (hbc : (layered p inner outer b c).isLE) : (layered p inner outer a c).isLE := by
  have htrans : ∀ {a b c}, (outer a b).isLE → (outer b c).isLE → (outer a c).isLE :=
    Std.TransCmp.isLE_trans
  by_cases pb : p b
  · by_cases pa : p a
    · by_cases pc : p c
      · -- three of the class: the two keys in turn
        have hlex : ∀ {a b : α}, p a → p b → ((layered p inner outer a b).isLE ↔
            (compareLex inner outer a b).isLE) := by
          intro a b ha hb
          rw [layered_isLE_of_mem ha hb, compareLex, Ordering.isLE_then_iff_and]
        rw [hlex pa pc]
        exact Std.TransCmp.isLE_trans ((hlex pa pb).mp hab) ((hlex pb pc).mp hbc)
      · rw [layered_of_not_mem (by tauto)] at hbc ⊢
        by_contra hac
        have hba := h b hb c hc a ha pb pc pa hbc (isLE_of_not_isLE hac)
        exact hac (htrans (outer_of_layered pa pb hab hba) hbc)
    · rw [layered_of_not_mem (by tauto)] at hab ⊢
      by_cases pc : p c
      · by_contra hac
        have hcb := h c hc a ha b hb pc pa pb (isLE_of_not_isLE hac) hab
        exact hac (htrans hab (outer_of_layered pb pc hbc hcb))
      · rw [layered_of_not_mem (by tauto)] at hbc
        exact htrans hab hbc
  · rw [layered_of_not_mem (by tauto)] at hab hbc
    by_cases hac : p a ∧ p c
    · refine (layered_isLE_of_mem hac.1 hac.2).mpr ⟨?_, Or.inr (htrans hab hbc)⟩
      exact h a ha b hb c hc hac.1 pb hac.2 hab hbc
    · rw [layered_of_not_mem hac]
      exact htrans hab hbc

/-- A layered comparator is a total preorder exactly on the uncrossed lists. -/
theorem totalPreorderOn_layered_iff {l : List α} :
    TotalPreorderOn (layered p inner outer) l ↔ Uncrossed p inner outer l := by
  constructor
  · intro h a ha x hx b hb pa px pb hax hxb
    have hax : (layered p inner outer a x).isLE := by rwa [layered_of_not_mem (by tauto)]
    have hxb : (layered p inner outer x b).isLE := by rwa [layered_of_not_mem (by tauto)]
    exact ((layered_isLE_of_mem pa pb).mp (h.trans a ha x hx b hb hax hxb)).1
  · intro h
    exact ⟨fun a _ b _ => layered_swap a b, fun a ha b hb c hc => layered_trans h ha hb hc⟩

end Layered

/-! ## The sort -/

/-- The stable sort by a comparator. -/
def sortBy (cmp : α → α → Ordering) (l : List α) : List α :=
  l.insertionSort fun a b => (cmp a b).isLE

theorem sortBy_perm (cmp : α → α → Ordering) (l : List α) : (sortBy cmp l).Perm l :=
  List.perm_insertionSort _ l

@[simp]
theorem mem_sortBy {a : α} : a ∈ sortBy cmp l ↔ a ∈ l := (sortBy_perm cmp l).mem_iff

/-- The list is in the order of the comparator. -/
def SortedBy (cmp : α → α → Ordering) (l : List α) : Prop := l.Pairwise fun a b => (cmp a b).isLE

theorem sortBy_of_sortedBy (h : SortedBy cmp l) : sortBy cmp l = l :=
  List.Pairwise.insertionSort_eq h

theorem sortedBy_sortBy (h : TotalPreorderOn cmp l) : SortedBy cmp (sortBy cmp l) := by
  -- the order of the members alone is total and transitive
  let r : {a // a ∈ l} → {a // a ∈ l} → Prop := fun a b => (cmp a b).isLE
  have htotal : Std.Total r := ⟨fun a b => h.total a.2 b.2⟩
  have htrans : IsTrans _ r := ⟨fun a b c => h.trans a a.2 b b.2 c c.2⟩
  have hmap := List.map_insertionSort r (fun a b => (cmp a b).isLE) Subtype.val l.attach
    fun _ _ _ _ => Iff.rfl
  rw [List.attach_map_subtype_val] at hmap
  rw [SortedBy, sortBy, ← hmap, List.pairwise_map]
  exact List.pairwise_insertionSort r _

theorem filter_orderedInsert (h : TotalPreorderOn cmp (a :: s)) (hs : SortedBy cmp s)
    (p : α → Bool) (hp : p a) :
    (s.orderedInsert (fun a b => (cmp a b).isLE) a).filter p =
      (s.filter p).orderedInsert (fun a b => (cmp a b).isLE) a := by
  induction s with
  | nil => simp [hp]
  | cons b s ih =>
    have hb : ∀ c ∈ s, (cmp b c).isLE := (List.pairwise_cons.mp hs).1
    by_cases hab : (cmp a b).isLE
    · rw [List.orderedInsert_cons_of_le _ s hab]
      have hall : ∀ c ∈ (b :: s).filter p, (cmp a c).isLE := by
        intro c hc
        rcases List.mem_cons.mp (List.mem_of_mem_filter hc) with rfl | hcs
        · exact hab
        · exact h.trans a (by simp) b (by simp) c (by simp [hcs]) hab (hb c hcs)
      rw [List.filter_cons_of_pos hp]
      cases hf : (b :: s).filter p with
      | nil => simp
      | cons c cs =>
        rw [List.orderedInsert_cons_of_le]
        exact hall c (by simp [hf])
    · have ih := ih (h.mono (by simp; tauto)) (List.pairwise_cons.mp hs).2
      simp only [List.orderedInsert, hab, if_false, Bool.false_eq_true]
      by_cases hpb : p b
      · rw [List.filter_cons_of_pos hpb, List.filter_cons_of_pos hpb, ih]
        simp [List.orderedInsert, hab]
      · rw [List.filter_cons_of_neg hpb, List.filter_cons_of_neg hpb, ih]

/-- The sort is stable: it sorts every part of the list on its own. -/
theorem filter_sortBy (h : TotalPreorderOn cmp l) (p : α → Bool) :
    (sortBy cmp l).filter p = sortBy cmp (l.filter p) := by
  induction l with
  | nil => rfl
  | cons a l ih =>
    have hl : TotalPreorderOn cmp l := h.mono fun b hb => List.mem_cons_of_mem a hb
    have hsorted : SortedBy cmp (sortBy cmp l) := sortedBy_sortBy hl
    have hcons : ∀ l : List α, sortBy cmp (a :: l) =
        (sortBy cmp l).orderedInsert (fun a b => (cmp a b).isLE) a := fun _ => rfl
    by_cases hp : p a
    · rw [List.filter_cons_of_pos hp, hcons, hcons, ← ih hl]
      refine filter_orderedInsert (h.mono ?_) hsorted p hp
      intro b hb
      simpa using hb
    · rw [List.filter_cons_of_neg hp, hcons, ← ih hl, List.orderedInsert_eq_take_drop,
        List.filter_append, List.filter_cons_of_neg hp, ← List.filter_append,
        List.takeWhile_append_dropWhile]

/-! ## Ranks -/

/-- How many members the comparator puts before an element. -/
def rank (cmp : α → α → Ordering) (l : List α) (a : α) : Nat := l.countP fun b => cmp b a = .lt

theorem rank_perm (hperm : s.Perm l) (a : α) : rank cmp s a = rank cmp l a :=
  hperm.countP_eq _

/-- What is before an element counts for everything behind it. -/
theorem rank_lt_rank (h : TotalPreorderOn cmp l) {a b : α} (ha : a ∈ l) (hb : b ∈ l)
    (hab : cmp a b = .lt) : rank cmp l a < rank cmp l b := by
  obtain ⟨l₁, l₂, hl⟩ := List.append_of_mem ha
  have hmono : ∀ c ∈ l, cmp c a = .lt → cmp c b = .lt := fun c hc hca =>
    h.lt_of_lt_of_le hc ha hb hca (by simp [hab])
  have haa := h.refl ha
  subst hl
  have h₁ : rank cmp l₁ a ≤ rank cmp l₁ b :=
    List.countP_mono_left fun c hc => by simpa using hmono c (by simp [hc])
  have h₂ : rank cmp l₂ a ≤ rank cmp l₂ b :=
    List.countP_mono_left fun c hc => by simpa using hmono c (by simp [hc])
  simp only [rank, List.countP_append, List.countP_cons, haa, hab] at h₁ h₂ ⊢
  simp
  omega

theorem rank_le_rank (h : TotalPreorderOn cmp l) {a b : α} (ha : a ∈ l) (hb : b ∈ l)
    (hab : (cmp a b).isLE) : rank cmp l a ≤ rank cmp l b := by
  refine List.countP_mono_left fun c hc hca => ?_
  simp only [decide_eq_true_eq] at hca ⊢
  exact h.lt_of_lt_of_le hc ha hb hca hab

theorem eq_of_rank_eq (h : TotalPreorderOn cmp l) {a b : α} (ha : a ∈ l) (hb : b ∈ l)
    (hab : rank cmp l a = rank cmp l b) : cmp a b = .eq := by
  cases hcmp : cmp a b with
  | eq => rfl
  | lt =>
    have := rank_lt_rank h ha hb hcmp
    omega
  | gt =>
    have := rank_lt_rank h hb ha (by simp [h.swap a ha b hb, hcmp])
    omega

/-- Two sorted arrangements of a list agree position by position, up to ties. -/
theorem map_rank_eq (h : TotalPreorderOn cmp l) (hs : SortedBy cmp s) (ht : SortedBy cmp t)
    (hsl : s.Perm l) (htl : t.Perm l) : s.map (rank cmp l) = t.map (rank cmp l) := by
  have hsorted : ∀ {u : List α}, SortedBy cmp u → u.Perm l →
      (u.map (rank cmp l)).Pairwise (· ≤ ·) := by
    intro u hu hul
    rw [List.pairwise_map]
    exact hu.imp_of_mem fun ha hb => rank_le_rank h (hul.subset ha) (hul.subset hb)
  exact List.Perm.eq_of_pairwise (fun _ _ _ _ => Nat.le_antisymm) (hsorted hs hsl)
    (hsorted ht htl) ((hsl.trans htl.symm).map _)

theorem cmp_getElem_eq (h : TotalPreorderOn cmp l) (hs : SortedBy cmp s) (ht : SortedBy cmp t)
    (hsl : s.Perm l) (htl : t.Perm l) (i : Nat) (his : i < s.length) (hit : i < t.length) :
    cmp s[i] t[i] = .eq := by
  have hmap := map_rank_eq h hs ht hsl htl
  have hi : (s.map (rank cmp l))[i]? = (t.map (rank cmp l))[i]? := by rw [hmap]
  refine eq_of_rank_eq h (hsl.subset (List.getElem_mem his)) (htl.subset (List.getElem_mem hit)) ?_
  simpa [his, hit] using hi

/-- What ties have in common does not depend on how a list was arranged before it was
sorted. -/
theorem map_eq_of_sortedBy (h : TotalPreorderOn cmp l) (hs : SortedBy cmp s)
    (ht : SortedBy cmp t) (hsl : s.Perm l) (htl : t.Perm l) {f : α → β}
    (hf : ∀ a ∈ l, ∀ b ∈ l, cmp a b = .eq → f a = f b) : s.map f = t.map f := by
  refine List.ext_getElem (by simp [hsl.length_eq, htl.length_eq]) fun i his hit => ?_
  simp only [List.length_map] at his hit
  simp only [List.getElem_map]
  exact hf _ (hsl.subset (List.getElem_mem his)) _ (htl.subset (List.getElem_mem hit))
    (cmp_getElem_eq h hs ht hsl htl i his hit)

/-- In a sorted list at most `i` members are before the one at position `i`. -/
theorem rank_getElem_le (h : TotalPreorderOn cmp s) (hs : SortedBy cmp s) (i : Nat)
    (hi : i < s.length) : rank cmp s s[i] ≤ i := by
  have hdrop : (s.drop i).countP (fun b => cmp b s[i] = .lt) = 0 := by
    refine List.countP_eq_zero.mpr fun b hb => ?_
    obtain ⟨j, hj, rfl⟩ := List.mem_iff_getElem.mp hb
    simp only [List.length_drop] at hj
    rw [List.getElem_drop, decide_eq_true_eq]
    intro hlt
    rcases Nat.eq_zero_or_pos j with rfl | hpos
    · have := h.refl (List.getElem_mem hi)
      simp [this] at hlt
    · have hle := List.pairwise_iff_getElem.mp hs i (i + j) hi (by omega) (by omega)
      rw [h.swap _ (List.getElem_mem (by omega)) _ (List.getElem_mem hi), hlt] at hle
      simp at hle
  have htake : (s.take i).countP (fun b => cmp b s[i] = .lt) ≤ i :=
    List.countP_le_length.trans (by simp)
  have happend := congrArg (List.countP fun b => cmp b s[i] = .lt) (List.take_append_drop i s)
  rw [List.countP_append] at happend
  rw [rank]
  omega

/-- The first `n` members of a sorted list, when every tie is behind them. -/
theorem take_eq_of_sortedBy (h : TotalPreorderOn cmp l) (hs : SortedBy cmp s)
    (ht : SortedBy cmp t) (hsl : s.Perm l) (htl : t.Perm l) {n : Nat}
    (hties : ∀ a ∈ l, ∀ b ∈ l, a ≠ b → cmp a b = .eq → n ≤ rank cmp l a) :
    s.take n = t.take n := by
  refine List.ext_getElem (by simp [hsl.length_eq, htl.length_eq]) fun i his hit => ?_
  simp only [List.length_take, Nat.lt_min] at his hit
  simp only [List.getElem_take]
  by_contra hne
  have hrank := hties _ (hsl.subset (List.getElem_mem his.2)) _
    (htl.subset (List.getElem_mem hit.2)) hne (cmp_getElem_eq h hs ht hsl htl i his.2 hit.2)
  rw [← rank_perm hsl] at hrank
  have := rank_getElem_le (h.mono fun a ha => hsl.subset ha) hs i his.2
  omega

theorem filter_lt_append (h : TotalPreorderOn cmp l) (hs : SortedBy cmp s) (hsl : ∀ a ∈ s, a ∈ l)
    {u : α} (hu : u ∈ l) :
    s.filter (cmp · u = .lt) ++ s.filter (fun a => !decide (cmp a u = .lt)) = s := by
  induction s with
  | nil => rfl
  | cons b s ih =>
    have hb := List.pairwise_cons.mp hs
    have ih := ih hb.2 fun a ha => hsl a (List.mem_cons_of_mem b ha)
    by_cases hbu : cmp b u = .lt
    · simpa [hbu] using ih
    · have hnone : ∀ a ∈ b :: s, cmp a u ≠ .lt := by
        intro a ha hau
        rcases List.mem_cons.mp ha with rfl | has
        · exact hbu hau
        · exact hbu (h.lt_of_le_of_lt (hsl b (by simp)) (hsl a ha) hu (hb.1 a has) hau)
      rw [List.filter_eq_nil_iff.mpr (by simpa using hnone), List.nil_append,
        List.filter_eq_self.mpr (by simpa using hnone)]

/-- The first of an element's ties comes right after all that is before it. -/
theorem getElem?_sortBy_rank {u : α} (h : TotalPreorderOn cmp (u :: l)) :
    (sortBy cmp (u :: l))[rank cmp (u :: l) u]? = some u := by
  have hu : u ∈ u :: l := List.mem_cons_self
  have hsplit := filter_lt_append h (sortedBy_sortBy h) (fun a ha => mem_sortBy.mp ha) hu
  have hlength : ((sortBy cmp (u :: l)).filter (cmp · u = .lt)).length =
      rank cmp (u :: l) u := by
    rw [← List.countP_eq_length_filter]
    exact (sortBy_perm cmp (u :: l)).countP_eq _
  rw [← hsplit, List.getElem?_append_right (by omega), hlength, Nat.sub_self, filter_sortBy h,
    List.filter_cons_of_pos (by simp [h.refl hu]), sortBy,
    List.insertionSort_cons_of_forall_rel]
  · rfl
  · intro b hb
    have hbl : b ∈ u :: l := List.mem_cons_of_mem u (List.mem_of_mem_filter hb)
    exact h.isLE_of_not_lt hbl hu (by simpa using (List.mem_filter.mp hb).2)

/-- Sorted lists with the same classes of ties are the same. -/
theorem eq_of_ties_eq [Std.TransCmp cmp] (hs : SortedBy cmp s) (ht : SortedBy cmp t)
    (hties : ∀ u, s.filter (cmp · u = .eq) = t.filter (cmp · u = .eq)) : s = t := by
  have hrefl : ∀ a, cmp a a = .eq := fun _ => Std.ReflCmp.compare_self
  induction s generalizing t with
  | nil =>
    cases t with
    | nil => rfl
    | cons y t => simpa [hrefl] using hties y
  | cons x s ih =>
    cases t with
    | nil => simpa [hrefl] using (hties x).symm
    | cons y t =>
      have hx : x ∈ y :: t := List.mem_of_mem_filter (p := (cmp · x = .eq)) (by simp [← hties, hrefl])
      have hy : y ∈ x :: s := List.mem_of_mem_filter (p := (cmp · y = .eq)) (by simp [hties, hrefl])
      have hyx : (cmp y x).isLE := by
        rcases List.mem_cons.mp hx with rfl | hx
        · simp [hrefl]
        · exact (List.pairwise_cons.mp ht).1 x hx
      have hxy : (cmp x y).isLE := by
        rcases List.mem_cons.mp hy with rfl | hy
        · simp [hrefl]
        · exact (List.pairwise_cons.mp hs).1 y hy
      have heq : cmp y x = .eq := Std.OrientedCmp.isLE_antisymm hyx hxy
      have hhead := hties x
      rw [List.filter_cons_of_pos (by simp [hrefl]), List.filter_cons_of_pos (by simpa using heq)]
        at hhead
      obtain ⟨rfl, -⟩ := List.cons.inj hhead
      refine congrArg _ (ih (List.pairwise_cons.mp hs).2 (List.pairwise_cons.mp ht).2 ?_)
      intro u
      have hu := hties u
      by_cases hxu : cmp x u = .eq
      · simpa [hxu] using hu
      · simpa [hxu] using hu

/-! ## A sort that may fail -/

/-- A sort of which nothing but the elements it returns is known when the comparator is not
a total preorder: it may stop (`none`) or return them in any order. -/
structure SliceSort where
  run : {α : Type} → (α → α → Ordering) → List α → Option (List α)
  perm : ∀ {α : Type} {cmp : α → α → Ordering} {l s : List α}, run cmp l = some s → s.Perm l
  stable : ∀ {α : Type} {cmp : α → α → Ordering} {l : List α},
    TotalPreorderOn cmp l → run cmp l = some (sortBy cmp l)

/-- The insertion sort is one. -/
instance : Inhabited SliceSort where
  default :=
    { run := fun cmp l => some (sortBy cmp l)
      perm := fun h => Option.some.inj h ▸ sortBy_perm _ _
      stable := fun _ => rfl }

end KlassGateway.Lib
