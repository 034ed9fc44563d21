import Mathlib.Data.List.Nodup
import Mathlib.Data.List.TakeWhile
/-!
# First occurrences

`firsts key seen` keeps the first element of each key that was not seen before, as a loop with
a set of seen keys does.  `map_takeWhile_iff` says when such a loop that may stop has handled
exactly the keys of a beginning of its list.  `pairwise_eraseDups` is about the elements as their
own keys.
-/

namespace KlassGateway.Lib

variable {α κ : Type} [DecidableEq κ] {key : α → κ} {seen : List κ} {as bs : List α} {k : κ}

/-- The first element of each key that is not in `seen`. -/
def firsts (key : α → κ) : List κ → List α → List α
  | _, [] => []
  | seen, a :: as =>
    if key a ∈ seen then firsts key seen as else a :: firsts key (key a :: seen) as

theorem firsts_cons_of_mem {a : α} (h : key a ∈ seen) :
    firsts key seen (a :: as) = firsts key seen as := if_pos h

theorem firsts_cons_of_not_mem {a : α} (h : key a ∉ seen) :
    firsts key seen (a :: as) = a :: firsts key (key a :: seen) as := if_neg h

/-- Only which keys were seen matters. -/
theorem firsts_congr {s s' : List κ} (h : ∀ k, k ∈ s ↔ k ∈ s') :
    firsts key s as = firsts key s' as := by
  induction as generalizing s s' with
  | nil => rfl
  | cons a as ih =>
    by_cases ha : key a ∈ s
    · rw [firsts_cons_of_mem ha, firsts_cons_of_mem ((h _).1 ha), ih h]
    · rw [firsts_cons_of_not_mem ha, firsts_cons_of_not_mem fun ha' => ha ((h _).2 ha')]
      refine congrArg _ (ih fun k => ?_)
      rw [List.mem_cons, List.mem_cons, h]

theorem mem_map_firsts : k ∈ (firsts key seen as).map key ↔ k ∈ as.map key ∧ k ∉ seen := by
  induction as generalizing seen with
  | nil => simp [firsts]
  | cons a as ih =>
    by_cases ha : key a ∈ seen
    · rw [firsts_cons_of_mem ha, ih, List.map_cons, List.mem_cons]
      constructor
      · exact fun h => ⟨Or.inr h.1, h.2⟩
      · rintro ⟨rfl | h, hk⟩
        · exact absurd ha hk
        · exact ⟨h, hk⟩
    · rw [firsts_cons_of_not_mem ha, List.map_cons, List.mem_cons, ih, List.map_cons,
        List.mem_cons, List.mem_cons, not_or]
      by_cases hk : k = key a
      · rw [hk]
        exact iff_of_true (Or.inl rfl) ⟨Or.inl rfl, ha⟩
      · simp [hk]

theorem mem_of_mem_firsts {a : α} (h : a ∈ firsts key seen as) : a ∈ as := by
  induction as generalizing seen with
  | nil => exact h
  | cons b as ih =>
    by_cases hb : key b ∈ seen
    · rw [firsts_cons_of_mem hb] at h
      exact List.mem_cons_of_mem _ (ih h)
    · rw [firsts_cons_of_not_mem hb] at h
      rcases List.mem_cons.1 h with rfl | h
      · exact List.mem_cons_self
      · exact List.mem_cons_of_mem _ (ih h)

theorem nodup_map_firsts (key : α → κ) (seen : List κ) (as : List α) :
    ((firsts key seen as).map key).Nodup := by
  induction as generalizing seen with
  | nil => exact List.nodup_nil
  | cons a as ih =>
    by_cases ha : key a ∈ seen
    · rw [firsts_cons_of_mem ha]
      exact ih seen
    · rw [firsts_cons_of_not_mem ha, List.map_cons, List.nodup_cons]
      refine ⟨fun h => ?_, ih _⟩
      exact (mem_map_firsts.1 h).2 List.mem_cons_self

/-- The second part of a list adds what is new after the first. -/
theorem firsts_append (key : α → κ) (seen : List κ) (as bs : List α) :
    firsts key seen (as ++ bs) = firsts key seen as ++ firsts key (as.map key ++ seen) bs := by
  induction as generalizing seen with
  | nil => rfl
  | cons a as ih =>
    by_cases ha : key a ∈ seen
    · rw [List.cons_append, firsts_cons_of_mem ha, firsts_cons_of_mem ha, ih, List.map_cons]
      congr 1
      apply firsts_congr
      intro k
      simp only [List.mem_append, List.mem_cons, List.cons_append]
      constructor
      · exact Or.inr
      · rintro (rfl | h)
        · exact Or.inr ha
        · exact h
    · rw [List.cons_append, firsts_cons_of_not_mem ha, firsts_cons_of_not_mem ha, ih,
        List.cons_append, List.map_cons]
      congr 2
      apply firsts_congr
      intro k
      simp only [List.mem_append, List.mem_cons, List.cons_append]
      tauto

theorem head?_firsts : (firsts key seen as).head? = as.find? fun a => key a ∉ seen := by
  induction as with
  | nil => rfl
  | cons a as ih =>
    by_cases ha : key a ∈ seen
    · rw [firsts_cons_of_mem ha, ih, List.find?_cons_of_neg (by simpa using ha)]
    · rw [firsts_cons_of_not_mem ha, List.find?_cons_of_pos (by simpa using ha)]
      rfl

omit [DecidableEq κ] in
/-- A loop that stops at the first failure has handled exactly the keys of `as` when all of them
succeed and it stops right after them. -/
theorem map_takeWhile_iff {p : α → Bool} (hnd : ((as ++ bs).map key).Nodup) :
    (∀ k, k ∈ ((as ++ bs).takeWhile p).map key ↔ k ∈ as.map key) ↔
      (∀ a ∈ as, p a = true) ∧ ∀ b, bs.head? = some b → p b = false := by
  have hdisjoint : ∀ b ∈ bs, key b ∉ as.map key := by
    intro b hb hmem
    rw [List.map_append, List.nodup_append] at hnd
    exact hnd.2.2 _ hmem _ (List.mem_map_of_mem hb) rfl
  constructor
  · intro h
    have hall : ∀ a ∈ as, p a = true := by
      intro a ha
      obtain ⟨x, hx, hkey⟩ := List.mem_map.1 ((h (key a)).2 (List.mem_map_of_mem ha))
      have hxmem : x ∈ as ++ bs := (List.takeWhile_prefix p).subset hx
      have hxa : x = a := List.inj_on_of_nodup_map hnd hxmem (List.mem_append_left _ ha) hkey
      rw [← hxa]
      exact List.mem_takeWhile_imp hx
    refine ⟨hall, fun b hb => ?_⟩
    by_contra hpb
    have hpb : p b = true := by simpa using hpb
    obtain ⟨rest, rfl⟩ := List.head?_eq_some_iff.1 hb
    have htaken : b ∈ (as ++ b :: rest).takeWhile p := by
      rw [List.takeWhile_append_of_pos hall, List.takeWhile_cons_of_pos hpb]
      exact List.mem_append_right _ List.mem_cons_self
    exact hdisjoint b List.mem_cons_self ((h (key b)).1 (List.mem_map_of_mem htaken))
  · rintro ⟨hall, hhead⟩ k
    have hstop : bs.takeWhile p = [] := by
      cases bs with
      | nil => rfl
      | cons b rest => exact List.takeWhile_cons_of_neg (by simp [hhead b rfl])
    rw [List.takeWhile_append_of_pos hall, hstop, List.append_nil]

/-- The first occurrences alone, of a list where every two elements are equal or related. -/
theorem pairwise_eraseDups {R : α → α → Prop} [DecidableEq α] :
    ∀ as : List α, as.Pairwise (fun a b => a = b ∨ R a b) →
      as.eraseDups.Pairwise fun a b => a ≠ b ∧ R a b
  | [], _ => by simp
  | a :: as, h => by
    have has := List.pairwise_cons.mp h
    rw [List.eraseDups_cons, List.pairwise_cons]
    refine ⟨fun b hb => ?_, pairwise_eraseDups _ (has.2.filter _)⟩
    simp only [List.mem_eraseDups, List.mem_filter, Bool.not_eq_true', beq_eq_false_iff_ne] at hb
    exact ⟨Ne.symm hb.2, (has.1 b hb.1).resolve_left (Ne.symm hb.2)⟩
termination_by as => as.length
decreasing_by
  simp only [List.length_cons]
  exact Nat.lt_succ_of_le (List.length_filter_le _ _)

theorem nodup_eraseDups [DecidableEq α] (as : List α) : as.eraseDups.Nodup :=
  (pairwise_eraseDups (R := fun _ _ => True) as
    (List.pairwise_of_forall fun _ _ => Or.inr trivial)).imp fun h => h.1

end KlassGateway.Lib
