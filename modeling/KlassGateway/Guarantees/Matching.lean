import KlassGateway.Lib.Grouping
import KlassGateway.Matching.Freelancers
/-!
# The best freelancers

The sort looks at the rounded score alone, and it is stable.  So among equal
scores the order of the rows decides, which the query leaves open.

* `best_topRanked`: what is returned ranks at least as high as what is not.
* `bestMatches_iff`: the result depends on the order of the rows exactly if two
  equal scores reach it.
-/

namespace KlassGateway.Matching

open Lib Auth

variable {sha256 : List UInt8 → List UInt8}

instance : Std.TransCmp compareMatches :=
  inferInstanceAs <| Std.TransCmp fun a b =>
    compareOn (fun m : FreelancerMatch => m.scores.matchScore) b a

/-- The `limit` best of these freelancers, the best first. -/
structure TopRanked (sha256 : List UInt8 → List UInt8) (generationId : Uuid) (limit : Nat)
    (freelancers : List User) (best : List FreelancerMatch) : Prop where
  count : best.length = min limit freelancers.length
  sorted : best.Pairwise fun a b => b.scores.matchScore ≤ a.scores.matchScore
  /-- Each of them is returned with its scores, and every other one ranks lower
  or the same. -/
  rest : ∃ rest, (best ++ rest).Perm (freelancers.map (scored sha256 generationId)) ∧
    ∀ a ∈ best, ∀ b ∈ rest, b.scores.matchScore ≤ a.scores.matchScore

/-- How many freelancers have a higher score. -/
def higherRanked (sha256 : List UInt8 → List UInt8) (generationId : Uuid)
    (freelancers : List User) (f : User) : Nat :=
  freelancers.countP fun g =>
    (computeScores sha256 f generationId).matchScore <
      (computeScores sha256 g generationId).matchScore

/-- Two freelancers of the same score come after at least `limit` others. -/
def TiesBeyond (sha256 : List UInt8 → List UInt8) (generationId : Uuid) (limit : Nat)
    (freelancers : List User) : Prop :=
  ∀ a ∈ freelancers, ∀ b ∈ freelancers, a ≠ b →
    (computeScores sha256 a generationId).matchScore =
      (computeScores sha256 b generationId).matchScore →
    limit ≤ higherRanked sha256 generationId freelancers a

theorem compareMatches_isLE {a b : FreelancerMatch} :
    (compareMatches a b).isLE ↔ b.scores.matchScore ≤ a.scores.matchScore := by
  rw [compareMatches, ← compare_le_iff_le]
  cases compare b.scores.matchScore a.scores.matchScore <;> simp

/-- The rank of a match counts the freelancers with a higher score. -/
theorem rank_scored (generationId : Uuid) (freelancers : List User) (f : User) :
    rank compareMatches (freelancers.map (scored sha256 generationId))
        (scored sha256 generationId f) =
      higherRanked sha256 generationId freelancers f := by
  rw [rank, higherRanked, List.countP_map]
  apply List.countP_congr
  intro g _
  simp only [Function.comp_apply, decide_eq_true_eq]
  exact compare_lt_iff_lt

theorem compareMatches_scored_eq_iff {generationId : Uuid} {a b : User} :
    compareMatches (scored sha256 generationId a) (scored sha256 generationId b) = .eq ↔
      (computeScores sha256 a generationId).matchScore =
        (computeScores sha256 b generationId).matchScore := by
  rw [compareMatches, Std.LawfulEqCmp.compare_eq_iff_eq]
  exact eq_comm

/-! ## The top -/

/-- Whatever the order of the rows, the best are returned. -/
theorem best_topRanked (generationId : Uuid) (limit : Nat) {rows freelancers : List User}
    (hrows : rows.Perm freelancers) :
    TopRanked sha256 generationId limit freelancers
      (findBestMatches sha256 generationId limit rows) := by
  let sorted := sortBy compareMatches (rows.map (scored sha256 generationId))
  have hperm : sorted.Perm (freelancers.map (scored sha256 generationId)) :=
    (sortBy_perm _ _).trans (hrows.map _)
  have hsorted : sorted.Pairwise fun a b => b.scores.matchScore ≤ a.scores.matchScore :=
    (sortedBy_sortBy (.of_transCmp _)).imp fun h => compareMatches_isLE.1 h
  have hsplit : sorted.take limit ++ sorted.drop limit = sorted := List.take_append_drop _ _
  refine ⟨?_, hsorted.sublist (List.take_sublist _ _), sorted.drop limit, ?_, ?_⟩
  · show (sorted.take limit).length = _
    rw [List.length_take, hperm.length_eq, List.length_map]
  · show (sorted.take limit ++ sorted.drop limit).Perm _
    rw [hsplit]
    exact hperm
  · rw [← hsplit, List.pairwise_append] at hsorted
    exact hsorted.2.2

/-! ## Ties -/

/-- Two freelancers that tie can be delivered in either order. -/
theorem tiesBeyond_of_stable {generationId : Uuid} {limit : Nat} {freelancers : List User}
    (h : ∀ rows, rows.Perm freelancers →
      findBestMatches sha256 generationId limit rows =
        findBestMatches sha256 generationId limit freelancers) :
    TiesBeyond sha256 generationId limit freelancers := by
  intro a ha b hb hne hscore
  have hb' : b ∈ freelancers.erase a := (List.mem_erase_of_ne hne.symm).2 hb
  let others := (freelancers.erase a).erase b
  have hperm : (a :: b :: others).Perm freelancers :=
    ((List.perm_cons_erase hb').symm.cons a).trans (List.perm_cons_erase ha).symm
  have hperm' : (b :: a :: others).Perm freelancers := (List.Perm.swap a b others).trans hperm
  have htake := (h _ hperm).trans (h _ hperm').symm
  have hne' : scored sha256 generationId a ≠ scored sha256 generationId b :=
    fun he => hne (congrArg FreelancerMatch.freelancer he)
  have hrank := le_rank_of_take_eq hne' (compareMatches_scored_eq_iff.2 hscore) htake
  rw [← rank_scored, ← rank_perm (hperm.map (scored sha256 generationId))]
  exact hrank

/-- The best matches for every table of users, in whatever order the database
delivers the freelancers. -/
theorem bestMatches_iff (sha256 : List UInt8 → List UInt8) (generationId : Uuid) (limit : Nat)
    (users : List User) :
    (∀ rows, rows.Perm (fetchFreelancers users) →
      TopRanked sha256 generationId limit (fetchFreelancers users)
          (findBestMatches sha256 generationId limit rows) ∧
        findBestMatches sha256 generationId limit rows =
          findBestMatches sha256 generationId limit (fetchFreelancers users)) ↔
      TiesBeyond sha256 generationId limit (fetchFreelancers users) := by
  constructor
  · intro h
    exact tiesBeyond_of_stable fun rows hrows => (h rows hrows).2
  · intro h rows hrows
    refine ⟨best_topRanked generationId limit hrows, ?_⟩
    apply take_sortBy_of_perm (hrows.map _)
    intro m hm m' hm' hne hties
    obtain ⟨a, ha, rfl⟩ := List.mem_map.1 hm
    obtain ⟨b, hb, rfl⟩ := List.mem_map.1 hm'
    rw [rank_scored]
    exact h a ha b hb (fun he => hne (he ▸ rfl)) (compareMatches_scored_eq_iff.1 hties)

/-- The digests that the scores of the freelancers 2 and 8 for the generation 1
are read off. -/
def sampleDigests : List (List UInt8 × Nat) :=
  let seed (id : Int) (label : String) := buildSeed id (literal label) (toBeBytes 16 1)
  [(seed 2 ":portfolio", 0x01655fdc9639fd13733f2003f3c34c08739663a7fd91ff2d114d78cf4d64d9f8),
    (seed 2 ":success", 0x6544dcee35036e9cecefd1a9112053021a2bc6635f37879ecb15b14914ab98c0),
    (seed 2 ":availability", 0x8e8f669119413a6a4ae0dd9d4daa5196c0415c012bdb3e1feb335bae2b321c13),
    (seed 8 ":portfolio", 0x06e9d4ff029b7f65885a80a68cd085fef59cc8681d95083214593415c502d94d),
    (seed 8 ":success", 0x69ae036d0b12602a52975abda288ea30a07e9a56769f0e4118ce1d08240799f3),
    (seed 8 ":availability", 0x661a4e7b0fdc618c75d094a79360c3b06643f3f59219d905aea829928ad1e850)]

/-- SHA-256 on these seeds. -/
def sampleSha256 (seed : List UInt8) : List UInt8 :=
  toBeBytes 32 (((sampleDigests.find? fun d => d.1 = seed).map Prod.snd).getD 0)

/-- A freelancer. -/
def sampleFreelancer (id : Int) : User where
  id
  name := "freelancer_" ++ toString id
  email := "f" ++ toString id ++ "@test.com"
  password := "hash"
  role := "freelancer"

/-- Both freelancers score 0.6, and the best one is the one that comes first. -/
theorem best_depends_on_rows :
    ¬ ∀ generationId limit users rows, rows.Perm (fetchFreelancers users) →
      TopRanked sampleSha256 generationId limit (fetchFreelancers users)
          (findBestMatches sampleSha256 generationId limit rows) ∧
        findBestMatches sampleSha256 generationId limit rows =
          findBestMatches sampleSha256 generationId limit (fetchFreelancers users) := by
  intro h
  have hrows : [sampleFreelancer 8, sampleFreelancer 2].Perm
      (fetchFreelancers [sampleFreelancer 2, sampleFreelancer 8]) := List.Perm.swap _ _ _
  have hids := congrArg (List.map fun m => m.freelancer.id) (h ⟨1⟩ 1 _ _ hrows).2
  exact absurd hids (by decide +kernel)

end KlassGateway.Matching
