import KlassGateway.Auth.Store
import KlassGateway.Lib.Sorting
import KlassGateway.Orchestrator.Decision
import Mathlib.Algebra.Order.Ring.Rat
/-!
# Matching freelancers

Model of `matching/mod.rs`.  The scores of a freelancer are read off three
hashes; the digest is a parameter, and the arithmetic is that of the rational
numbers.
-/

namespace KlassGateway.Matching

open Lib Auth Orchestrator

/-- `FreelancerMatchScore`. -/
structure FreelancerMatchScore where
  portfolioRelevanceScore : Rat
  successRate : Rat
  availabilityScore : Rat
  matchScore : Rat
  deriving DecidableEq

/-- `FreelancerMatch`. -/
structure FreelancerMatch where
  freelancer : User
  scores : FreelancerMatchScore
  deriving DecidableEq

/-! ## Bytes -/

/-- A number as `n` bytes, the most significant first. -/
def toBeBytes (n : Nat) (v : Nat) : List UInt8 :=
  (List.range n).map fun i => UInt8.ofNat (v / 256 ^ (n - 1 - i))

/-- `i64::to_le_bytes`. -/
def toLeBytes (i : Int) : List UInt8 := (toBeBytes 8 (i % 2 ^ 64).toNat).reverse

/-- `u64::from_be_bytes`. -/
def fromBeBytes (bytes : List UInt8) : Nat := bytes.foldl (fun n b => 256 * n + b.toNat) 0

/-- The bytes of an ASCII literal. -/
def literal (s : String) : List UInt8 := s.toList.map fun c => UInt8.ofNat c.toNat

/-! ## Scores -/

section

variable (sha256 : List UInt8 → List UInt8)

/-- `build_seed`. -/
def buildSeed (userId : Int) (label : List UInt8) (genBytes : List UInt8) : List UInt8 :=
  toLeBytes userId ++ label ++ genBytes

/-- `deterministic_score`. -/
def deterministicScore (seed : List UInt8) (min max : Rat) : Rat :=
  let val := fromBeBytes ((sha256 seed).take 8)
  let normalized : Rat := val / (2 ^ 64 - 1)
  min + normalized * (max - min)

/-- `round2`. -/
def round2 (v : Rat) : Rat := roundHalfAway (v * 100) / 100

/-- `compute_scores`. -/
def computeScores (freelancer : User) (generationId : Uuid) : FreelancerMatchScore :=
  let genBytes := toBeBytes 16 generationId.value
  let portfolioRelevanceScore := deterministicScore sha256
    (buildSeed freelancer.id (literal ":portfolio") genBytes) (4 / 10) 1
  let successRate := deterministicScore sha256
    (buildSeed freelancer.id (literal ":success") genBytes) (7 / 10) 1
  let availabilityScore := deterministicScore sha256
    (buildSeed freelancer.id (literal ":availability") genBytes) (5 / 10) 1
  let matchScore := 5 / 10 * portfolioRelevanceScore + 3 / 10 * successRate +
    2 / 10 * availabilityScore
  { portfolioRelevanceScore := round2 portfolioRelevanceScore
    successRate := round2 successRate
    availabilityScore := round2 availabilityScore
    matchScore := round2 matchScore }

/-! ## The best matches -/

/-- The comparison of `sort_by`: the higher score first. -/
def compareMatches (a b : FreelancerMatch) : Ordering :=
  compare b.scores.matchScore a.scores.matchScore

/-- The rows that `fetch_freelancers` asks for, in the order of the table. -/
def fetchFreelancers (users : List User) : List User := users.filter fun u => u.role = "freelancer"

/-- A freelancer with the scores for a generation. -/
def scored (generationId : Uuid) (f : User) : FreelancerMatch :=
  ⟨f, computeScores sha256 f generationId⟩

/-- `find_best_matches`, by the rows as the database delivers them. -/
def findBestMatches (generationId : Uuid) (limit : Nat) (freelancers : List User) :
    List FreelancerMatch :=
  (sortBy compareMatches (freelancers.map (scored sha256 generationId))).take limit

end

end KlassGateway.Matching
