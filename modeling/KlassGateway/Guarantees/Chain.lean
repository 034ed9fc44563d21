import KlassGateway.Guarantees.Listing
import Mathlib.Data.List.Chain
import Mathlib.Logic.Relation
/-!
# The chain of a generation

`find_chain` follows `generated_from_id` upwards for at most 50 rows and lists
the direct children.  The links may form any graph: a parent may be missing,
and nothing keeps them from running in a circle.

* `RootPath`: the rows from a generation up to its root.
* `walk_eq_take`: the loop collects this path, as far as it goes.
* `findChain_chainOf`: what the chain says about the links.
-/

namespace KlassGateway.Db

open Lib Api

/-- The row under `x` was generated from `y`. -/
def Parent (db : ListingDb) (x y : Uuid) : Prop :=
  ∃ g, Table.find MediaGeneration.id x db.mediaGenerations = some g ∧ g.generatedFromId = some y

/-- The links lead back to where they started. -/
def HasCycle (db : ListingDb) : Prop := ∃ x, Relation.TransGen (Parent db) x x

/-- The rows from the one under an id up to its root, closest first.  The root
has no parent, or one that is missing. -/
inductive RootPath (db : ListingDb) : Uuid → List MediaGeneration → Prop
  | missing {id} (h : Table.find MediaGeneration.id id db.mediaGenerations = none) :
      RootPath db id []
  | root {id g} (h : Table.find MediaGeneration.id id db.mediaGenerations = some g)
      (hroot : g.generatedFromId = none) : RootPath db id [g]
  | up {id g parent path} (h : Table.find MediaGeneration.id id db.mediaGenerations = some g)
      (hparent : g.generatedFromId = some parent) (hpath : RootPath db parent path) :
      RootPath db id (g :: path)

/-! ## The loop -/

variable {db : ListingDb} {id : Uuid} {g : MediaGeneration} {path : List MediaGeneration}

/-- The loop collects the path, as far as it goes. -/
theorem walk_eq_take (h : RootPath db id path) (n : Nat) : db.walk n id = path.take n := by
  induction h generalizing n with
  | missing h =>
    cases n with
    | zero => rfl
    | succ n => simp [ListingDb.walk, h]
  | root h hroot =>
    cases n with
    | zero => rfl
    | succ n => simp [ListingDb.walk, h, hroot]
  | up h hparent _ ih =>
    cases n with
    | zero => rfl
    | succ n => simp [ListingDb.walk, h, hparent, ih n]

/-- A walk starts at the row under the id. -/
theorem walk_head (n : Nat) (hg : g ∈ (db.walk n id).head?) : g.id = id := by
  cases n with
  | zero => cases hg
  | succ n =>
    rw [ListingDb.walk] at hg
    cases hfind : Table.find MediaGeneration.id id db.mediaGenerations with
    | none => simp [hfind] at hg
    | some row =>
      have hrow : row.id = id := Table.find_key hfind
      cases hparent : row.generatedFromId with
      | none =>
        simp [hfind, hparent] at hg
        rw [← hg, hrow]
      | some parent =>
        simp [hfind, hparent] at hg
        rw [← hg, hrow]

/-- Each row is followed by its parent. -/
theorem isChain_walk (n : Nat) (id : Uuid) :
    (db.walk n id).IsChain fun g p => g.generatedFromId = some p.id := by
  induction n generalizing id with
  | zero => exact .nil
  | succ n ih =>
    rw [ListingDb.walk]
    cases Table.find MediaGeneration.id id db.mediaGenerations with
    | none => exact .nil
    | some g =>
      cases hparent : g.generatedFromId with
      | none =>
        simp only [hparent]
        exact .singleton g
      | some parent =>
        simp only [hparent]
        apply List.isChain_cons.2
        refine ⟨fun p hp => ?_, ih parent⟩
        rw [hparent, walk_head n hp]

/-! ## Cycles -/

/-- The links lead from an id to the rows above it. -/
theorem parent_of_above {n : Nat} (h : Above db id n g) :
    Relation.ReflTransGen (Parent db) id g.id ∧
      Table.find MediaGeneration.id g.id db.mediaGenerations = some g := by
  induction h with
  | self h =>
    have hkey := Table.find_key h
    rw [hkey]
    exact ⟨.refl, h⟩
  | up h hparent _ ih => exact ⟨.head ⟨_, h, hparent⟩ ih.1, ih.2⟩

/-- A row above an id that is also generated from it closes a cycle. -/
theorem hasCycle_of_above {n : Nat} (h : Above db id n g) (hchild : g.generatedFromId = some id) :
    HasCycle db := by
  obtain ⟨hup, hrow⟩ := parent_of_above h
  exact ⟨id, .tail' hup ⟨g, hrow, hchild⟩⟩

/-! ## The chain -/

/-- What a chain says about the links of the table. -/
structure ChainOf (db : ListingDb) (id : Uuid) (chain : MediaGenerationChain) : Prop where
  /-- A path of at most 50 rows is there as it is, the root first. -/
  path : ∀ path, RootPath db id path → path.length ≤ 50 → chain.ancestors = path.reverse
  /-- Each of the ancestors is the parent of the next. -/
  linked : chain.ancestors.IsChain fun p g => g.generatedFromId = some p.id
  /-- The last one is the generation itself. -/
  self : ∀ g ∈ chain.ancestors.getLast?, g.id = id
  /-- The children are the rows that were generated from it. -/
  children : chain.children.Perm (db.mediaGenerations.filter fun g => g.generatedFromId = some id)
  /-- They are listed in the order of their creation. -/
  sorted : chain.children.Pairwise fun g g' => g.createdAt ≤ g'.createdAt
  /-- A row is on both sides only if the links run in a circle. -/
  disjoint : ∀ g ∈ chain.ancestors, g ∈ chain.children → HasCycle db

theorem findChain_chainOf (db : ListingDb) (id : Uuid) : ChainOf db id (db.findChain id) where
  path path hpath hlength := by
    rw [ListingDb.findChain, walk_eq_take hpath, List.take_of_length_le hlength]
  linked := List.isChain_reverse.2 (isChain_walk 50 id)
  self g hg := by
    rw [ListingDb.findChain, List.getLast?_reverse] at hg
    exact walk_head 50 hg
  children := by
    have hfilter : (db.mediaGenerations.filter fun g => g.generatedFromId == some id) =
        db.mediaGenerations.filter fun g => g.generatedFromId = some id :=
      List.filter_congr fun g _ => by simp [beq_eq_decide]
    rw [← hfilter]
    exact List.perm_insertionSort _ _
  sorted := List.pairwise_insertionSort _ _
  disjoint g hancestor hchild := by
    have hlinked : g.generatedFromId = some id := by
      have hmem := (List.mem_insertionSort _).1 hchild
      simpa using (List.mem_filter.1 hmem).2
    obtain ⟨n, _, habove⟩ := mem_walk.1 (List.mem_reverse.1 hancestor)
    exact hasCycle_of_above habove hlinked

end KlassGateway.Db
