import KlassGateway.Api.Listing
/-!
# Who sees which generations

The list of `index` takes the rows of the teacher only.  The chain that it
answers for a `parent_id` follows the links, whoever owns the rows.

* `mem_walk` says what the loop of `find_chain` collects.
* `index_private_iff`: two states that agree on the rows of a teacher give that
  teacher the same response, without a generation of anybody else, exactly
  where every row that is linked to `parent_id` is the teacher's own.
* `show_private`: a single generation is shown from the teacher's rows alone.
* `foreign_chain_listed` is a chain of another teacher.
-/

namespace KlassGateway.Api

open Lib Db

/-! ## States that agree on the rows of a teacher -/

/-- The generations refer to the same related rows in both tables. -/
def SameRelated {K R : Type} [DecidableEq K] (generations : List MediaGeneration)
    (field : MediaGeneration → Option K) (key : R → K) (rows rows' : List R) : Prop :=
  ∀ g ∈ generations, ∀ id, field g = some id → Table.find key id rows = Table.find key id rows'

/-- Two states agree on the rows of a teacher and on what they refer to. -/
structure SameFor (teacherId : Int) (db db' : ListingDb) : Prop where
  generations : db.ofTeacher teacherId = db'.ofTeacher teacherId
  subjects : SameRelated (db.ofTeacher teacherId) MediaGeneration.subjectId SubjectSummary.id
    db.subjects db'.subjects
  subSubjects : SameRelated (db.ofTeacher teacherId) MediaGeneration.subSubjectId
    SubSubjectSummary.id db.subSubjects db'.subSubjects
  topics : SameRelated (db.ofTeacher teacherId) MediaGeneration.topicId TopicSummary.id
    db.topics db'.topics
  contents : SameRelated (db.ofTeacher teacherId) MediaGeneration.contentId ContentSummary.id
    db.contents db'.contents
  recommendedProjects : SameRelated (db.ofTeacher teacherId) MediaGeneration.recommendedProjectId
    RecommendedProjectSummary.id db.recommendedProjects db'.recommendedProjects

section Relations

variable {K R : Type} [DecidableEq K] {key : R → K} {ids : List K} {rows rows' : List R}

theorem fetchBy_of_mem {id : K} (h : id ∈ ids) :
    ListingDb.fetchBy key ids rows id = Table.find key id rows := by
  refine Table.find_filter fun r hr => ?_
  rw [Table.find_key hr]
  exact List.contains_iff_mem.2 h

theorem fetchBy_of_not_mem {id : K} (h : id ∉ ids) : ListingDb.fetchBy key ids rows id = none := by
  cases hfind : ListingDb.fetchBy key ids rows id with
  | none => rfl
  | some r =>
    have hmem := (List.mem_filter.1 (Table.find_mem hfind)).2
    rw [Table.find_key hfind] at hmem
    exact absurd (List.contains_iff_mem.1 hmem) h

/-- A batch of the teacher's rows fetches the same related rows. -/
theorem SameRelated.fetchBy {generations batch : List MediaGeneration}
    {field : MediaGeneration → Option K} (h : SameRelated generations field key rows rows')
    (hbatch : ∀ g ∈ batch, g ∈ generations) :
    ListingDb.fetchBy key (batch.filterMap field) rows =
      ListingDb.fetchBy key (batch.filterMap field) rows' := by
  funext id
  by_cases hid : id ∈ batch.filterMap field
  · obtain ⟨g, hg, hfield⟩ := List.mem_filterMap.1 hid
    rw [fetchBy_of_mem hid, fetchBy_of_mem hid]
    exact h g (hbatch g hg) id hfield
  · rw [fetchBy_of_not_mem hid, fetchBy_of_not_mem hid]

end Relations

section Same

variable {teacherId : Int} {db db' : ListingDb}

theorem SameFor.attachRelations (h : SameFor teacherId db db') {batch : List MediaGeneration}
    (hbatch : ∀ g ∈ batch, g ∈ db.ofTeacher teacherId) :
    db.attachRelations batch = db'.attachRelations batch := by
  unfold ListingDb.attachRelations
  dsimp only
  rw [h.subjects.fetchBy hbatch, h.subSubjects.fetchBy hbatch, h.topics.fetchBy hbatch,
    h.contents.fetchBy hbatch, h.recommendedProjects.fetchBy hbatch]

theorem SameFor.findRecentForTeacher (h : SameFor teacherId db db') (limit : Nat) :
    db.findRecentForTeacher teacherId limit = db'.findRecentForTeacher teacherId limit := by
  unfold ListingDb.findRecentForTeacher
  rw [← h.generations]
  refine h.attachRelations fun g hg => ?_
  exact (List.mem_insertionSort _).1 (List.mem_of_mem_take hg)

theorem SameFor.findByIdForTeacher (h : SameFor teacherId db db') (id : Uuid) :
    db.findByIdForTeacher id teacherId = db'.findByIdForTeacher id teacherId := by
  unfold ListingDb.findByIdForTeacher
  rw [← h.generations]
  rw [h.attachRelations fun g hg => ?_]
  exact Table.find_mem (Option.mem_toList.1 hg)

theorem mem_attachRelations {batch : List MediaGeneration} {g : MediaGenerationWithRelations}
    (h : g ∈ db.attachRelations batch) : g.generation ∈ batch := by
  obtain ⟨g', hg', rfl⟩ := List.mem_map.1 h
  exact hg'

end Same

/-! ## The chain -/

/-- `g` is the row under `id`, or one above it by `n` links. -/
inductive Above (db : ListingDb) : Uuid → Nat → MediaGeneration → Prop
  | self {id g} (h : Table.find MediaGeneration.id id db.mediaGenerations = some g) : Above db id 0 g
  | up {id g parent n g'} (h : Table.find MediaGeneration.id id db.mediaGenerations = some g)
      (hparent : g.generatedFromId = some parent) (habove : Above db parent n g') :
      Above db id (n + 1) g'

/-- A row that the chain of `id` names: above it by fewer than 50 links, or a
direct child. -/
def Linked (db : ListingDb) (id : Uuid) (g : MediaGeneration) : Prop :=
  (∃ n < 50, Above db id n g) ∨ g ∈ db.mediaGenerations ∧ g.generatedFromId = some id

/-- The linked rows all belong to the teacher. -/
def LinkedOwn (teacherId : Int) (db : ListingDb) (id : Uuid) : Prop :=
  ∀ g, Linked db id g → g.teacherId = teacherId

section Chain

variable {teacherId : Int} {db db' : ListingDb} {id : Uuid}

theorem Above.mem {n : Nat} {g : MediaGeneration} (h : Above db id n g) : g ∈ db.mediaGenerations := by
  induction h with
  | self h => exact Table.find_mem h
  | up _ _ _ ih => exact ih

/-- The loop collects the rows above, as far as it goes. -/
theorem mem_walk {n : Nat} {g : MediaGeneration} : g ∈ db.walk n id ↔ ∃ k < n, Above db id k g := by
  induction n generalizing id with
  | zero =>
    constructor
    · intro h
      cases h
    · rintro ⟨k, hk, _⟩
      omega
  | succ n ih =>
    rw [ListingDb.walk]
    cases hfind : Table.find MediaGeneration.id id db.mediaGenerations with
    | none =>
      constructor
      · intro h
        cases h
      · rintro ⟨k, _, habove⟩
        cases habove with
        | self h => rw [hfind] at h; cases h
        | up h _ _ => rw [hfind] at h; cases h
    | some row =>
      cases hparent : row.generatedFromId with
      | none =>
        simp only [hparent, List.mem_singleton]
        constructor
        · rintro rfl
          exact ⟨0, Nat.zero_lt_succ n, .self hfind⟩
        · rintro ⟨k, _, habove⟩
          cases habove with
          | self h =>
            rw [hfind] at h
            exact (Option.some.inj h).symm
          | up h hup _ =>
            rw [hfind] at h
            cases h
            rw [hparent] at hup
            cases hup
      | some parent =>
        simp only [hparent, List.mem_cons, ih]
        constructor
        · rintro (rfl | ⟨k, hk, habove⟩)
          · exact ⟨0, Nat.zero_lt_succ n, .self hfind⟩
          · exact ⟨k + 1, Nat.succ_lt_succ hk, .up hfind hparent habove⟩
        · rintro ⟨k, hk, habove⟩
          cases habove with
          | self h =>
            rw [hfind] at h
            exact .inl (Option.some.inj h).symm
          | @up _ _ parent' k _ h hup habove =>
            rw [hfind] at h
            cases h
            rw [hparent] at hup
            cases hup
            exact .inr ⟨k, Nat.lt_of_succ_lt_succ hk, habove⟩

/-- A lookup that finds no foreign row finds the teacher's. -/
theorem find_ofTeacher
    (h : ∀ g, Table.find MediaGeneration.id id db.mediaGenerations = some g →
      g.teacherId = teacherId) :
    Table.find MediaGeneration.id id db.mediaGenerations =
      Table.find MediaGeneration.id id (db.ofTeacher teacherId) :=
  (Table.find_filter fun g hg => beq_iff_eq.2 (h g hg)).symm

/-- The loop walks the same way in both states, where it meets no foreign row. -/
theorem SameFor.walk (h : SameFor teacherId db db') {n : Nat}
    (hown : ∀ k g, k < n → Above db id k g → g.teacherId = teacherId)
    (hown' : ∀ k g, k < n → Above db' id k g → g.teacherId = teacherId) :
    db.walk n id = db'.walk n id := by
  induction n generalizing id with
  | zero => rfl
  | succ n ih =>
    have hfind : Table.find MediaGeneration.id id db.mediaGenerations =
        Table.find MediaGeneration.id id db'.mediaGenerations := by
      rw [find_ofTeacher fun g hg => hown 0 g (Nat.zero_lt_succ n) (.self hg), h.generations,
        ← find_ofTeacher fun g hg => hown' 0 g (Nat.zero_lt_succ n) (.self hg)]
    rw [ListingDb.walk, ListingDb.walk, ← hfind]
    cases hrow : Table.find MediaGeneration.id id db.mediaGenerations with
    | none => rfl
    | some row =>
      cases hparent : row.generatedFromId with
      | none => simp only [hparent]
      | some parent =>
        have hrow' := hfind.symm.trans hrow
        have hwalk : db.walk n parent = db'.walk n parent :=
          ih (fun k g hk habove => hown (k + 1) g (Nat.succ_lt_succ hk) (.up hrow hparent habove))
            fun k g hk habove => hown' (k + 1) g (Nat.succ_lt_succ hk) (.up hrow' hparent habove)
        simp only [hparent, hwalk]

theorem SameFor.findChain (h : SameFor teacherId db db') (hown : LinkedOwn teacherId db id)
    (hown' : LinkedOwn teacherId db' id) : db.findChain id = db'.findChain id := by
  have hwalk : db.walk 50 id = db'.walk 50 id :=
    h.walk (fun k g hk habove => hown g (.inl ⟨k, hk, habove⟩))
      fun k g hk habove => hown' g (.inl ⟨k, hk, habove⟩)
  have hchildren (db : ListingDb) (hown : LinkedOwn teacherId db id) :
      (db.mediaGenerations.filter fun g => g.generatedFromId == some id) =
        (db.ofTeacher teacherId).filter fun g => g.generatedFromId == some id := by
    rw [ListingDb.ofTeacher, List.filter_filter]
    refine List.filter_congr fun g hg => ?_
    by_cases hchild : g.generatedFromId = some id
    · simp [hchild, hown g (.inr ⟨hg, hchild⟩)]
    · simp [hchild]
  unfold ListingDb.findChain
  rw [hwalk, hchildren db hown, hchildren db' hown', h.generations]

theorem mem_findChain {g : MediaGeneration} :
    g ∈ (db.findChain id).ancestors ++ (db.findChain id).children ↔ Linked db id g := by
  unfold ListingDb.findChain Linked
  simp [mem_walk, List.mem_append, List.mem_insertionSort]

end Chain

/-! ## The guarantee -/

/-- Every generation of a response is one of the teacher's. -/
def OwnOnly (teacherId : Int) (db : ListingDb) (response : Except AppError IndexData) : Prop :=
  ∀ data, response = .ok data → ∀ resource ∈ data.generations,
    ∃ g ∈ db.ofTeacher teacherId, g.id = resource.id

section Guarantee

variable {teacherId : Int} {db db' : ListingDb} {format : DateTime → String}

/-- What `index` answers a teacher. -/
theorem index_teacher (db : ListingDb) (parentId : Option Uuid) :
    index ⟨format, db⟩ ⟨teacherId, "teacher"⟩ parentId = .ok
      (match parentId with
      | some id => .chain ((db.findChain id).ancestors.map (buildResourceFromGen ⟨format, db⟩))
          ((db.findChain id).children.map (buildResourceFromGen ⟨format, db⟩))
      | none => .list ((db.findRecentForTeacher teacherId 20).map (buildResource ⟨format, db⟩))) := by
  unfold index asTeacher
  rw [if_neg (by simp)]
  cases parentId <;> rfl

/-- A chain without foreign generations has no foreign rows. -/
theorem linkedOwn_iff (hids : (db.mediaGenerations.map MediaGeneration.id).Nodup) (id : Uuid) :
    OwnOnly teacherId db (index ⟨format, db⟩ ⟨teacherId, "teacher"⟩ (some id)) ↔
      LinkedOwn teacherId db id := by
  rw [index_teacher]
  constructor
  · intro h g hg
    have hmem : buildResourceFromGen ⟨format, db⟩ g ∈ IndexData.generations
        (.chain ((db.findChain id).ancestors.map (buildResourceFromGen ⟨format, db⟩))
          ((db.findChain id).children.map (buildResourceFromGen ⟨format, db⟩))) := by
      rw [IndexData.generations, ← List.map_append]
      exact List.mem_map_of_mem (mem_findChain.2 hg)
    obtain ⟨g', hg', hid⟩ := h _ rfl _ hmem
    obtain ⟨hrow', hteacher⟩ := List.mem_filter.1 hg'
    have hrow : g ∈ db.mediaGenerations := by
      obtain ⟨_, _, habove⟩ | ⟨hrow, _⟩ := hg
      · exact habove.mem
      · exact hrow
    have hfind := Table.find_of_mem hids hrow
    have hfind' := Table.find_of_mem hids hrow'
    have hid : g'.id = g.id := hid
    rw [hid, hfind] at hfind'
    cases hfind'
    exact beq_iff_eq.1 hteacher
  · rintro h data ⟨⟩ resource hresource
    rw [IndexData.generations, ← List.map_append] at hresource
    obtain ⟨g, hg, rfl⟩ := List.mem_map.1 hresource
    have hlinked := mem_findChain.1 hg
    have hrow : g ∈ db.mediaGenerations := by
      obtain ⟨_, _, habove⟩ | ⟨hrow, _⟩ := hlinked
      · exact habove.mem
      · exact hrow
    exact ⟨g, List.mem_filter.2 ⟨hrow, beq_iff_eq.2 (h g hlinked)⟩, rfl⟩

theorem ownOnly_list (db : ListingDb) :
    OwnOnly teacherId db (index ⟨format, db⟩ ⟨teacherId, "teacher"⟩ none) := by
  rw [index_teacher]
  rintro data ⟨⟩ resource hresource
  obtain ⟨g, hg, rfl⟩ := List.mem_map.1 hresource
  have hmem := mem_attachRelations hg
  exact ⟨g.generation, (List.mem_insertionSort _).1 (List.mem_of_mem_take hmem), rfl⟩

/-- A single generation comes from the rows of the teacher. -/
theorem show_private (h : SameFor teacherId db db') (role : String) (id : Uuid) :
    showGeneration ⟨format, db⟩ ⟨teacherId, role⟩ id =
      showGeneration ⟨format, db'⟩ ⟨teacherId, role⟩ id := by
  unfold showGeneration
  simp only [h.findByIdForTeacher]
  rfl

/-- The response depends on the rows of the teacher alone, and shows no others,
exactly where the linked rows are the teacher's in both states. -/
theorem index_private_iff (h : SameFor teacherId db db')
    (hids : (db.mediaGenerations.map MediaGeneration.id).Nodup)
    (hids' : (db'.mediaGenerations.map MediaGeneration.id).Nodup) (parentId : Option Uuid) :
    (index ⟨format, db⟩ ⟨teacherId, "teacher"⟩ parentId =
        index ⟨format, db'⟩ ⟨teacherId, "teacher"⟩ parentId ∧
      OwnOnly teacherId db (index ⟨format, db⟩ ⟨teacherId, "teacher"⟩ parentId) ∧
      OwnOnly teacherId db' (index ⟨format, db'⟩ ⟨teacherId, "teacher"⟩ parentId)) ↔
    ∀ id, parentId = some id → LinkedOwn teacherId db id ∧ LinkedOwn teacherId db' id := by
  constructor
  · rintro ⟨_, hown, hown'⟩ id rfl
    exact ⟨(linkedOwn_iff hids id).1 hown, (linkedOwn_iff hids' id).1 hown'⟩
  · intro hlinked
    cases parentId with
    | none =>
      refine ⟨?_, ownOnly_list db, ownOnly_list db'⟩
      rw [index_teacher, index_teacher]
      dsimp only
      rw [h.findRecentForTeacher]
      rfl
    | some id =>
      obtain ⟨hown, hown'⟩ := hlinked id rfl
      refine ⟨?_, (linkedOwn_iff hids id).2 hown, (linkedOwn_iff hids' id).2 hown'⟩
      rw [index_teacher, index_teacher]
      dsimp only
      rw [h.findChain hown hown']
      rfl

end Guarantee

/-- A generation of teacher 7. -/
def ownGeneration : MediaGeneration :=
  { id := ⟨1⟩, teacherId := 7, rawPrompt := "fotosintesis", requestFingerprint := "own" }

/-- Its regeneration. -/
def ownRegeneration : MediaGeneration :=
  { ownGeneration with id := ⟨2⟩, generatedFromId := some ⟨1⟩, isRegeneration := true }

/-- A generation of teacher 8. -/
def foreignGeneration : MediaGeneration :=
  { id := ⟨3⟩, teacherId := 8, rawPrompt := "soal ujian", requestFingerprint := "foreign" }

/-- The rows of teacher 7 alone. -/
def ownRows : ListingDb := { mediaGenerations := [ownGeneration, ownRegeneration] }

/-- The rows of teacher 7 and one of teacher 8. -/
def allRows : ListingDb :=
  { mediaGenerations := [ownGeneration, foreignGeneration, ownRegeneration] }

theorem sameFor_allRows : SameFor 7 ownRows allRows where
  generations := rfl
  subjects := fun _ _ _ _ => rfl
  subSubjects := fun _ _ _ _ => rfl
  topics := fun _ _ _ _ => rfl
  contents := fun _ _ _ _ => rfl
  recommendedProjects := fun _ _ _ _ => rfl

/-- `format_naive_datetime` on the time of these rows. -/
def epochFormat (_ : DateTime) : String := "1970-01-01T00:00:00.000000Z"

/-- The chain of a generation of the teacher. -/
theorem index_private_sample :
    index ⟨epochFormat, ownRows⟩ ⟨7, "teacher"⟩ (some ⟨1⟩) =
      index ⟨epochFormat, allRows⟩ ⟨7, "teacher"⟩ (some ⟨1⟩) := by
  have hown (db : ListingDb)
      (h : ∀ g ∈ (db.findChain ⟨1⟩).ancestors ++ (db.findChain ⟨1⟩).children, g.teacherId = 7) :
      LinkedOwn 7 db ⟨1⟩ := fun g hg => h g (mem_findChain.2 hg)
  refine ((index_private_iff sameFor_allRows (by decide) (by decide) (some ⟨1⟩)).2 ?_).1
  rintro id ⟨⟩
  exact ⟨hown ownRows (by decide), hown allRows (by decide)⟩

/-- The chain of a generation of another teacher is listed too, which is not
shown alone. -/
theorem foreign_chain_listed :
    SameFor 7 ownRows allRows ∧
    index ⟨epochFormat, ownRows⟩ ⟨7, "teacher"⟩ (some ⟨3⟩) ≠
      index ⟨epochFormat, allRows⟩ ⟨7, "teacher"⟩ (some ⟨3⟩) ∧
    ¬ OwnOnly 7 allRows (index ⟨epochFormat, allRows⟩ ⟨7, "teacher"⟩ (some ⟨3⟩)) ∧
    showGeneration ⟨epochFormat, allRows⟩ ⟨7, "teacher"⟩ ⟨3⟩ =
      .error (.notFound "media generation not found") := by
  have hchain : index ⟨epochFormat, allRows⟩ ⟨7, "teacher"⟩ (some ⟨3⟩) =
      .ok (.chain [buildResourceFromGen ⟨epochFormat, allRows⟩ foreignGeneration] []) := rfl
  have hempty : index ⟨epochFormat, ownRows⟩ ⟨7, "teacher"⟩ (some ⟨3⟩) = .ok (.chain [] []) := rfl
  refine ⟨sameFor_allRows, ?_, fun h => ?_, rfl⟩
  · rw [hchain, hempty]
    rintro ⟨⟩
  · obtain ⟨g, hg, hid⟩ := h _ hchain _ (List.mem_append_left _ (List.mem_singleton_self _))
    have hforeign : ∀ g ∈ allRows.ofTeacher 7, g.id ≠ ⟨3⟩ := by decide
    exact hforeign g hg hid

end KlassGateway.Api
