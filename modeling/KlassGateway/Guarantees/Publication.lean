import KlassGateway.Reachable
/-!
# Publications of a generation

`ensure_published` looks for the entities of a generation and then publishes;
`publish_inner` locks the row and does not look again.

* `publications` are the publications that a history commits, and
  `play_entities` says that the three tables grow by them and by nothing else.
* `published_once`: in a history in which no publication locks an open row that
  has its entities, every generation is published at most once, and its row
  points at what was published to the end.
* `published_twice`: two workers that have both looked publish both.
-/

namespace KlassGateway

open Lib Db Orchestrator MediaGen Queue Api

/-! ## What a query publishes -/

/-- The publication that a query commits, with its generation. -/
def Db.Query.publication (now : DateTime) (replies : PublicationReplies) (db : Database) :
    Query → Option (Uuid × Publication)
  | .onRow id st => (db.row id).bind fun g =>
      (st.publication now replies db.nextProjectId g).map fun pub => (id, pub)
  | _ => none

/-- The three tables of entities. -/
def entities (db : Database) : List Topic × List Content × List RecommendedProject :=
  (db.topics, db.contents, db.projects)

section Query

variable {now : DateTime} {replies : PublicationReplies} {db : Database} {q : Query}

/-- A query adds the entities of its publication. -/
theorem exec_entities : entities (q.exec now replies db).2 =
    entities (db.addEntities ((q.publication now replies db).map Prod.snd)) := by
  have hinsert (row : MediaGeneration) : entities (db.insert now row).2 = entities db := by
    unfold Database.insert
    cases db.insertFault row <;> rfl
  cases q with
  | insertSubmission row => exact hinsert row
  | insertRegeneration parentId row =>
    simp only [Query.exec]
    cases db.row parentId with
    | none => rfl
    | some parent => exact hinsert _
  | onRow id st =>
    simp only [Query.exec, Query.publication]
    cases db.row id with
    | none => rfl
    | some g =>
      simp only [Option.bind_some, Option.map_map]
      cases st.publication now replies db.nextProjectId g <;> rfl
  | _ => rfl

/-- What is published is an open row, which then points at its entities. -/
theorem publication_row {id : Uuid} {pub : Publication}
    (h : q.publication now replies db = some (id, pub)) :
    ∃ topicId contentId g, q = .onRow id (.publish topicId contentId) ∧ db.row id = some g ∧
      ¬ (g.status = .completed ∨ g.status = .cancelled) ∧
      (q.exec now replies db).2.row id = some pub.row ∧ PointsAt pub.row pub := by
  cases q with
  | onRow id' st =>
    obtain ⟨g, hrow, hmap⟩ := Option.bind_eq_some_iff.1 h
    obtain ⟨pub', hpub, he⟩ := Option.map_eq_some_iff.1 hmap
    obtain ⟨rfl, rfl⟩ := Prod.mk.inj he
    cases st with
    | publish topicId contentId =>
      have hok : publishRow replies topicId contentId db.nextProjectId now g = .ok (some pub') := by
        simp only [RowStatement.publication] at hpub
        split at hpub
        · next r hr => rw [hr, hpub]
        · cases hpub
      have hrow' : RowStatement.row now replies db.nextProjectId g (.publish topicId contentId) =
          pub'.row := by
        simp only [RowStatement.row, hpub]
        rfl
      obtain ⟨hpoints, hopen⟩ := publishRow_pointsAt hok
      refine ⟨topicId, contentId, g, rfl, hrow, hopen, ?_, hpoints⟩
      simp only [Query.exec, hrow]
      unfold Database.row at hrow ⊢
      rw [Database.addEntities_rows]
      show Table.find MediaGeneration.id id' (Table.modify MediaGeneration.id id' _ db.rows) = _
      rw [Table.find_modify_self fun r hr => by rw [RowStatement.row_id, hr], hrow]
      exact congrArg some hrow'
    | _ => cases hpub
  | _ => cases h

end Query

/-! ## What a history publishes -/

variable {A : AppState}

/-- The publication that an action commits.  A call whose reply is lost commits
it as well. -/
def publicationOf (s : (system A).State) : (system A).Action → Option (Uuid × Publication)
  | .act i c =>
    match Pool.called s (.act i c), c.fault with
    | some (_, .query _), .failed _ => none
    | some (_, .query q), _ => q.publication c.clock c.publication s.world.db
    | _, _ => none
  | _ => none

/-- The publications that a history commits, in order. -/
def publications (s : (system A).State) : List (system A).Action → List (Uuid × Publication)
  | [] => []
  | a :: as =>
    match Pool.step s a with
    | some s' => (publicationOf s a).toList ++ publications s' as
    | none => []

/-- A step adds the entities of its publication. -/
theorem step_entities {s s' : (system A).State} {a : (system A).Action}
    (h : Pool.step s a = some s') : entities s'.world.db =
      entities (s.world.db.addEntities ((publicationOf s a).map Prod.snd)) := by
  obtain ⟨arr, w, spawned, rfl, harr, rfl⟩ | ⟨i, c, l, o, k, rfl, hti, rfl⟩ | ⟨i, _, rfl, _, rfl⟩ :=
    Pool.step_cases h
  · obtain ⟨jobs, renderer, rfl⟩ := arrive_world harr
    rfl
  · show entities (o.exec s.world c).2.db = _
    simp only [publicationOf, Pool.called_act hti]
    cases o with
    | query q =>
      cases hfault : c.fault with
      | failed message =>
        simp only [Operation.exec, withFault, hfault]
        rfl
      | none =>
        simp only [Operation.exec, withFault, hfault]
        exact exec_entities
      | lost message =>
        simp only [Operation.exec, withFault, hfault]
        exact exec_entities
    | _ =>
      rcases Operation.exec_db s.world c _ with hdb | ⟨q, hq, _⟩
      · rw [hdb]
        rfl
      · cases hq
  · rfl

/-- A publication is a query that a task makes and whose statements run. -/
theorem publicationOf_query {s s' : (system A).State} {a : (system A).Action}
    {p : Uuid × Publication} (h : Pool.step s a = some s') (hpub : publicationOf s a = some p) :
    ∃ l q now replies, Pool.called s a = some (l, .query q) ∧
      q.publication now replies s.world.db = some p ∧
      s'.world.db = (q.exec now replies s.world.db).2 := by
  obtain ⟨arr, w, spawned, rfl, harr, rfl⟩ | ⟨i, c, l, o, k, rfl, hti, rfl⟩ | ⟨i, _, rfl, _, rfl⟩ :=
    Pool.step_cases h
  · cases hpub
  · simp only [publicationOf, Pool.called_act hti] at hpub
    cases o with
    | query q =>
      refine ⟨l, q, c.clock, c.publication, Pool.called_act hti, ?_⟩
      cases hfault : c.fault with
      | failed message =>
        rw [hfault] at hpub
        cases hpub
      | none =>
        rw [hfault] at hpub
        exact ⟨hpub, by simp only [machine, system, Operation.exec, withFault, hfault]⟩
      | lost message =>
        rw [hfault] at hpub
        exact ⟨hpub, by simp only [machine, system, Operation.exec, withFault, hfault]⟩
    | _ => cases hpub
  · cases hpub

/-- A publication is a call on an open row, which then points at the entities. -/
theorem publicationOf_row {s s' : (system A).State} {a : (system A).Action} {id : Uuid}
    {pub : Publication} (h : Pool.step s a = some s') (hpub : publicationOf s a = some (id, pub)) :
    ∃ l topicId contentId g,
      Pool.called s a = some (l, .query (.onRow id (.publish topicId contentId))) ∧
      s.world.db.row id = some g ∧ ¬ (g.status = .completed ∨ g.status = .cancelled) ∧
      s'.world.db.row id = some pub.row ∧ PointsAt pub.row pub := by
  obtain ⟨l, q, now, replies, hcall, hq, hdb⟩ := publicationOf_query h hpub
  obtain ⟨t, d, g, rfl, hrow, hopen, hrow', hpoints⟩ := publication_row hq
  exact ⟨l, t, d, g, hcall, hrow, hopen, hdb ▸ hrow', hpoints⟩

/-- The publications of a history in two parts. -/
theorem publications_append {s t : (system A).State} {as bs : List (system A).Action}
    (h : Pool.play (fun _ _ => True) s as = some t) :
    publications s (as ++ bs) = publications s as ++ publications t bs := by
  induction as generalizing s with
  | nil =>
    cases h
    rfl
  | cons a as ih =>
    obtain ⟨u, _, hstep, hplay⟩ := Pool.play_cons h
    simp only [List.cons_append, publications, hstep, ih hplay, List.append_assoc]

/-- A history that publishes has a step that does. -/
theorem exists_publication {s : (system A).State} {as : List (system A).Action}
    (h : publications s as ≠ []) :
    ∃ before a after t t' p, as = before ++ a :: after ∧
      Pool.play (fun _ _ => True) s before = some t ∧ Pool.step t a = some t' ∧
      publicationOf t a = some p := by
  induction as generalizing s with
  | nil => exact absurd rfl h
  | cons a as ih =>
    rw [publications] at h
    cases hstep : Pool.step s a with
    | none =>
      rw [hstep] at h
      exact absurd rfl h
    | some u =>
      cases hpub : publicationOf s a with
      | some p => exact ⟨[], a, as, s, u, p, rfl, rfl, hstep, hpub⟩
      | none =>
        rw [hstep, hpub] at h
        obtain ⟨before, b, after, t, t', p, rfl, hplay, hnext⟩ := ih h
        refine ⟨a :: before, b, after, t, t', p, rfl, ?_, hnext⟩
        rw [Pool.play, if_pos trivial, hstep]
        exact hplay

/-- The steps of a history without publications commit none. -/
theorem reach_of_publications_eq_nil {s s' : (system A).State} {as : List (system A).Action}
    (h : Pool.play (fun _ _ => True) s as = some s') (hnone : publications s as = []) :
    Pool.Reach (fun t a => publicationOf t a = none) s s' := by
  induction as generalizing s with
  | nil =>
    cases h
    exact .refl _
  | cons a as ih =>
    obtain ⟨t, _, hstep, hplay⟩ := Pool.play_cons h
    rw [publications, hstep, List.append_eq_nil_iff] at hnone
    have hfirst : publicationOf s a = none := by
      cases hpub : publicationOf s a with
      | none => rfl
      | some p =>
        rw [hpub] at hnone
        cases hnone.1
    exact Relation.ReflTransGen.head ⟨a, hfirst, hstep⟩ (ih hplay hnone.2)

/-- The tables of entities grow by what is published, and each of them by the same
number of rows. -/
theorem play_entities {ok : (system A).State → (system A).Action → Prop}
    [∀ s a, Decidable (ok s a)] {s s' : (system A).State} {as : List (system A).Action}
    (h : Pool.play ok s as = some s') : entities s'.world.db =
      (s.world.db.topics ++ (publications s as).map fun p => p.2.topic,
        s.world.db.contents ++ (publications s as).map fun p => p.2.content,
        s.world.db.projects ++ (publications s as).map fun p => p.2.project) := by
  induction as generalizing s with
  | nil =>
    cases h
    simp [entities, publications]
  | cons a as ih =>
    obtain ⟨t, _, hstep, hplay⟩ := Pool.play_cons h
    have hfirst := step_entities hstep
    rw [ih hplay, publications, hstep]
    have htopics : t.world.db.topics = _ := congrArg Prod.fst hfirst
    have hcontents : t.world.db.contents = _ := congrArg (fun e => e.2.1) hfirst
    have hprojects : t.world.db.projects = _ := congrArg (fun e => e.2.2) hfirst
    rw [htopics, hcontents, hprojects]
    cases publicationOf s a with
    | none => rfl
    | some p => simp [entities, Database.addEntities]

/-! ## At most one publication -/

/-- Whether an open row has all its entities. -/
def alreadyPublished (w : World) (id : Uuid) : Bool :=
  (w.db.row id).any fun g =>
    hasPublicationEntities g && !(g.status == .completed || g.status == .cancelled)

/-- Whether the call is no publication of such a row. -/
def guardHolds (w : World) : Operation → Bool
  | .query (.onRow id (.publish _ _)) => !alreadyPublished w id
  | _ => true

/-- No publication locks an open row that has its entities: what
`ensure_published` has looked at still holds. -/
def GuardHolds (s : (system A).State) (a : (system A).Action) : Prop :=
  (Pool.called s a).all fun p => guardHolds s.world p.2

instance (s : (system A).State) (a : (system A).Action) : Decidable (GuardHolds s a) :=
  inferInstanceAs (Decidable (_ = true))

theorem hasPublicationEntities_of_pointsAt {g : MediaGeneration} {pub : Publication}
    (h : PointsAt g pub) : hasPublicationEntities g = true := by
  obtain ⟨ht, hc, hp⟩ := h
  simp [hasPublicationEntities, ht, hc, hp]

/-- A publication that the guard allows finds a closed row, or one that lacks an
entity. -/
theorem GuardHolds.row {s : (system A).State} {a : (system A).Action} (h : GuardHolds s a)
    {l : Label} {id topicId contentId : Uuid} {g : MediaGeneration}
    (hcall : Pool.called s a = some (l, .query (.onRow id (.publish topicId contentId))))
    (hrow : s.world.db.row id = some g) :
    hasPublicationEntities g = false ∨ g.status = .completed ∨ g.status = .cancelled := by
  unfold GuardHolds at h
  rw [hcall] at h
  have hguard : (!alreadyPublished s.world id) = true := h
  simpa [alreadyPublished, hrow, or_iff_not_imp_left] using hguard

/-- A row statement leaves the pointers alone, except for the publication of an
open row. -/
theorem row_pointsAt (now : DateTime) (replies : PublicationReplies) (projectId : Int)
    {g : MediaGeneration} {pub : Publication} (h : PointsAt g pub) (st : RowStatement)
    (hst : ∀ topicId contentId, st = .publish topicId contentId →
      g.status = .completed ∨ g.status = .cancelled) :
    PointsAt (st.row now replies projectId g) pub := by
  obtain h' | ⟨u, _, h'⟩ | ⟨_, _, _, h'⟩ | ⟨_, _, _, _, _, _, _, h'⟩ |
    ⟨_, _, _, _, _, _, _, _, _, _, h'⟩ | ⟨topicId, contentId, _, _, _, _, _, hpublish, _⟩ :=
      st.row_cases now replies projectId g
  case inr.inl =>
    rw [h']
    cases u <;> exact h
  case inr.inr.inr.inr.inr =>
    have hclosed := hst topicId contentId hpublish
    have hsame : st.row now replies projectId g = g := by
      subst hpublish
      simp only [RowStatement.row, RowStatement.publication, publishRow, if_pos hclosed]
      rfl
    rw [hsame]
    exact h
  all_goals
    rw [h']
    exact h

/-- The row under the key points at the entities. -/
def RowPointsAt (w : World) (id : Uuid) (pub : Publication) : Prop :=
  ∃ g, w.db.row id = some g ∧ PointsAt g pub

/-- The pointers stay while the guard holds. -/
theorem rowPointsAt_stays {s s' : (system A).State} (h : Pool.Reach GuardHolds s s') {id : Uuid}
    {pub : Publication} (hs : RowPointsAt s.world id pub) : RowPointsAt s'.world id pub := by
  refine row_of_reach (fun t a l st g now replies projectId hok hcall hrow hpoints => ?_) h hs
  refine row_pointsAt now replies projectId hpoints st fun topicId contentId hst => ?_
  subst hst
  rcases hok.row hcall hrow with hlacks | hclosed
  · rw [hasPublicationEntities_of_pointsAt hpoints] at hlacks
    cases hlacks
  · exact hclosed

/-- A generation whose row points at its entities is not published again while the
guard holds. -/
theorem not_published_again {s s' : (system A).State} {as : List (system A).Action}
    (h : Pool.play GuardHolds s as = some s') {id : Uuid} {pub : Publication}
    (hs : RowPointsAt s.world id pub) : id ∉ (publications s as).map Prod.fst := by
  induction as generalizing s with
  | nil => simp [publications]
  | cons a as ih =>
    obtain ⟨t, hok, hstep, hplay⟩ := Pool.play_cons h
    have ht : RowPointsAt t.world id pub :=
      rowPointsAt_stays (Relation.ReflTransGen.single ⟨a, hok, hstep⟩) hs
    rw [publications, hstep]
    cases hpub : publicationOf s a with
    | none => exact ih hplay ht
    | some p =>
      obtain ⟨id', pub'⟩ := p
      have hne : id' ≠ id := by
        rintro rfl
        obtain ⟨l, t, c, g, hcall, hrow, hopen, _⟩ := publicationOf_row hstep hpub
        obtain ⟨g', hrow', hpoints⟩ := hs
        rw [hrow] at hrow'
        obtain rfl := Option.some.inj hrow'
        rcases hok.row hcall hrow with hlacks | hclosed
        · rw [hasPublicationEntities_of_pointsAt hpoints] at hlacks
          cases hlacks
        · exact hopen hclosed
      have hrest := ih hplay ht
      simpa [hne.symm] using hrest

/-- In a history whose publications all find what `ensure_published` has looked
for, each generation gets at most one topic, content and project, and its row
points at them at the end. -/
theorem published_once (A : AppState) (s s' : (system A).State) (as : List (system A).Action)
    (h : Pool.play GuardHolds s as = some s') :
    entities s'.world.db =
        (s.world.db.topics ++ (publications s as).map fun p => p.2.topic,
          s.world.db.contents ++ (publications s as).map fun p => p.2.content,
          s.world.db.projects ++ (publications s as).map fun p => p.2.project) ∧
      ((publications s as).map Prod.fst).Nodup ∧
      ∀ id pub, (id, pub) ∈ publications s as → RowPointsAt s'.world id pub := by
  refine ⟨play_entities h, ?_⟩
  induction as generalizing s with
  | nil => simp [publications]
  | cons a as ih =>
    obtain ⟨t, hok, hstep, hplay⟩ := Pool.play_cons h
    obtain ⟨hnodup, hpoints⟩ := ih t hplay
    rw [publications, hstep]
    cases hpub : publicationOf s a with
    | none => exact ⟨hnodup, hpoints⟩
    | some p =>
      obtain ⟨id, pub⟩ := p
      obtain ⟨_, _, _, _, _, _, _, hrow, hat⟩ := publicationOf_row hstep hpub
      have ht : RowPointsAt t.world id pub := ⟨pub.row, hrow, hat⟩
      have hagain := not_published_again hplay ht
      refine ⟨List.nodup_cons.2 ⟨hagain, hnodup⟩, fun id' pub' hmem => ?_⟩
      rcases List.mem_cons.1 hmem with he | hmem
      · obtain ⟨rfl, rfl⟩ := Prod.mk.inj he
        exact rowPointsAt_stays (.of_play hplay) ht
      · exact hpoints id' pub' hmem

/-- The callback of the second job of a generation. -/
def storedCallback : MediaWebhookPayload :=
  { jobId := ⟨2⟩
    generationId := ⟨0⟩
    status := "completed"
    s3ObjectKey := some "jobs/2.pptx" }

/-- A publication that downloads a presentation. -/
def pptxStored : Choice :=
  { fine with publication := { artifact := .ok (200, [0x50, 0x4B, 0x03, 0x04]) } }

/-- A request and a `skip_clarification` of it are enqueued before a worker reads:
two runs submit their jobs, and the job of the second is reported. -/
def twoRuns : List ((system sampleGateway).Action) :=
  [.arrive .bootWorker] ++ calls 0 2 ++
  [.arrive (.create sampleTeacher { rawPrompt := "fotosintesis" })] ++ calls 1 9 ++
  [.arrive (.skipClarification sampleTeacher ⟨0⟩)] ++ calls 2 9 ++
  [.arrive (.readMessages "worker-1" false)] ++ calls 3 30 ++ calls 4 25 ++
  [.arrive (.callback storedCallback)] ++ calls 5 5

/-- The first run looks and publishes, then the second run looks. -/
def oneAfterTheOther : List ((system sampleGateway).Action) :=
  twoRuns ++ calls 3 5 ++ [.act 3 pptxStored] ++ calls 4 5

/-- The second run finds the entities of the first. -/
theorem published_once_sample : ∃ s : (system sampleGateway).State,
    (publications ((system sampleGateway).start sampleWorld) oneAfterTheOther).map Prod.fst =
        [⟨0⟩] ∧
      ∀ id pub, (id, pub) ∈ publications ((system sampleGateway).start sampleWorld)
        oneAfterTheOther → RowPointsAt s.world id pub := by
  have hplays : (Pool.play GuardHolds ((system sampleGateway).start sampleWorld)
      oneAfterTheOther).isSome := by decide +kernel
  have hids : (publications ((system sampleGateway).start sampleWorld) oneAfterTheOther).map
      Prod.fst = [⟨0⟩] := by decide +kernel
  obtain ⟨s, hs⟩ := Option.isSome_iff_exists.1 hplays
  exact ⟨s, hids, (published_once sampleGateway _ s oneAfterTheOther hs).2.2⟩

/-- Two runs of one generation look for its entities before either publishes, and
both publish. -/
theorem published_twice : ∃ s : (system sampleGateway).State,
    Pool.play (fun _ _ => True) ((system sampleGateway).start sampleWorld)
        (twoRuns ++ calls 3 5 ++ calls 4 5 ++ [.act 3 pptxStored, .act 4 pptxStored]) = some s ∧
      s.world.db.topics.length = 2 ∧
      (publications ((system sampleGateway).start sampleWorld)
        (twoRuns ++ calls 3 5 ++ calls 4 5 ++ [.act 3 pptxStored, .act 4 pptxStored])).map Prod.fst =
        [⟨0⟩, ⟨0⟩] := by
  have hplay : (Pool.play (fun _ _ => True) ((system sampleGateway).start sampleWorld)
      (twoRuns ++ calls 3 5 ++ calls 4 5 ++ [.act 3 pptxStored, .act 4 pptxStored])).map
        (fun s => s.world.db.topics.length) = some 2 := by decide +kernel
  obtain ⟨s, hs, htopics⟩ := Option.map_eq_some_iff.1 hplay
  exact ⟨s, hs, htopics, by decide +kernel⟩

end KlassGateway
