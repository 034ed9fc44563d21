import KlassGateway.Reachable
/-!
# The result of a render job

`generation_status` is written by the API, by the workers and by the webhook,
and none of them looks at the column in the statement that writes it.

* `result_stays`: a final result stays until a confirmation or a skip assigns a
  new job id, as long as every other write to the column finds an open result.
* `result_overwritten`: the worker's `processing` write need not.  The callback
  may come between the submission of the job and that write.  Nor need the reset
  with which a skip begins: the new job id is assigned some calls later, or
  never.
-/

namespace KlassGateway

open Lib Db Orchestrator Queue Api

variable {A : AppState}

/-- The result of the current render job of a row. -/
def jobResult (g : MediaGeneration) : Option Uuid × Option GenerationStatus :=
  (g.generationJobId, g.generationStatus)

/-- Whether the result of a row is final. -/
def hasFinalResult (g : MediaGeneration) : Bool := g.generationStatus.any GenerationStatus.isFinal

/-- The job id and the status of a row after a statement that writes them.
`mark_failed` leaves completed and cancelled generations alone. -/
def resultWritten (g : MediaGeneration) :
    RowStatement → Option (Option Uuid × Option GenerationStatus)
  | .update .markProcessing => some (g.generationJobId, some .processing)
  | .update (.generationJobStatus jobId status) => some (jobId, some status)
  | .update (.resetForReprocessing _) => some (g.generationJobId, none)
  | .markFailed _ _ _ _ _ _ =>
    if g.status = .completed ∨ g.status = .cancelled then none
    else some (g.generationJobId, some .failed)
  | _ => none

/-- The last statement of a confirmation or a skip, which assigns a new job id. -/
def assignsNewJob (l : Label) : RowStatement → Bool
  | .update (.generationJobStatus _ _) =>
    (l.kind matches .confirm) || (l.kind matches .skipClarification)
  | _ => false

/-- The step is one with which a confirmation or a skip gives the generation a new job id. -/
def NewJob (id : Uuid) (s : (system A).State) (a : (system A).Action) : Prop :=
  (Pool.called s a).any fun lo => match lo.2 with
    | .query (.onRow id' st) => id' == id && assignsNewJob lo.1 st
    | _ => false

/-- A step that writes the column, other than one that assigns a new job id, finds no final result,
unless it writes what is there already. -/
def WritesFindOpen (id : Uuid) (s : (system A).State) (a : (system A).Action) : Prop :=
  (Pool.called s a).all fun lo => match lo.2 with
    | .query (.onRow id' st) => id' != id || assignsNewJob lo.1 st ||
      (s.world.db.row id).all fun g => !hasFinalResult g ||
        (resultWritten g st).all fun result => jobResult g == result
    | _ => true

instance (id : Uuid) (s : (system A).State) (a : (system A).Action) :
    Decidable (NewJob id s a) := inferInstanceAs (Decidable (_ = true))

instance (id : Uuid) (s : (system A).State) (a : (system A).Action) :
    Decidable (WritesFindOpen id s a) := inferInstanceAs (Decidable (_ = true))

/-- The result after a statement: the old one, or what the statement writes. -/
theorem jobResult_row {g : MediaGeneration} {st : RowStatement} (now : DateTime)
    (replies : MediaGen.PublicationReplies) (projectId : Int) :
    jobResult (st.row now replies projectId g) = jobResult g ∨
    resultWritten g st = some (jobResult (st.row now replies projectId g)) := by
  obtain h | ⟨u, rfl, h⟩ | ⟨_, _, _, h⟩ | ⟨_, _, _, _, _, _, _, h⟩ |
    ⟨_, _, _, _, _, _, _, _, rfl, hopen, h⟩ | ⟨_, _, _, _, _, _, _, _, h⟩ :=
      st.row_cases now replies projectId g
  · exact .inl (by rw [h])
  · cases u with
    | resetForReprocessing prompt => exact .inr rfl
    | generationJobStatus jobId status => exact .inr rfl
    | markProcessing => exact .inr rfl
    | _ => exact .inl rfl
  · exact .inl (by rw [h]; rfl)
  · exact .inl (by rw [h]; rfl)
  · refine .inr ?_
    rw [h, resultWritten, if_neg (not_or.2 hopen)]
    rfl
  · exact .inl (by rw [h]; rfl)

/-- Up to a new job id, a final result stays where every write finds an open one. -/
theorem result_kept {id : Uuid} {s s' : (system A).State}
    (h : Pool.Reach (fun s a => WritesFindOpen id s a ∧ ¬ NewJob id s a) s s')
    {g : MediaGeneration} (hg : s.world.db.row id = some g) (hfinal : hasFinalResult g) :
    ∃ g', s'.world.db.row id = some g' ∧ jobResult g' = jobResult g := by
  refine row_of_reach (fun t a l st g' now replies projectId hok hcall hrow hsame => ?_) h
    ⟨g, hg, rfl⟩
  obtain ⟨hopen, hnew⟩ := hok
  have hfinal' : hasFinalResult g' := by
    unfold hasFinalResult at hfinal ⊢
    rwa [(Prod.mk.inj hsame).2]
  simp only [NewJob, hcall, Option.any_some, beq_self_eq_true, Bool.true_and,
    Bool.not_eq_true] at hnew
  simp only [WritesFindOpen, hcall, hrow, Option.all_some, bne_self_eq_false, hnew, hfinal',
    Bool.not_true, Bool.false_or] at hopen
  obtain hrow | hwritten := jobResult_row (g := g') now replies projectId
  · rw [hrow, hsame]
  · rw [hwritten] at hopen
    rw [← beq_iff_eq.1 hopen, hsame]

/-- The renderer reports the job right after the submission, before the worker
has marked the row. -/
def earlyCallback : List ((system sampleGateway).Action) :=
  requestRead ++ calls 2 28 ++ [.arrive (.callback completedCallback)] ++ calls 3 3

/-- The worker has marked the row, and the renderer reports the job. -/
def lateCallback : List ((system sampleGateway).Action) :=
  requestRead ++ calls 2 33 ++ [.arrive (.callback completedCallback)] ++ calls 3 3

/-- A skip resets the row and goes no further. -/
def skipReset : List ((system sampleGateway).Action) :=
  [.arrive (.skipClarification sampleTeacher ⟨0⟩)] ++ calls 4 2 ++ [.crash 4]

end KlassGateway
