import KlassGateway.Footprints
import KlassGateway.Rows
/-!
# Programs that run alone

While nobody else changes the world, a program means what the machine makes of
it.  `alone req allow` is the machine as a specification: every call owes
`req`, and every answer comes from a choice that `allow` admits.

The rules below answer the calls of the orchestrator one by one.  What they
keep of the world after a statement is the row that it left.
-/

namespace KlassGateway

open Lib Lib.Prog Db Orchestrator

/-- The machine as a specification of the programs that run alone. -/
abbrev alone (req : World → Operation → Prop) (allow : World → Operation → Choice → Prop) :
    OpSpec effects World := Machine.spec machine req allow

/-- Every database call succeeds. -/
def DbSucceeds (_ : World) : Operation → Choice → Prop
  | .query _, c => c.fault = .none
  | _, _ => True

/-- Nothing is owed. -/
def FreeCall (_ : World) (_ : Operation) : Prop := True

variable {req : World → Operation → Prop} {allow : World → Operation → Choice → Prop}

/-- Weaker obligations. -/
theorem wp_alone_mono {req' : World → Operation → Prop} (hreq : ∀ w o, req w o → req' w o)
    {α : Type} {p : Gateway α} {Q : α → World → Prop} {w : World}
    (h : p.wp (alone req allow) Q w) : p.wp (alone req' allow) Q w := by
  have hpre : ∀ w o, (alone req allow).pre w o → (alone req' allow).pre w o := hreq
  exact wp_refine hpre (fun _ _ _ _ hstep => hstep) h

/-- Fewer possible answers. -/
theorem wp_alone_allow {allow' : World → Operation → Choice → Prop}
    (hallow : ∀ w o c, allow w o c → allow' w o c) {α : Type} {p : Gateway α}
    {Q : α → World → Prop} {w : World} (h : p.wp (alone req allow') Q w) :
    p.wp (alone req allow) Q w := by
  have hstep : ∀ w o r w', (alone req allow).step w o r w' → (alone req allow').step w o r w' := by
    rintro w o r w' ⟨c, hc, he⟩
    exact ⟨c, hallow w o c hc, he⟩
  have hpre : ∀ w o, (alone req allow').pre w o → (alone req allow).pre w o := fun _ _ h => h
  exact wp_refine hpre hstep h

/-- A program that meets its obligations does the same without them. -/
theorem wp_free {α : Type} {p : Gateway α} {Q : α → World → Prop} {w : World}
    (h : p.wp (alone req allow) Q w) : p.wp (alone FreeCall allow) Q w :=
  wp_alone_mono (fun _ _ _ => trivial) h

/-- The answer of a call comes from one choice. -/
theorem wp_perform_alone (o : Operation) (Q : o.Resp → World → Prop) (w : World) :
    (perform (I := effects) o).wp (alone req allow) Q w ↔
      req w o ∧ ∀ c, allow w o c → Q (o.exec w c).1 (o.exec w c).2 :=
  and_congr Iff.rfl (Machine.forall_spec_step (M := machine))

/-- A condition on the world that the calls of a program keep. -/
theorem wp_keeps {α : Type} {φ : Operation → Prop} {p : Gateway α} (hp : OnlyCalls φ p)
    {J : World → Prop} {w : World} (hw : J w) (hreq : ∀ w o, φ o → req w o)
    (hkeep : ∀ w o c, φ o → J w → J (o.exec w c).2) :
    p.wp (alone req allow) (fun _ w' => J w') w := by
  refine hp.wp_pre (J := J) hw fun w o hw ho => ⟨hreq w o ho, ?_⟩
  rintro r w' ⟨c, _, he⟩
  obtain rfl : (o.exec w c).2 = w' := congrArg Prod.snd he
  exact hkeep w o c ho hw

/-- A row that exists stays. -/
theorem wp_rowStays {α : Type} (p : Gateway α) {g : Uuid} {w : World}
    (hw : (w.db.row g).isSome) :
    p.wp (alone FreeCall allow) (fun _ w' => (w'.db.row g).isSome) w := by
  refine wp_keeps (only_true p) hw (fun _ _ _ => trivial) fun w o c _ hw => ?_
  obtain ⟨r, hr⟩ := Option.isSome_iff_exists.1 hw
  obtain h | ⟨st, _, h⟩ := o.exec_row c hr
  · rw [h]
    rfl
  · rw [h]
    rfl

/-- A database call either succeeds or fails with an error. -/
theorem wp_query_alone {q : Query} {Q : Except SqlxError q.Resp → World → Prop} {w : World}
    (hreq : req w (.query q))
    (hok : ∀ now replies, Q (q.exec now replies w.db).1 { w with db := (q.exec now replies w.db).2 })
    (herr : ∀ c, allow w (.query q) c → c.fault ≠ .none → ∀ e w', Q (.error e) w') :
    (query q).run.wp (alone req allow) Q w := by
  refine (wp_perform_alone (.query q) Q w).2 ⟨hreq, fun c hc => ?_⟩
  cases hf : c.fault with
  | none =>
    simp only [Operation.exec, withFault, hf]
    exact hok c.clock c.publication
  | failed m =>
    simp only [Operation.exec, withFault, hf]
    exact herr c hc (by simp [hf]) _ _
  | lost m =>
    simp only [Operation.exec, withFault, hf]
    exact herr c hc (by simp [hf]) _ _

/-- A Redis command succeeds, fails, or takes effect without a reply. -/
theorem wp_command_alone {cmd : Queue.Command} {Q : Except String cmd.Resp → World → Prop} {w : World}
    (hreq : req w (.command cmd))
    (hok : Q (cmd.exec w.redis).1 { w with redis := (cmd.exec w.redis).2 })
    (hfailed : ∀ c, allow w (.command cmd) c → c.fault ≠ .none → ∀ e, Q (.error e) w)
    (hlost : ∀ c, allow w (.command cmd) c → c.fault ≠ .none →
      ∀ e, Q (.error e) { w with redis := (cmd.exec w.redis).2 }) :
    (command cmd).run.wp (alone req allow) Q w := by
  refine (wp_perform_alone (.command cmd) Q w).2 ⟨hreq, fun c hc => ?_⟩
  cases hf : c.fault with
  | none =>
    simp only [Operation.exec, withFault, hf]
    exact hok
  | failed m =>
    simp only [Operation.exec, withFault, hf]
    exact hfailed c hc (by simp [hf]) _
  | lost m =>
    simp only [Operation.exec, withFault, hf]
    exact hlost c hc (by simp [hf]) _

/-- A draw gives the next id. -/
theorem wp_draw_alone {ε α : Type} {f : Uuid → GatewayResult ε α} {Q : Except ε α → World → Prop}
    {w : World} (hreq : req w .newUuid)
    (h : (f ⟨w.nextUuid⟩).run.wp (alone req allow) Q { w with nextUuid := w.nextUuid + 1 }) :
    ((liftM newV4 : GatewayResult ε Uuid) >>= f).run.wp (alone req allow) Q w :=
  (wp_run_bind _ _ _ _).2 ((wp_run_liftM _ _ _).2
    ((wp_perform_alone .newUuid _ w).2 ⟨hreq, fun _ _ => h⟩))

/-- The insertion of a submission. -/
theorem wp_insertSubmission_alone {row : MediaGeneration}
    {Q : Except SqlxError Unit → World → Prop} {w : World}
    (hreq : req w (.query (.insertSubmission row)))
    (hnone : w.db.insertFault row = none → ∀ now w',
      w'.db.rows = w.db.rows ++ [Database.stamp now row] → w'.redis = w.redis →
      w'.renderer = w.renderer → Q (.ok ()) w')
    (hsome : ∀ e, w.db.insertFault row = some e → Q (.error e) w)
    (herr : ∀ c, allow w (.query (.insertSubmission row)) c → c.fault ≠ .none →
      ∀ e w', Q (.error e) w') :
    (query (.insertSubmission row)).run.wp (alone req allow) Q w := by
  refine wp_query_alone hreq (fun now replies => ?_) herr
  show Q (w.db.insert now row).1 { w with db := (w.db.insert now row).2 }
  cases hf : w.db.insertFault row with
  | none =>
    rw [Database.insert_of_none hf]
    exact hnone hf now _ rfl rfl rfl
  | some e =>
    rw [Database.insert_of_some hf]
    exact hsome e hf

/-- The spans of a phase are transparent. -/
theorem wp_timedStep {step : StepName} {body : GatewayResult WorkflowError Unit}
    {Q : Except WorkflowError Unit → World → Prop} {w : World}
    (hreq : ∀ w step, req w (.span step)) (h : body.run.wp (alone req allow) Q w) :
    (timedStep step body).run.wp (alone req allow) Q w := by
  refine (wp_bind _ _ _ _).2 ((wp_perform_alone _ _ _).2 ⟨hreq _ _, fun c _ => ?_⟩)
  refine (wp_bind _ _ _ _).2 (wp_mono (fun r w' hr => ?_) h)
  exact (wp_bind _ _ _ _).2 ((wp_perform_alone _ _ _).2 ⟨hreq _ _, fun c _ => hr⟩)

/-- A total program returns. -/
theorem exists_result {α : Type} {p : Gateway α} (hp : p.Total) (env : Nat → Choice) (w : World) :
    ∃ a, (p.run machine env w).result = some a := by
  induction p generalizing env w with
  | ret a => exact ⟨a, rfl⟩
  | abort => cases hp
  | op o k ih => exact ih _ (hp _) _ _

/-- Every call of a run gets a choice of its environment. -/
theorem choice_of_calls {α : Type} (p : Gateway α) {env : Nat → Choice} {P : Choice → Prop}
    (henv : ∀ n, P (env n)) (w : World) : ∀ c ∈ (p.run machine env w).calls, P c.choice := by
  induction p generalizing env w with
  | ret a => exact fun c hc => by cases hc
  | abort => exact fun c hc => by cases hc
  | op o k ih =>
    intro c hc
    obtain rfl | hc := List.mem_cons.1 hc
    · exact henv 0
    · exact ih _ (fun n => henv (n + 1)) _ c hc

/-- Choices without faults. -/
theorem dbSucceeds_of_fault {α : Type} (p : Gateway α) {env : Nat → Choice}
    (henv : ∀ n, (env n).fault = .none) (w : World) :
    ∀ c ∈ (p.run machine env w).calls, DbSucceeds c.before c.op c.choice := by
  intro c hc
  have hfault := choice_of_calls p (P := fun c => c.fault = .none) henv w c hc
  cases hop : c.op with
  | query q => exact hfault
  | _ => trivial

/-- With calls that succeed there is no error to consider. -/
theorem not_fault {w : World} {q : Query} {c : Choice} {P : Prop}
    (h : DbSucceeds w (.query q) c) (hne : c.fault ≠ .none) : P := absurd h hne

/-- A statement on a row that exists. -/
theorem wp_onRow_alone {id : Uuid} {st : RowStatement}
    {Q : Except SqlxError (Query.onRow id st).Resp → World → Prop} {w : World}
    {g : MediaGeneration} (hg : w.db.row id = some g) (hreq : req w (.query (.onRow id st)))
    (hok : ∀ now replies projectId w', (∃ db, w' = { w with db }) →
      w'.db.row id = some (st.row now replies projectId g) →
      Q (.ok (st.answer now replies projectId g)) w')
    (herr : ∀ c, allow w (.query (.onRow id st)) c → c.fault ≠ .none → ∀ e w', Q (.error e) w') :
    (query (.onRow id st)).run.wp (alone req allow) Q w := by
  refine wp_query_alone hreq (fun now replies => ?_) herr
  have hanswer : (Query.exec now replies w.db (.onRow id st)).1 =
      .ok (st.answer now replies w.db.nextProjectId g) := by
    simp only [Query.exec, hg]
  rw [hanswer]
  exact hok now replies w.db.nextProjectId _ ⟨_, rfl⟩ (Query.row_of_onRow now replies hg)

end KlassGateway
