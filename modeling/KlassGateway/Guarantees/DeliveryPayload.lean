import KlassGateway.Contracts.Delivery
import KlassGateway.Guarantees.Publication
/-!
# The delivery payload of a generation

`publish_inner` and `compose` both write `delivery_payload` under the version
`media_delivery_response.v1`, and `ensure_completed` composes only where no
payload with a version is stored.

* What `publish_inner` writes is never accepted by the contract
  (`decodeAndValidate_buildDeliveryPayload`), and it counts as the final
  payload.
* `compose` never gets to its `UPDATE`: the discipline `Undelivered` carries that
  a payload is stored by a publication only.
* `deliveries_ok_iff`: the stored payloads are what the contract and the workflow
  take them for exactly in the histories without a publication.
-/

namespace KlassGateway

open Lib Lib.Prog Db Orchestrator Llm MediaGen Queue Api Contracts

/-! ## What is stored -/

variable {A : AppState}

/-- The composition that an action stores. -/
def compositionOf (s : (system A).State) : (system A).Action → Option Uuid
  | .act i c =>
    match Pool.called s (.act i c), c.fault with
    | some (_, .query _), .failed _ => none
    | some (_, .query (.onRow id (.update (.delivery _)))), _ =>
      (s.world.db.row id).map MediaGeneration.id
    | _, _ => none
  | _ => none

/-- The generations whose composition a history stores, in order. -/
def compositions (s : (system A).State) : List (system A).Action → List Uuid
  | [] => []
  | a :: as =>
    match Pool.step s a with
    | some s' => (compositionOf s a).toList ++ compositions s' as
    | none => []

/-- The payload claims the version of the delivery contract. -/
def ClaimsDelivery (payload : Json) : Prop :=
  payload.get "schema_version" = some (.str Delivery.schemaVersion)

/-- What a row says about its delivery: the contract accepts the stored payload, and
a row that needs no composition, or is completed, has been composed. -/
structure DeliveryOk (composed : List Uuid) (g : MediaGeneration) : Prop where
  accepted : ∀ payload, g.deliveryPayload = some payload → ClaimsDelivery payload →
    (Delivery.decodeAndValidate payload).isSome
  composed : hasFinalDeliveryPayload g ∨ g.status = .completed → g.id ∈ composed

/-- The delivery payload of a publication: its version is there, and the fields
`title`, `preview_summary`, `teacher_message` and `publication` are not. -/
theorem decodeAndValidate_buildDeliveryPayload (fileUrl : String) (thumbnailUrl : Option String)
    (outputType mimeType : String) (previewUrl : Option String) :
    Delivery.decodeAndValidate
      (buildDeliveryPayload fileUrl thumbnailUrl outputType mimeType previewUrl) = none := by
  rfl

/-! ## Rows without a payload -/

/-- No payload is stored by the calls of a task, and `compose` cannot read what it
composes from. -/
def undeliveredSpec : OpSpec effects Unit where
  pre _ o := match o with
    | .query (.insertSubmission row) => row.deliveryPayload = none
    | .query (.insertRegeneration _ row) => row.deliveryPayload = none
    | .query (.onRow _ (.update (.delivery _))) => False
    | .query (.onRow _ (.update (.payloads p))) => p.deliveryPayload = none
    | _ => True
  step _ o r _ := match o, r with
    | .query (.composeRow _), r => ∃ e, r = .error e
    | _, _ => True

/-- The discipline of every task: no row has a delivery payload. -/
def undelivered (A : AppState) : Discipline (system A) Unit where
  spec := undeliveredSpec
  inv w _ := ∀ g ∈ w.db.rows, g.deliveryPayload = none

theorem undelivered_admits (P : Platform) : Admits P undeliveredSpec where
  handler _ o h := by
    cases o with
    | query q =>
      cases q with
      | onRow id st =>
        cases st with
        | update u =>
          cases u with
          | payloads p =>
            have hp : p = { generatorServiceResponse := p.generatorServiceResponse } := h
            show p.deliveryPayload = none
            rw [hp]
          | delivery payload => cases h
          | _ => trivial
        | _ => trivial
      | insertSubmission row => cases h
      | insertRegeneration parentId row => cases h
      | _ => trivial
    | _ => trivial
  submission _ _ _ _ _ := rfl
  regeneration _ _ _ _ _ _ _ _ _ := rfl

/-- A run stores a delivery payload in its composition only. -/
theorem undeliveredSpec_of_call {g : Uuid} (o : Operation) (h : UncomposedCall g o) (u : Unit) :
    undeliveredSpec.pre u o := by
  have hstatement {id : Uuid} {st : RowStatement}
      (h : UncomposedCall g (.query (.onRow id st))) : UncomposedRunStatement st := by
    rcases h with ((h | h) | h) | ⟨_, h | ⟨_, h, _⟩⟩
    · exact h.2
    all_goals cases h
  cases o with
  | query q =>
    cases q with
    | onRow id st =>
      have hst := hstatement h
      cases st with
      | update u =>
        cases u with
        | payloads p => rcases hst with h | h | h <;> cases h
        | delivery payload => rcases hst with h | h | h <;> cases h
        | _ => trivial
      | _ => trivial
    | insertSubmission row => exact absurd h.run RunCall.not_insertSubmission
    | insertRegeneration parentId row => exact absurd h.run RunCall.not_insertRegeneration
    | _ => trivial
  | _ => trivial

/-- `compose` ends at its `SELECT`. -/
theorem undelivered_composeStep (g : Uuid) : Safe undeliveredSpec (composeStep g).run := by
  intro u
  refine (wp_run_bind _ _ _ _).2 ((wp_run_mapErr _ _ _ _).2 ((wp_query _ _).2 ⟨trivial, ?_⟩))
  rintro r _ ⟨e, rfl⟩
  trivial

/-- Every task follows the discipline. -/
theorem undelivered_spawned {l : Label} {p : Gateway Unit} (h : Spawned A l p) :
    Safe undeliveredSpec p := by
  obtain hreq | ⟨e, rfl, rfl⟩ := h.request_or_entry (undelivered_admits A.platform)
  · exact hreq
  · have hrun (jobId : Option Uuid) (attempt : Option Int) (jobContext : Option Json) :
        Safe undeliveredSpec (process A.platform (workerSteps A.platform A.webhookBaseUrl)
          e.fields.generationId jobId attempt jobContext).run :=
      safe_process (fun o h => undeliveredSpec_of_call o (.inl h))
        (undelivered_composeStep e.fields.generationId)
        (fun j _ o h => undeliveredSpec_of_call o (.inr ⟨j, h⟩)) attempt
    have htail (u : Unit) (o : Operation) (ho : TailCall e.fields.generationId o) :
        undeliveredSpec.pre u o := by
      cases o with
      | query q =>
        rcases ho with ho | ho
        · cases ho
        · cases q with
          | onRow id st =>
            cases st with
            | markFailed _ _ _ _ _ _ => trivial
            | _ => cases ho
          | _ => cases ho
      | _ => trivial
    exact safe_workerTask hrun (fun u o ho => htail u o (.inl ho))
      (fun _ _ _ => (only_sendToDlq _ _ _).safe fun o ho u => htail u o ho) _

/-- A statement that the discipline allows stores no payload, unless it is a
publication that commits. -/
theorem row_undelivered {now : DateTime} {replies : PublicationReplies} {projectId : Int}
    {g : MediaGeneration} {id : Uuid} {st : RowStatement} (hg : g.deliveryPayload = none)
    (hpre : undeliveredSpec.pre () (.query (.onRow id st)))
    (hpub : st.publication now replies projectId g = none) :
    (st.row now replies projectId g).deliveryPayload = none := by
  obtain h | ⟨u, rfl, h⟩ | ⟨_, _, _, h⟩ | ⟨_, _, _, _, _, _, _, h⟩ |
    ⟨_, _, _, _, _, _, _, _, _, _, h⟩ | ⟨_, _, _, _, _, _, _, rfl, _⟩ :=
      st.row_cases now replies projectId g
  case inr.inl =>
    rw [h]
    cases u with
    | payloads p =>
      have hp : p.deliveryPayload = none := hpre
      show p.deliveryPayload.or g.deliveryPayload = none
      rw [hp, hg]
      rfl
    | resetForReprocessing prompt => rfl
    | delivery payload => cases hpre
    | _ => exact hg
  case inr.inr.inr.inr.inr =>
    simp only [RowStatement.row, hpub]
    exact hg
  all_goals
    rw [h]
    exact hg

/-- A query that the discipline allows stores no payload, unless it commits a
publication. -/
theorem exec_undelivered {w : World} (hrows : RowsOk w)
    (hw : ∀ g ∈ w.db.rows, g.deliveryPayload = none) {q : Query} {now : DateTime}
    {replies : PublicationReplies} (hpre : undeliveredSpec.pre () (.query q))
    (hpub : q.publication now replies w.db = none) :
    ∀ g ∈ (q.exec now replies w.db).2.rows, g.deliveryPayload = none := by
  refine q.forall_rows_exec now replies hw (fun row hq _ => ?_) fun id st g hq hmem hid => ?_
  · obtain ⟨row', teacherId, rfl, rfl | ⟨parentId, rfl⟩⟩ := Query.inserted_cases hq
    · exact hpre
    · exact hpre
  · subst hq
    subst hid
    refine row_undelivered (hw g hmem) hpre ?_
    simpa [Query.publication, hrows.row_of_mem hmem] using hpub

/-- Every step without a publication keeps the discipline. -/
theorem undelivered_kept : (undelivered A).Kept fun t a =>
    publicationOf t a = none ∧ RowsOk t.world where
  mono _ _ _ _ hinv := hinv
  act s f i c l o k hok hti hinv hpre := by
    have hanswer : undeliveredSpec.step (f i) o (o.exec s.world c).1 () := by
      cases o with
      | query q =>
        cases q with
        | composeRow id =>
          simp only [undeliveredSpec, Operation.exec, withFault]
          cases c.fault <;> exact ⟨_, rfl⟩
        | _ => trivial
      | _ => trivial
    refine ⟨(), hanswer, ?_⟩
    show ∀ g ∈ (o.exec s.world c).2.db.rows, g.deliveryPayload = none
    cases o with
    | query q =>
      have hpub := hok.1
      simp only [publicationOf, Pool.called_act hti] at hpub
      simp only [Operation.exec, withFault]
      cases hfault : c.fault with
      | failed message => exact hinv
      | none =>
        rw [hfault] at hpub
        exact exec_undelivered hok.2 hinv hpre hpub
      | lost message =>
        rw [hfault] at hpub
        exact exec_undelivered hok.2 hinv hpre hpub
    | _ =>
      rcases Operation.exec_db s.world c _ with hdb | ⟨q, hq, _⟩
      · rw [hdb]
        exact hinv
      · cases hq
  arrive s f arr w spawned _ harr hinv := by
    obtain ⟨jobs, renderer, hw⟩ := arrive_world harr
    refine ⟨fun _ => (), fun j l p hj => ?_, ?_⟩
    · exact undelivered_spawned (spawned_of_arrive harr (List.mem_of_getElem? hj)) ()
    · subst hw
      exact hinv

/-- Without a publication no row has a delivery payload. -/
theorem no_delivery {w : World} (hw : Initial w) {s : (system A).State}
    (h : Pool.Reach (fun t a => publicationOf t a = none) ((system A).start w) s) :
    ∀ g ∈ s.world.db.rows, g.deliveryPayload = none := by
  have hrun : Pool.Reach (fun t a => publicationOf t a = none ∧ RowsOk t.world)
      ((system A).start w) s := h.with_invariant fun t ht => rowsOk_of_reachable ⟨w, hw, ht⟩
  obtain ⟨_, hinv, _⟩ := Discipline.holds_of_reach undelivered_kept hrun
    (Discipline.holds_start fun g hg => by rw [hw.rows] at hg; cases hg)
  exact hinv

/-! ## The documents of a history -/

/-- The rows that a history leaves are as the delivery contract and the workflow take
them to be. -/
def DeliveriesOk (s : (system A).State) (as : List (system A).Action) (t : (system A).State) :
    Prop := ∀ g ∈ t.world.db.rows, DeliveryOk (compositions s as) g

theorem claimsDelivery_buildDeliveryPayload (fileUrl : String) (thumbnailUrl : Option String)
    (outputType mimeType : String) (previewUrl : Option String) :
    ClaimsDelivery (buildDeliveryPayload fileUrl thumbnailUrl outputType mimeType previewUrl) :=
  rfl

/-- What a query publishes carries the payload of `build_delivery_payload`. -/
theorem publication_delivery {now : DateTime} {replies : PublicationReplies} {db : Database}
    {q : Query} {p : Uuid × Publication} (h : q.publication now replies db = some p) :
    ∃ fileUrl thumbnailUrl outputType mimeType previewUrl, p.2.row.deliveryPayload =
      some (buildDeliveryPayload fileUrl thumbnailUrl outputType mimeType previewUrl) := by
  cases q with
  | onRow id st =>
    obtain ⟨g, _, hmap⟩ := Option.bind_eq_some_iff.1 h
    obtain ⟨pub, hpub, rfl⟩ := Option.map_eq_some_iff.1 hmap
    cases st with
    | publish topicId contentId =>
      simp only [RowStatement.publication] at hpub
      split at hpub
      · next r hr => exact publishRow_delivery (hr.trans (congrArg Except.ok hpub))
      · cases hpub
    | _ => cases hpub
  | _ => cases h

/-- A publication leaves a row whose payload has the version of the contract, which
does not accept it. -/
theorem publicationOf_delivery {s s' : (system A).State} {a : (system A).Action}
    {p : Uuid × Publication} (h : Pool.step s a = some s') (hpub : publicationOf s a = some p) :
    ∃ g payload, s'.world.db.row p.1 = some g ∧ g.deliveryPayload = some payload ∧
      ClaimsDelivery payload ∧ Delivery.decodeAndValidate payload = none := by
  obtain ⟨id, pub⟩ := p
  obtain ⟨_, _, _, _, _, _, _, hrow, _⟩ := publicationOf_row h hpub
  obtain ⟨_, q, _, _, _, hq, _⟩ := publicationOf_query h hpub
  obtain ⟨fileUrl, thumbnailUrl, outputType, mimeType, previewUrl, hpayload⟩ :=
    publication_delivery hq
  have hclaims :=
    claimsDelivery_buildDeliveryPayload fileUrl thumbnailUrl outputType mimeType previewUrl
  have hrejected :=
    decodeAndValidate_buildDeliveryPayload fileUrl thumbnailUrl outputType mimeType previewUrl
  exact ⟨pub.row, _, hrow, hpayload, hclaims, hrejected⟩

theorem not_deliveriesOk_of_publication {s t t' : (system A).State}
    {as : List (system A).Action} {a : (system A).Action} {p : Uuid × Publication}
    (hstep : Pool.step t a = some t') (hpub : publicationOf t a = some p) :
    ¬ DeliveriesOk s as t' := by
  intro hok
  obtain ⟨g, payload, hrow, hpayload, hclaims, hrejected⟩ := publicationOf_delivery hstep hpub
  have haccepted := (hok g (Table.find_mem hrow)).accepted payload hpayload hclaims
  rw [hrejected] at haccepted
  cases haccepted

/-- Rows without a payload, none of them completed, are as they should be. -/
theorem deliveriesOk_of_none {s t : (system A).State} {as : List (system A).Action}
    (hrows : RowsOk t.world) (hnone : ∀ g ∈ t.world.db.rows, g.deliveryPayload = none) :
    DeliveriesOk s as t := by
  intro g hg
  have hpayload := hnone g hg
  refine ⟨fun payload hp => ?_, fun h => ?_⟩
  · rw [hpayload] at hp
    cases hp
  rcases h with hfinal | hcompleted
  · rw [hasFinalDeliveryPayload, hpayload] at hfinal
    cases hfinal
  · rcases (hrows.row g hg).status with hearly | hfailed
    · rw [hcompleted] at hearly
      cases hearly
    · rw [hcompleted] at hfailed
      cases hfailed

/-- In every state of a history the contract accepts the stored delivery payloads, and
only composed generations have one that counts as final, exactly if the history
commits no publication. -/
theorem deliveries_ok_iff (A : AppState) (w : World) (hw : Initial w)
    (as : List (system A).Action) (s : (system A).State)
    (h : Pool.play (fun _ _ => True) ((system A).start w) as = some s) :
    (∀ before after t, as = before ++ after →
      Pool.play (fun _ _ => True) ((system A).start w) before = some t →
        DeliveriesOk ((system A).start w) before t) ↔
      publications ((system A).start w) as = [] := by
  constructor
  · intro hok
    by_contra hsome
    obtain ⟨before, a, after, t, t', p, rfl, hplay, hstep, hpub⟩ := exists_publication hsome
    have hplay' : Pool.play (fun _ _ => True) ((system A).start w) (before ++ [a]) = some t' := by
      rw [Pool.play_append, hplay]
      simp [Pool.play, hstep]
    exact not_deliveriesOk_of_publication hstep hpub
      (hok (before ++ [a]) after t' (by simp) hplay')
  · rintro hnone before after t rfl hplay
    rw [publications_append hplay, List.append_eq_nil_iff] at hnone
    have hrun := reach_of_publications_eq_nil hplay hnone.1
    exact deliveriesOk_of_none (rowsOk_of_reachable ⟨w, hw, hrun⟩) (no_delivery hw hrun)

/-- Two runs that have submitted their jobs and published nothing. -/
theorem deliveries_ok_sample : ∃ s : (system sampleGateway).State,
    Pool.play (fun _ _ => True) ((system sampleGateway).start sampleWorld) twoRuns = some s ∧
      DeliveriesOk ((system sampleGateway).start sampleWorld) twoRuns s := by
  have hplays : (Pool.play (fun _ _ => True) ((system sampleGateway).start sampleWorld)
      twoRuns).isSome := by decide +kernel
  have hnone : publications ((system sampleGateway).start sampleWorld) twoRuns = [] :=
    List.length_eq_zero_iff.1 (by decide +kernel)
  obtain ⟨s, hs⟩ := Option.isSome_iff_exists.1 hplays
  exact ⟨s, hs, (deliveries_ok_iff sampleGateway sampleWorld initial_sampleWorld twoRuns s hs).2
    hnone twoRuns [] s (List.append_nil _).symm hs⟩

theorem hasFinalDeliveryPayload_of_claims {g : MediaGeneration} {payload : Json}
    (h : g.deliveryPayload = some payload) (hclaims : ClaimsDelivery payload) :
    hasFinalDeliveryPayload g = true := by
  have hversion : (g.deliveryPayload.bind (Json.get "schema_version")) =
      some (.str Delivery.schemaVersion) := by
    rw [h]
    exact hclaims
  rw [hasFinalDeliveryPayload, hasSchemaVersion, hversion]
  rfl

/-- A worker has published and nothing was composed: the payload that is stored has
the version of the contract, which does not accept it, and it counts as the final
one. -/
theorem uncomposed_delivery : ∃ (s : (system sampleGateway).State) (g : MediaGeneration)
    (payload : Json),
    Pool.play (fun _ _ => True) ((system sampleGateway).start sampleWorld)
        (twoRuns ++ calls 3 5 ++ [.act 3 pptxStored]) = some s ∧
      s.world.db.row ⟨0⟩ = some g ∧ g.deliveryPayload = some payload ∧ ClaimsDelivery payload ∧
      Delivery.decodeAndValidate payload = none ∧ hasFinalDeliveryPayload g = true ∧
      compositions ((system sampleGateway).start sampleWorld)
        (twoRuns ++ calls 3 5 ++ [.act 3 pptxStored]) = [] := by
  have hpublishes : ((Pool.play (fun _ _ => True) ((system sampleGateway).start sampleWorld)
      (twoRuns ++ calls 3 5)).bind fun t =>
        (publicationOf t (.act 3 pptxStored)).map Prod.fst) = some ⟨0⟩ := by decide +kernel
  obtain ⟨t, ht, hpub⟩ := Option.bind_eq_some_iff.1 hpublishes
  obtain ⟨p, hpub, hid⟩ := Option.map_eq_some_iff.1 hpub
  have hplays : (Pool.play (fun _ _ => True) ((system sampleGateway).start sampleWorld)
      (twoRuns ++ calls 3 5 ++ [.act 3 pptxStored])).isSome := by decide +kernel
  obtain ⟨s, hs⟩ := Option.isSome_iff_exists.1 hplays
  have hstep : Pool.step t (.act 3 pptxStored) = some s := by
    rw [Pool.play_append, ht] at hs
    simpa [Pool.play] using hs
  obtain ⟨g, payload, hrow, hpayload, hclaims, hrejected⟩ := publicationOf_delivery hstep hpub
  rw [hid] at hrow
  exact ⟨s, g, payload, hs, hrow, hpayload, hclaims, hrejected,
    hasFinalDeliveryPayload_of_claims hpayload hclaims, by decide +kernel⟩

end KlassGateway
