import KlassGateway.Lib.Splits
import KlassGateway.Queue.Outcomes
/-!
# The rounds of a job

What there is to see of a job, by the rounds of its messages: a message is added, it is
run, and the task of the run settles it.

* `Begun` are the rounds up to a message of the job, and `Rest` is what follows the run
  of that message.
* `Handled` is what the events of a job satisfy at any time, and `Completed` what they
  satisfy at the end.
* `Begun.handled_start`, `Begun.handled_ran`, `Begun.completed` prove it of the rounds.
-/

namespace KlassGateway.Queue.Wire

open Lib

variable {P : Platform} {g j : String} {job n m top : Nat} {a : Int} {events tail : List JobEvent}

/-! ## The events of a job -/

/-- The events of a job, in their order. -/
def eventsOf (job : Nat) (log : Log) : List JobEvent :=
  log.filterMap fun e => if e.1 = job then some e.2 else none

theorem eventsOf_append (job : Nat) (log log' : Log) :
    eventsOf job (log ++ log') = eventsOf job log ++ eventsOf job log' := List.filterMap_append

theorem eventsOf_self (job : Nat) (e : JobEvent) : eventsOf job [(job, e)] = [e] := by
  simp [eventsOf]

theorem eventsOf_of_ne {job job' : Nat} (h : job' ≠ job) (e : JobEvent) :
    eventsOf job [(job', e)] = [] := by
  simp [eventsOf, h]

namespace JobEvent

/-- The message that was added. -/
def message : JobEvent → Option (String × Fields)
  | added entryId fields => some (entryId, fields)
  | _ => none

/-- The outcome of a run. -/
def result : JobEvent → Option (Except String Unit)
  | ran _ result => some result
  | _ => none

/-- The message that was acknowledged. -/
def ack : JobEvent → Option String
  | acked entryId => some entryId
  | _ => none

/-- The dead letter that was written. -/
def dead : JobEvent → Option Fields
  | letter fields => some fields
  | _ => none

end JobEvent

/-- The messages of a job, with their ids. -/
def messages (events : List JobEvent) : List (String × Fields) := events.filterMap JobEvent.message

/-- The outcomes of its runs. -/
def results (events : List JobEvent) : List (Except String Unit) := events.filterMap JobEvent.result

/-- The ids that were acknowledged. -/
def acks (events : List JobEvent) : List String := events.filterMap JobEvent.ack

/-- Its dead letters. -/
def letters (events : List JobEvent) : List Fields := events.filterMap JobEvent.dead

@[simp] theorem messages_append (es es' : List JobEvent) :
    messages (es ++ es') = messages es ++ messages es' := List.filterMap_append

@[simp] theorem results_append (es es' : List JobEvent) :
    results (es ++ es') = results es ++ results es' := List.filterMap_append

@[simp] theorem acks_append (es es' : List JobEvent) : acks (es ++ es') = acks es ++ acks es' :=
  List.filterMap_append

@[simp] theorem letters_append (es es' : List JobEvent) :
    letters (es ++ es') = letters es ++ letters es' := List.filterMap_append

/-- An error after which the job is tried again, if there is a try left. -/
def Retryable (P : Platform) (r : Except String Unit) : Prop :=
  ∃ e, r = .error e ∧ isRetryableError P e = true

/-- What a worker reads of message `n` of a job. -/
def entryOf (g j : String) (n : Nat) (a : Int) : StreamEntry := ⟨entryIdText n, g, jobIdOf j, a⟩

/-- The rounds of a job up to its message `n`, which has the attempt `a`. -/
inductive Begun (P : Platform) (g j : String) : Nat → Int → List JobEvent → Prop
  | first (n : Nat) (now : DateTime) :
      Begun P g j n 1 [.added (entryIdText n) (enqueueFields g j 1 (P.rfc3339 now))]
  | again {n m : Nat} {a : Int} {events : List JobEvent} {e : String} {fields : Fields}
      (h : Begun P g j n a events) (hretry : isRetryableError P e = true)
      (hle : a + 1 ≤ maxTries) (hlt : n < m)
      (hread : readAdded (entryIdText m) fields = entryOf g j m (a + 1)) :
      Begun P g j m (a + 1) (events ++ [.ran (entryIdText n) (.error e), .acked (entryIdText n),
        .added (entryIdText m) fields])

/-- The run with attempt `a` ends the job with this error. -/
def EndsJob (P : Platform) (a : Int) (e : String) : Prop :=
  isRetryableError P e = false ∨ maxTries < a + 1

/-- What follows a run in the round of its message, and the commands of the task that
are left. -/
inductive Rest (P : Platform) (g id : String) (a : Int) :
    Except String Unit → List JobEvent → List Act → Prop
  | succeeded : Rest P g id a (.ok ()) [] [.xack]
  | acked : Rest P g id a (.ok ()) [.acked id] []
  | failed {e errorCode : String} {attempt : Int} (hends : EndsJob P a e) :
      Rest P g id a (.error e) [] [.sendToDlq attempt errorCode e, .xack]
  | lettered {e payload : String} {attempt : Int} (hends : EndsJob P a e) :
      Rest P g id a (.error e) [.letter (dlqFields g attempt payload)] [.xack]
  | ended {e payload : String} {attempt : Int} (hends : EndsJob P a e) :
      Rest P g id a (.error e) [.letter (dlqFields g attempt payload), .acked id] []
  | retrying {e : String} (hretry : isRetryableError P e = true) (hle : a + 1 ≤ maxTries) :
      Rest P g id a (.error e) [] [.xack, .xadd]
  | released {e : String} (hretry : isRetryableError P e = true) (hle : a + 1 ≤ maxTries) :
      Rest P g id a (.error e) [.acked id] [.xadd]

namespace Begun

theorem first_message (h : Begun P g j n a events) :
    ∃ id now, (messages events).head? = some (id, enqueueFields g j 1 (P.rfc3339 now)) := by
  induction h with
  | first n now => exact ⟨_, now, rfl⟩
  | again _ _ _ _ _ ih =>
    obtain ⟨id, now, hhead⟩ := ih
    refine ⟨id, now, ?_⟩
    rw [messages_append, List.head?_append, hhead]
    rfl

theorem attempt_bounds (h : Begun P g j n a events) : 1 ≤ a ∧ a ≤ maxTries := by
  induction h with
  | first => decide
  | again _ _ hle _ _ ih => exact ⟨by omega, hle⟩

/-- Each round before has run its message once. -/
theorem length_results (h : Begun P g j n a events) : ((results events).length : Int) + 1 = a := by
  induction h with
  | first => rfl
  | again _ _ _ _ _ ih =>
    rw [← ih, results_append, List.length_append]
    rfl

theorem results_retryable (h : Begun P g j n a events) : ∀ r ∈ results events, Retryable P r := by
  induction h with
  | first => simp [results, JobEvent.result]
  | again _ hretry _ _ _ ih =>
    intro r hr
    rw [results_append, List.mem_append] at hr
    rcases hr with hr | hr
    · exact ih r hr
    · obtain rfl : r = .error _ := List.mem_singleton.1 hr
      exact ⟨_, rfl, hretry⟩

theorem letters_eq_nil (h : Begun P g j n a events) : letters events = [] := by
  induction h with
  | first => rfl
  | again _ _ _ _ _ ih =>
    rw [letters_append, ih]
    rfl

/-- Each message but the last is acknowledged, once and in order. -/
theorem messages_eq_acks (h : Begun P g j n a events) :
    (messages events).map Prod.fst = acks events ++ [entryIdText n] := by
  induction h with
  | first => rfl
  | again _ _ _ _ _ ih =>
    rw [messages_append, List.map_append, ih, acks_append]
    rfl

/-- The ids of the messages are in the order of their numbers. -/
theorem exists_ids (h : Begun P g j n a events) :
    ∃ ns : List Nat, (messages events).map Prod.fst = ns.map entryIdText ∧
      ns.Pairwise (· < ·) ∧ ∀ m ∈ ns, m ≤ n := by
  induction h with
  | first n => exact ⟨[n], rfl, List.pairwise_singleton _ _, by simp⟩
  | @again n m a events e fields _ _ _ hlt _ ih =>
    obtain ⟨ns, hids, hsorted, hle⟩ := ih
    refine ⟨ns ++ [m], ?_, ?_, ?_⟩
    · rw [messages_append, List.map_append, hids, List.map_append]
      rfl
    · refine List.pairwise_append.2 ⟨hsorted, List.pairwise_singleton _ _, fun k hk k' hk' => ?_⟩
      rw [List.mem_singleton.1 hk']
      exact Nat.lt_of_le_of_lt (hle k hk) hlt
    · intro k hk
      rcases List.mem_append.1 hk with hk | hk
      · exact Nat.le_of_lt (Nat.lt_of_le_of_lt (hle k hk) hlt)
      · rw [List.mem_singleton.1 hk]

theorem nodup_ids (h : Begun P g j n a events) : ((messages events).map Prod.fst).Nodup := by
  obtain ⟨ns, hids, hsorted, _⟩ := h.exists_ids
  rw [hids]
  refine List.Nodup.map ?_ (hsorted.imp Nat.ne_of_lt)
  exact fun _ _ => entryIdText_injective

/-- Every message is read as one of the job. -/
theorem read_messages (h : Begun P g j n a events) : ∀ e ∈ messages events,
    (readAdded e.1 e.2).generationId = g ∧ (readAdded e.1 e.2).jobId = jobIdOf j := by
  induction h with
  | first n now =>
    intro e he
    obtain rfl := List.mem_singleton.1 he
    rw [readAdded_enqueueFields _ _ _ _ (by decide)]
    exact ⟨rfl, rfl⟩
  | again _ _ _ _ hread ih =>
    intro e he
    rw [messages_append, List.mem_append] at he
    rcases he with he | he
    · exact ih e he
    · obtain rfl := List.mem_singleton.1 he
      rw [hread]
      exact ⟨rfl, rfl⟩

end Begun

/-! ## What is handled -/

/-- What holds of the events of a job at any time, with the runs of it that have not
ended. -/
structure Handled (P : Platform) (g j : String) (running : Nat) (events : List JobEvent) :
    Prop where
  /-- The job was enqueued with attempt 1. -/
  first : ∃ id now, (messages events).head? = some (id, enqueueFields g j 1 (P.rfc3339 now))
  runs_le : ((results events).length : Int) + running ≤ maxTries
  /-- After a success there is no other run, message or dead letter. -/
  success_last : ∀ before id after, events = before ++ .ran id (.ok ()) :: after →
    results after = [] ∧ messages after = [] ∧ letters events = []
  /-- A dead letter is the only one, and nothing is run or added after it. -/
  letter_last : ∀ before fields after, events = before ++ .letter fields :: after →
    results after = [] ∧ messages after = [] ∧ letters events = [fields] ∧
      fields.lookup "generation_id" = some g
  /-- It comes right after the first permanent error or the last of `MAX_TRIES`
  retryable ones. -/
  letter_after : ∀ before fields after, events = before ++ .letter fields :: after →
    ∃ earlier id e, before = earlier ++ [.ran id (.error e)] ∧
      (∀ r ∈ results earlier, Retryable P r) ∧
      (isRetryableError P e = false ∨
        isRetryableError P e = true ∧ ((results before).length : Int) = maxTries)
  /-- No message is acknowledged twice. -/
  nodup_ids : ((messages events).map Prod.fst).Nodup
  acks_prefix : acks events <+: (messages events).map Prod.fst
  /-- Every message carries the generation id and the job id. -/
  read_messages : ∀ e ∈ messages events,
    (readAdded e.1 e.2).generationId = g ∧ (readAdded e.1 e.2).jobId = jobIdOf j

/-- What holds besides once the queue has nothing of the job any more. -/
structure Completed (events : List JobEvent) : Prop where
  /-- Every message is acknowledged exactly once. -/
  acks_eq : acks events = (messages events).map Prod.fst
  /-- Without a success there is exactly one dead letter. -/
  letters_length : .ok () ∉ results events → (letters events).length = 1

namespace Rest

variable {id : String} {r : Except String Unit} {rest : List JobEvent} {acts : List Act}

theorem messages_eq_nil (h : Rest P g id a r rest acts) : messages rest = [] := by
  cases h <;> rfl

theorem results_eq_nil (h : Rest P g id a r rest acts) : results rest = [] := by
  cases h <;> rfl

theorem acks_prefix (h : Rest P g id a r rest acts) : acks rest <+: [id] := by
  cases h <;> first | exact List.nil_prefix | exact List.prefix_rfl

/-- Nothing but its acknowledgement follows a success. -/
theorem letters_of_success (h : Rest P g id a (.ok ()) rest acts) : letters rest = [] := by
  cases h <;> rfl

/-- A dead letter comes first, after an error that ends the job. -/
theorem of_letter (h : Rest P g id a r rest acts) {t after : List JobEvent} {fields : Fields}
    (ht : rest = t ++ .letter fields :: after) :
    t = [] ∧ messages after = [] ∧ results after = [] ∧ letters rest = [fields] ∧
      fields.lookup "generation_id" = some g ∧ ∃ e, r = .error e ∧ EndsJob P a e := by
  have hmem : JobEvent.letter fields ∈ rest := by simp [ht]
  cases h with
  | lettered hends =>
    obtain ⟨rfl, he, rfl⟩ := eq_nil_of_cons_eq (by simp) ht
    obtain rfl := JobEvent.letter.inj he
    exact ⟨rfl, rfl, rfl, rfl, rfl, _, rfl, hends⟩
  | ended hends =>
    obtain ⟨rfl, he, rfl⟩ := eq_nil_of_cons_eq (by simp) ht
    obtain rfl := JobEvent.letter.inj he
    exact ⟨rfl, rfl, rfl, rfl, rfl, _, rfl, hends⟩
  | _ => simp at hmem

/-- The commands of a task after its run. -/
theorem settle (P : Platform) (g j : String) (n : Nat) (a : Int) (r : Except String Unit) :
    Rest P g (entryIdText n) a r [] (Wire.settle P (entryOf g j n a) r) := by
  cases r with
  | ok u => exact .succeeded
  | error e =>
    rw [Wire.settle]
    split_ifs with hpermanent hlast
    · exact .failed (.inl (by simpa using hpermanent))
    · exact .failed (.inr hlast)
    · exact .retrying (by simpa using hpermanent) (by simpa [entryOf] using hlast)

/-- `XACK` is always of the entry of the task. -/
theorem xack (h : Rest P g id a r rest (.xack :: acts)) :
    Rest P g id a r (rest ++ [.acked id]) acts := by
  cases h with
  | succeeded => exact .acked
  | lettered hends => exact .ended hends
  | retrying hretry hle => exact .released hretry hle

theorem letter {attempt : Int} {errorCode e : String}
    (h : Rest P g id a r rest (.sendToDlq attempt errorCode e :: acts)) (payload : String) :
    Rest P g id a r (rest ++ [.letter (dlqFields g attempt payload)]) acts := by
  cases h with
  | failed hends => exact .lettered hends

/-- `XADD` is the last command, after the `XACK` of a round that is tried again. -/
theorem of_xadd (h : Rest P g id a r rest (.xadd :: acts)) :
    acts = [] ∧ rest = [.acked id] ∧
      ∃ e, r = .error e ∧ isRetryableError P e = true ∧ a + 1 ≤ maxTries := by
  cases h with
  | released hretry hle => exact ⟨rfl, rfl, _, rfl, hretry, hle⟩

/-- What there is when no command is left. -/
theorem of_nil (h : Rest P g id a r rest []) :
    acks rest = [id] ∧ (r ≠ .ok () → (letters rest).length = 1) := by
  cases h with
  | acked => exact ⟨rfl, fun hr => absurd rfl hr⟩
  | ended => exact ⟨rfl, fun _ => rfl⟩

end Rest

/-- A run that is in the list has its outcome among the results. -/
theorem mem_results {id : String} {r : Except String Unit} (h : .ran id r ∈ events) :
    r ∈ results events := List.mem_filterMap.2 ⟨_, h, rfl⟩

theorem mem_letters {fields : Fields} (h : .letter fields ∈ events) : fields ∈ letters events :=
  List.mem_filterMap.2 ⟨_, h, rfl⟩

namespace Begun

theorem not_mem_success (h : Begun P g j n a events) (id : String) : .ran id (.ok ()) ∉ events := by
  intro hmem
  obtain ⟨e, he, _⟩ := h.results_retryable _ (mem_results hmem)
  cases he

theorem not_mem_letter (h : Begun P g j n a events) (fields : Fields) : .letter fields ∉ events := by
  intro hmem
  have hletter := mem_letters hmem
  rw [h.letters_eq_nil] at hletter
  cases hletter

/-- A job whose message has not been run. -/
theorem handled_start (h : Begun P g j n a events) {running : Nat} (hrunning : running ≤ 1) :
    Handled P g j running events where
  first := h.first_message
  runs_le := by
    have := h.length_results
    have := h.attempt_bounds
    omega
  success_last := fun before id after he =>
    absurd (by simp [he]) (h.not_mem_success id)
  letter_last := fun before fields after he => absurd (by simp [he]) (h.not_mem_letter fields)
  letter_after := fun before fields after he => absurd (by simp [he]) (h.not_mem_letter fields)
  nodup_ids := h.nodup_ids
  acks_prefix := by
    rw [h.messages_eq_acks]
    exact List.prefix_append _ _
  read_messages := h.read_messages

/-- A dead letter of the job comes right after the run. -/
theorem before_letter (h : Begun P g j n a events) {r : Except String Unit} {rest : List JobEvent}
    {acts : List Act} (hrest : Rest P g (entryIdText n) a r rest acts) {before after : List JobEvent} {fields : Fields}
    (he : events ++ .ran (entryIdText n) r :: rest = before ++ .letter fields :: after) :
    before = events ++ [.ran (entryIdText n) r] ∧ rest = .letter fields :: after := by
  have hnot : JobEvent.letter fields ∉ events ++ [.ran (entryIdText n) r] := by
    simpa using h.not_mem_letter fields
  rw [List.append_cons] at he
  obtain ⟨t, hbefore, ht⟩ := exists_append_of_not_mem hnot he
  obtain ⟨rfl, _⟩ := hrest.of_letter ht
  exact ⟨by rw [hbefore, List.append_nil], ht⟩

/-- A job whose message has been run. -/
theorem handled_ran (h : Begun P g j n a events) {r : Except String Unit} {rest : List JobEvent}
    {acts : List Act} (hrest : Rest P g (entryIdText n) a r rest acts) :
    Handled P g j 0 (events ++ .ran (entryIdText n) r :: rest) := by
  have hmessages : messages (events ++ .ran (entryIdText n) r :: rest) = messages events := by
    rw [messages_append, show messages (.ran (entryIdText n) r :: rest) = messages rest from rfl,
      hrest.messages_eq_nil, List.append_nil]
  have hresults : results (events ++ .ran (entryIdText n) r :: rest) = results events ++ [r] := by
    rw [results_append, show results (.ran (entryIdText n) r :: rest) = r :: results rest from rfl,
      hrest.results_eq_nil]
  have hletters : letters (events ++ .ran (entryIdText n) r :: rest) = letters rest := by
    rw [letters_append, h.letters_eq_nil]
    rfl
  have hlength := h.length_results
  have hbounds := h.attempt_bounds
  refine ⟨?_, ?_, ?_, ?_, ?_, ?_, ?_, ?_⟩
  · rw [hmessages]
    exact h.first_message
  · have hcount : (results events ++ [r]).length = (results events).length + 1 := List.length_append
    rw [hresults, hcount]
    omega
  · intro before id after he
    obtain ⟨t, rfl, ht⟩ := exists_append_of_not_mem (h.not_mem_success id) he
    have hnot : JobEvent.ran id (.ok ()) ∉ rest := fun hmem => by
      have hresult := mem_results hmem
      rw [hrest.results_eq_nil] at hresult
      cases hresult
    obtain ⟨rfl, hran, rfl⟩ := eq_nil_of_cons_eq hnot ht
    obtain ⟨_, rfl⟩ := JobEvent.ran.inj hran
    rw [hletters]
    exact ⟨hrest.results_eq_nil, hrest.messages_eq_nil, hrest.letters_of_success⟩
  · intro before fields after he
    obtain ⟨_, ht⟩ := h.before_letter hrest he
    obtain ⟨_, hmessages', hresults', hletter, hname, _⟩ := hrest.of_letter (t := []) ht
    rw [hletters]
    exact ⟨hresults', hmessages', hletter, hname⟩
  · intro before fields after he
    obtain ⟨hbefore, ht⟩ := h.before_letter hrest he
    obtain ⟨_, _, _, _, _, e, rfl, hends⟩ := hrest.of_letter (t := []) ht
    refine ⟨events, entryIdText n, e, hbefore, h.results_retryable, ?_⟩
    cases hretry : isRetryableError P e with
    | false => exact .inl rfl
    | true =>
      -- The attempt is the last one, and each run before had one of its own.
      refine .inr ⟨rfl, ?_⟩
      have hlast : maxTries < a + 1 := hends.resolve_left (by simp [hretry])
      have hcount : (results before).length = (results events).length + 1 := by
        rw [hbefore, results_append]
        exact List.length_append
      rw [hcount]
      omega
  · rw [hmessages]
    exact h.nodup_ids
  · rw [hmessages, h.messages_eq_acks, acks_append]
    exact (List.prefix_append_right_inj _).2 hrest.acks_prefix
  · rw [hmessages]
    exact h.read_messages

/-- A job whose last task has no command left. -/
theorem completed (h : Begun P g j n a events) {r : Except String Unit} {rest : List JobEvent}
    (hrest : Rest P g (entryIdText n) a r rest []) :
    Completed (events ++ .ran (entryIdText n) r :: rest) := by
  obtain ⟨hacks, hletters⟩ := hrest.of_nil
  refine ⟨?_, fun hok => ?_⟩
  · rw [acks_append, messages_append, List.map_append, h.messages_eq_acks,
      show acks (.ran (entryIdText n) r :: rest) = acks rest from rfl, hacks,
      show messages (.ran (entryIdText n) r :: rest) = messages rest from rfl,
      hrest.messages_eq_nil, List.map_nil, List.append_nil]
  · have hr : r ≠ .ok () := by
      rintro rfl
      have hmem : .ran (entryIdText n) (.ok ()) ∈ events ++ .ran (entryIdText n) (.ok ()) :: rest := by
        simp
      exact hok (mem_results hmem)
    rw [letters_append, h.letters_eq_nil]
    exact hletters hr

end Begun

end KlassGateway.Queue.Wire
