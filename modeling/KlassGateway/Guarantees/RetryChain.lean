import KlassGateway.Guarantees.JobRounds
import KlassGateway.System
/-!
# What becomes of a job

Whatever the outcomes of the runs of a job are, and whatever else the queue does
between them, the job is run at most `MAX_TRIES` times and ends in one of three ways:
with a success, with a permanent error, or with the last retryable one.  All this
needs the consumer group: `$` lets it start after the last entry, so no worker ever
reads a job that was enqueued before a worker has created it.

* `Standing` ties the events of a job to what the queue holds of it: one unread
  message, or one task, or nothing any more; of a job that was missed, nothing ever.
* `Sound.step` is the invariant over one step, and `Run.sound` over a run.
* `Sound.advance`: a job that is not over can go on, whatever its next outcome is.
* `jobs_handled_iff` says which jobs are handled, and `job_missed` is one that is not.
-/

namespace KlassGateway.Queue.Wire

open Lib

variable {P : Platform} {g j : String} {job n m top : Nat} {a : Int} {events tail : List JobEvent}

/-! ## Where a job stands -/

/-- The task has something left to do. -/
def Task.active (t : Task) : Bool := t.stage ≠ .settling []

/-- `process` runs. -/
def Task.isRunning (t : Task) : Bool := t.stage = .running

/-- The entries of a job that no worker has read. -/
def unreadOf (s : State) (job : Nat) : List (Lib.StreamEntry Message) :=
  s.jobs.unread.filter fun e => e.fields.job = job

/-- The tasks of a job that are not at their end. -/
def tasksOf (s : State) (job : Nat) : List Task := s.tasks.filter fun t => t.job = job ∧ t.active

/-- The task for an entry. -/
def taskOf (e : Lib.StreamEntry Message) : Task :=
  ⟨readAdded (entryIdText e.id) e.fields.fields, e.fields.job, .running⟩

/-- Every entry that is delivered gets its task. -/
theorem spawn_eq (entries : List (Lib.StreamEntry Message)) : spawn entries = entries.map taskOf := by
  rw [spawn, readMessages_readReply, List.map_map, List.zipWith_map_right, List.zipWith_self]
  rfl

/-- What the queue holds of a job by what there was to see of it.  `top` is the last
entry id, and the flag says whether the consumer group was there when it was enqueued. -/
inductive Standing (P : Platform) (g j : String) (job top : Nat) :
    Bool → List (Lib.StreamEntry Message) → List Task → List JobEvent → Prop
  | missed (entryId : String) (now : DateTime) :
      Standing P g j job top false [] []
        [.added entryId (enqueueFields g j 1 (P.rfc3339 now))]
  | unread {n : Nat} {a : Int} {events : List JobEvent} {fields : Fields}
      (h : Begun P g j n a events) (hle : n ≤ top)
      (hread : readAdded (entryIdText n) fields = entryOf g j n a) :
      Standing P g j job top true [⟨n, ⟨fields, job⟩⟩] [] events
  | running {n : Nat} {a : Int} {events : List JobEvent}
      (h : Begun P g j n a events) (hle : n ≤ top) :
      Standing P g j job top true [] [⟨entryOf g j n a, job, .running⟩] events
  | settling {n : Nat} {a : Int} {events rest : List JobEvent} {r : Except String Unit}
      {act : Act} {acts : List Act} (h : Begun P g j n a events) (hle : n ≤ top)
      (hrest : Rest P g (entryIdText n) a r rest (act :: acts)) :
      Standing P g j job top true [] [⟨entryOf g j n a, job, .settling (act :: acts)⟩]
        (events ++ .ran (entryIdText n) r :: rest)
  | gone {n : Nat} {a : Int} {events rest : List JobEvent} {r : Except String Unit}
      (h : Begun P g j n a events) (hrest : Rest P g (entryIdText n) a r rest []) :
      Standing P g j job top true [] [] (events ++ .ran (entryIdText n) r :: rest)

namespace Standing

variable {grouped : Bool} {us : List (Lib.StreamEntry Message)} {ts : List Task}

theorem mono (h : Standing P g j job top grouped us ts events) {top' : Nat} (htop : top ≤ top') :
    Standing P g j job top' grouped us ts events := by
  cases h with
  | missed entryId now => exact .missed entryId now
  | unread h hle hread => exact .unread h (Nat.le_trans hle htop) hread
  | running h hle => exact .running h (Nat.le_trans hle htop)
  | settling h hle hrest => exact .settling h (Nat.le_trans hle htop) hrest
  | gone h hrest => exact .gone h hrest

theorem handled (h : Standing P g j job top true us ts events) :
    Handled P g j (ts.countP Task.isRunning) events := by
  cases h with
  | unread h => exact h.handled_start (Nat.zero_le 1)
  | running h => exact h.handled_start (Nat.le_refl 1)
  | settling h _ hrest => exact h.handled_ran hrest
  | gone h hrest => exact h.handled_ran hrest

theorem completed (h : Standing P g j job top true [] [] events) : Completed events := by
  cases h with
  | gone h hrest => exact h.completed hrest

/-- Nothing ever happens to a job that was missed. -/
theorem of_missed (h : Standing P g j job top false us ts events) :
    us = [] ∧ ts = [] ∧
      ∃ entryId now, events = [.added entryId (enqueueFields g j 1 (P.rfc3339 now))] := by
  cases h with
  | missed entryId now => exact ⟨rfl, rfl, entryId, now, rfl⟩

theorem of_running (h : Standing P g j job top grouped us ts events) {entry : StreamEntry}
    {job' : Nat} (ht : ⟨entry, job', .running⟩ ∈ ts) :
    grouped = true ∧ us = [] ∧ ts = [⟨entry, job', .running⟩] ∧
      ∃ n a, entry = entryOf g j n a ∧ Begun P g j n a events ∧ n ≤ top := by
  cases h with
  | missed => cases ht
  | unread => cases ht
  | running h hle =>
    obtain ⟨rfl, rfl, _⟩ := Task.mk.inj (List.mem_singleton.1 ht)
    exact ⟨rfl, rfl, rfl, _, _, rfl, h, hle⟩
  | settling =>
    obtain ⟨_, _, hstage⟩ := Task.mk.inj (List.mem_singleton.1 ht)
    cases hstage
  | gone => cases ht

theorem of_settling (h : Standing P g j job top grouped us ts events) {entry : StreamEntry}
    {job' : Nat} {acts : List Act} (ht : ⟨entry, job', .settling acts⟩ ∈ ts) :
    grouped = true ∧ us = [] ∧ ts = [⟨entry, job', .settling acts⟩] ∧
      ∃ n a r begun rest, entry = entryOf g j n a ∧
      Begun P g j n a begun ∧ n ≤ top ∧ Rest P g (entryIdText n) a r rest acts ∧
      events = begun ++ .ran (entryIdText n) r :: rest := by
  cases h with
  | missed => cases ht
  | unread => cases ht
  | running =>
    obtain ⟨_, _, hstage⟩ := Task.mk.inj (List.mem_singleton.1 ht)
    cases hstage
  | settling h hle hrest =>
    obtain ⟨rfl, rfl, hstage⟩ := Task.mk.inj (List.mem_singleton.1 ht)
    cases hstage
    exact ⟨rfl, rfl, rfl, _, _, _, _, _, rfl, h, hle, hrest, rfl⟩
  | gone => cases ht

/-- A read delivers the message of the job, or leaves it. -/
theorem read (h : Standing P g j job top grouped us ts events)
    {es us' : List (Lib.StreamEntry Message)} (hus : us = es ++ us') :
    Standing P g j job top grouped us' (ts ++ es.map taskOf) events := by
  cases h with
  | missed entryId now =>
    obtain ⟨rfl, rfl⟩ := List.append_eq_nil_iff.1 hus.symm
    exact .missed entryId now
  | unread h hle hread =>
    rcases List.cons_eq_append_iff.1 hus with ⟨rfl, rfl⟩ | ⟨es', rfl, hnil⟩
    · exact .unread h hle hread
    · obtain ⟨rfl, rfl⟩ := List.append_eq_nil_iff.1 hnil.symm
      rw [List.nil_append, List.map_singleton, taskOf, hread]
      exact .running h hle
  | running h hle =>
    obtain ⟨rfl, rfl⟩ := List.append_eq_nil_iff.1 hus.symm
    exact .running h hle
  | settling h hle hrest =>
    obtain ⟨rfl, rfl⟩ := List.append_eq_nil_iff.1 hus.symm
    exact .settling h hle hrest
  | gone h hrest =>
    obtain ⟨rfl, rfl⟩ := List.append_eq_nil_iff.1 hus.symm
    exact .gone h hrest

end Standing

/-! ## Tasks of a job -/

section

variable {s : State} {i job' : Nat} {entry : StreamEntry} {stage : Stage}

/-- A step of a task of another job. -/
theorem tasksOf_set_of_ne (ht : s.tasks[i]? = some ⟨entry, job', stage⟩) (hne : job' ≠ job)
    (stage' : Stage) : tasksOf (s.setTask i ⟨entry, job', stage'⟩) job = tasksOf s job := by
  obtain ⟨before, after, htasks, hset⟩ := exists_split ht
  have hset' : (s.setTask i ⟨entry, job', stage'⟩).tasks = before ++ ⟨entry, job', stage'⟩ :: after :=
    hset _
  rw [tasksOf, tasksOf, hset', htasks]
  simp [hne]

/-- A step of the only task of a job. -/
theorem tasksOf_set_self (ht : s.tasks[i]? = some ⟨entry, job, stage⟩)
    (honly : tasksOf s job = [⟨entry, job, stage⟩]) (stage' : Stage) :
    tasksOf (s.setTask i ⟨entry, job, stage'⟩) job =
      if stage' = .settling [] then [] else [⟨entry, job, stage'⟩] := by
  obtain ⟨before, after, htasks, hset⟩ := exists_split ht
  have hset' : (s.setTask i ⟨entry, job, stage'⟩).tasks = before ++ ⟨entry, job, stage'⟩ :: after :=
    hset _
  have hmem : (⟨entry, job, stage⟩ : Task) ∈ tasksOf s job := by simp [honly]
  have hactive := (List.mem_filter.1 hmem).2
  rw [tasksOf, htasks, List.filter_append, List.filter_cons, if_pos hactive] at honly
  obtain ⟨hbefore, hafter⟩ : before.filter (fun u => u.job = job ∧ u.active) = [] ∧
      after.filter (fun u => u.job = job ∧ u.active) = [] := by
    have hlength := congrArg List.length honly
    rw [List.length_append, List.length_cons, List.length_singleton] at hlength
    exact ⟨List.length_eq_zero_iff.1 (by omega), List.length_eq_zero_iff.1 (by omega)⟩
  rw [tasksOf, hset', List.filter_append, hbefore, List.nil_append, List.filter_cons, hafter]
  by_cases hend : stage' = .settling []
  · simp [hend, Task.active]
  · simp [hend, Task.active]

theorem tasksOf_read (job : Nat) (s : State) (es : List (Lib.StreamEntry Message)) (jobs : Stream Message) :
    tasksOf { s with jobs, tasks := s.tasks ++ spawn es } job =
      tasksOf s job ++ (es.filter fun e => e.fields.job = job).map taskOf := by
  simp only [tasksOf, spawn_eq, List.filter_append, List.filter_map]
  congr 2
  refine List.filter_congr fun e _ => ?_
  show decide (e.fields.job = job ∧ (taskOf e).active) = decide (e.fields.job = job)
  exact decide_eq_decide.2 (and_iff_left rfl)

end

/-! ## The invariant -/

/-- What holds of the queue and its log. -/
structure Sound (P : Platform) (s : State) (log : Log) : Prop where
  wf : s.jobs.WF
  delivered : ∀ g, s.jobs.group = some g → g.lastDelivered ≤ s.jobs.lastId
  group : ∀ sub ∈ s.submitted, sub.grouped = true → s.jobs.group.isSome
  unread_lt : ∀ e ∈ s.jobs.unread, e.fields.job < s.submitted.length
  task_lt : ∀ t ∈ s.tasks, t.job < s.submitted.length
  log_lt : ∀ e ∈ log, e.1 < s.submitted.length
  standing : ∀ job sub, s.submitted[job]? = some sub →
    Standing P sub.generationId sub.jobId job s.jobs.lastId sub.grouped (unreadOf s job)
      (tasksOf s job) (eventsOf job log)

/-- Redis is empty, and no task runs. -/
theorem sound_empty (P : Platform) : Sound P {} [] :=
  ⟨Stream.wf_empty, by simp, by simp, by simp [Stream.unread], by simp, by simp, by simp⟩

namespace Sound

variable {s : State} {log : Log}

/-- A task of a job goes on, and what it does to the stream is to add entries of
its job. -/
theorem touch (h : Sound P s log) {i job : Nat} {entry : StreamEntry} {stage : Stage}
    (ht : s.tasks[i]? = some ⟨entry, job, stage⟩) (stage' : Stage)
    {jobs : Stream Message} (hwf : jobs.WF)
    (hdelivered : ∀ g, jobs.group = some g → g.lastDelivered ≤ jobs.lastId)
    (hgroup : s.jobs.group.isSome → jobs.group.isSome)
    (htop : s.jobs.lastId ≤ jobs.lastId) {new : List (Lib.StreamEntry Message)}
    (hunread : jobs.unread = s.jobs.unread ++ new) (hnew : ∀ e ∈ new, e.fields.job = job)
    (dlq : Stream Fields) (e : JobEvent)
    (hstanding : ∀ sub, s.submitted[job]? = some sub →
      Standing P sub.generationId sub.jobId job jobs.lastId sub.grouped (unreadOf s job ++ new)
        (tasksOf (s.setTask i ⟨entry, job, stage'⟩) job) (eventsOf job log ++ [e])) :
    Sound P { s.setTask i ⟨entry, job, stage'⟩ with jobs, dlq } (log ++ [(job, e)]) := by
  have hlt : job < s.submitted.length := h.task_lt _ (List.mem_of_getElem? ht)
  refine ⟨hwf, hdelivered, fun sub hsub hgrouped => hgroup (h.group sub hsub hgrouped),
    ?_, ?_, ?_, ?_⟩
  · intro x hx
    rw [hunread] at hx
    rcases List.mem_append.1 hx with hx | hx
    · exact h.unread_lt x hx
    · rw [hnew x hx]
      exact hlt
  · intro u hu
    rcases List.mem_or_eq_of_mem_set hu with hu | rfl
    · exact h.task_lt u hu
    · exact hlt
  · intro x hx
    rcases List.mem_append.1 hx with hx | hx
    · exact h.log_lt x hx
    · rw [List.mem_singleton.1 hx]
      exact hlt
  · intro job' sub hsubmitted
    have hunreadOf : unreadOf { s.setTask i ⟨entry, job, stage'⟩ with jobs, dlq } job' =
        unreadOf s job' ++ new.filter fun e => e.fields.job = job' := by
      simp only [unreadOf, hunread, List.filter_append]
    rw [hunreadOf, eventsOf_append]
    by_cases hne : job = job'
    · subst hne
      rw [eventsOf_self, List.filter_eq_self.2 fun x hx => by simpa using hnew x hx]
      exact hstanding sub hsubmitted
    · have hnone : (new.filter fun e => e.fields.job = job') = [] :=
        List.filter_eq_nil_iff.2 fun x hx => by simpa [hnew x hx] using hne
      rw [eventsOf_of_ne hne, hnone, List.append_nil, List.append_nil]
      have htasks := tasksOf_set_of_ne ht hne stage'
      exact htasks ▸ (h.standing job' sub hsubmitted).mono htop

theorem finish (h : Sound P s log) {i job : Nat} {entry : StreamEntry}
    (ht : s.tasks[i]? = some ⟨entry, job, .running⟩) (r : Except String Unit) :
    Sound P (s.setTask i ⟨entry, job, .settling (Wire.settle P entry r)⟩)
      (log ++ [(job, .ran entry.id r)]) := by
  refine h.touch ht _ h.wf h.delivered id (Nat.le_refl _) (List.append_nil _).symm (by simp)
    s.dlq _ ?_
  intro sub hsubmitted
  have hmem : (⟨entry, job, .running⟩ : Task) ∈ tasksOf s job := by
    simpa [tasksOf, Task.active] using List.mem_of_getElem? ht
  obtain ⟨hgrouped, hus, hts, n, a, rfl, hbegun, hle⟩ :=
    (h.standing job sub hsubmitted).of_running hmem
  rw [tasksOf_set_self ht hts, hus, hgrouped]
  have hrest := Rest.settle P sub.generationId sub.jobId n a r
  cases hacts : Wire.settle P (entryOf sub.generationId sub.jobId n a) r with
  | nil =>
    rw [hacts] at hrest
    cases hrest
  | cons act acts =>
    rw [hacts] at hrest
    exact .settling hbegun hle hrest

/-- The job of a task that has a command left. -/
theorem settling (h : Sound P s log) {i job : Nat} {entry : StreamEntry} {act : Act}
    {acts : List Act} (ht : s.tasks[i]? = some ⟨entry, job, .settling (act :: acts)⟩)
    {sub : Submission} (hsubmitted : s.submitted[job]? = some sub) :
    sub.grouped = true ∧ unreadOf s job = [] ∧
      tasksOf s job = [⟨entry, job, .settling (act :: acts)⟩] ∧
      ∃ n a r begun rest, entry = entryOf sub.generationId sub.jobId n a ∧
        Begun P sub.generationId sub.jobId n a begun ∧ n ≤ s.jobs.lastId ∧
        Rest P sub.generationId (entryIdText n) a r rest (act :: acts) ∧
        eventsOf job log = begun ++ .ran (entryIdText n) r :: rest := by
  have hmem : (⟨entry, job, .settling (act :: acts)⟩ : Task) ∈ tasksOf s job := by
    simpa [tasksOf, Task.active] using List.mem_of_getElem? ht
  exact (h.standing job sub hsubmitted).of_settling hmem

/-- A command that leaves the unread entries as they are. -/
theorem command (h : Sound P s log) {i job : Nat} {entry : StreamEntry} {act : Act}
    {acts : List Act} (ht : s.tasks[i]? = some ⟨entry, job, .settling (act :: acts)⟩)
    {jobs : Stream Message} (hwf : jobs.WF)
    (hdelivered : ∀ g, jobs.group = some g → g.lastDelivered ≤ jobs.lastId)
    (hgroup : s.jobs.group.isSome → jobs.group.isSome)
    (htop : jobs.lastId = s.jobs.lastId) (hunread : jobs.unread = s.jobs.unread)
    (dlq : Stream Fields) {e : JobEvent}
    (hrest : ∀ {g j : String} {n : Nat} {a : Int} {r : Except String Unit} {rest : List JobEvent},
      entry = entryOf g j n a → Rest P g (entryIdText n) a r rest (act :: acts) →
      Rest P g (entryIdText n) a r (rest ++ [e]) acts) :
    Sound P { s.setTask i ⟨entry, job, .settling acts⟩ with jobs, dlq } (log ++ [(job, e)]) := by
  refine h.touch ht _ hwf hdelivered hgroup (Nat.le_of_eq htop.symm)
    (hunread.trans (List.append_nil _).symm) (by simp) dlq e ?_
  intro sub hsubmitted
  obtain ⟨hgrouped, hus, hts, n, a, r, begun, rest, hentry, hbegun, hle, hrest', hevents⟩ :=
    h.settling ht hsubmitted
  have hnext := hrest hentry hrest'
  rw [tasksOf_set_self ht hts, hus, hevents, List.append_assoc, List.cons_append, hentry, hgrouped]
  cases acts with
  | nil => exact .gone hbegun hnext
  | cons act' acts => exact .settling hbegun (htop ▸ hle) hnext

/-- A new entry is unread once the group exists. -/
theorem unread_add (h : Sound P s log) (message : Message) (hgroup : s.jobs.group.isSome) :
    (s.jobs.add message).2.unread = s.jobs.unread ++ [⟨s.jobs.lastId + 1, message⟩] :=
  s.jobs.unread_add message hgroup h.delivered

theorem delivered_add (h : Sound P s log) (message : Message) :
    ∀ g, (s.jobs.add message).2.group = some g → g.lastDelivered ≤ s.jobs.lastId + 1 :=
  fun g hg => Nat.le_succ_of_le (h.delivered g hg)

/-- The next message of a job. -/
theorem readd (h : Sound P s log) {i job : Nat} {entry : StreamEntry} {acts : List Act}
    (ht : s.tasks[i]? = some ⟨entry, job, .settling (.xadd :: acts)⟩) (now : String) :
    Sound P ((s.setTask i ⟨entry, job, .settling acts⟩).add (reenqueueFields entry now) job).2
      (log ++ ((s.setTask i ⟨entry, job, .settling acts⟩).add (reenqueueFields entry now) job).1) := by
  have hlt : job < s.submitted.length := h.task_lt _ (List.mem_of_getElem? ht)
  obtain ⟨hgrouped, -⟩ := h.settling ht (List.getElem?_eq_getElem hlt)
  have hgroup := h.group _ (List.getElem_mem hlt) hgrouped
  refine h.touch ht _ (h.wf.add _) (h.delivered_add _) (fun hsome => hsome) (Nat.le_succ _)
    (h.unread_add _ hgroup) (by simp) s.dlq _ ?_
  intro sub hsubmitted
  obtain ⟨hgrouped, hus, hts, n, a, r, begun, rest, rfl, hbegun, hle, hrest, hevents⟩ :=
    h.settling ht hsubmitted
  obtain ⟨rfl, rfl, e, rfl, hretry, hmax⟩ := hrest.of_xadd
  have hread : readAdded (entryIdText (s.jobs.lastId + 1))
      (reenqueueFields (entryOf sub.generationId sub.jobId n a) now) =
      entryOf sub.generationId sub.jobId (s.jobs.lastId + 1) (a + 1) := by
    have hbounds := hbegun.attempt_bounds
    have hmaxTries : maxTries = 3 := rfl
    refine readAdded_reenqueueFields _ _ (fun jobId he => ?_) ⟨?_, ?_⟩
    · exact jobIdOf_ne_empty he
    · change -(2 ^ 63) ≤ a + 1
      omega
    · change a + 1 < 2 ^ 63
      omega
  rw [tasksOf_set_self ht hts, hus, hevents, List.append_assoc, List.cons_append, hgrouped]
  exact .unread (.again hbegun hretry hmax (Nat.lt_succ_of_le hle) hread) (Nat.le_refl _) hread

theorem act (h : Sound P s log) {i job : Nat} {entry : StreamEntry} {act : Act} {acts : List Act}
    (ht : s.tasks[i]? = some ⟨entry, job, .settling (act :: acts)⟩) (now retryNow : DateTime)
    {new : Log} {s' : State}
    (hperform : perform P (s.setTask i ⟨entry, job, .settling acts⟩) ⟨entry, job, .settling acts⟩
      now retryNow act = (new, s')) : Sound P s' (log ++ new) := by
  cases act with
  | xack =>
    obtain ⟨rfl, rfl⟩ := Prod.mk.inj hperform
    let ack (g : ConsumerGroup) : ConsumerGroup :=
      { g with pending := g.pending.filter fun p => entryIdText p.id ≠ entry.id }
    have hdelivered : ∀ g, (s.jobs.mapGroup ack).group = some g →
        g.lastDelivered ≤ (s.jobs.mapGroup ack).lastId := fun g hg => by
      obtain ⟨g', hg', rfl⟩ := Option.map_eq_some_iff.1 hg
      exact h.delivered g' hg'
    refine h.command ht (h.wf.mapGroup ack) hdelivered Option.isSome_map.trans rfl
      (s.jobs.unread_mapGroup fun _ => rfl) s.dlq ?_
    intro g j n a r rest hentry hrest
    rw [hentry]
    exact hrest.xack
  | sendToDlq attempt errorCode e =>
    obtain ⟨rfl, rfl⟩ := Prod.mk.inj hperform
    refine h.command ht h.wf h.delivered id rfl rfl _ ?_
    intro g j n a r rest hentry hrest
    rw [hentry]
    exact hrest.letter _
  | xadd =>
    obtain ⟨rfl, rfl⟩ := Prod.mk.inj hperform
    exact h.readd ht _

theorem unreadOf_new (h : Sound P s log) : unreadOf s s.submitted.length = [] := by
  refine List.filter_eq_nil_iff.2 fun e he => ?_
  have := h.unread_lt e he
  simp only [decide_eq_true_eq]
  omega

theorem tasksOf_new (h : Sound P s log) : tasksOf s s.submitted.length = [] := by
  refine List.filter_eq_nil_iff.2 fun t ht => ?_
  have := h.task_lt t ht
  simp only [decide_eq_true_eq]
  omega

theorem eventsOf_new (h : Sound P s log) : eventsOf s.submitted.length log = [] := by
  refine List.filterMap_eq_nil_iff.2 fun e he => if_neg ?_
  have := h.log_lt e he
  omega

/-- A new job. -/
theorem enqueue (h : Sound P s log) (g j : String) (now : DateTime) :
    let fields := enqueueFields g j 1 (P.rfc3339 now)
    Sound P { s with
        jobs := (s.jobs.add ⟨fields, s.submitted.length⟩).2
        submitted := s.submitted ++ [⟨g, j, s.jobs.group.isSome⟩] }
      (log ++ [(s.submitted.length, .added (entryIdText (s.jobs.lastId + 1)) fields)]) := by
  have hlength : (s.submitted ++ [(⟨g, j, s.jobs.group.isSome⟩ : Submission)]).length =
    s.submitted.length + 1 := List.length_append
  have hunread := s.jobs.unread_add_eq
    ⟨enqueueFields g j 1 (P.rfc3339 now), s.submitted.length⟩ h.delivered
  refine ⟨h.wf.add _, h.delivered_add _, fun sub hsub hgrouped => ?_, ?_, ?_, ?_, ?_⟩
  · rcases List.mem_append.1 hsub with hsub | hsub
    · exact h.group sub hsub hgrouped
    · rw [List.mem_singleton.1 hsub] at hgrouped
      exact hgrouped
  · intro e he
    rw [hunread, List.mem_append] at he
    rw [hlength]
    rcases he with he | he
    · exact Nat.lt_succ_of_lt (h.unread_lt e he)
    · obtain ⟨-, he⟩ := List.mem_ite_nil_right.1 he
      rw [List.mem_singleton.1 he]
      exact Nat.lt_succ_self _
  · intro t ht
    rw [hlength]
    exact Nat.lt_succ_of_lt (h.task_lt t ht)
  · intro e he
    rw [hlength]
    rcases List.mem_append.1 he with he | he
    · exact Nat.lt_succ_of_lt (h.log_lt e he)
    · rw [List.mem_singleton.1 he]
      exact Nat.lt_succ_self _
  · intro job sub hsubmitted
    have hunreadOf (jobs : Stream Message) (submitted : List Submission) :
        unreadOf { s with jobs, submitted } job = jobs.unread.filter fun e => e.fields.job = job := rfl
    have htasksOf (jobs : Stream Message) (submitted : List Submission) :
        tasksOf { s with jobs, submitted } job = tasksOf s job := rfl
    rw [hunreadOf, htasksOf, hunread, List.filter_append, eventsOf_append]
    by_cases hnew : job = s.submitted.length
    · -- Nothing was there of the new job.
      subst hnew
      obtain rfl : ⟨g, j, s.jobs.group.isSome⟩ = sub := by simpa using hsubmitted
      have hnone : s.jobs.unread.filter (fun e => e.fields.job = s.submitted.length) = [] :=
        h.unreadOf_new
      rw [hnone, h.tasksOf_new, h.eventsOf_new, eventsOf_self]
      cases hgroup : s.jobs.group.isSome with
      | false => exact .missed _ now
      | true =>
        simp only [if_true, List.filter_cons, decide_true, List.filter_nil]
        exact .unread (.first _ now) (Nat.le_refl _) (readAdded_enqueueFields _ _ _ _ (by decide))
    · have hold : s.submitted[job]? = some sub := by
        have hlt : job < s.submitted.length := by
          have := (List.getElem?_eq_some_iff.1 hsubmitted).1
          rw [hlength] at this
          omega
        rwa [List.getElem?_append_left hlt] at hsubmitted
      have hother : (if s.jobs.group.isSome then [(⟨s.jobs.lastId + 1,
          ⟨enqueueFields g j 1 (P.rfc3339 now), s.submitted.length⟩⟩ :
            Lib.StreamEntry Message)] else []).filter (fun e => e.fields.job = job) = [] := by
        split
        · simp [Ne.symm hnew]
        · rfl
      rw [eventsOf_of_ne (Ne.symm hnew), List.append_nil, hother, List.append_nil]
      exact (h.standing job sub hold).mono (Nat.le_succ _)

/-- A worker starts.  The group begins after the last entry. -/
theorem createGroup (h : Sound P s log) :
    Sound P { s with jobs := s.jobs.createGroup.getD s.jobs } log := by
  cases hgroup : s.jobs.group with
  | some g =>
    have hbusy : s.jobs.createGroup.getD s.jobs = s.jobs := by rw [Stream.createGroup, hgroup]; rfl
    rw [hbusy]
    exact h
  | none =>
    have hcreated : s.jobs.createGroup.getD s.jobs =
        { s.jobs with group := some { lastDelivered := s.jobs.lastId } } := by
      rw [Stream.createGroup, hgroup]
      rfl
    have hunread : (s.jobs.createGroup.getD s.jobs).unread = s.jobs.unread := by
      rw [hcreated]
      exact (h.wf.unread_start _).trans (Stream.unread_of_group_none hgroup).symm
    have hunreadOf (job : Nat) :
        unreadOf { s with jobs := s.jobs.createGroup.getD s.jobs } job = unreadOf s job := by
      simp only [unreadOf, hunread]
    refine ⟨?_, ?_, fun sub hsub hgrouped => ?_, ?_, h.task_lt, h.log_lt, ?_⟩
    · rw [hcreated]
      exact ⟨h.wf.sorted, h.wf.le_lastId⟩
    · rw [hcreated]
      intro g hg
      obtain rfl := Option.some.inj hg
      exact Nat.le_refl _
    · rw [hcreated]
      rfl
    · intro e he
      exact h.unread_lt e (hunread ▸ he)
    · intro job sub hsubmitted
      rw [hunreadOf]
      have htop : (s.jobs.createGroup.getD s.jobs).lastId = s.jobs.lastId := by rw [hcreated]
      exact htop ▸ h.standing job sub hsubmitted

/-- The unread entries of a job are delivered, or they stay. -/
theorem unreadOf_read (h : Sound P s log) {consumer : String}
    {es : List (Lib.StreamEntry Message)} {jobs : Stream Message}
    (hread : s.jobs.readGroup consumer batchSize = some (es, jobs)) (job : Nat) :
    unreadOf s job = es.filter (fun e => e.fields.job = job) ++
      jobs.unread.filter fun e => e.fields.job = job := by
  rw [unreadOf, Stream.unread_readGroup h.wf hread, List.filter_append]

/-- A read of a worker. -/
theorem read (h : Sound P s log) {consumer : String} {es : List (Lib.StreamEntry Message)}
    {jobs : Stream Message} (hread : s.jobs.readGroup consumer batchSize = some (es, jobs)) :
    Sound P { s with jobs, tasks := s.tasks ++ spawn es } log := by
  have hunread := Stream.unread_readGroup h.wf hread
  obtain ⟨g, hg, he⟩ := Option.map_eq_some_iff.1 hread
  obtain ⟨hes, hjobs⟩ := Prod.mk.inj he
  have hmem : ∀ e ∈ es, e ∈ s.jobs.unread := fun e he => by
    rw [hunread]
    exact List.mem_append_left _ he
  have htop : jobs.lastId = s.jobs.lastId := by rw [← hjobs]
  refine ⟨h.wf.readGroup hread, ?_, fun _ _ _ => by rw [← hjobs]; rfl, ?_, ?_, h.log_lt, ?_⟩
  · rw [← hjobs, hes]
    intro g' hg'
    obtain rfl := Option.some.inj hg'
    cases hlastRead : es.getLast? with
    | none => exact h.delivered g hg
    | some e =>
      have hin := hmem e (List.mem_of_getLast? hlastRead)
      exact h.wf.le_lastId e (Stream.unread_subset hin)
  · intro e he
    exact h.unread_lt e (by rw [hunread]; exact List.mem_append_right _ he)
  · intro t ht
    rw [spawn_eq] at ht
    rcases List.mem_append.1 ht with ht | ht
    · exact h.task_lt t ht
    · obtain ⟨e, hin, rfl⟩ := List.mem_map.1 ht
      exact h.unread_lt e (hmem e hin)
  · intro job sub hsubmitted
    have hstanding := (h.standing job sub hsubmitted).read (h.unreadOf_read hread job)
    rw [← tasksOf_read] at hstanding
    exact htop ▸ hstanding

/-- A claim moves no entry back to the unread ones. -/
theorem claim (h : Sound P s log) (consumer : String) (entryId : Nat) :
    Sound P { s with jobs := s.jobs.claim consumer entryId } log := by
  have hunread := s.jobs.unread_claim consumer entryId
  refine ⟨h.wf.mapGroup _, fun g hg => ?_, fun sub hsub hgrouped => ?_, ?_, h.task_lt, h.log_lt, ?_⟩
  · obtain ⟨g', hg', rfl⟩ := Option.map_eq_some_iff.1 hg
    exact h.delivered g' hg'
  · exact Option.isSome_map.trans (h.group sub hsub hgrouped)
  · intro e he
    exact h.unread_lt e (hunread ▸ he)
  · intro job sub hsubmitted
    have hus : unreadOf { s with jobs := s.jobs.claim consumer entryId } job = unreadOf s job := by
      simp only [unreadOf, hunread]
    rw [hus]
    exact h.standing job sub hsubmitted

/-- One step of the queue. -/
theorem step (h : Sound P s log) {e : Event} {new : Log} {s' : State}
    (hstep : Wire.step P s e = some (new, s')) : Sound P s' (log ++ new) := by
  cases e with
  | enqueue g j now =>
    obtain ⟨rfl, rfl⟩ := Prod.mk.inj (Option.some.inj hstep)
    exact h.enqueue g j now
  | createGroup =>
    obtain ⟨rfl, rfl⟩ := Prod.mk.inj (Option.some.inj hstep)
    rw [List.append_nil]
    exact h.createGroup
  | read consumer =>
    obtain ⟨delivered, hread, he⟩ := Option.map_eq_some_iff.1 hstep
    obtain ⟨rfl, rfl⟩ := Prod.mk.inj he
    rw [List.append_nil]
    exact h.read hread
  | claim consumer entryId =>
    obtain ⟨rfl, rfl⟩ := Prod.mk.inj (Option.some.inj hstep)
    rw [List.append_nil]
    exact h.claim consumer entryId
  | finish i r =>
    simp only [Wire.step] at hstep
    split at hstep
    · next ht =>
      obtain ⟨rfl, rfl⟩ := Prod.mk.inj (Option.some.inj hstep)
      exact h.finish ht r
    · cases hstep
  | act i now retryNow =>
    simp only [Wire.step] at hstep
    split at hstep
    · next ht => exact h.act ht now retryNow (Option.some.inj hstep)
    · cases hstep

end Sound

/-- The invariant over a run. -/
theorem Sound.run {s t : State} {log more : Log} (hs : Sound P s log) (h : Run P s more t) :
    Sound P t (log ++ more) := by
  induction h with
  | refl => rwa [List.append_nil]
  | step _ hstep ih =>
    rw [← List.append_assoc]
    exact ih.step hstep

theorem Run.sound {t : State} {log : Log} (h : Run P {} log t) : Sound P t log :=
  (sound_empty P).run h

/-! ## A job comes to its end -/

theorem Run.trans {s t u : State} {log log' : Log} (h : Run P s log t) (h' : Run P t log' u) :
    Run P s (log ++ log') u := by
  induction h' with
  | refl => rwa [List.append_nil]
  | step _ hstep ih =>
    rw [← List.append_assoc]
    exact ih.step hstep

/-- No job is forgotten. -/
theorem submitted_prefix {s t : State} {new : Log} {e : Event}
    (hstep : Wire.step P s e = some (new, t)) : s.submitted <+: t.submitted := by
  cases e with
  | enqueue g j now =>
    obtain ⟨-, rfl⟩ := Prod.mk.inj (Option.some.inj hstep)
    exact List.prefix_append _ _
  | createGroup =>
    obtain ⟨-, rfl⟩ := Prod.mk.inj (Option.some.inj hstep)
    exact List.prefix_rfl
  | read consumer =>
    obtain ⟨delivered, -, he⟩ := Option.map_eq_some_iff.1 hstep
    obtain ⟨-, rfl⟩ := Prod.mk.inj he
    exact List.prefix_rfl
  | claim consumer entryId =>
    obtain ⟨-, rfl⟩ := Prod.mk.inj (Option.some.inj hstep)
    exact List.prefix_rfl
  | finish i r =>
    simp only [Wire.step] at hstep
    split at hstep
    · obtain ⟨-, rfl⟩ := Prod.mk.inj (Option.some.inj hstep)
      exact List.prefix_rfl
    · cases hstep
  | act i now retryNow =>
    simp only [Wire.step] at hstep
    split at hstep
    · next act acts ht =>
      cases act <;> obtain ⟨-, rfl⟩ := Prod.mk.inj (Option.some.inj hstep) <;> exact List.prefix_rfl
    · cases hstep

theorem Run.submitted_prefix {s t : State} {log : Log} (h : Run P s log t) :
    s.submitted <+: t.submitted := by
  induction h with
  | refl => exact List.prefix_rfl
  | step _ hstep ih => exact ih.trans (Wire.submitted_prefix hstep)

/-- A run of one step. -/
theorem Run.single {s t : State} {new : Log} {e : Event} (h : Wire.step P s e = some (new, t)) :
    Run P s new t := by
  have hrun : Run P s ([] ++ new) t := .step .refl h
  rwa [List.nil_append] at hrun

/-- The run of the only task of a job ends. -/
theorem exists_finish (P : Platform) {s : State} {entry : StreamEntry}
    (htasks : tasksOf s job = [⟨entry, job, .running⟩]) (r : Except String Unit) :
    ∃ u, Run P s [(job, .ran entry.id r)] u ∧ u.submitted = s.submitted ∧
      tasksOf u job = if settle P entry r = [] then [] else [⟨entry, job, .settling (settle P entry r)⟩] := by
  have hmem : (⟨entry, job, .running⟩ : Task) ∈ tasksOf s job := by simp [htasks]
  obtain ⟨i, hi⟩ := List.mem_iff_getElem?.1 (List.mem_filter.1 hmem).1
  have hstep : Wire.step P s (.finish i r) = some ([(job, .ran entry.id r)],
      s.setTask i ⟨entry, job, .settling (Wire.settle P entry r)⟩) := by
    rw [Wire.step, hi]
  refine ⟨_, .single hstep, rfl, ?_⟩
  rw [tasksOf_set_self hi htasks]
  simp

/-- The only task of a job sends its next command. -/
theorem exists_act (P : Platform) {s : State} {entry : StreamEntry} {act : Act} {acts : List Act}
    (htasks : tasksOf s job = [⟨entry, job, .settling (act :: acts)⟩]) :
    ∃ e u, Run P s [(job, e)] u ∧ u.submitted = s.submitted ∧ e.result = none ∧
      tasksOf u job = if acts = [] then [] else [⟨entry, job, .settling acts⟩] := by
  have hmem : (⟨entry, job, .settling (act :: acts)⟩ : Task) ∈ tasksOf s job := by simp [htasks]
  obtain ⟨i, hi⟩ := List.mem_iff_getElem?.1 (List.mem_filter.1 hmem).1
  have hset := tasksOf_set_self hi htasks (.settling acts)
  have hstep : Wire.step P s (.act i 0 0) = some (perform P (s.setTask i ⟨entry, job, .settling acts⟩)
      ⟨entry, job, .settling acts⟩ 0 0 act) := by
    rw [Wire.step, hi]
  simp only [Stage.settling.injEq] at hset
  cases act with
  | xack => exact ⟨_, _, .single hstep, rfl, rfl, hset⟩
  | sendToDlq => exact ⟨_, _, .single hstep, rfl, rfl, hset⟩
  | xadd => exact ⟨_, _, .single hstep, rfl, rfl, hset⟩

theorem Run.of_play {s t : State} {log : Log} {events : List Event}
    (h : play P s events = some (log, t)) : Run P s log t := by
  induction events generalizing s log with
  | nil =>
    obtain ⟨rfl, rfl⟩ := Prod.mk.inj (Option.some.inj h)
    exact .refl
  | cons e events ih =>
    obtain ⟨first, hstep, h⟩ := Option.bind_eq_some_iff.1 h
    obtain ⟨rest, hrest, he⟩ := Option.map_eq_some_iff.1 h
    obtain ⟨rfl, rfl⟩ := Prod.mk.inj he
    exact (Run.single hstep).trans (ih hrest)

/-- The queue has nothing of the job any more. -/
def Over (s : State) (job : Nat) : Prop := unreadOf s job = [] ∧ tasksOf s job = []

/-- How far the tasks of a job and its unread message are from the end of a round. -/
def roundLeft (us : List (Lib.StreamEntry Message)) : List Task → Nat
  | [] => if us = [] then 0 else 5
  | ⟨_, _, .running⟩ :: _ => 4
  | ⟨_, _, .settling acts⟩ :: _ => 6 + acts.length

/-- How far a job is from its end. -/
def workLeft (job : Nat) (s : State) (log : Log) : Nat :=
  6 * (3 - (results (eventsOf job log)).length) + roundLeft (unreadOf s job) (tasksOf s job)

theorem roundLeft_settling (us : List (Lib.StreamEntry Message)) (entry : StreamEntry) (job : Nat)
    (acts : List Act) :
    roundLeft us (if acts = [] then [] else [⟨entry, job, .settling acts⟩]) < 7 + acts.length := by
  split_ifs with hacts
  · rw [roundLeft]
    split_ifs <;> omega
  · rw [roundLeft]
    omega

theorem length_settle (P : Platform) (entry : StreamEntry) (r : Except String Unit) :
    (settle P entry r).length ≤ 2 := by
  cases r with
  | ok u => exact Nat.le_succ 1
  | error e =>
    rw [settle]
    split_ifs <;> exact Nat.le_refl 2

namespace Sound

variable {s : State} {log : Log}

/-- A message is read after the entries that are before it. -/
theorem exists_read (h : Sound P s log) {e : Lib.StreamEntry Message} (hunread : unreadOf s job = [e])
    (htasks : tasksOf s job = []) : ∃ u, Run P s [] u ∧ u.submitted = s.submitted ∧
      unreadOf u job = [] ∧ tasksOf u job = [taskOf e] := by
  generalize hlength : s.jobs.unread.length = k
  induction k using Nat.strong_induction_on generalizing s log with
  | _ k ih =>
    have hmem : e ∈ unreadOf s job := hunread ▸ List.mem_singleton_self e
    obtain ⟨-, group, hgroup, -⟩ := Stream.mem_unread.1 (List.mem_filter.1 hmem).1
    obtain ⟨delivered, hread⟩ : ∃ d, s.jobs.readGroup "worker" batchSize = some d :=
      ⟨_, by rw [Stream.readGroup, hgroup]; rfl⟩
    have hstep : Wire.step P s (.read "worker") = some ([],
        { s with jobs := delivered.2, tasks := s.tasks ++ spawn delivered.1 }) := by
      rw [Wire.step, hread]
      rfl
    have hsplit := h.unreadOf_read hread job
    have htasks' := tasksOf_read job s delivered.1 delivered.2
    rw [htasks] at htasks'
    rw [hunread] at hsplit
    rcases List.cons_eq_append_iff.1 hsplit with ⟨hnone, hrest⟩ | ⟨es, hes, hrest⟩
    · -- The message is further down.
      rw [hnone] at htasks'
      have hcount := congrArg List.length (Stream.unread_readGroup h.wf hread)
      rw [List.length_append, hlength] at hcount
      have hdelivered : delivered.1 ≠ [] := by
        have hsome : s.jobs.unread ≠ [] := by
          rintro hnil
          rw [unreadOf, hnil] at hunread
          cases hunread
        rw [Stream.eq_take_of_readGroup hread, batchSize]
        simpa using hsome
      have hpos := List.length_pos_iff.2 hdelivered
      obtain ⟨u, hrun, hsubmitted, hu⟩ := ih delivered.2.unread.length (by omega) (h.step hstep)
        hrest htasks' rfl
      exact ⟨u, (Run.single hstep).trans hrun, hsubmitted, hu⟩
    · obtain ⟨rfl, hleft⟩ := List.append_eq_nil_iff.1 hrest.symm
      rw [hes] at htasks'
      exact ⟨_, .single hstep, rfl, hleft, htasks'⟩

/-- A job that is not over goes on, with any outcome if its next run ends. -/
theorem advance (h : Sound P s log) {sub : Submission} (hjob : s.submitted[job]? = some sub)
    (hover : ¬ Over s job) (r : Except String Unit) :
    ∃ more u, Run P s more u ∧ u.submitted = s.submitted ∧
      workLeft job u (log ++ more) < workLeft job s log ∧
      (results (eventsOf job more) = [] ∨ results (eventsOf job more) = [r]) := by
  have hstanding := h.standing job sub hjob
  generalize hus : unreadOf s job = us, hts : tasksOf s job = ts, hevents : eventsOf job log = events,
    sub.grouped = grouped at hstanding
  cases hstanding with
  | missed => exact absurd ⟨hus, hts⟩ hover
  | unread hbegun hle hread =>
    obtain ⟨u, hrun, hsubmitted, hus', hts'⟩ := h.exists_read hus hts
    refine ⟨[], u, hrun, hsubmitted, ?_, .inl rfl⟩
    rw [List.append_nil, workLeft, workLeft, hus, hts, hus', hts']
    exact Nat.add_lt_add_left (Nat.lt_succ_self 4) _
  | @running n a _ hbegun hle =>
    obtain ⟨u, hrun, hsubmitted, hts'⟩ := exists_finish P hts r
    refine ⟨_, u, hrun, hsubmitted, ?_, .inr (by rw [eventsOf_self]; rfl)⟩
    have hruns := hbegun.length_results
    have hbounds := hbegun.attempt_bounds
    have hmax : maxTries = 3 := rfl
    let entry := entryOf sub.generationId sub.jobId n a
    have hround := roundLeft_settling (unreadOf u job) entry job (settle P entry r)
    have hacts := length_settle P entry r
    rw [← hts'] at hround
    rw [workLeft, workLeft, eventsOf_append, eventsOf_self, results_append, List.length_append, hevents,
      hus, hts]
    change 6 * (3 - ((results events).length + 1)) + _ < 6 * (3 - (results events).length) + 4
    omega
  | @settling n a _ _ _ _ acts hbegun hle hrest =>
    obtain ⟨e, u, hrun, hsubmitted, he, hts'⟩ := exists_act P hts
    have hnone : results [e] = [] := List.filterMap_cons_none he
    refine ⟨_, u, hrun, hsubmitted, ?_, .inl (by rw [eventsOf_self, hnone])⟩
    have hround := roundLeft_settling (unreadOf u job)
      (entryOf sub.generationId sub.jobId n a) job acts
    rw [← hts'] at hround
    rw [workLeft, workLeft, eventsOf_append, eventsOf_self, results_append, hnone, List.append_nil,
      hevents, hus, hts]
    refine Nat.add_lt_add_left (Nat.lt_of_lt_of_eq hround ?_) _
    rw [roundLeft, List.length_cons]
    omega
  | gone => exact absurd ⟨hus, hts⟩ hover

/-- A job comes to its end, whatever the outcomes of its runs are. -/
theorem exists_over (h : Sound P s log) {sub : Submission} (hjob : s.submitted[job]? = some sub)
    (outcome : Nat → Except String Unit) : ∃ more u k, Run P s more u ∧
      u.submitted = s.submitted ∧ Over u job ∧
      results (eventsOf job more) = (List.range k).map outcome := by
  generalize hwork : workLeft job s log = w
  induction w using Nat.strong_induction_on generalizing s log outcome with
  | _ w ih =>
    by_cases hover : Over s job
    · exact ⟨[], s, 0, .refl, rfl, hover, rfl⟩
    · obtain ⟨more, u, hrun, hsubmitted, hless, hresults⟩ := h.advance hjob hover (outcome 0)
      have hsound := h.run hrun
      rcases hresults with hnone | hone
      · obtain ⟨more', v, k, hrun', hsame, hover', hresults'⟩ :=
          ih _ (hwork ▸ hless) hsound (hsubmitted ▸ hjob) outcome rfl
        refine ⟨more ++ more', v, k, hrun.trans hrun', hsame.trans hsubmitted, hover', ?_⟩
        rw [eventsOf_append, results_append, hnone, hresults', List.nil_append]
      · obtain ⟨more', v, k, hrun', hsame, hover', hresults'⟩ :=
          ih _ (hwork ▸ hless) hsound (hsubmitted ▸ hjob) (fun n => outcome (n + 1)) rfl
        refine ⟨more ++ more', v, k + 1, hrun.trans hrun', hsame.trans hsubmitted, hover', ?_⟩
        rw [eventsOf_append, results_append, hone, hresults', List.range_succ_eq_map, List.map_cons,
          List.map_map]
        rfl

end Sound

/-- Whether the queue has nothing of a job can be computed. -/
instance (s : State) (job : Nat) : Decidable (Over s job) :=
  decidable_of_iff ((unreadOf s job).length = 0 ∧ (tasksOf s job).length = 0)
    (and_congr List.length_eq_zero_iff List.length_eq_zero_iff)

/-! ## Which jobs are handled -/

/-- A job is handled at any time, is completed when the queue has nothing of it any
more, and comes to that whatever the outcomes of its further runs are. -/
structure Settles (P : Platform) (t : State) (log : Log) (job : Nat) (sub : Submission) : Prop where
  handled : Handled P sub.generationId sub.jobId ((tasksOf t job).countP Task.isRunning)
    (eventsOf job log)
  completed : Over t job → Completed (eventsOf job log)
  comes_to_end : ∀ outcome : Nat → Except String Unit, ∃ more u k, Run P t more u ∧ Over u job ∧
    Completed (eventsOf job (log ++ more)) ∧
    results (eventsOf job more) = (List.range k).map outcome

namespace Sound

variable {s : State} {log : Log}

/-- A job that the group sees is completed when it is over. -/
theorem completed (h : Sound P s log) {sub : Submission} (hjob : s.submitted[job]? = some sub)
    (hgrouped : sub.grouped = true) (hover : Over s job) : Completed (eventsOf job log) := by
  have hstanding := h.standing job sub hjob
  rw [hgrouped, hover.1, hover.2] at hstanding
  exact hstanding.completed

/-- A job that was missed is over, with nothing but its message. -/
theorem missed (h : Sound P s log) {sub : Submission} (hjob : s.submitted[job]? = some sub)
    (hgrouped : sub.grouped = false) : Over s job ∧ results (eventsOf job log) = [] ∧
      acks (eventsOf job log) = [] ∧ letters (eventsOf job log) = [] := by
  have hstanding := h.standing job sub hjob
  rw [hgrouped] at hstanding
  obtain ⟨hus, hts, entryId, now, hevents⟩ := hstanding.of_missed
  rw [hevents]
  exact ⟨⟨hus, hts⟩, rfl, rfl, rfl⟩

end Sound

/-- Exactly the jobs are handled that are enqueued when the consumer group exists. -/
theorem jobs_handled_iff (P : Platform) {t : State} {log : Log} (h : Run P {} log t) {job : Nat}
    {sub : Submission} (hjob : t.submitted[job]? = some sub) :
    Settles P t log job sub ↔ sub.grouped = true := by
  have hsound := h.sound
  constructor
  · intro hsettles
    by_contra hmissed
    have hgrouped : sub.grouped = false := by simpa using hmissed
    obtain ⟨hover, hruns, hacks, hletters⟩ := hsound.missed hjob hgrouped
    -- Without a run there is no success, so there would be a dead letter.
    have hone := (hsettles.completed hover).letters_length (by simp [hruns])
    rw [hletters] at hone
    cases hone
  · intro hgrouped
    refine ⟨?_, hsound.completed hjob hgrouped, fun outcome => ?_⟩
    · have hstanding := hsound.standing job sub hjob
      rw [hgrouped] at hstanding
      exact hstanding.handled
    · obtain ⟨more, u, k, hrun, hsame, hover, hresults⟩ := hsound.exists_over hjob outcome
      have hcompleted := (hsound.run hrun).completed (hsame ▸ hjob) hgrouped hover
      exact ⟨more, u, k, hrun, hover, hcompleted, hresults⟩

/-- A job whose first run meets a timeout and whose second one succeeds. -/
def timeoutFirst : List Event :=
  [.createGroup, .enqueue "generation" "job" 0, .read "worker-1", .finish 0 (.error "timeout"),
    .act 0 0 0, .act 0 0 0, .read "worker-2", .finish 1 (.ok ()), .act 1 0 0]

theorem jobs_handled_sample : ∃ t log, Run asciiPlatform {} log t ∧ Over t 0 ∧
    (results (eventsOf 0 log)).length = 2 ∧
    (Settles asciiPlatform t log 0 ⟨"generation", "job", true⟩ ↔ true = true) := by
  have hplays : ((play asciiPlatform {} timeoutFirst).map fun played =>
      (decide (Over played.2 0), played.2.submitted, (results (eventsOf 0 played.1)).length)) =
      some (true, [⟨"generation", "job", true⟩], 2) := by decide +kernel
  obtain ⟨played, hplay, hdata⟩ := Option.map_eq_some_iff.1 hplays
  simp only [Prod.mk.injEq, decide_eq_true_eq] at hdata
  obtain ⟨hover, hsubmitted, hresults⟩ := hdata
  have hrun : Run asciiPlatform {} played.1 played.2 := .of_play hplay
  have hjob : played.2.submitted[0]? = some ⟨"generation", "job", true⟩ := by rw [hsubmitted]; rfl
  exact ⟨played.2, played.1, hrun, hover, hresults, jobs_handled_iff asciiPlatform hrun hjob⟩

/-- A handler is quicker than the first worker: the group that the worker creates does
not see the job. -/
def handlerFirst : List Event := [.enqueue "generation" "job" 0, .createGroup]

theorem job_missed : ∃ t log, Run asciiPlatform {} log t ∧
    t.submitted = [⟨"generation", "job", false⟩] ∧ t.jobs.group.isSome ∧
    ∀ more u, Run asciiPlatform t more u → results (eventsOf 0 (log ++ more)) = [] ∧
      acks (eventsOf 0 (log ++ more)) = [] ∧ letters (eventsOf 0 (log ++ more)) = [] ∧
      ¬ Completed (eventsOf 0 (log ++ more)) := by
  have hplays : ((play asciiPlatform {} handlerFirst).map fun played =>
      (played.2.submitted, played.2.jobs.group.isSome)) =
      some ([⟨"generation", "job", false⟩], true) := by decide +kernel
  obtain ⟨⟨log, t⟩, hplay, hdata⟩ := Option.map_eq_some_iff.1 hplays
  obtain ⟨hsubmitted, hgroup⟩ := Prod.mk.inj hdata
  have hrun : Run asciiPlatform {} log t := .of_play hplay
  refine ⟨t, log, hrun, hsubmitted, hgroup, fun more u hmore => ?_⟩
  have hjob : u.submitted[0]? = some ⟨"generation", "job", false⟩ := by
    obtain ⟨later, hlater⟩ := hmore.submitted_prefix
    rw [← hlater, hsubmitted]
    rfl
  obtain ⟨-, hruns, hacks, hletters⟩ := (hrun.trans hmore).sound.missed hjob rfl
  refine ⟨hruns, hacks, hletters, fun hcompleted => ?_⟩
  have hone := hcompleted.letters_length (by simp [hruns])
  rw [hletters] at hone
  cases hone

end KlassGateway.Queue.Wire
