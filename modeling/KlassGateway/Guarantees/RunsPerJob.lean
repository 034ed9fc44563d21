import KlassGateway.JobCalls
import KlassGateway.Lib.KeyedStream
/-!
# The runs of one job

What the stream and the tasks know about a job, in every state that the gateway can reach
(`JobsOk`, and `SubmitsOk` for the renderer):

* `runs_of_job`: whatever fails, the messages of a job are its attempts 1, 2 and 3 at most, one
  after the other, and no two runs for a job are ever under way.
* `submitted_once`: the renderer accepts no job twice, as long as no run puts the message of an
  accepted job back.
* `submitted_twice`: otherwise it may.

The invariant names for each job the one task that may hand it over (`JobMode.job`): the request
that has drawn it, or the run for its newest message.
-/

namespace KlassGateway

open Lib Lib.Prog Db Orchestrator Queue MediaGen Api

variable {A : AppState}

/-! ## The invariant -/

/-- The messages of a job, in the order of the stream. -/
def messagesOf (w : World) (j : Uuid) : List (StreamEntry JobMessage) :=
  Stream.under JobMessage.jobId j w.redis.jobs

/-- The attempts 1 to `n`. -/
def firstAttempts (n : Nat) : List Int := (List.range n).map fun k => (k : Int) + 1

/-- No message of the job of an entry came after it. -/
def IsNewest (w : World) (e : StreamEntry JobMessage) : Prop :=
  ∀ j, e.fields.jobId = some j → Stream.IsLast JobMessage.jobId j w.redis.jobs e

namespace JobMode

/-- The job that a task may still hand over. -/
def job : JobMode → Option Uuid
  | free drawn => drawn
  | running e _ => e.fields.jobId
  | requeued => none

/-- The job that a task may still submit. -/
def unsubmitted : JobMode → Option Uuid
  | free drawn => drawn
  | running e false => e.fields.jobId
  | _ => none

theorem job_of_unsubmitted {m : JobMode} {j : Uuid} (h : m.unsubmitted = some j) :
    m.job = some j := by
  cases m with
  | free drawn => exact h
  | running e b =>
    cases b with
    | false => exact h
    | true => cases h
  | requeued => cases h

/-- What a call without effect makes of a mode. -/
inductive Fades : JobMode → JobMode → Prop
  | refl (m : JobMode) : Fades m m
  | free (drawn : Option Uuid) : Fades (free drawn) (free none)
  | submitted (e : StreamEntry JobMessage) (b : Bool) : Fades (running e b) (running e true)
  | requeued (e : StreamEntry JobMessage) (b : Bool) : Fades (running e b) requeued

theorem Fades.unsubmitted {m m' : JobMode} (h : Fades m m') {j : Uuid}
    (hj : m'.unsubmitted = some j) : m.unsubmitted = some j := by
  cases h with
  | refl => exact hj
  | _ => cases hj

end JobMode

/-- What the kind of a task says about its mode. -/
def KindOk (l : Label) : JobMode → Prop
  | .free _ => ∀ message, l.kind ≠ .worker message
  | .running e _ => l.kind = .worker e.fields
  | .requeued => True

/-- What holds of the stream and of the tasks. -/
structure JobsOk (w : World) (v : Nat → Option (Label × JobMode)) : Prop where
  sound : w.redis.jobs.Sound
  attempts : ∀ j, ∃ n ≤ 3, (messagesOf w j).map (fun e => e.fields.attempt) = firstAttempts n
  generation : ∀ j, ∀ e ∈ messagesOf w j, ∀ e' ∈ messagesOf w j,
    e.fields.generationId = e'.fields.generationId
  drawnBefore : ∀ j, messagesOf w j ≠ [] → j.value < w.nextUuid
  unread : ∀ e ∈ w.redis.jobs.unread, IsNewest w e
  kind : ∀ i l m, v i = some (l, m) → KindOk l m
  running : ∀ i l e b, v i = some (l, .running e b) →
    e ∈ w.redis.jobs.entries ∧ e ∉ w.redis.jobs.unread ∧ IsNewest w e
  drawn : ∀ i l j, v i = some (l, .free (some j)) → j.value < w.nextUuid ∧ messagesOf w j = []
  alone : ∀ i i' l l' m m' j, v i = some (l, m) → v i' = some (l', m') → m.job = some j →
    m'.job = some j → i = i'

/-- The jobs that the renderer has accepted. -/
def acceptedJobs (w : World) : List Uuid := w.renderer.accepted.map RenderJob.jobId

/-- What holds of the renderer while no run puts back the message of an accepted job. -/
structure SubmitsOk (w : World) (v : Nat → Option (Label × JobMode)) : Prop where
  drawnBefore : ∀ j ∈ acceptedJobs w, j.value < w.nextUuid
  nodup : (acceptedJobs w).Nodup
  unread : ∀ e ∈ w.redis.jobs.unread, ∀ j, e.fields.jobId = some j → j ∉ acceptedJobs w
  unsubmitted : ∀ i l m j, v i = some (l, m) → m.unsubmitted = some j → j ∉ acceptedJobs w

theorem mem_messagesOf {w : World} {j : Uuid} {e : StreamEntry JobMessage} :
    e ∈ messagesOf w j ↔ e ∈ w.redis.jobs.entries ∧ e.fields.jobId = some j := Stream.mem_under

/-- Where each task of a view comes from: it is in another view, before a call without effect, or
it is a new request. -/
def Comes (v v' : Nat → Option (Label × JobMode)) : Prop :=
  ∀ i l' m', v' i = some (l', m') →
    (∃ l m, v i = some (l, m) ∧ l'.kind = l.kind ∧ m.Fades m') ∨
      m' = .free none ∧ ∀ message, l'.kind ≠ .worker message

section Steps

variable {w w' : World} {v v' : Nat → Option (Label × JobMode)} {i : Nat} {l : Label}
  {m : JobMode} {j : Uuid}

theorem JobsOk.comes (h : JobsOk w v) (hv : Comes v v') : JobsOk w v' := by
  have hjob : ∀ i l' m' j, v' i = some (l', m') → m'.job = some j →
      ∃ l m, v i = some (l, m) ∧ m.job = some j := by
    intro i l' m' j hi hj
    rcases hv i l' m' hi with ⟨l, m, hvi, -, hfades⟩ | ⟨rfl, -⟩
    · refine ⟨l, m, hvi, ?_⟩
      cases hfades with
      | refl => exact hj
      | submitted e b => exact hj
      | _ => cases hj
    · cases hj
  refine ⟨h.sound, h.attempts, h.generation, h.drawnBefore, h.unread, fun i l' m' hi => ?_,
    fun i l' e b hi => ?_, fun i l' j hi => ?_, fun i i' l l' m m' j hi hi' hj hj' => ?_⟩
  · rcases hv i l' m' hi with ⟨l, m, hvi, hkind, hfades⟩ | ⟨rfl, hkind⟩
    · have hk := h.kind i l m hvi
      cases hfades with
      | refl =>
        cases m' with
        | free drawn => exact fun message => hkind ▸ hk message
        | running e b => exact hkind.trans hk
        | requeued => trivial
      | free drawn => exact fun message => hkind ▸ hk message
      | submitted e b => exact hkind.trans hk
      | requeued e b => trivial
    · exact hkind
  · rcases hv i l' _ hi with ⟨l, m, hvi, -, hfades⟩ | ⟨hm, -⟩
    · cases hfades with
      | refl => exact h.running i l e b hvi
      | submitted e b => exact h.running i l e b hvi
    · cases hm
  · rcases hv i l' _ hi with ⟨l, m, hvi, -, hfades⟩ | ⟨hm, -⟩
    · cases hfades
      exact h.drawn i l j hvi
    · cases hm
  · obtain ⟨l₁, m₁, h₁, hj₁⟩ := hjob i l m j hi hj
    obtain ⟨l₂, m₂, h₂, hj₂⟩ := hjob i' l' m' j hi' hj'
    exact h.alone i i' l₁ l₂ m₁ m₂ j h₁ h₂ hj₁ hj₂

theorem SubmitsOk.comes (h : SubmitsOk w v) (hv : Comes v v') : SubmitsOk w v' := by
  refine ⟨h.drawnBefore, h.nodup, h.unread, fun i l' m' j hi hj => ?_⟩
  rcases hv i l' m' hi with ⟨l, m, hvi, -, hfades⟩ | ⟨rfl, -⟩
  · exact h.unsubmitted i l m j hvi (hfades.unsubmitted hj)
  · cases hj

/-- A change of the world that leaves the entries. -/
theorem JobsOk.same (h : JobsOk w v) (hjobs : Stream.Keeps w.redis.jobs w'.redis.jobs)
    (hsound : w'.redis.jobs.Sound) (hnext : w.nextUuid ≤ w'.nextUuid) : JobsOk w' v := by
  have hof (j : Uuid) : messagesOf w' j = messagesOf w j := by
    unfold messagesOf Stream.under
    rw [hjobs.entries]
  have hnewest {e : StreamEntry JobMessage} (he : IsNewest w e) : IsNewest w' e := by
    intro j hj
    obtain ⟨hmem, hkey, hle⟩ := he j hj
    exact ⟨hjobs.entries ▸ hmem, hkey, fun e' he' => hle e' (hjobs.entries ▸ he')⟩
  refine ⟨hsound, fun j => hof j ▸ h.attempts j, fun j => hof j ▸ h.generation j, fun j hj =>
    Nat.lt_of_lt_of_le (h.drawnBefore j (hof j ▸ hj)) hnext, fun e he =>
      hnewest (h.unread e (hjobs.unread e he)), h.kind, fun i l e b hi => ?_, fun i l j hi => ?_,
    h.alone⟩
  · obtain ⟨hmem, hunread, hn⟩ := h.running i l e b hi
    exact ⟨hjobs.entries ▸ hmem, fun he => hunread (hjobs.unread e he), hnewest hn⟩
  · obtain ⟨hlt, hnone⟩ := h.drawn i l j hi
    exact ⟨Nat.lt_of_lt_of_le hlt hnext, hof j ▸ hnone⟩

theorem SubmitsOk.same (h : SubmitsOk w v)
    (hunread : ∀ e ∈ w'.redis.jobs.unread, e ∈ w.redis.jobs.unread)
    (haccepted : acceptedJobs w' = acceptedJobs w) (hnext : w.nextUuid ≤ w'.nextUuid) :
    SubmitsOk w' v := by
  refine ⟨fun j hj => Nat.lt_of_lt_of_le (h.drawnBefore j (haccepted ▸ hj)) hnext,
    haccepted ▸ h.nodup, fun e he => ?_, ?_⟩
  · rw [haccepted]
    exact h.unread e (hunread e he)
  · rw [haccepted]
    exact h.unsubmitted

/-- A job that a task may hand over is in no unread entry. -/
theorem JobsOk.not_unread (h : JobsOk w v) (hi : v i = some (l, m)) (hj : m.job = some j) :
    ∀ e ∈ w.redis.jobs.unread, e.fields.jobId ≠ some j := by
  intro e he hej
  have hmem : e ∈ messagesOf w j := mem_messagesOf.2 ⟨Stream.unread_subset he, hej⟩
  cases m with
  | free drawn =>
    obtain rfl : drawn = some j := hj
    rw [(h.drawn i l j hi).2] at hmem
    cases hmem
  | running e' b =>
    obtain ⟨-, hunread, hnewest⟩ := h.running i l e' b hi
    exact hunread ((h.unread e he j hej).eq h.sound.wf (hnewest j hj) ▸ he)
  | requeued => cases hj

end Steps

/-! ## Calls that change the jobs -/

theorem firstAttempts_succ (n : Nat) : firstAttempts (n + 1) = firstAttempts n ++ [(n : Int) + 1] := by
  simp [firstAttempts, List.range_succ]

/-- What allows a message to be added. -/
structure Extends (w : World) (v : Nat → Option (Label × JobMode)) (message : JobMessage)
    (j : Uuid) : Prop where
  attempt : ∃ n, n + 1 ≤ 3 ∧ (messagesOf w j).map (fun e => e.fields.attempt) = firstAttempts n ∧
    message.attempt = (n : Int) + 1
  generation : ∀ e ∈ messagesOf w j, e.fields.generationId = message.generationId
  drawnBefore : j.value < w.nextUuid
  unread : ∀ e ∈ w.redis.jobs.unread, e.fields.jobId ≠ some j
  others : ∀ i l m, v i = some (l, m) → m.job ≠ some j

section Changes

variable {w w' : World} {v : Nat → Option (Label × JobMode)} {i : Nat} {l l' : Label}
  {m m' : JobMode} {j : Uuid} {message : JobMessage}

theorem comes_update (hi : v i = some (l, m)) (hkind : l'.kind = l.kind) (hfades : m.Fades m') :
    Comes v (Function.update v i (some (l', m'))) := by
  intro i' l₁ m₁ h
  by_cases hii : i' = i
  · subst hii
    rw [Function.update_self] at h
    obtain ⟨rfl, rfl⟩ := Prod.mk.inj (Option.some.inj h)
    exact .inl ⟨l, m, hi, hkind, hfades⟩
  · rw [Function.update_of_ne hii] at h
    exact .inl ⟨l₁, m₁, h, rfl, .refl m₁⟩

/-- After a task has handed over its job, no task may hand it over. -/
theorem JobsOk.others (h : JobsOk w v) (hi : v i = some (l, m)) (hj : m.job = some j)
    (hm' : m'.job = none) :
    ∀ i' l₁ m₁, Function.update v i (some (l', m')) i' = some (l₁, m₁) → m₁.job ≠ some j := by
  intro i' l₁ m₁ hi' hj₁
  by_cases hii : i' = i
  · subst hii
    rw [Function.update_self] at hi'
    obtain ⟨-, rfl⟩ := Prod.mk.inj (Option.some.inj hi')
    rw [hm'] at hj₁
    cases hj₁
  · rw [Function.update_of_ne hii] at hi'
    exact hii (h.alone i' i l₁ l m₁ m j hi' hi hj₁ hj)

/-- A request adds the first attempt of its job, and a run the next one. -/
theorem JobsOk.extends (h : JobsOk w v) (hi : v i = some (l, m))
    (hpre : jobsSpec.pre m (.command (.xadd message))) (hj : message.jobId = some j)
    (hm' : m'.job = none) :
    m.job = some j ∧ Extends w (Function.update v i (some (l', m'))) message j := by
  cases m with
  | free drawn =>
    obtain ⟨j', rfl, hj', hattempt⟩ := hpre
    obtain rfl := Option.some.inj (hj'.symm.trans hj)
    obtain ⟨hlt, hnone⟩ := h.drawn i l j' hi
    refine ⟨rfl, ⟨0, by omega, by rw [hnone]; rfl, by rw [hattempt]; rfl⟩, ?_, hlt,
      h.not_unread hi rfl, h.others hi rfl hm'⟩
    intro e he
    rw [hnone] at he
    cases he
  | running e b =>
    obtain ⟨hgeneration, hjob, hattempt, hallowed⟩ := hpre
    have hje : e.fields.jobId = some j := hjob.symm.trans hj
    obtain ⟨hmem, -, hnewest⟩ := h.running i l e b hi
    obtain ⟨before, hsplit⟩ := Stream.under_of_isLast h.sound.wf (hnewest j hje)
    obtain ⟨n, -, hn⟩ := h.attempts j
    have hmessages : e ∈ messagesOf w j := mem_messagesOf.2 ⟨hmem, hje⟩
    -- The newest message has the last attempt.
    have hlast : e.fields.attempt = (n : Int) := by
      have hn' := hn
      unfold messagesOf at hn'
      rw [hsplit, List.map_append, List.map_singleton] at hn'
      cases n with
      | zero => exact absurd hn' (by simp [firstAttempts])
      | succ n =>
        rw [firstAttempts_succ] at hn'
        have hend := (List.append_inj' hn' rfl).2
        rw [(List.cons.inj hend).1]
        omega
    refine ⟨hje, ⟨n, ?_, hn, by rw [hattempt, hlast]⟩, ?_, ?_, h.not_unread hi hje,
      h.others hi hje hm'⟩
    · have hle : e.fields.attempt + 1 ≤ 3 := hattempt ▸ hallowed
      omega
    · intro e' he'
      rw [hgeneration]
      exact h.generation j e' he' e hmessages
    · exact h.drawnBefore j (List.ne_nil_of_mem hmessages)
  | requeued => exact hpre.elim

theorem messagesOf_add (hjobs : w'.redis.jobs = (w.redis.jobs.add message).2) (j : Uuid) :
    messagesOf w' j = messagesOf w j ++
      if message.jobId = some j then [⟨w.redis.jobs.lastId + 1, message⟩] else [] := by
  unfold messagesOf
  rw [hjobs, Stream.under_add]

/-- A message that may be added keeps what holds of the jobs. -/
theorem JobsOk.add (h : JobsOk w v) (hext : ∀ j, message.jobId = some j → Extends w v message j)
    (hjobs : w'.redis.jobs = (w.redis.jobs.add message).2) (hnext : w'.nextUuid = w.nextUuid) :
    JobsOk w' v := by
  have hnewest {e : StreamEntry JobMessage} (he : IsNewest w e)
      (hne : ∀ j, message.jobId = some j → e.fields.jobId ≠ some j) : IsNewest w' e := by
    intro j hj
    rw [hjobs]
    exact (he j hj).add fun hmessage => hne j hmessage hj
  refine ⟨hjobs ▸ h.sound.add message, fun j => ?_, fun j => ?_, fun j hj => ?_, fun e he => ?_,
    h.kind, fun i l e b hi => ?_, fun i l j hi => ?_, h.alone⟩
  · rw [messagesOf_add hjobs]
    by_cases hj : message.jobId = some j
    · obtain ⟨n, hn, hold, hattempt⟩ := (hext j hj).attempt
      refine ⟨n + 1, hn, ?_⟩
      rw [if_pos hj, List.map_append, hold, firstAttempts_succ, List.map_singleton, hattempt]
    · rw [if_neg hj, List.append_nil]
      exact h.attempts j
  · rw [messagesOf_add hjobs]
    by_cases hj : message.jobId = some j
    · rw [if_pos hj]
      have hall (e : StreamEntry JobMessage)
          (he : e ∈ messagesOf w j ++ [⟨w.redis.jobs.lastId + 1, message⟩]) :
          e.fields.generationId = message.generationId := by
        rcases List.mem_append.1 he with hold | hnew
        · exact (hext j hj).generation e hold
        · rw [List.mem_singleton.1 hnew]
      exact fun e he e' he' => (hall e he).trans (hall e' he').symm
    · rw [if_neg hj, List.append_nil]
      exact h.generation j
  · rw [hnext]
    by_cases hmessage : message.jobId = some j
    · exact (hext j hmessage).drawnBefore
    · refine h.drawnBefore j fun hnone => hj ?_
      rw [messagesOf_add hjobs, if_neg hmessage, hnone]
      rfl
  · rw [hjobs] at he
    rcases Stream.unread_of_add he with hold | rfl
    · exact hnewest (h.unread e hold) fun j hj => (hext j hj).unread e hold
    · intro j hj
      rw [hjobs]
      exact Stream.isLast_add h.sound.wf hj
  · obtain ⟨hmem, hunread, hn⟩ := h.running i l e b hi
    refine ⟨?_, fun he => ?_, hnewest hn fun j hj => (hext j hj).others i l _ hi⟩
    · rw [hjobs]
      exact List.mem_append_left _ hmem
    · rw [hjobs] at he
      rcases Stream.unread_of_add he with hold | rfl
      · exact hunread hold
      · exact Nat.not_succ_le_self _ (h.sound.wf.le_lastId _ hmem)
  · obtain ⟨hlt, hnone⟩ := h.drawn i l j hi
    have hother : message.jobId ≠ some j := fun hj => (hext j hj).others i l _ hi rfl
    rw [messagesOf_add hjobs, if_neg hother, hnone, hnext]
    exact ⟨hlt, rfl⟩

theorem SubmitsOk.add (h : SubmitsOk w v)
    (hopen : ∀ j, message.jobId = some j → j ∉ acceptedJobs w)
    (hjobs : w'.redis.jobs = (w.redis.jobs.add message).2)
    (haccepted : acceptedJobs w' = acceptedJobs w) (hnext : w'.nextUuid = w.nextUuid) :
    SubmitsOk w' v := by
  refine ⟨?_, haccepted ▸ h.nodup, fun e he j hj => ?_, ?_⟩
  · rw [hnext, haccepted]
    exact h.drawnBefore
  · rw [haccepted]
    rw [hjobs] at he
    rcases Stream.unread_of_add he with hold | rfl
    · exact h.unread e hold j hj
    · exact hopen j hj
  · rw [haccepted]
    exact h.unsubmitted

/-- A fresh id. -/
theorem JobsOk.draw (h : JobsOk w v) {drawn : Option Uuid} (hi : v i = some (l, .free drawn))
    (hkind : l'.kind = l.kind)
    (hjobs : w'.redis.jobs = w.redis.jobs) (hnext : w'.nextUuid = w.nextUuid + 1) :
    JobsOk w' (Function.update v i (some (l', .free (some ⟨w.nextUuid⟩)))) := by
  have hof (j : Uuid) : messagesOf w' j = messagesOf w j := by
    unfold messagesOf
    rw [hjobs]
  have hfresh : messagesOf w ⟨w.nextUuid⟩ = [] := by
    by_contra hne
    exact Nat.lt_irrefl _ (h.drawnBefore _ hne)
  have hbound : ∀ i l m j, v i = some (l, m) → m.job = some j → j.value < w.nextUuid := by
    intro i l m j hi hj
    cases m with
    | free drawn =>
      obtain rfl : drawn = some j := hj
      exact (h.drawn i l j hi).1
    | running e b =>
      obtain ⟨hmem, -, -⟩ := h.running i l e b hi
      exact h.drawnBefore j (List.ne_nil_of_mem (mem_messagesOf.2 ⟨hmem, hj⟩))
    | requeued => cases hj
  have hview : ∀ i' l₁ m₁, Function.update v i (some (l', .free (some ⟨w.nextUuid⟩))) i' =
      some (l₁, m₁) → i' = i ∧ l₁ = l' ∧ m₁ = .free (some ⟨w.nextUuid⟩) ∨ v i' = some (l₁, m₁) := by
    intro i' l₁ m₁ hi'
    by_cases hii : i' = i
    · subst hii
      rw [Function.update_self] at hi'
      obtain ⟨rfl, rfl⟩ := Prod.mk.inj (Option.some.inj hi')
      exact .inl ⟨rfl, rfl, rfl⟩
    · rw [Function.update_of_ne hii] at hi'
      exact .inr hi'
  have h' : JobsOk w' v := h.same (by rw [hjobs]; exact Stream.Keeps.refl _) (hjobs ▸ h.sound)
    (by omega)
  refine ⟨h'.sound, h'.attempts, h'.generation, h'.drawnBefore, h'.unread, fun i' l₁ m₁ hi' => ?_,
    fun i' l₁ e b hi' => ?_, fun i' l₁ j hi' => ?_, fun i₁ i₂ l₁ l₂ m₁ m₂ j h₁ h₂ hj₁ hj₂ => ?_⟩
  · rcases hview i' l₁ m₁ hi' with ⟨-, rfl, rfl⟩ | hold
    · exact fun message => hkind ▸ h.kind i l _ hi message
    · exact h.kind i' l₁ m₁ hold
  · rcases hview i' l₁ _ hi' with ⟨-, -, hm⟩ | hold
    · cases hm
    · exact h'.running i' l₁ e b hold
  · rcases hview i' l₁ _ hi' with ⟨-, -, hm⟩ | hold
    · obtain ⟨⟩ := hm
      rw [hof, hnext]
      exact ⟨Nat.lt_succ_self _, hfresh⟩
    · exact h'.drawn i' l₁ j hold
  · have hnew : ∀ i' l₁ m₁ j, v i' = some (l₁, m₁) → m₁.job = some j → j ≠ ⟨w.nextUuid⟩ := by
      rintro i' l₁ m₁ j hold hj rfl
      exact Nat.lt_irrefl _ (hbound i' l₁ m₁ _ hold hj)
    rcases hview i₁ l₁ m₁ h₁ with ⟨rfl, -, rfl⟩ | hold₁
    · rcases hview i₂ l₂ m₂ h₂ with ⟨rfl, -, -⟩ | hold₂
      · rfl
      · exact absurd (Option.some.inj hj₁).symm (hnew i₂ l₂ m₂ j hold₂ hj₂)
    · rcases hview i₂ l₂ m₂ h₂ with ⟨rfl, -, rfl⟩ | hold₂
      · exact absurd (Option.some.inj hj₂).symm (hnew i₁ l₁ m₁ j hold₁ hj₁)
      · exact h.alone i₁ i₂ l₁ l₂ m₁ m₂ j hold₁ hold₂ hj₁ hj₂

theorem SubmitsOk.draw (h : SubmitsOk w v)
    (hjobs : w'.redis.jobs = w.redis.jobs) (haccepted : acceptedJobs w' = acceptedJobs w)
    (hnext : w'.nextUuid = w.nextUuid + 1) :
    SubmitsOk w' (Function.update v i (some (l', .free (some ⟨w.nextUuid⟩)))) := by
  have h' : SubmitsOk w' v :=
    h.same (by rw [hjobs]; exact fun _ he => he) haccepted (by omega)
  refine ⟨h'.drawnBefore, h'.nodup, h'.unread, fun i' l₁ m₁ j hi' hj => ?_⟩
  by_cases hii : i' = i
  · subst hii
    rw [Function.update_self] at hi'
    obtain ⟨-, rfl⟩ := Prod.mk.inj (Option.some.inj hi')
    obtain rfl := Option.some.inj hj
    rw [haccepted]
    exact fun hmem => Nat.lt_irrefl _ (h.drawnBefore _ hmem)
  · rw [Function.update_of_ne hii] at hi'
    exact h'.unsubmitted i' l₁ m₁ j hi' hj

/-- The renderer accepts a job that it has not accepted before, of which no message is unread and
which no other task may submit. -/
theorem SubmitsOk.post (h : SubmitsOk w v) (hj : j.value < w.nextUuid) (hopen : j ∉ acceptedJobs w)
    (hunread : ∀ e ∈ w.redis.jobs.unread, e.fields.jobId ≠ some j)
    (hothers : ∀ i l m, v i = some (l, m) → m.unsubmitted ≠ some j)
    (hredis : w'.redis = w.redis) (hnext : w'.nextUuid = w.nextUuid)
    (haccepted : acceptedJobs w' = j :: acceptedJobs w) : SubmitsOk w' v := by
  refine ⟨?_, ?_, ?_, ?_⟩
  · rw [haccepted, hnext]
    exact List.forall_mem_cons.2 ⟨hj, h.drawnBefore⟩
  · rw [haccepted]
    exact List.nodup_cons.2 ⟨hopen, h.nodup⟩
  · rw [haccepted, hredis]
    intro e he j' hj' hmem
    rcases List.mem_cons.1 hmem with rfl | hold
    · exact hunread e he hj'
    · exact h.unread e he j' hj' hold
  · rw [haccepted]
    intro i l m j' hi hj' hmem
    rcases List.mem_cons.1 hmem with rfl | hold
    · exact hothers i l m hi hj'
    · exact h.unsubmitted i l m j' hi hj' hold

end Changes

/-! ## What a call does to the jobs -/

/-- A call that is not still draws an id, adds a message or submits a job. -/
theorem still_or (o : Operation) :
    StillCall o ∨ o = .newUuid ∨ (∃ message, o = .command (.xadd message)) ∨
      ∃ request, o = .postJob request := by
  cases o with
  | newUuid => exact .inr (.inl rfl)
  | postJob request => exact .inr (.inr (.inr ⟨request, rfl⟩))
  | command c =>
    cases c with
    | xadd message => exact .inr (.inr (.inl ⟨message, rfl⟩))
    | _ => exact .inl ⟨trivial, by rintro ⟨⟩⟩
  | _ => exact .inl ⟨trivial, by rintro ⟨⟩⟩

/-- A still call keeps the mode of its task. -/
theorem after_of_still {o : Operation} (ho : StillCall o) (m : JobMode) (r : o.Resp) :
    m.after o r = m := by
  cases m with
  | requeued => cases o <;> rfl
  | free drawn =>
    cases o with
    | newUuid => exact absurd rfl ho.2
    | postJob request => exact ho.1.elim
    | command c =>
      cases c with
      | xadd message => exact ho.1.elim
      | _ => rfl
    | _ => rfl
  | running e b =>
    cases o with
    | postJob request => exact ho.1.elim
    | command c =>
      cases c with
      | xadd message => exact ho.1.elim
      | _ => rfl
    | _ => rfl

/-- A still call leaves the entries, the renderer and the ids drawn. -/
theorem exec_of_still {w : World} (hw : w.redis.jobs.Sound) {o : Operation} (ho : StillCall o)
    (c : Choice) :
    Stream.Keeps w.redis.jobs (o.exec w c).2.redis.jobs ∧ (o.exec w c).2.redis.jobs.Sound ∧
      acceptedJobs (o.exec w c).2 = acceptedJobs w ∧ (o.exec w c).2.nextUuid = w.nextUuid := by
  have hrenderer : (o.exec w c).2.renderer = w.renderer := by
    obtain h | ⟨request, rfl, -⟩ := o.exec_renderer w c
    · exact h
    · exact ho.1.elim
  have hnext : (o.exec w c).2.nextUuid = w.nextUuid := by
    obtain h | ⟨rfl, -⟩ := o.exec_nextUuid w c
    · exact h
    · exact absurd rfl ho.2
  have haccepted : acceptedJobs (o.exec w c).2 = acceptedJobs w := by
    unfold acceptedJobs
    rw [hrenderer]
  suffices hjobs : Stream.Keeps w.redis.jobs (o.exec w c).2.redis.jobs ∧
      (o.exec w c).2.redis.jobs.Sound from ⟨hjobs.1, hjobs.2, haccepted, hnext⟩
  obtain h | ⟨cmd, rfl, h⟩ := o.exec_redis w c
  · rw [h]
    exact ⟨Stream.Keeps.refl _, hw⟩
  · rw [h]
    cases cmd with
    | xadd message => exact ho.1.elim
    | xgroupCreate =>
      simp only [Command.exec]
      split
      · next jobs hcreate => exact ⟨Stream.keeps_createGroup hw.wf hcreate, hw.createGroup hcreate⟩
      · exact ⟨Stream.Keeps.refl _, hw⟩
    | xack entryId => exact ⟨Stream.keeps_ack _ _, hw.mapGroup fun _ => rfl⟩
    | xclaim consumer entryId => exact ⟨Stream.keeps_claim _ _ _, hw.mapGroup fun _ => rfl⟩
    | xpending count =>
      simp only [Command.exec]
      split
      · exact ⟨Stream.Keeps.refl _, hw⟩
      · exact ⟨Stream.Keeps.refl _, hw⟩
    | _ => exact ⟨Stream.Keeps.refl _, hw⟩

/-- `XADD` takes effect or it does not. -/
theorem exec_xadd (w : World) (message : JobMessage) (c : Choice) :
    let w' := (Operation.exec w (.command (.xadd message)) c).2
    w' = w ∨ w'.redis.jobs = (w.redis.jobs.add message).2 ∧ w'.renderer = w.renderer ∧
      w'.nextUuid = w.nextUuid := by
  intro w'
  cases hfault : c.fault with
  | none =>
    refine .inr ⟨?_, ?_, ?_⟩
    all_goals simp only [w', Operation.exec, withFault, hfault, Command.exec]
  | failed text =>
    left
    simp only [w', Operation.exec, withFault, hfault]
  | lost text =>
    refine .inr ⟨?_, ?_, ?_⟩
    all_goals simp only [w', Operation.exec, withFault, hfault, Command.exec]

/-! ## The discipline of every task -/

/-- The step does not put back the message of a job that the renderer has accepted. -/
def SparesAccepted (s : (system A).State) (a : (system A).Action) : Prop :=
  (Pool.called s a).all fun lo => match lo.1.kind, lo.2 with
    | .worker _, .command (.xadd message) =>
      message.jobId.all fun j => decide (j ∉ acceptedJobs s.world)
    | _, _ => true

instance (s : (system A).State) (a : (system A).Action) : Decidable (SparesAccepted s a) :=
  inferInstanceAs (Decidable (_ = true))

/-- What holds in every state; with `spared`, no run puts back the message of an accepted job. -/
def JobsInv (spared : Prop) (w : World) (v : Nat → Option (Label × JobMode)) : Prop :=
  JobsOk w v ∧ (spared → SubmitsOk w v)

/-- The discipline. -/
def jobs (A : AppState) (spared : Prop) : Discipline (system A) JobMode where
  spec := jobsSpec
  inv := JobsInv spared

section Act

variable {spared : Prop} {w : World} {v : Nat → Option (Label × JobMode)} {i : Nat} {l : Label}
  {m : JobMode}

/-- What holds after a call of task `i`. -/
def JobsAfter (spared : Prop) (w : World) (v : Nat → Option (Label × JobMode)) (i : Nat) (l : Label)
    (m : JobMode) (o : Operation) (c : Choice) : Prop :=
  JobsInv spared (o.exec w c).2
    (Function.update v i (some (l.after o, m.after o (o.exec w c).1)))

/-- A still call does nothing to the jobs. -/
theorem jobs_act_still (hinv : JobsInv spared w v) (hi : v i = some (l, m)) {o : Operation}
    (ho : StillCall o) (c : Choice) : JobsAfter spared w v i l m o c := by
  obtain ⟨hjobs, hsubmits⟩ := hinv
  unfold JobsAfter
  rw [after_of_still ho]
  obtain ⟨hsame, hsound, haccepted, hnext⟩ := exec_of_still hjobs.sound ho c
  have hcomes : Comes v (Function.update v i (some (l.after o, m))) :=
    comes_update hi (kind_after l o) (.refl m)
  exact ⟨(hjobs.comes hcomes).same hsame hsound (Nat.le_of_eq hnext.symm), fun hspared =>
    ((hsubmits hspared).comes hcomes).same hsame.unread haccepted (Nat.le_of_eq hnext.symm)⟩

/-- An id is drawn. -/
theorem jobs_act_newUuid (hinv : JobsInv spared w v) (hi : v i = some (l, m))
    (hpre : jobsSpec.pre m .newUuid) (c : Choice) : JobsAfter spared w v i l m .newUuid c := by
  obtain ⟨hjobs, hsubmits⟩ := hinv
  have hkind := kind_after l .newUuid
  cases m with
  | free drawn => exact ⟨hjobs.draw hi hkind rfl rfl, fun hspared =>
      (hsubmits hspared).draw rfl rfl rfl⟩
  | running e b =>
    have hcomes := comes_update hi hkind (JobMode.Fades.refl (.running e b))
    exact ⟨(hjobs.comes hcomes).same (Stream.Keeps.refl _) hjobs.sound (Nat.le_succ _),
      fun hspared => ((hsubmits hspared).comes hcomes).same (fun _ he => he) rfl (Nat.le_succ _)⟩
  | requeued => exact hpre.elim

/-- A message is appended, or the command does nothing. -/
theorem jobs_act_xadd (hinv : JobsInv spared w v) (hi : v i = some (l, m)) {message : JobMessage}
    (hpre : jobsSpec.pre m (.command (.xadd message))) (c : Choice)
    (hspares : spared → ∀ e b, m = .running e b → ∀ j, message.jobId = some j →
      j ∉ acceptedJobs w) :
    JobsAfter spared w v i l m (.command (.xadd message)) c := by
  obtain ⟨hjobs, hsubmits⟩ := hinv
  have hfades : m.Fades (m.after (.command (.xadd message))
      (Operation.exec w (.command (.xadd message)) c).1) := by
    cases m with
    | free drawn => exact .free drawn
    | running e b => exact .requeued e b
    | requeued => exact .refl _
  have hdone : (m.after (.command (.xadd message))
      (Operation.exec w (.command (.xadd message)) c).1).job = none := by
    cases m <;> rfl
  have hcomes := comes_update hi (kind_after l (.command (.xadd message))) hfades
  unfold JobsAfter
  obtain hsame | ⟨hadd, hrenderer, hnext⟩ := exec_xadd w message c
  · rw [hsame]
    exact ⟨hjobs.comes hcomes, fun hspared => (hsubmits hspared).comes hcomes⟩
  · have hext (j : Uuid) (hj : message.jobId = some j) :
        m.job = some j ∧ Extends w (Function.update v i (some (l.after (.command (.xadd message)),
          m.after (.command (.xadd message))
            (Operation.exec w (.command (.xadd message)) c).1))) message j :=
      hjobs.extends hi hpre hj hdone
    have haccepted : acceptedJobs (Operation.exec w (.command (.xadd message)) c).2 =
        acceptedJobs w := by
      unfold acceptedJobs
      rw [hrenderer]
    refine ⟨(hjobs.comes hcomes).add (fun j hj => (hext j hj).2) hadd hnext, fun hspared =>
      ((hsubmits hspared).comes hcomes).add (fun j hj => ?_) hadd haccepted hnext⟩
    cases m with
    | free drawn => exact (hsubmits hspared).unsubmitted i l _ j hi (hext j hj).1
    | running e b => exact hspares hspared e b rfl j hj
    | requeued => exact hpre.elim

/-- The job that a task may submit. -/
theorem unsubmitted_of_postJob {request : RenderRequest}
    (hpre : jobsSpec.pre m (.postJob request)) : m.unsubmitted = some request.job.jobId := by
  cases m with
  | free drawn => exact hpre
  | running e b =>
    obtain ⟨rfl, hjob⟩ := hpre
    exact hjob
  | requeued => exact hpre.elim

/-- The id of a job that is submitted was drawn. -/
theorem drawnBefore_of_postJob (hjobs : JobsOk w v) (hi : v i = some (l, m))
    {request : RenderRequest} (hpre : jobsSpec.pre m (.postJob request)) :
    request.job.jobId.value < w.nextUuid := by
  have hjob := JobMode.job_of_unsubmitted (unsubmitted_of_postJob hpre)
  cases m with
  | free drawn =>
    obtain rfl : drawn = some request.job.jobId := hpre
    exact (hjobs.drawn i l _ hi).1
  | running e b =>
    obtain ⟨hmem, -, -⟩ := hjobs.running i l e b hi
    exact hjobs.drawnBefore _ (List.ne_nil_of_mem (mem_messagesOf.2 ⟨hmem, hjob⟩))
  | requeued => exact hpre.elim

/-- A job is submitted, and the renderer accepts it or not. -/
theorem jobs_act_postJob (hinv : JobsInv spared w v) (hi : v i = some (l, m))
    {request : RenderRequest} (hpre : jobsSpec.pre m (.postJob request)) (c : Choice) :
    JobsAfter spared w v i l m (.postJob request) c := by
  obtain ⟨hjobs, hsubmits⟩ := hinv
  have hfades : m.Fades (m.after (.postJob request) (Operation.exec w (.postJob request) c).1) := by
    cases m with
    | free drawn => exact .free drawn
    | running e b => exact .submitted e b
    | requeued => exact .refl _
  have hcomes := comes_update hi (kind_after l (.postJob request)) hfades
  have hjobs' := hjobs.comes hcomes
  refine ⟨hjobs'.same (Stream.Keeps.refl _) hjobs.sound (Nat.le_refl _), fun hspared => ?_⟩
  have hsubmits' := (hsubmits hspared).comes hcomes
  have hunsubmitted := unsubmitted_of_postJob hpre
  have hjob := JobMode.job_of_unsubmitted hunsubmitted
  by_cases haccepts : c.renderer.accepts
  · refine hsubmits'.post (j := request.job.jobId) (drawnBefore_of_postJob hjobs hi hpre)
      ((hsubmits hspared).unsubmitted i l m _ hi hunsubmitted) (hjobs.not_unread hi hjob)
      (fun i' l₁ m₁ hi' hj₁ => ?_) rfl rfl ?_
    · -- The task itself has submitted the job, and no other may hand it over.
      by_cases hii : i' = i
      · subst hii
        rw [Function.update_self] at hi'
        obtain ⟨-, rfl⟩ := Prod.mk.inj (Option.some.inj hi')
        cases m with
        | requeued => exact hpre.elim
        | _ => cases hj₁
      · rw [Function.update_of_ne hii] at hi'
        exact hii (hjobs.alone i' i l₁ l m₁ m _ hi' hi (JobMode.job_of_unsubmitted hj₁) hjob)
    · simp [acceptedJobs, Operation.exec, Renderer.submit, haccepts]
  · refine hsubmits'.same (fun _ he => he) ?_ (Nat.le_refl _)
    simp [acceptedJobs, Operation.exec, Renderer.submit, haccepts]

/-- A call keeps the discipline. -/
theorem jobs_act {o : Operation} (hinv : JobsInv spared w v) (hi : v i = some (l, m))
    (hpre : jobsSpec.pre m o) (c : Choice)
    (hspares : spared → ∀ e b, m = .running e b → ∀ message, o = .command (.xadd message) →
      ∀ j, message.jobId = some j → j ∉ acceptedJobs w) : JobsAfter spared w v i l m o c := by
  obtain hstill | rfl | ⟨message, rfl⟩ | ⟨request, rfl⟩ := still_or o
  · exact jobs_act_still hinv hi hstill c
  · exact jobs_act_newUuid hinv hi hpre c
  · exact jobs_act_xadd hinv hi hpre c fun hspared e b hm => hspares hspared e b hm message rfl
  · exact jobs_act_postJob hinv hi hpre c

end Act

/-- What an arrival does: a read delivers unread entries to new runs, unless its reply is lost, and
anything else leaves the jobs and starts requests. -/
theorem arrive_jobs {w w' : World} {arr : Arrival} {spawned : List (Label × Gateway Unit)}
    (h : arrive A w arr = some (w', spawned)) :
    (∃ consumer es jobs, ∃ seen : List (StreamEntry JobMessage),
      w.redis.jobs.readGroup consumer batchSize = some (es, jobs) ∧
      w' = { w with redis := { w.redis with jobs } } ∧ seen.Sublist es ∧
      spawned = seen.map (entryTask A)) ∨
    (w'.redis = w.redis ∧ w'.renderer.accepted = w.renderer.accepted ∧ w'.nextUuid = w.nextUuid ∧
      ∀ l p, (l, p) ∈ spawned → Spawned A l p ∧ ∀ message, l.kind ≠ .worker message) := by
  have hspawned (l : Label) (p : Gateway Unit) := spawned_of_arrive (l := l) (p := p) h
  cases arr with
  | readMessages consumer replyLost =>
    obtain ⟨r, hr, he⟩ := Option.map_eq_some_iff.1 h
    obtain ⟨rfl, rfl⟩ := Prod.mk.inj he
    cases replyLost with
    | true => exact .inl ⟨consumer, r.1, r.2, [], hr, rfl, List.nil_sublist _, rfl⟩
    | false => exact .inl ⟨consumer, r.1, r.2, r.1, hr, rfl, List.Sublist.refl _, rfl⟩
  | callback payload =>
    obtain ⟨renderer, hr, he⟩ := Option.map_eq_some_iff.1 h
    obtain ⟨rfl, rfl⟩ := Prod.mk.inj he
    unfold Renderer.report at hr
    dsimp only at hr
    split at hr
    · cases hr
      refine .inr ⟨rfl, rfl, rfl, fun l p hlp => ⟨hspawned l p hlp, ?_⟩⟩
      obtain ⟨rfl, -⟩ := Prod.mk.inj (List.mem_singleton.1 hlp)
      rintro message ⟨⟩
    · cases hr
  | duplicateCallback n =>
    obtain ⟨payload, _, he⟩ := Option.map_eq_some_iff.1 h
    obtain ⟨rfl, rfl⟩ := Prod.mk.inj he
    refine .inr ⟨rfl, rfl, rfl, fun l p hlp => ⟨hspawned l p hlp, ?_⟩⟩
    obtain ⟨rfl, -⟩ := Prod.mk.inj (List.mem_singleton.1 hlp)
    rintro message ⟨⟩
  | _ =>
    cases h
    refine .inr ⟨rfl, rfl, rfl, fun l p hlp => ⟨hspawned l p hlp, ?_⟩⟩
    obtain ⟨rfl, -⟩ := Prod.mk.inj (List.mem_singleton.1 hlp)
    rintro message ⟨⟩

/-- The tasks after a read. -/
def withRuns (next : Nat) (v : Nat → Option (Label × JobMode)) (es : List (StreamEntry JobMessage)) :
    Nat → Option (Label × JobMode) :=
  fun i => if i < next then v i
    else es[i - next]?.map fun e => ((entryTask A e).1, .running e false)

section Read

variable {w : World} {v : Nat → Option (Label × JobMode)} {next : Nat}
  {es seen : List (StreamEntry JobMessage)} {jobs : Stream JobMessage} {consumer : String}

/-- A task after a read was there before, or it is the run for an entry that was unread. -/
theorem withRuns_cases {i : Nat} {l : Label} {m : JobMode}
    (h : withRuns (A := A) next v es i = some (l, m)) :
    v i = some (l, m) ∨ ∃ e, next ≤ i ∧ es[i - next]? = some e ∧ l.kind = .worker e.fields ∧
      m = .running e false := by
  unfold withRuns at h
  split at h
  · exact .inl h
  · next hle =>
    obtain ⟨e, he, hlm⟩ := Option.map_eq_some_iff.1 h
    obtain ⟨rfl, rfl⟩ := Prod.mk.inj hlm
    exact .inr ⟨e, Nat.le_of_not_lt hle, he, rfl, rfl⟩

variable (hw : JobsOk w v) (hread : w.redis.jobs.readGroup consumer batchSize = some (es, jobs))
include hw hread

/-- The world after a read, before the runs start. -/
theorem JobsOk.read : JobsOk { w with redis := { w.redis with jobs } } v :=
  hw.same (Stream.keeps_read hw.sound.wf hread) (hw.sound.read hread) (Nat.le_refl _)

/-- The runs start. -/
theorem JobsOk.withRuns (hsub : seen.Sublist es) :
    JobsOk { w with redis := { w.redis with jobs } } (withRuns (A := A) next v seen) := by
  have h := hw.read hread
  have hes (e : StreamEntry JobMessage) (he : e ∈ seen) :=
    Stream.not_unread_of_read hw.sound.wf hread (hsub.subset he)
  have hkeeps := Stream.keeps_read hw.sound.wf hread
  have hnewest (e : StreamEntry JobMessage) (he : e ∈ seen) :
      IsNewest { w with redis := { w.redis with jobs } } e := by
    intro j hj
    obtain ⟨hmem, hkey, hle⟩ := hw.unread e (hes e he).1 j hj
    exact ⟨hkeeps.entries ▸ hmem, hkey, fun e' he' => hle e' (hkeeps.entries ▸ he')⟩
  refine ⟨h.sound, h.attempts, h.generation, h.drawnBefore, h.unread, fun i l m hi => ?_,
    fun i l e b hi => ?_, fun i l j hi => ?_, fun i i' l l' m m' j hi hi' hj hj' => ?_⟩
  · rcases withRuns_cases hi with hold | ⟨e, -, -, hkind, rfl⟩
    · exact h.kind i l m hold
    · exact hkind
  · rcases withRuns_cases hi with hold | ⟨e', -, he', -, hm⟩
    · exact h.running i l e b hold
    · obtain ⟨rfl, rfl⟩ := JobMode.running.inj hm
      have hmem := List.mem_of_getElem? he'
      exact ⟨hkeeps.entries ▸ Stream.unread_subset (hes e hmem).1, (hes e hmem).2,
        hnewest e hmem⟩
  · rcases withRuns_cases hi with hold | ⟨e', -, -, -, hm⟩
    · exact h.drawn i l j hold
    · cases hm
  · rcases withRuns_cases hi with hold | ⟨e, hle, he, -, rfl⟩
    · rcases withRuns_cases hi' with hold' | ⟨e', hle', he', -, rfl⟩
      · exact h.alone i i' l l' m m' j hold hold' hj hj'
      · exact absurd hj' (hw.not_unread hold hj e' (hes e' (List.mem_of_getElem? he')).1)
    · rcases withRuns_cases hi' with hold' | ⟨e', hle', he', -, rfl⟩
      · exact absurd hj (hw.not_unread hold' hj' e (hes e (List.mem_of_getElem? he)).1)
      · -- Two entries of one job that are both the newest are one entry, which is read once.
        have hmem := List.mem_of_getElem? he
        have hmem' := List.mem_of_getElem? he'
        have heq : e = e' := (hnewest e hmem j hj).eq h.sound.wf (hnewest e' hmem' j hj')
        subst heq
        have hindex : i - next = i' - next := by
          obtain ⟨hlt, -⟩ := List.getElem?_eq_some_iff.1 he
          exact (List.getElem?_inj hlt ((Stream.nodup_of_read hw.sound.wf hread).sublist hsub)).1
            (he.trans he'.symm)
        omega

omit hw in
theorem SubmitsOk.withRuns (hs : SubmitsOk w v) (hwf : w.redis.jobs.WF) (hsub : seen.Sublist es) :
    SubmitsOk { w with redis := { w.redis with jobs } } (withRuns (A := A) next v seen) := by
  refine ⟨hs.drawnBefore, hs.nodup, fun e he =>
    hs.unread e ((Stream.keeps_read hwf hread).unread e he), fun i l m j hi hj => ?_⟩
  rcases withRuns_cases hi with hold | ⟨e, -, he, -, rfl⟩
  · exact hs.unsubmitted i l m j hold hj
  · have hmem := hsub.subset (List.mem_of_getElem? he)
    exact hs.unread e (Stream.not_unread_of_read hwf hread hmem).1 j hj

end Read

/-- The mode of each run that a read starts. -/
def runModes (es : List (StreamEntry JobMessage)) (n : Nat) : JobMode :=
  (es[n]?.map fun e => JobMode.running e false).getD (.free none)

theorem runModes_of_getElem {es : List (StreamEntry JobMessage)} {n : Nat} {l : Label}
    {p : Gateway Unit} (h : (es.map (entryTask A))[n]? = some (l, p)) :
    ∃ e, p = (entryTask A e).2 ∧ runModes es n = .running e false := by
  rw [List.getElem?_map] at h
  obtain ⟨e, he, hlp⟩ := Option.map_eq_some_iff.1 h
  refine ⟨e, (Prod.mk.inj hlp).2.symm, ?_⟩
  unfold runModes
  rw [he]
  rfl

theorem withRuns_eq (next : Nat) (v : Nat → Option (Label × JobMode))
    (es : List (StreamEntry JobMessage)) :
    (fun j => if j < next then v j
      else (es.map (entryTask A))[j - next]?.map fun lp => (lp.1, runModes es (j - next))) =
      withRuns (A := A) next v es := by
  funext j
  unfold withRuns runModes
  split
  · rfl
  · rw [List.getElem?_map]
    cases es[j - next]? with
    | none => rfl
    | some e => rfl

/-- Requests that start. -/
theorem comes_requests (next : Nat) (v : Nat → Option (Label × JobMode))
    {spawned : List (Label × Gateway Unit)}
    (h : ∀ l p, (l, p) ∈ spawned → ∀ message, l.kind ≠ .worker message) :
    Comes v fun j => if j < next then v j
      else spawned[j - next]?.map fun lp => (lp.1, JobMode.free none) := by
  intro i l m hi
  dsimp only at hi
  split at hi
  · exact .inl ⟨l, m, hi, rfl, .refl m⟩
  · obtain ⟨lp, hlp, he⟩ := Option.map_eq_some_iff.1 hi
    obtain ⟨rfl, rfl⟩ := Prod.mk.inj he
    exact .inr ⟨rfl, h lp.1 lp.2 (List.mem_of_getElem? hlp)⟩

/-- A task of a view. -/
theorem view_eq {s : (system A).State} {f : Nat → JobMode} {i : Nat} {t : Task (system A)}
    (h : s.tasks i = some t) : Discipline.view s f i = some (t.label, f i) := by
  unfold Discipline.view
  rw [h]
  rfl

/-- Every step keeps the discipline. -/
theorem jobs_kept {spared : Prop} {ok : (system A).State → (system A).Action → Prop}
    (hok : spared → ∀ s a, ok s a → SparesAccepted s a) : (jobs A spared).Kept ok where
  mono w v v' hv hinv := by
    have hcomes : Comes v v' := by
      intro i l m hi
      rcases hv i with hnone | hsame
      · rw [hnone] at hi
        cases hi
      · exact .inl ⟨l, m, hsame ▸ hi, rfl, .refl m⟩
    exact ⟨hinv.1.comes hcomes, fun h => (hinv.2 h).comes hcomes⟩
  act s f i c l o k hstep hti hinv hpre := by
    have hi : Discipline.view s f i = some (l, f i) := view_eq hti
    refine ⟨(f i).after o (o.exec s.world c).1, rfl, jobs_act hinv hi hpre c ?_⟩
    rintro hspared e b hm message rfl j hj
    have hspares := hok hspared s _ hstep
    have hkind : l.kind = .worker e.fields := by
      have hkind := hinv.1.kind i l (f i) hi
      rw [hm] at hkind
      exact hkind
    simpa [SparesAccepted, Pool.called_act hti, hkind, hj] using hspares
  arrive s f arr w spawned _ harr hinv := by
    obtain ⟨consumer, es, stream, seen, hread, rfl, hsub, rfl⟩ | ⟨hredis, haccepted, hnext, hspawned⟩ :=
      arrive_jobs harr
    · refine ⟨runModes seen, fun j l p hj => ?_, ?_⟩
      · obtain ⟨e, rfl, hmode⟩ := runModes_of_getElem hj
        rw [hmode]
        exact follows_entry
      · have heq := withRuns_eq (A := A) s.next (Discipline.view s f) seen
        change JobsInv spared _ (fun j => if j < s.next then Discipline.view s f j
          else (seen.map (entryTask A))[j - s.next]?.map fun lp =>
            (lp.1, runModes seen (j - s.next)))
        rw [heq]
        exact ⟨hinv.1.withRuns hread hsub, fun h =>
          (hinv.2 h).withRuns hread hinv.1.sound.wf hsub⟩
    · refine ⟨fun _ => .free none, fun j l p hj => ?_, ?_⟩
      · obtain ⟨hspawned, hkind⟩ := hspawned l p (List.mem_of_getElem? hj)
        exact follows_request hspawned hkind
      · have hcomes := comes_requests s.next (Discipline.view s f) fun l p h => (hspawned l p h).2
        have hkeeps : Stream.Keeps s.world.redis.jobs w.redis.jobs := by
          rw [hredis]
          exact Stream.Keeps.refl _
        have haccepted : acceptedJobs w = acceptedJobs s.world := by
          unfold acceptedJobs
          rw [haccepted]
        exact ⟨(hinv.1.comes hcomes).same hkeeps (hredis ▸ hinv.1.sound) (Nat.le_of_eq hnext.symm),
          fun h => ((hinv.2 h).comes hcomes).same hkeeps.unread haccepted
            (Nat.le_of_eq hnext.symm)⟩

/-! ## A job that is submitted again -/

/-- The renderer accepts the job of the first run, which then cannot mark its row and puts its
message back; the message is read again. -/
def putBack : List ((system sampleGateway).Action) :=
  requestRead ++ calls 2 28 ++ [.act 2 { fine with fault := .failed "connection refused" }] ++
    calls 2 5 ++ [.arrive (.readMessages "worker-1" false)]

/-! ## The results -/

theorem jobsOk_initial {w : World} (hw : Initial w) : JobsOk w fun _ => none := by
  have hnone (j : Uuid) : messagesOf w j = [] := by
    unfold messagesOf
    rw [hw.redis]
    rfl
  refine ⟨?_, fun j => ⟨0, by omega, by rw [hnone]; rfl⟩, fun j e he => ?_, fun j hj =>
    absurd (hnone j) hj, fun e he => ?_, fun _ _ _ hi => (by cases hi), fun _ _ _ _ hi =>
      (by cases hi), fun _ _ _ hi => (by cases hi), fun _ _ _ _ _ _ _ hi => (by cases hi)⟩
  · rw [hw.redis]
    exact Stream.sound_empty
  · rw [hnone] at he
    cases he
  · rw [hw.redis] at he
    cases he

theorem submitsOk_initial {w : World} (hw : Initial w) : SubmitsOk w fun _ => none := by
  have hnone : acceptedJobs w = [] := by
    unfold acceptedJobs
    rw [hw.renderer]
    rfl
  refine ⟨?_, ?_, fun e he => ?_, fun _ _ _ _ hi => by cases hi⟩
  · rw [hnone]
    exact fun _ hj => by cases hj
  · rw [hnone]
    exact List.nodup_nil
  · rw [hw.redis] at he
    cases he

/-- The discipline holds in every state reached. -/
theorem jobs_holds (spared : Prop) {ok : (system A).State → (system A).Action → Prop}
    (hok : spared → ∀ s a, ok s a → SparesAccepted s a) {s : (system A).State}
    (hs : Reachable A ok s) : (jobs A spared).Holds s := by
  obtain ⟨w, hw, h⟩ := hs
  exact Discipline.holds_of_reach (jobs_kept hok) h
    (Discipline.holds_start ⟨jobsOk_initial hw, fun _ => submitsOk_initial hw⟩)

/-- A run that is under way. -/
theorem running_of_worker {spared : Prop} {s : (system A).State} {f : Nat → JobMode}
    (hinv : JobsInv spared s.world (Discipline.view s f))
    (hfollows : ∀ i t, s.tasks i = some t → (jobs A spared).Follows t.prog (f i)) {i : Nat}
    {l : Label} {o : Operation} {k : o.Resp → Gateway Unit} {message : JobMessage}
    (hti : s.tasks i = some ⟨l, .op o k⟩) (hkind : l.kind = .worker message) :
    ∃ e b, f i = .running e b ∧ e.fields = message := by
  have hk := hinv.1.kind i l (f i) (view_eq hti)
  have hprog := hfollows i _ hti
  cases hm : f i with
  | free drawn =>
    rw [hm] at hk
    exact absurd hkind (hk message)
  | running e b =>
    rw [hm] at hk
    exact ⟨e, b, rfl, (Kind.worker.inj (hkind.symm.trans hk)).symm⟩
  | requeued =>
    -- A run that has put its message back has ended.
    rw [hm] at hprog
    exact hprog.1.elim

/-- Whatever fails and in whatever order the calls come, the messages of a job in the stream are its
attempts from 1 on, at most three, all for one generation, and at most one run for the job is under
way. -/
theorem runs_of_job {ok : (system A).State → (system A).Action → Prop} {s : (system A).State}
    (hs : Reachable A ok s) (j : Uuid) :
    (∃ n ≤ 3, (messagesOf s.world j).map (fun e => e.fields.attempt) = firstAttempts n) ∧
    (∀ e ∈ messagesOf s.world j, ∀ e' ∈ messagesOf s.world j,
      e.fields.generationId = e'.fields.generationId) ∧
    ∀ i i' t t' message message', s.tasks i = some t → s.tasks i' = some t' →
      t.label.kind = .worker message → t'.label.kind = .worker message' →
      message.jobId = some j → message'.jobId = some j → i = i' := by
  obtain ⟨f, hinv, hfollows⟩ := jobs_holds False (fun h => h.elim) hs
  have hjobs := hinv.1
  have hrun : ∀ i t message, s.tasks i = some t → t.label.kind = .worker message →
      message.jobId = some j → (f i).job = some j := by
    intro i t message ht hkind hj
    obtain ⟨w, -, hreach⟩ := hs
    obtain ⟨o, k, hop⟩ := Pool.prog_eq_op hreach i t ht
    obtain ⟨l, p⟩ := t
    obtain rfl : p = .op o k := hop
    obtain ⟨e, b, hmode, rfl⟩ := running_of_worker hinv hfollows ht hkind
    rw [hmode]
    exact hj
  refine ⟨hjobs.attempts j, hjobs.generation j, fun i i' t t' message message' ht ht' hkind hkind'
    hj hj' => ?_⟩
  exact hjobs.alone i i' t.label t'.label (f i) (f i') j (view_eq ht)
    (view_eq ht') (hrun i t message ht hkind hj)
    (hrun i' t' message' ht' hkind' hj')

/-- The two messages of a job that is put back. -/
theorem runs_of_job_sample : ∃ s : (system sampleGateway).State,
    (messagesOf s.world ⟨1⟩).length = 2 ∧
      ∃ n ≤ 3, (messagesOf s.world ⟨1⟩).map (fun e => e.fields.attempt) = firstAttempts n := by
  have hplay : ((Pool.play (fun _ _ => True) ((system sampleGateway).start sampleWorld)
      putBack).map fun s => (messagesOf s.world ⟨1⟩).length) = some 2 := by decide +kernel
  obtain ⟨s, hs, hlength⟩ := Pool.exists_of_play hplay
  exact ⟨s, hlength, (runs_of_job ⟨_, initial_sampleWorld, hs⟩ ⟨1⟩).1⟩

/-- In a run in which no message of an accepted job is put back, the renderer accepts no job twice,
and no task is about to submit a job that it has accepted. -/
theorem submitted_once {s : (system A).State} (hs : Reachable A SparesAccepted s) :
    (acceptedJobs s.world).Nodup ∧
    ∀ i l request k, s.tasks i = some ⟨l, .op (.postJob request) k⟩ →
      request.job.jobId ∉ acceptedJobs s.world := by
  obtain ⟨f, hinv, hfollows⟩ := jobs_holds True (fun _ _ _ h => h) hs
  have hsubmits := hinv.2 trivial
  refine ⟨hsubmits.nodup, fun i l request k hti => ?_⟩
  exact hsubmits.unsubmitted i l (f i) _ (view_eq hti)
    (unsubmitted_of_postJob (hfollows i _ hti).1)

/-- The renderer has accepted the job of a request, once. -/
theorem submitted_once_sample : ∃ s : (system sampleGateway).State,
    acceptedJobs s.world = [⟨1⟩] ∧ (acceptedJobs s.world).Nodup := by
  have hplay : ((Pool.play SparesAccepted ((system sampleGateway).start sampleWorld)
      (requestRead ++ calls 2 33)).map fun s => acceptedJobs s.world) = some [⟨1⟩] := by
    decide +kernel
  obtain ⟨s, hs, haccepted⟩ := Pool.exists_of_play hplay
  exact ⟨s, haccepted, (submitted_once ⟨_, initial_sampleWorld, hs⟩).1⟩

/-- Where the message of an accepted job is put back, the renderer accepts the job twice. -/
theorem submitted_twice : ∃ s : (system sampleGateway).State,
    Reachable sampleGateway (fun _ _ => True) s ∧ acceptedJobs s.world = [⟨1⟩, ⟨1⟩] := by
  have hplay : ((Pool.play (fun _ _ => True) ((system sampleGateway).start sampleWorld)
      (putBack ++ calls 3 23)).map fun s => acceptedJobs s.world) = some [⟨1⟩, ⟨1⟩] := by
    decide +kernel
  obtain ⟨s, hs, haccepted⟩ := Pool.exists_of_play hplay
  exact ⟨s, ⟨_, initial_sampleWorld, hs⟩, haccepted⟩

end KlassGateway
