import KlassGateway.Queue.DeadLetterRetry
/-!
# Whether a retry moves its dead letters

`retry_from_dlq` deletes the entries of a generation one by one, drops the
replies, and adds the message to the job stream last.  Each call may fail, with
or without its effect.

* `result_of_unread`, `result_of_letters`: how a retry ends, by the calls that
  fail.
* `movesLetters_iff`: when it loses nothing and leaves nothing behind.
-/

namespace KlassGateway.Queue

open Lib Lib.Prog

variable {g : Uuid} {r : Redis} {env : Nat → Choice}

/-! ## What a retry should do -/

/-- The dead letters of a generation. -/
def lettersOf (g : Uuid) (r : Redis) : List (StreamEntry DeadLetter) :=
  r.dlq.entries.filter fun e => e.fields.generationId = g

/-- The result of a retry whose call `n` is answered with `env n`. -/
def retryResult (g : Uuid) (env : Nat → Choice) (r : Redis) : Option (Except String Bool) :=
  ((retryFromDlq g).run.run retryMachine env r).result

/-- What it leaves. -/
def retryWorld (g : Uuid) (env : Nat → Choice) (r : Redis) : Redis :=
  ((retryFromDlq g).run.run retryMachine env r).world

/-- A retry that fails keeps a dead letter, and one that succeeds has turned
them all into one message. -/
structure MovesLetters (g : Uuid) (env : Nat → Choice) (r : Redis) : Prop where
  kept : ∀ e, retryResult g env r = some (.error e) → lettersOf g r ≠ [] →
    lettersOf g (retryWorld g env r) ≠ []
  moved : retryResult g env r = some (.ok true) →
    lettersOf g (retryWorld g env r) = [] ∧
      ∃ id now, (retryWorld g env r).jobs.entries =
        r.jobs.entries ++ [⟨id, retryMessage g now⟩]

theorem lettersOf_congr {r r' : Redis} (h : r.dlq = r'.dlq) : lettersOf g r = lettersOf g r' := by
  rw [lettersOf, h]
  rfl

/-! ## The deletions -/

/-- The call has its effect. -/
def TakesEffect (c : Choice) : Prop := ∀ message, c.fault ≠ .failed message

/-- The stream after the deletions, of which some have no effect. -/
def afterDeletes (env : Nat → Choice) : List Nat → Stream DeadLetter → Stream DeadLetter
  | [], dlq => dlq
  | id :: ids, dlq =>
    afterDeletes (fun n => env (n + 1)) ids
      (match (env 0).fault with
      | .failed _ => dlq
      | _ => dlq.delete id)

theorem mem_afterDeletes {ids : List Nat} {dlq : Stream DeadLetter} {e : StreamEntry DeadLetter} :
    e ∈ (afterDeletes env ids dlq).entries ↔
      e ∈ dlq.entries ∧ ∀ i : Nat, ids[i]? = some e.id → ¬ TakesEffect (env i) := by
  induction ids generalizing env dlq with
  | nil => simp [afterDeletes]
  | cons id ids ih =>
    rw [afterDeletes, ih]
    have hsplit : (∀ i : Nat, (id :: ids)[i]? = some e.id → ¬ TakesEffect (env i)) ↔
        (e.id = id → ¬ TakesEffect (env 0)) ∧
          ∀ i : Nat, ids[i]? = some e.id → ¬ TakesEffect (env (i + 1)) := by
      constructor
      · intro h
        exact ⟨fun hid => h 0 (by simp [hid]), fun i hi => h (i + 1) (by simpa using hi)⟩
      · rintro ⟨hfirst, hrest⟩ i hi
        cases i with
        | zero => exact hfirst (Option.some.inj hi).symm
        | succ i => exact hrest i (by simpa using hi)
    rw [hsplit, ← and_assoc]
    refine and_congr_left fun _ => ?_
    cases hfault : (env 0).fault with
    | failed message =>
      have hnone : ¬ TakesEffect (env 0) := fun h => h message hfault
      simp [hnone]
    | none =>
      have heffect : TakesEffect (env 0) := fun message h => by rw [hfault] at h; cases h
      simp [heffect, Stream.delete]
    | lost message =>
      have heffect : TakesEffect (env 0) := fun message h => by rw [hfault] at h; cases h
      simp [heffect, Stream.delete]

/-- The deletions end, whatever their replies. -/
theorem ends_deleteAll (ids : List Nat) (env : Nat → Choice) (r : Redis) :
    Ends retryMachine (deleteAll ids) env r ids.length ()
      { r with dlq := afterDeletes env ids r.dlq } := by
  induction ids generalizing env r with
  | nil => exact ends_ret _ _ _
  | cons id ids ih =>
    have hworld : (RetryOperation.exec r (.xdelDlq id) (env 0)).2 =
        { r with dlq := match (env 0).fault with
          | .failed _ => r.dlq
          | _ => r.dlq.delete id } := by
      simp only [RetryOperation.exec, withFault]
      cases (env 0).fault <;> rfl
    have hrest := ih (fun n => env (n + 1)) (RetryOperation.exec r (.xdelDlq id) (env 0)).2
    have hboth := (ends_perform (M := retryMachine) (.xdelDlq id) env r).bind
      (f := fun _ => deleteAll ids) hrest
    rw [hworld, Nat.add_comm] at hboth
    exact hboth

/-! ## How a retry ends -/

/-- A command that succeeds. -/
theorem ends_command (env : Nat → Choice) (r : Redis) (cmd : Command) (h : (env 0).fault = .none) :
    Ends retryMachine (retryCommand cmd).run env r 1 (cmd.exec r).1 (cmd.exec r).2 := by
  have hends := ends_perform (M := retryMachine) (.command cmd) env r
  have hexec : RetryOperation.exec r (.command cmd) (env 0) = cmd.exec r := by
    simp only [RetryOperation.exec, withFault, h]
    rfl
  exact ⟨hends.length, hends.result.trans (congrArg (fun p => some p.1) hexec),
    hends.world.trans (congrArg Prod.snd hexec)⟩

/-- A command that fails; it may have had its effect. -/
theorem ends_command_error (env : Nat → Choice) (r : Redis) (cmd : Command) (hdlq : (cmd.exec r).2.dlq = r.dlq)
    (h : (env 0).fault ≠ .none) :
    ∃ e w, Ends retryMachine (retryCommand cmd).run env r 1 (.error e) w ∧ w.dlq = r.dlq := by
  have hends := ends_perform (M := retryMachine) (.command cmd) env r
  cases hfault : (env 0).fault with
  | none => exact absurd hfault h
  | failed m =>
    have hexec : RetryOperation.exec r (.command cmd) (env 0) = (.error m, r) := by
      simp only [RetryOperation.exec, withFault, hfault, id]
      rfl
    exact ⟨m, r, ⟨hends.length, hends.result.trans (congrArg (fun p => some p.1) hexec),
      hends.world.trans (congrArg Prod.snd hexec)⟩, rfl⟩
  | lost m =>
    have hexec : RetryOperation.exec r (.command cmd) (env 0) = (.error m, (cmd.exec r).2) := by
      simp only [RetryOperation.exec, withFault, hfault, id]
      rfl
    exact ⟨m, _, ⟨hends.length, hends.result.trans (congrArg (fun p => some p.1) hexec),
      hends.world.trans (congrArg Prod.snd hexec)⟩, hdlq⟩

/-- `XRANGE` answers the entries, or an error. -/
theorem ends_xrangeDlq (env : Nat → Choice) (r : Redis) :
    ((env 0).fault = .none ∧ Ends retryMachine xrangeDlq.run env r 1 (.ok r.dlq.entries) r) ∨
      (env 0).fault ≠ .none ∧ ∃ e, Ends retryMachine xrangeDlq.run env r 1 (.error e) r := by
  have hends := ends_perform (M := retryMachine) .xrangeDlq env r
  cases hfault : (env 0).fault with
  | none =>
    have hexec : RetryOperation.exec r .xrangeDlq (env 0) = (.ok r.dlq.entries, r) := by
      simp only [RetryOperation.exec, withFault, hfault]
      rfl
    exact .inl ⟨rfl, hends.length, hends.result.trans (congrArg (fun p => some p.1) hexec),
      hends.world.trans (congrArg Prod.snd hexec)⟩
  | failed m =>
    have hexec : RetryOperation.exec r .xrangeDlq (env 0) = (.error m, r) := by
      simp only [RetryOperation.exec, withFault, hfault, id]
      rfl
    exact .inr ⟨Fault.noConfusion, m, hends.length,
      hends.result.trans (congrArg (fun p => some p.1) hexec),
      hends.world.trans (congrArg Prod.snd hexec)⟩
  | lost m =>
    have hexec : RetryOperation.exec r .xrangeDlq (env 0) = (.error m, r) := by
      simp only [RetryOperation.exec, withFault, hfault, id]
      rfl
    exact .inr ⟨Fault.noConfusion, m, hends.length,
      hends.result.trans (congrArg (fun p => some p.1) hexec),
      hends.world.trans (congrArg Prod.snd hexec)⟩

/-- The connection and the read of the stream succeed. -/
def Reads (env : Nat → Choice) : Prop := (env 0).fault = .none ∧ (env 1).fault = .none

/-- Without them the first part of a retry ends with an error. -/
theorem deleteDlqEntry_of_unread (h : ¬ Reads env) :
    ∃ n e w, Ends retryMachine (deleteDlqEntry g).run env r n (.error e) w ∧ w.dlq = r.dlq := by
  by_cases hconnect : (env 0).fault = .none
  · have hends := ends_command env r .connect hconnect
    rcases ends_xrangeDlq (fun n => env (n + 1)) r with ⟨hfault, _⟩ | ⟨_, e, hread⟩
    · exact absurd ⟨hconnect, hfault⟩ h
    · exact ⟨_, e, r, hends.bind_ok hread.bind_error, rfl⟩
  · obtain ⟨e, w, hends, hw⟩ := ends_command_error env r .connect rfl hconnect
    exact ⟨1, e, w, hends.bind_error, hw⟩

/-- What the deletions of a retry leave. -/
def deleted (g : Uuid) (env : Nat → Choice) (r : Redis) : Redis :=
  let ids := (lettersOf g r).map StreamEntry.id
  { r with dlq := afterDeletes (fun n => env (n + 2)) ids r.dlq }

/-- Without a letter it deletes nothing. -/
theorem deleteDlqEntry_of_empty (h : Reads env) (hnone : lettersOf g r = []) :
    ∃ n, Ends retryMachine (deleteDlqEntry g).run env r n (.ok false) r := by
  have hconnect := ends_command env r .connect h.1
  rcases ends_xrangeDlq (fun n => env (n + 1)) r with ⟨_, hread⟩ | ⟨hfault, _⟩
  · refine ⟨_, hconnect.bind_ok (hread.bind_ok (m := 0) ?_)⟩
    have hempty : ((lettersOf g r).map StreamEntry.id).isEmpty = true := by simp [hnone]
    show Ends retryMachine (ExceptT.run
      (if ((lettersOf g r).map StreamEntry.id).isEmpty then _ else _)) _ _ _ _ _
    rw [if_pos hempty]
    exact ends_ret _ _ _
  · exact absurd h.2 hfault

/-- With letters it deletes them. -/
theorem deleteDlqEntry_of_letters (h : Reads env) (hsome : lettersOf g r ≠ []) :
    Ends retryMachine (deleteDlqEntry g).run env r (1 + (1 + (lettersOf g r).length)) (.ok true)
      (deleted g env r) := by
  have hconnect := ends_command env r .connect h.1
  rcases ends_xrangeDlq (fun n => env (n + 1)) r with ⟨_, hread⟩ | ⟨hfault, _⟩
  · refine hconnect.bind_ok (hread.bind_ok ?_)
    have hids : ¬ ((lettersOf g r).map StreamEntry.id).isEmpty = true := by simp [hsome]
    have hdelete := ends_deleteAll ((lettersOf g r).map StreamEntry.id) (fun n => env (n + 2)) r
    rw [List.length_map] at hdelete
    show Ends retryMachine (ExceptT.run
      (if ((lettersOf g r).map StreamEntry.id).isEmpty then _ else _)) _ _ _ _ _
    rw [if_neg hids]
    exact Ends.bind_ok (m := 0) hdelete.liftM (ends_ret _ _ _)
  · exact absurd h.2 hfault

/-- After `k` deletions the connection and the `XADD` succeed; the call between
them reads the clock. -/
def Readds (env : Nat → Choice) (k : Nat) : Prop :=
  (env (k + 2)).fault = .none ∧ (env (k + 4)).fault = .none

/-- A retry without the connection or the read changes no dead letter. -/
theorem retry_of_unread (h : ¬ Reads env) :
    (∃ e, retryResult g env r = some (.error e)) ∧
      (retryWorld g env r).dlq = r.dlq := by
  obtain ⟨n, e, w, hdelete, hw⟩ := deleteDlqEntry_of_unread (g := g) (r := r) h
  have hends : Ends retryMachine (retryFromDlq g).run env r n (.error e) w := hdelete.bind_error
  exact ⟨⟨e, hends.result⟩, (congrArg Redis.dlq hends.world).trans hw⟩

theorem retry_of_empty (h : Reads env) (hnone : lettersOf g r = []) :
    retryResult g env r = some (.ok false) := by
  obtain ⟨n, hdelete⟩ := deleteDlqEntry_of_empty h hnone
  have hends : Ends retryMachine (retryFromDlq g).run env r (n + 0) (.ok false) r :=
    hdelete.bind_ok (ends_ret _ _ _)
  exact hends.result

/-- A retry that finds letters deletes them; it succeeds if the message can be
added. -/
theorem retry_of_letters (h : Reads env) (hsome : lettersOf g r ≠ []) :
    (retryWorld g env r).dlq = (deleted g env r).dlq ∧
      (Readds env (lettersOf g r).length ∧ retryResult g env r = some (.ok true) ∧
          (∃ id now, (retryWorld g env r).jobs.entries =
            r.jobs.entries ++ [⟨id, retryMessage g now⟩]) ∨
        ¬ Readds env (lettersOf g r).length ∧ ∃ e, retryResult g env r = some (.error e)) := by
  have hdelete := deleteDlqEntry_of_letters h hsome
  have hcount (i : Nat) : i + (1 + (1 + (lettersOf g r).length)) = (lettersOf g r).length + (i + 2) := by
    omega
  by_cases hconnect : (env ((lettersOf g r).length + 2)).fault = .none
  · have hconnected : Ends retryMachine (retryCommand .connect).run
        (fun i => env (i + (1 + (1 + (lettersOf g r).length)))) (deleted g env r) 1 (.ok ())
        (deleted g env r) := by
      apply ends_command _ (deleted g env r) .connect
      rw [hcount]
      exact hconnect
    have hclock := (ends_perform (M := retryMachine) .now
      (fun i => env (i + 1 + (1 + (1 + (lettersOf g r).length)))) (deleted g env r)).liftM
        (ε := String)
    by_cases hadd : (env ((lettersOf g r).length + 4)).fault = .none
    · have hadded := ends_command
        (fun i => env (i + 1 + 1 + (1 + (1 + (lettersOf g r).length)))) (deleted g env r)
        (.xadd (retryMessage g (env (0 + 1 + (1 + (1 + (lettersOf g r).length)))).clock))
        (by rw [hcount]; exact hadd)
      have hends : Ends retryMachine (retryFromDlq g).run env r _ (.ok true) _ :=
        hdelete.bind_ok (hconnected.bind_ok (hclock.bind_ok (hadded.bind_ok (m := 0)
          (ends_ret _ _ _))))
      exact ⟨(congrArg Redis.dlq hends.world).trans rfl, .inl ⟨⟨hconnect, hadd⟩, hends.result, _, _,
        congrArg (fun w : Redis => w.jobs.entries) hends.world⟩⟩
    · obtain ⟨e, w, hfailed, hw⟩ := ends_command_error
        (fun i => env (i + 1 + 1 + (1 + (1 + (lettersOf g r).length)))) (deleted g env r)
        (.xadd (retryMessage g (env (0 + 1 + (1 + (1 + (lettersOf g r).length)))).clock)) rfl
        (by rw [hcount]; exact hadd)
      have hends : Ends retryMachine (retryFromDlq g).run env r _ (.error e) w :=
        hdelete.bind_ok (hconnected.bind_ok (hclock.bind_ok hfailed.bind_error))
      exact ⟨(congrArg Redis.dlq hends.world).trans hw, .inr ⟨fun hadds => hadd hadds.2,
        e, hends.result⟩⟩
  · obtain ⟨e, w, hfailed, hw⟩ := ends_command_error
      (fun i => env (i + (1 + (1 + (lettersOf g r).length)))) (deleted g env r) .connect rfl
      (by rw [hcount]; exact hconnect)
    have hends : Ends retryMachine (retryFromDlq g).run env r _ (.error e) w :=
      hdelete.bind_ok hfailed.bind_error
    exact ⟨(congrArg Redis.dlq hends.world).trans hw, .inr ⟨fun hadds => hconnect hadds.1,
      e, hends.result⟩⟩

/-! ## The guarantee -/

/-- For every letter of the generation an `XDEL` has its effect. -/
def DeletesAll (g : Uuid) (env : Nat → Choice) (r : Redis) : Prop :=
  ∀ e ∈ lettersOf g r, ∃ i : Nat, ((lettersOf g r).map StreamEntry.id)[i]? = some e.id ∧
    TakesEffect (env (i + 2))

theorem mem_lettersOf_deleted {e : StreamEntry DeadLetter} :
    e ∈ lettersOf g (deleted g env r) ↔ e ∈ lettersOf g r ∧
      ∀ i : Nat, ((lettersOf g r).map StreamEntry.id)[i]? = some e.id → ¬ TakesEffect (env (i + 2)) := by
  have hletters : e ∈ lettersOf g (deleted g env r) ↔
      e ∈ (deleted g env r).dlq.entries ∧ e.fields.generationId = g := by
    simp [lettersOf]
  have hletters' : e ∈ lettersOf g r ↔ e ∈ r.dlq.entries ∧ e.fields.generationId = g := by
    simp [lettersOf]
  rw [hletters, hletters', deleted, mem_afterDeletes]
  exact and_right_comm

/-- Nothing is left of the letters exactly if each is deleted. -/
theorem lettersOf_deleted_eq_nil : lettersOf g (deleted g env r) = [] ↔ DeletesAll g env r := by
  rw [List.eq_nil_iff_forall_not_mem]
  constructor
  · intro h e he
    by_contra hkept
    refine h e (mem_lettersOf_deleted.2 ⟨he, fun i hi heffect => hkept ⟨i, hi, heffect⟩⟩)
  · intro h e he
    obtain ⟨hmem, hkept⟩ := mem_lettersOf_deleted.1 he
    obtain ⟨i, hi, heffect⟩ := h e hmem
    exact hkept i hi heffect

/-- A retry moves its letters exactly if it does not get to the deletions, or
deletes every letter and adds the message, or does neither. -/
theorem movesLetters_iff (g : Uuid) (env : Nat → Choice) (r : Redis) :
    MovesLetters g env r ↔ ¬ Reads env ∨ lettersOf g r = [] ∨
      (DeletesAll g env r ↔ Readds env (lettersOf g r).length) := by
  by_cases hreads : Reads env
  · by_cases hnone : lettersOf g r = []
    · refine iff_of_true ⟨fun e he => ?_, fun he => ?_⟩ (.inr (.inl hnone))
      · rw [retry_of_empty hreads hnone] at he
        cases he
      · rw [retry_of_empty hreads hnone] at he
        cases he
    · obtain ⟨hdlq, hends⟩ := retry_of_letters hreads hnone
      have hleft : lettersOf g (retryWorld g env r) = [] ↔ DeletesAll g env r := by
        rw [← lettersOf_deleted_eq_nil, lettersOf_congr hdlq]
      rw [or_iff_right (not_not.2 hreads), or_iff_right hnone]
      rcases hends with ⟨hadds, hok, hmessage⟩ | ⟨hadds, e, herror⟩
      · rw [iff_true_right hadds, ← hleft]
        constructor
        · exact fun h => (h.moved hok).1
        · refine fun h => ⟨fun e he => ?_, fun _ => ⟨h, hmessage⟩⟩
          rw [hok] at he
          cases he
      · rw [iff_false_right hadds, ← hleft]
        constructor
        · exact fun h => h.kept e herror hnone
        · refine fun h => ⟨fun _ _ _ => h, fun he => ?_⟩
          rw [herror] at he
          cases he
  · obtain ⟨⟨e, herror⟩, hdlq⟩ := retry_of_unread (g := g) (r := r) hreads
    refine iff_of_true ⟨fun e' _ hsome => ?_, fun he => ?_⟩ (.inl hreads)
    · rw [lettersOf_congr hdlq]
      exact hsome
    · rw [herror] at he
      cases he

/-- One dead letter. -/
def oneLetter : Redis := { dlq := { entries := [⟨1, ⟨⟨0⟩, 3, .null⟩⟩], lastId := 1 } }

/-- The call under a number fails without an effect. -/
def failsAt (n : Nat) : Nat → Choice := fun i => { fault := if i = n then .failed "timeout" else .none }

/-- The letter is gone and no message is there when the `XADD` fails; and both
are there when the `XDEL` does. -/
theorem letter_lost :
    ¬ MovesLetters ⟨0⟩ (failsAt 5) oneLetter ∧ ¬ MovesLetters ⟨0⟩ (failsAt 2) oneLetter := by
  refine ⟨fun h => ?_, fun h => ?_⟩
  · exact h.kept "timeout" rfl (by decide) rfl
  · have hnone := (h.moved rfl).1
    revert hnone
    decide

end KlassGateway.Queue
