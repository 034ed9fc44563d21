import KlassGateway.Cache.AdvisoryLock
import Mathlib.Data.Fintype.Card
import Mathlib.Data.List.Nodup
/-!
# Who holds the lock of a cache entry

* `follows_prog`: the order of the calls of a request, around its lock.
* `unlock_other`: an unlock in another session leaves the lock where it is.
* `lockSound_iff`: for which pools and requests the lock excludes, is released, and keeps nobody
  from another entry: a pool of one session, and requests for different entries.
-/

namespace KlassGateway.Cache

open Lib

/-! ## Locks of sessions -/

namespace SessionLocks

variable {sessions : Nat} {held : SessionLocks sessions} {session other : Fin sessions}
  {lockId id : Int} {request owner : Nat}

@[simp] theorem set_self (owners : List Nat) :
    held.set session lockId owners session lockId = owners := if_pos ⟨rfl, rfl⟩

theorem set_of_ne {owners : List Nat} (h : ¬ (other = session ∧ id = lockId)) :
    held.set session lockId owners other id = held other id := if_neg h

theorem mem_blockers :
    owner ∈ held.blockers session lockId ↔ ∃ s, s ≠ session ∧ owner ∈ held s lockId := by
  unfold blockers
  rw [List.mem_flatMap]
  constructor
  · rintro ⟨s, -, hs⟩
    by_cases heq : s = session
    · rw [if_pos heq] at hs
      exact absurd hs List.not_mem_nil
    · rw [if_neg heq] at hs
      exact ⟨s, heq, hs⟩
  · rintro ⟨s, hne, hs⟩
    exact ⟨s, List.mem_finRange s, by rw [if_neg hne]; exact hs⟩

/-- A session that no other one blocks gets the lock, once more if it has it already. -/
theorem tryLock_of_free (h : ∀ s, s ≠ session → held s lockId = []) :
    held.tryLock session lockId request =
      (true, held.set session lockId (request :: held session lockId)) := by
  refine if_pos (List.isEmpty_iff.2 (List.eq_nil_iff_forall_not_mem.2 fun owner hmem => ?_))
  obtain ⟨s, hne, hs⟩ := mem_blockers.1 hmem
  rw [h s hne] at hs
  exact absurd hs List.not_mem_nil

/-- An unlock in a session without the lock does nothing. -/
theorem unlock_other (h : held session lockId = []) :
    held.unlock session lockId request = (false, held) := by
  unfold unlock
  rw [h]

/-- An unlock gives up at most what was held. -/
theorem unlock_sublist (held : SessionLocks sessions) (session : Fin sessions) (lockId : Int)
    (request : Nat) (s : Fin sessions) (id : Int) :
    ((held.unlock session lockId request).2 s id).Sublist (held s id) := by
  unfold unlock
  cases hown : held session lockId with
  | nil => exact List.Sublist.refl _
  | cons owner owners =>
    dsimp only
    by_cases hsame : s = session ∧ id = lockId
    · obtain ⟨rfl, rfl⟩ := hsame
      rw [set_self, hown]
      split
      · exact List.erase_sublist
      · exact List.sublist_cons_self _ _
    · rw [set_of_ne hsame]

/-- A request that has the lock once has it no longer after its unlock. -/
theorem not_mem_unlock (h : (held session lockId).count request ≤ 1) :
    request ∉ (held.unlock session lockId request).2 session lockId := by
  unfold unlock
  cases hown : held session lockId with
  | nil =>
    dsimp only
    rw [hown]
    exact List.not_mem_nil
  | cons owner owners =>
    dsimp only
    rw [set_self]
    rw [hown] at h
    split
    · intro hmem
      have hcount := List.count_pos_iff.2 hmem
      rw [List.count_erase_self] at hcount
      omega
    · next hnot => exact fun hmem => hnot (List.mem_cons_of_mem _ hmem)

end SessionLocks

/-! ## The calls of a request -/

/-- Where a request stands with its lock. -/
inductive LockMode where
  | outside (request : Nat) (lockId : Int)
  | inside (request : Nat) (lockId : Int)
  | released (request : Nat)
  | done

namespace LockMode

/-- The calls that are made in a mode. -/
def Allows : LockMode → CacheOp → Prop
  | outside request lockId, .tryAcquireLock request' lockId' =>
    request' = request ∧ lockId' = lockId
  | outside request _, .finish request' _ => request' = request
  | outside _ _, .releaseLock _ _ => False
  | outside _ _, _ => True
  | inside _ _, .executeProvider _ => True
  | inside request lockId, .releaseLock request' lockId' => request' = request ∧ lockId' = lockId
  | released request, .finish request' _ => request' = request
  | _, _ => False

/-- The mode after a call. -/
def next : LockMode → (o : CacheOp) → o.Resp → LockMode
  | outside request lockId, .tryAcquireLock _ _, .ok true => inside request lockId
  | inside request _, .releaseLock _ _, _ => released request
  | _, .finish _ _, _ => done
  | mode, _, _ => mode

end LockMode

/-- The calls of a request, mode by mode. -/
def lockSpec : OpSpec cacheOps LockMode where
  pre := LockMode.Allows
  step mode o answer mode' := mode' = mode.next o answer

section Follows

variable {decode : Json → Except String Json} {request : Nat} {lockId : Int} {bypassCache : Bool}

/-- A request may return before it takes the lock, or after it has released it. -/
def MayFinish (request : Nat) (lockId : Int) (mode : LockMode) : Prop :=
  mode = .outside request lockId ∨ mode = .released request

theorem follows_waitForEntry (sleeps : Nat) :
    (waitForEntry sleeps).wp lockSpec (fun _ mode => mode = .outside request lockId)
      (.outside request lockId) := by
  induction sleeps with
  | zero => exact ⟨trivial, fun answer mode hmode => hmode⟩
  | succ sleeps ih =>
    refine ⟨trivial, fun answer mode hmode => ?_⟩
    obtain rfl : mode = .outside request lockId := hmode
    cases answer with
    | error e => exact rfl
    | ok found =>
      cases found with
      | none => exact ih
      | some entry => exact rfl

theorem follows_afterMiss :
    (afterMiss decode request lockId bypassCache).wp lockSpec
      (fun _ mode => MayFinish request lockId mode) (.outside request lockId) := by
  refine ⟨⟨rfl, rfl⟩, fun answer mode hmode => ?_⟩
  subst hmode
  cases answer with
  | error e => exact Or.inl rfl
  | ok acquired =>
    cases acquired with
    | true =>
      refine ⟨trivial, fun result mode hmode => ?_⟩
      subst hmode
      refine ⟨⟨rfl, rfl⟩, fun answer mode hmode => ?_⟩
      subst hmode
      exact Or.inr rfl
    | false =>
      refine ⟨trivial, fun sleeps mode hmode => ?_⟩
      subst hmode
      refine (Prog.wp_bind _ _ _ _).2 (Prog.wp_mono ?_ (follows_waitForEntry sleeps))
      intro answer mode hmode
      subst hmode
      cases answer with
      | error e => exact Or.inl rfl
      | ok waited =>
        cases waited with
        | some entry => exact Or.inl rfl
        | none =>
          refine ⟨trivial, fun result mode hmode => ?_⟩
          subst hmode
          exact Or.inl rfl

theorem follows_whenAllowed :
    (whenAllowed decode request lockId bypassCache).wp lockSpec
      (fun _ mode => MayFinish request lockId mode) (.outside request lockId) := by
  unfold whenAllowed
  split
  · exact follows_afterMiss
  · refine ⟨trivial, fun answer mode hmode => ?_⟩
    subst hmode
    cases answer with
    | error e => exact Or.inl rfl
    | ok cached =>
      cases cached with
      | none => exact follows_afterMiss
      | some entry => exact Or.inl rfl

theorem follows_service :
    (service decode request lockId bypassCache).wp lockSpec
      (fun _ mode => MayFinish request lockId mode) (.outside request lockId) := by
  refine ⟨trivial, fun answer mode hmode => ?_⟩
  subst hmode
  cases answer with
  | error e => exact Or.inl rfl
  | ok action =>
    cases action with
    | allow => exact follows_whenAllowed
    | deny => exact Or.inl rfl
    | degrade =>
      refine ⟨trivial, fun result mode hmode => ?_⟩
      subst hmode
      exact Or.inl rfl

/-- Every request makes its calls in this order. -/
theorem follows_prog (u : LlmRequests) (number : Nat) (r : LlmRequest) :
    (u.prog number r).wp lockSpec (fun _ _ => True) (.outside number (u.lockId r)) := by
  unfold LlmRequests.prog
  refine (Prog.wp_bind _ _ _ _).2 (Prog.wp_mono ?_ follows_service)
  intro result mode hmode
  rcases hmode with rfl | rfl
  · exact ⟨rfl, fun _ _ _ => trivial⟩
  · exact ⟨rfl, fun _ _ _ => trivial⟩

end Follows

/-! ## What a call does -/

namespace LlmRequests

variable {u : LlmRequests}

/-- The world and the mode after a call of a request. -/
inductive Moves (w : u.World) : LockMode → u.World → LockMode → Prop
  | stay {mode : LockMode} : Moves w mode w mode
  | acquired {request : Nat} {lockId : Int} {session : Fin u.sessions}
    (hfree : w.held.blockers session lockId = []) :
    Moves w (.outside request lockId)
      { w with
        held := w.held.set session lockId (request :: w.held session lockId)
        holding := request :: w.holding }
      (.inside request lockId)
  | refused {request : Nat} {lockId : Int} {session : Fin u.sessions}
    (hblocked : w.held.blockers session lockId ≠ []) :
    Moves w (.outside request lockId)
      { w with
        refusals := (w.held.blockers session lockId).map (Prod.mk request) ++ w.refusals }
      (.outside request lockId)
  | released {request : Nat} {lockId : Int} (session : Fin u.sessions) :
    Moves w (.inside request lockId)
      { w with
        held := (w.held.unlock session lockId request).2
        holding := w.holding.filter (· ≠ request) }
      (.released request)
  | finished {request : Nat} (lockId : Int) {mode : LockMode}
    (hmode : MayFinish request lockId mode) :
    Moves w mode { w with finished := request :: w.finished } .done

/-- Every call that a mode allows moves the request so. -/
theorem moves_of_allows {mode : LockMode} {o : CacheOp} (h : mode.Allows o) (w : u.World)
    (c : u.Choice) : Moves w mode (u.exec w o c).2 (mode.next o (u.exec w o c).1) := by
  cases mode with
  | outside request lockId =>
    cases o with
    | tryAcquireLock request' lockId' =>
      obtain ⟨rfl, rfl⟩ := h
      cases herror : c.error with
      | some e =>
        have hexec : u.exec w (.tryAcquireLock request' lockId') c = (.error e, w) := by
          unfold exec
          dsimp only
          rw [herror]
        rw [hexec]
        exact .stay
      | none =>
        by_cases hfree : w.held.blockers c.session lockId' = []
        · have hexec : u.exec w (.tryAcquireLock request' lockId') c =
              (.ok true, { w with
                held := w.held.set c.session lockId' (request' :: w.held c.session lockId')
                holding := request' :: w.holding }) := by
            unfold exec SessionLocks.tryLock
            dsimp only
            rw [herror, hfree]
            rfl
          rw [hexec]
          exact .acquired hfree
        · have hexec : u.exec w (.tryAcquireLock request' lockId') c =
              (.ok false, { w with
                refusals := (w.held.blockers c.session lockId').map (Prod.mk request') ++
                  w.refusals }) := by
            unfold exec SessionLocks.tryLock
            dsimp only
            rw [herror, if_neg (by simpa using hfree)]
          rw [hexec]
          exact .refused hfree
    | releaseLock request' lockId' => exact h.elim
    | finish request' result =>
      obtain rfl : request' = request := h
      exact .finished lockId (Or.inl rfl)
    | _ => exact .stay
  | inside request lockId =>
    cases o with
    | executeProvider shouldCache => exact .stay
    | releaseLock request' lockId' =>
      obtain ⟨rfl, rfl⟩ := h
      exact .released c.session
    | _ => exact h.elim
  | released request =>
    cases o with
    | finish request' result =>
      obtain rfl : request' = request := h
      exact .finished 0 (Or.inr rfl)
    | _ => exact h.elim
  | done => exact h.elim

/-! ## One session -/

/-- A task of the requests, as a discipline sees it. -/
abbrev LockView := Nat → Option (Unit × LockMode)

/-- A task after one call of task `i`. -/
theorem view_update {v : LockView} {i j : Nat} {mode mode' : LockMode} {l : Unit}
    (h : Function.update v i (some ((), mode')) j = some (l, mode)) :
    j = i ∧ mode = mode' ∨ j ≠ i ∧ v j = some (l, mode) := by
  by_cases hj : j = i
  · subst hj
    rw [Function.update_self] at h
    exact Or.inl ⟨rfl, (congrArg Prod.snd (Option.some.inj h)).symm⟩
  · rw [Function.update_of_ne hj] at h
    exact Or.inr ⟨hj, h⟩

/-- How often a request may have its lock in a mode. -/
def Takes (w : u.World) (i : Nat) : LockMode → Prop
  | .outside request _ => request = i ∧ ∀ s d, i ∉ w.held s d
  | .inside request lockId =>
    request = i ∧ ∀ s d, (w.held s d).count i ≤ if d = lockId then 1 else 0
  | .released request => request = i ∧ ∀ s d, i ∉ w.held s d
  | .done => ∀ s d, i ∉ w.held s d

/-- What holds in a pool of one session: nobody is refused, and who returns has nothing. -/
structure Clean (w : u.World) (v : LockView) : Prop where
  takes : ∀ i l mode, v i = some (l, mode) → Takes w i mode
  finished : ∀ i ∈ w.finished, (∀ s d, i ∉ w.held s d) ∧ ∀ l mode, v i = some (l, mode) →
    mode = .done
  refusals : w.refusals = []

/-- A mode only asks about the locks of its request. -/
theorem Takes.congr {w w' : u.World} {i : Nat} {mode : LockMode} (h : Takes w i mode)
    (hheld : ∀ s d, (w'.held s d).count i ≤ (w.held s d).count i) : Takes w' i mode := by
  have hnot : (∀ s d, i ∉ w.held s d) → ∀ s d, i ∉ w'.held s d := by
    intro hold s d hmem
    have hpos := List.count_pos_iff.2 hmem
    have hzero := List.count_eq_zero.2 (hold s d)
    have hle := hheld s d
    omega
  cases mode with
  | outside request lockId => exact ⟨h.1, hnot h.2⟩
  | inside request lockId => exact ⟨h.1, fun s d => (hheld s d).trans (h.2 s d)⟩
  | released request => exact ⟨h.1, hnot h.2⟩
  | done => exact hnot h

/-- What a call of task `i` has to keep. -/
theorem Clean.step {w w' : u.World} {v : LockView} {i : Nat} {mode mode' : LockMode}
    (h : Clean w v) (hi : v i = some ((), mode)) (hmode : mode ≠ .done)
    (htakes : Takes w' i mode')
    (hothers : ∀ j, j ≠ i → ∀ s d, (w'.held s d).count j ≤ (w.held s d).count j)
    (hfinished : ∀ j ∈ w'.finished, j ∈ w.finished ∨ j = i ∧ mode' = .done)
    (hrefusals : w'.refusals = []) :
    Clean w' (Function.update v i (some ((), mode'))) := by
  refine ⟨fun j l m hj => ?_, fun j hj => ?_, hrefusals⟩
  · rcases view_update hj with ⟨rfl, rfl⟩ | ⟨hne, hj⟩
    · exact htakes
    · exact (h.takes j l m hj).congr (hothers j hne)
  · rcases hfinished j hj with hold | ⟨rfl, rfl⟩
    · obtain ⟨hnot, hdone⟩ := h.finished j hold
      have hne : j ≠ i := by
        rintro rfl
        exact hmode (hdone () mode hi)
      refine ⟨fun s d hmem => ?_, fun l m hm => ?_⟩
      · have hpos := List.count_pos_iff.2 hmem
        have hzero := List.count_eq_zero.2 (hnot s d)
        have hle := hothers j hne s d
        omega
      · rcases view_update hm with ⟨heq, -⟩ | ⟨-, hm⟩
        · exact absurd heq hne
        · exact hdone l m hm
    · refine ⟨htakes, fun l m hm => ?_⟩
      rcases view_update hm with ⟨-, hm⟩ | ⟨hne, -⟩
      · exact hm
      · exact absurd rfl hne

theorem Clean.act (hone : ∀ s s' : Fin u.sessions, s = s') {w w' : u.World} {v : LockView}
    {i : Nat} {mode mode' : LockMode} (h : Clean w v) (hi : v i = some ((), mode))
    (hmoves : Moves w mode w' mode') : Clean w' (Function.update v i (some ((), mode'))) := by
  have htakes := h.takes i () mode hi
  cases hmoves with
  | stay =>
    have hsame : Function.update v i (some ((), mode)) = v := by
      rw [← hi]
      exact Function.update_eq_self i v
    rw [hsame]
    exact h
  | @acquired request lockId session hfree =>
    obtain ⟨rfl, hnot⟩ := htakes
    have hcount : ∀ j s d,
        (w.held.set session lockId (request :: w.held session lockId) s d).count j
          = (w.held s d).count j + if d = lockId ∧ request = j then 1 else 0 := by
      intro j s d
      by_cases hd : d = lockId
      · rw [hone s session, hd, SessionLocks.set_self, List.count_cons]
        simp
      · rw [SessionLocks.set_of_ne fun hsame => hd hsame.2, if_neg fun hsame => hd hsame.1]
        rfl
    refine h.step hi (fun hdone => by cases hdone) ⟨rfl, fun s d => ?_⟩ (fun j hj s d => ?_)
      (fun j => Or.inl) h.refusals
    · dsimp only
      rw [hcount, List.count_eq_zero.2 (hnot s d)]
      simp
    · dsimp only
      rw [hcount, if_neg fun hsame => hj hsame.2.symm]
      exact Nat.le_refl _
  | @refused request lockId session hblocked =>
    refine absurd (List.eq_nil_iff_forall_not_mem.2 fun owner hmem => ?_) hblocked
    obtain ⟨s, hne, -⟩ := SessionLocks.mem_blockers.1 hmem
    exact hne (hone s session)
  | @released request lockId session =>
    obtain ⟨rfl, hheld⟩ := htakes
    have hless := SessionLocks.unlock_sublist w.held session lockId request
    refine h.step hi (fun hdone => by cases hdone) ⟨rfl, fun s d => ?_⟩
      (fun j _ s d => (hless s d).count_le j) (fun j => Or.inl) h.refusals
    have hle := hheld s d
    by_cases hd : d = lockId
    · rw [if_pos hd] at hle
      rw [hone s session, hd] at hle ⊢
      exact SessionLocks.not_mem_unlock hle
    · rw [if_neg hd] at hle
      intro hmem
      have hpos := List.count_pos_iff.2 ((hless s d).subset hmem)
      omega
  | @finished request lockId _ hmode =>
    have hnot : request = i ∧ ∀ s d, i ∉ w.held s d := by
      rcases hmode with rfl | rfl
      · exact htakes
      · exact htakes
    have hlive : mode ≠ .done := by
      rcases hmode with rfl | rfl <;> exact fun hdone => by cases hdone
    refine h.step hi hlive hnot.2 (fun j _ s d => Nat.le_refl _) (fun j hj => ?_) h.refusals
    rcases List.mem_cons.1 hj with rfl | hj
    · exact Or.inr ⟨hnot.1, rfl⟩
    · exact Or.inl hj

/-! ## Which requests the lock serves -/

/-- The lock excludes: of two requests between the two calls of their lock, the entries differ.
It is released: who has returned has no lock left.  And it keeps nobody from another entry: who
is refused is refused for a request for the same entry. -/
structure LockSound (u : LlmRequests) : Prop where
  excludes : ∀ s, u.Reached s → ∀ i ∈ s.world.holding, ∀ j ∈ s.world.holding, ∀ r r',
    u.requests[i]? = some r → u.requests[j]? = some r' → r.entry = r'.entry → i = j
  releases : ∀ s, u.Reached s → ∀ i ∈ s.world.finished, ∀ session lockId,
    i ∉ s.world.held session lockId
  separate : ∀ s, u.Reached s → ∀ refusal ∈ s.world.refusals, ∀ r r',
    u.requests[refusal.1]? = some r → u.requests[refusal.2]? = some r' → r.entry = r'.entry

/-- The modes before the first call. -/
def startModes (u : LlmRequests) (i : Nat) : LockMode :=
  .outside i ((u.requests[i]?.map u.lockId).getD 0)

/-- The discipline of the requests. -/
def lockDiscipline (u : LlmRequests) : Discipline u.system LockMode := ⟨lockSpec, Clean⟩

/-- A task that is gone takes nothing away. -/
theorem Clean.mono {w : u.World} {v v' : LockView} (hsub : ∀ i, v' i = none ∨ v' i = v i)
    (h : Clean w v) : Clean w v' := by
  have hin {i : Nat} {l : Unit} {mode : LockMode} (hi : v' i = some (l, mode)) :
      v i = some (l, mode) := by
    rcases hsub i with hnone | hsame
    · rw [hnone] at hi
      cases hi
    · rw [← hsame]
      exact hi
  exact ⟨fun i l mode hi => h.takes i l mode (hin hi),
    fun i hi => ⟨(h.finished i hi).1, fun l mode hm => (h.finished i hi).2 l mode (hin hm)⟩,
    h.refusals⟩

theorem lockDiscipline_kept (hone : ∀ s s' : Fin u.sessions, s = s') :
    (lockDiscipline u).Kept fun _ a => ∃ i c, a = Pool.Action.act i c := by
  refine ⟨fun w v v' hsub hinv => Clean.mono hsub hinv,
    fun s f i c l o k _ hti hinv hallows => ?_, fun s f arrival => arrival.elim⟩
  exact ⟨_, rfl, Clean.act hone hinv (Discipline.view_of_task hti)
    (moves_of_allows hallows s.world c)⟩

theorem lockDiscipline_holds (u : LlmRequests) : (lockDiscipline u).Holds u.start := by
  refine ⟨u.startModes, ⟨fun i l mode hi => ?_, fun i hi => absurd hi List.not_mem_nil, rfl⟩,
    fun i t ht => ?_⟩
  · obtain ⟨t, -, hview⟩ := Option.map_eq_some_iff.1 hi
    obtain rfl : u.startModes i = mode := congrArg Prod.snd hview
    exact ⟨rfl, fun s d => List.not_mem_nil⟩
  · obtain ⟨r, hr, hkeep⟩ := Option.bind_eq_some_iff.1 ht
    obtain rfl := Pool.keep_eq_some hkeep
    have hmode : u.startModes i = .outside i (u.lockId r) := by
      unfold startModes
      rw [hr]
      rfl
    rw [hmode]
    exact follows_prog u i r

/-- In a pool of one session the invariant holds in every run. -/
theorem clean_of_reached (hone : ∀ s s' : Fin u.sessions, s = s') {s : u.system.State}
    (h : u.Reached s) : ∃ f, Clean s.world (Discipline.view s f) := by
  obtain ⟨f, hinv, -⟩ := (lockDiscipline_kept hone).all.holds_of_reach h (lockDiscipline_holds u)
  exact ⟨f, hinv⟩

/-- Where no request can make a call, nothing happens. -/
theorem Reached.eq_start (hno : u.requests = [] ∨ u.sessions = 0) {s : u.system.State}
    (h : u.Reached s) : s = u.start := by
  induction h with
  | refl => rfl
  | tail _ hlast ih =>
    obtain ⟨a, ⟨i, c, rfl⟩, hstep⟩ := hlast
    rcases hno with hnone | hzero
    · have hidle : u.start.tasks i = none := by
        change (u.requests[i]?.bind _) = none
        rw [hnone]
        rfl
      rw [ih, Pool.step, hidle] at hstep
      cases hstep
    · have hsession : (c : u.Choice).session.val < 0 := by
        have hlt := (c : u.Choice).session.isLt
        omega
      exact absurd hsession (Nat.not_lt_zero _)

/-- A pool of one session serves requests for different entries, and a pool without sessions or
without requests does nothing. -/
theorem lockSound_of (h : u.requests = [] ∨ u.sessions = 0 ∨
    u.sessions = 1 ∧ (u.requests.map LlmRequest.entry).Nodup) : u.LockSound := by
  have hidle : u.requests = [] ∨ u.sessions = 0 → u.LockSound := by
    intro hno
    refine ⟨fun s hs i hi => ?_, fun s hs i hi => ?_, fun s hs refusal hmem => ?_⟩
    · rw [hs.eq_start hno] at hi
      exact absurd hi List.not_mem_nil
    · rw [hs.eq_start hno] at hi
      exact absurd hi List.not_mem_nil
    · rw [hs.eq_start hno] at hmem
      exact absurd hmem List.not_mem_nil
  rcases h with hnone | hzero | ⟨hsessions, hnodup⟩
  · exact hidle (Or.inl hnone)
  · exact hidle (Or.inr hzero)
  · have hone : ∀ s s' : Fin u.sessions, s = s' := by
      intro s s'
      refine Fin.ext ?_
      have hs := s.isLt
      have hs' := s'.isLt
      omega
    refine ⟨fun s _ i _ j _ r r' hi hj hentry => ?_, fun s hs i hi => ?_,
      fun s hs refusal hmem => ?_⟩
    · have hi' : (u.requests.map LlmRequest.entry)[i]? = some r.entry := by
        rw [List.getElem?_map, hi]
        rfl
      have hj' : (u.requests.map LlmRequest.entry)[j]? = some r.entry := by
        rw [List.getElem?_map, hj, hentry]
        rfl
      obtain ⟨hilt, -⟩ := List.getElem?_eq_some_iff.1 hi'
      exact (List.getElem?_inj hilt hnodup).1 (hi'.trans hj'.symm)
    · obtain ⟨f, hclean⟩ := clean_of_reached hone hs
      exact (hclean.finished i hi).1
    · obtain ⟨f, hclean⟩ := clean_of_reached hone hs
      rw [hclean.refusals] at hmem
      exact absurd hmem List.not_mem_nil

/-! ### Runs without an error -/

/-- A call that goes well in a session, and finds nothing in the cache. -/
def plain (session : Fin u.sessions) : u.Choice where
  session := session
  error := none
  action := .allow
  entry := none
  sleeps := 0
  provided := .error (.provider "")

/-- A call of request `i` leaves the other requests where they are. -/
theorem Reached.exists_act {s : u.system.State} (h : u.Reached s) {i : Nat} {o : CacheOp}
    {k : o.Resp → Prog cacheOps Unit}
    (ht : s.tasks i = Pool.keep () (Prog.op (I := cacheOps) o k)) (c : u.Choice) :
    ∃ s', u.Reached s' ∧ s'.world = (u.exec s.world o c).2 ∧
      s'.tasks i = Pool.keep () (k (u.exec s.world o c).1) ∧
      ∀ j, j ≠ i → s'.tasks j = s.tasks j :=
  Pool.Reach.exists_act h ht c ⟨i, c, rfl⟩

/-- What a request does once it has its lock. -/
def afterLock (u : LlmRequests) (number : Nat) (r : LlmRequest) : Prog cacheOps Unit :=
  .op (.executeProvider (!r.bypassCache)) fun result =>
    .op (.releaseLock number (u.lockId r)) fun _ => .op (.finish number result) .ret

/-- A request that finds no entry reaches its lock. -/
theorem Reached.exists_miss {s : u.system.State} (h : u.Reached s) {i : Nat} {r : LlmRequest}
    (ht : s.tasks i = Pool.keep () (u.prog i r)) (session : Fin u.sessions) :
    ∃ s', u.Reached s' ∧ s'.world = s.world ∧
      s'.tasks i = Pool.keep () ((afterMiss (u.platform.decode r.entry.1) i (u.lockId r)
        r.bypassCache).bind fun result => .op (.finish i result) .ret) ∧
      ∀ j, j ≠ i → s'.tasks j = s.tasks j := by
  obtain ⟨s₁, hs₁, hworld₁, htask₁, hothers₁⟩ := h.exists_act ht (plain session)
  have hallowed : s₁.tasks i = Pool.keep () ((whenAllowed (u.platform.decode r.entry.1) i
      (u.lockId r) r.bypassCache).bind fun result => .op (.finish i result) .ret) := htask₁
  unfold whenAllowed at hallowed
  cases hbypass : r.bypassCache with
  | true =>
    rw [if_pos hbypass, hbypass] at hallowed
    exact ⟨s₁, hs₁, hworld₁, hallowed, hothers₁⟩
  | false =>
    rw [if_neg (by simp [hbypass]), hbypass] at hallowed
    obtain ⟨s₂, hs₂, hworld₂, htask₂, hothers₂⟩ := hs₁.exists_act hallowed (plain session)
    exact ⟨s₂, hs₂, hworld₂.trans hworld₁, htask₂,
      fun j hj => (hothers₂ j hj).trans (hothers₁ j hj)⟩

/-- A request that no other session blocks gets its lock. -/
theorem Reached.exists_inside {s : u.system.State} (h : u.Reached s) {i : Nat} {r : LlmRequest}
    (ht : s.tasks i = Pool.keep () (u.prog i r)) (session : Fin u.sessions)
    (hfree : ∀ other, other ≠ session → s.world.held other (u.lockId r) = []) :
    ∃ s', u.Reached s' ∧ s'.world.holding = i :: s.world.holding ∧
      i ∈ s'.world.held session (u.lockId r) ∧
      (∀ other, other ≠ session → s'.world.held other (u.lockId r) = []) ∧
      s'.tasks i = Pool.keep () (u.afterLock i r) ∧ ∀ j, j ≠ i → s'.tasks j = s.tasks j := by
  obtain ⟨s₁, hs₁, hworld₁, htask₁, hothers₁⟩ := h.exists_miss ht session
  obtain ⟨s₂, hs₂, hworld₂, htask₂, hothers₂⟩ := hs₁.exists_act htask₁ (plain session)
  have hlock : u.exec s₁.world (.tryAcquireLock i (u.lockId r)) (plain session) =
      (.ok true, { s.world with
        held := s.world.held.set session (u.lockId r) (i :: s.world.held session (u.lockId r))
        holding := i :: s.world.holding }) := by
    rw [hworld₁]
    unfold exec
    dsimp only [plain]
    rw [SessionLocks.tryLock_of_free hfree]
  rw [hlock] at hworld₂ htask₂
  refine ⟨s₂, hs₂, ?_, ?_, fun other hne => ?_, htask₂,
    fun j hj => (hothers₂ j hj).trans (hothers₁ j hj)⟩
  · rw [hworld₂]
  · rw [hworld₂]
    dsimp only
    rw [SessionLocks.set_self]
    exact List.mem_cons_self
  · rw [hworld₂]
    dsimp only
    rw [SessionLocks.set_of_ne fun hsame => hne hsame.1]
    exact hfree other hne

theorem start_tasks {i : Nat} {r : LlmRequest} (h : u.requests[i]? = some r) :
    u.start.tasks i = Pool.keep () (u.prog i r) := by
  change (u.requests[i]?.bind _) = _
  rw [h]
  rfl

/-- With two sessions a request can take its lock in one and release it in the other. -/
theorem exists_leak {session other : Fin u.sessions} (hne : other ≠ session) {i : Nat}
    {r : LlmRequest} (hr : u.requests[i]? = some r) :
    ∃ s, u.Reached s ∧ i ∈ s.world.finished ∧ i ∈ s.world.held session (u.lockId r) := by
  have hstart : u.Reached u.start := Pool.Reach.refl _
  obtain ⟨s₁, hs₁, -, hheld₁, hfree₁, htask₁, -⟩ :=
    hstart.exists_inside (start_tasks hr) session fun _ _ => rfl
  obtain ⟨s₂, hs₂, hworld₂, htask₂, -⟩ := hs₁.exists_act htask₁ (plain other)
  obtain ⟨s₃, hs₃, hworld₃, htask₃, -⟩ := hs₂.exists_act htask₂ (plain other)
  obtain ⟨s₄, hs₄, hworld₄, -, -⟩ := hs₃.exists_act htask₃ (plain other)
  have hunlock : s₃.world.held = s₁.world.held := by
    have hworld : s₂.world = s₁.world := hworld₂
    rw [hworld₃, hworld]
    unfold exec
    dsimp only [plain]
    rw [SessionLocks.unlock_other (hfree₁ other hne)]
  refine ⟨s₄, hs₄, ?_, ?_⟩
  · rw [hworld₄]
    exact List.mem_cons_self
  · have hheld : s₄.world.held = s₃.world.held := by
      rw [hworld₄]
      rfl
    rw [hheld, hunlock]
    exact hheld₁

/-- In one session two requests for one entry can both have the lock. -/
theorem exists_both (hone : ∀ s s' : Fin u.sessions, s = s') (session : Fin u.sessions)
    {i j : Nat} (hij : j ≠ i) {r r' : LlmRequest} (hr : u.requests[i]? = some r)
    (hr' : u.requests[j]? = some r') :
    ∃ s, u.Reached s ∧ i ∈ s.world.holding ∧ j ∈ s.world.holding := by
  have hstart : u.Reached u.start := Pool.Reach.refl _
  have hfree : ∀ (held : SessionLocks u.sessions) (lockId : Int) (other : Fin u.sessions),
      other ≠ session → held other lockId = [] :=
    fun held lockId other hne => absurd (hone other session) hne
  obtain ⟨s₁, hs₁, hholding₁, -, -, -, hothers₁⟩ :=
    hstart.exists_inside (start_tasks hr) session fun other => hfree _ _ other
  have htask : s₁.tasks j = Pool.keep () (u.prog j r') := (hothers₁ j hij).trans (start_tasks hr')
  obtain ⟨s₂, hs₂, hholding₂, -, -, -, -⟩ :=
    hs₁.exists_inside htask session fun other => hfree _ _ other
  refine ⟨s₂, hs₂, ?_, ?_⟩
  · rw [hholding₂, hholding₁]
    exact List.mem_cons_of_mem _ List.mem_cons_self
  · rw [hholding₂]
    exact List.mem_cons_self

/-- The lock excludes, is released and keeps nobody from another entry exactly in a pool of one
session with requests for different entries, and where there is nothing to do. -/
theorem lockSound_iff (u : LlmRequests) :
    u.LockSound ↔ u.requests = [] ∨ u.sessions = 0 ∨
      u.sessions = 1 ∧ (u.requests.map LlmRequest.entry).Nodup := by
  refine ⟨fun h => ?_, lockSound_of⟩
  by_contra hno
  rw [not_or, not_or] at hno
  obtain ⟨hrequests, hsessions, hone⟩ := hno
  have hfirst : ∃ r, u.requests[0]? = some r := by
    obtain ⟨r, rest, hcons⟩ := List.exists_cons_of_ne_nil hrequests
    exact ⟨r, by rw [hcons]; rfl⟩
  obtain ⟨r, hr⟩ := hfirst
  by_cases hmany : 2 ≤ u.sessions
  · have hne : (⟨1, by omega⟩ : Fin u.sessions) ≠ ⟨0, by omega⟩ := by
      intro heq
      cases congrArg Fin.val heq
    obtain ⟨s, hs, hfinished, hheld⟩ := exists_leak hne hr
    exact h.releases s hs 0 hfinished _ _ hheld
  · have hsingle : u.sessions = 1 := by omega
    have hsame : ∀ s s' : Fin u.sessions, s = s' := by
      intro s s'
      refine Fin.ext ?_
      have hs := s.isLt
      have hs' := s'.isLt
      omega
    refine hone ⟨hsingle, List.nodup_iff_getElem?_ne_getElem?.2 fun i j hij hj heq => ?_⟩
    rw [List.length_map] at hj
    have hi : i < u.requests.length := by omega
    have hentry : (u.requests[i]).entry = (u.requests[j]).entry := by
      simpa [List.getElem?_map, hi, hj] using heq
    obtain ⟨s, hs, hinside, hinside'⟩ := exists_both hsame ⟨0, by omega⟩ (Nat.ne_of_gt hij)
      (List.getElem?_eq_getElem hi) (List.getElem?_eq_getElem hj)
    have heqij := h.excludes s hs i hinside j hinside' _ _ (List.getElem?_eq_getElem hi)
      (List.getElem?_eq_getElem hj) hentry
    omega

/-- In two sessions a request can be refused for any other with its lock id. -/
theorem exists_refused {session other : Fin u.sessions} (hne : other ≠ session) {i j : Nat}
    (hij : j ≠ i) {r r' : LlmRequest} (hr : u.requests[i]? = some r)
    (hr' : u.requests[j]? = some r') (hlock : u.lockId r = u.lockId r') :
    ∃ s, u.Reached s ∧ (j, i) ∈ s.world.refusals := by
  have hstart : u.Reached u.start := Pool.Reach.refl _
  obtain ⟨s₁, hs₁, -, hheld₁, -, -, hothers₁⟩ :=
    hstart.exists_inside (start_tasks hr) session fun _ _ => rfl
  obtain ⟨s₂, hs₂, hworld₂, htask₂, -⟩ :=
    hs₁.exists_miss ((hothers₁ j hij).trans (start_tasks hr')) other
  obtain ⟨s₃, hs₃, hworld₃, -, -⟩ := hs₂.exists_act htask₂ (plain other)
  have hblocks : i ∈ SessionLocks.blockers s₂.world.held other (u.lockId r') := by
    rw [hworld₂, ← hlock]
    exact SessionLocks.mem_blockers.2 ⟨session, hne.symm, hheld₁⟩
  refine ⟨s₃, hs₃, ?_⟩
  rw [hworld₃]
  unfold exec SessionLocks.tryLock
  dsimp only [plain]
  rw [if_neg fun hempty => by
    rw [List.isEmpty_iff.1 hempty] at hblocks
    exact absurd hblocks List.not_mem_nil]
  exact List.mem_append_left _ (List.mem_map_of_mem hblocks)

/-- Two interpretations in a pool of the default size.  The digests of both keys begin with a
negative number. -/
def twoInterpretations : LlmRequests where
  platform :=
    { digest := fun text =>
        if text = "interpret:6b86b273ff34fce19d6b804eff5a3f5747ada4eaa22f1d49c01e52ddb7875b4b" then
          -333449288260104544
        else if text =
            "interpret:4e07408562bedb8b60ce05c1decfe3ad16b72230967de01f640b7e4729b49fce" then
          -6963501011574928113
        else 0
      decode := fun _ entry => .ok entry }
  sessions := 5
  requests :=
    [.interpret "6b86b273ff34fce19d6b804eff5a3f5747ada4eaa22f1d49c01e52ddb7875b4b",
      .interpret "4e07408562bedb8b60ce05c1decfe3ad16b72230967de01f640b7e4729b49fce"]

/-- A request of a pool with five sessions can return without its lock, which stays; and it can
be refused for a request for another entry, whose lock id is the same. -/
theorem twoInterpretations_unsound : ¬ twoInterpretations.LockSound ∧
    (∃ s, twoInterpretations.Reached s ∧ 0 ∈ s.world.finished ∧ ∃ session lockId,
      0 ∈ s.world.held session lockId) ∧
    ∃ s, twoInterpretations.Reached s ∧ (1, 0) ∈ s.world.refusals := by
  have hne : (1 : Fin 5) ≠ 0 := by decide
  have hfirst : twoInterpretations.requests[0]? = some (.interpret
      "6b86b273ff34fce19d6b804eff5a3f5747ada4eaa22f1d49c01e52ddb7875b4b") := rfl
  have hsecond : twoInterpretations.requests[1]? = some (.interpret
      "4e07408562bedb8b60ce05c1decfe3ad16b72230967de01f640b7e4729b49fce") := rfl
  obtain ⟨s, hs, hfinished, hheld⟩ := exists_leak (u := twoInterpretations) hne hfirst
  refine ⟨fun h => h.releases s hs 0 hfinished _ _ hheld, ⟨s, hs, hfinished, _, _, hheld⟩, ?_⟩
  exact exists_refused (u := twoInterpretations) hne (by decide) hfirst hsecond (by decide +kernel)

end LlmRequests

end KlassGateway.Cache
