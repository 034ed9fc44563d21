import KlassGateway.Cache.Store
/-!
# What the cache answers

* `latest` is the cache as a map: the entry that was last stored under a key, with its hits.
* `Good` is what every statement keeps: the table holds of this map all but expired entries, and
  each event of the history was right when it happened.
* `follows_request`: a request returns what its last statement has answered.
* `answers_of_reached`: what a request returns was the content of the map at a moment between its
  first and its last call, whatever ran beside it, failed or lost its reply.
-/

namespace KlassGateway.Cache

open Lib

/-! ## The cache as a map -/

/-- The event is a store of the key. -/
def CacheEvent.Stores (cacheKey : CacheKey) : CacheEvent → Bool
  | .stored _ _ _ entry => entry.cacheKey = cacheKey
  | _ => false

/-- The entry that was last stored under a key, with the hits that were counted since. -/
def latest (cacheKey : CacheKey) : List CacheEvent → Option CacheEntry
  | [] => none
  | .stored _ _ _ entry :: older =>
    if entry.cacheKey = cacheKey then some entry else latest cacheKey older
  | .looked _ _ key true now (some _) :: older =>
    if key = cacheKey then (latest cacheKey older).map (CacheEntry.hit now)
    else latest cacheKey older
  | _ :: older => latest cacheKey older

/-- A hit that was counted for a key. -/
def CacheEvent.Hits (cacheKey : CacheKey) : CacheEvent → Bool
  | .looked _ _ key true _ (some _) => key = cacheKey
  | _ => false

/-- The events since the last store of a key. -/
def since (cacheKey : CacheKey) (history : List CacheEvent) : List CacheEvent :=
  history.takeWhile fun event => !event.Stores cacheKey

/-- Expired rows have been deleted at a time when the entry had expired. -/
def Removed (history : List CacheEvent) (cacheKey : CacheKey) (entry : CacheEntry) : Prop :=
  ∃ t, CacheEvent.deleted t ∈ since cacheKey history ∧ entry.expiresAt ≤ t

/-- A cleanup has picked the row of a key when what was stored under the key had expired. -/
def Picked (history : List CacheEvent) (cacheKey : CacheKey) : Prop :=
  ∃ now keys older old, (CacheEvent.picked now keys :: older) <:+ history ∧ cacheKey ∈ keys ∧
    latest cacheKey older = some old ∧ old.expiresAt ≤ now

/-- A cleanup has deleted the row that was picked so, and nothing was stored under the key since.
What was stored between the two has gone with it. -/
def Swept (history : List CacheEvent) (cacheKey : CacheKey) : Prop :=
  (∃ keys, CacheEvent.swept keys ∈ since cacheKey history ∧ cacheKey ∈ keys) ∧
    Picked history cacheKey

/-- The row of an entry may be gone. -/
def Gone (history : List CacheEvent) (cacheKey : CacheKey) (entry : CacheEntry) : Prop :=
  Removed history cacheKey entry ∨ Swept history cacheKey

/-- What a statement finds under a key at the time `now`, after the events of `older`. -/
structure Faithful (route : CacheRoute) (cacheKey : CacheKey) (touch : Bool) (now : DateTime)
    (found : Option CacheEntry) (older : List CacheEvent) : Prop where
  /-- It is what was last stored, and has not expired. -/
  hit : ∀ entry, found = some entry → ∃ stored, latest cacheKey older = some stored ∧
    now < stored.expiresAt ∧ entry = if touch then stored.hit now else stored
  /-- It misses only what has expired, what is gone, or may be of another route. -/
  miss : found = none → ∀ stored, latest cacheKey older = some stored →
    stored.expiresAt ≤ now ∨ Gone older cacheKey stored ∨
      ∃ n route' t entry, CacheEvent.stored n route' t entry ∈ older ∧
        entry.cacheKey = cacheKey ∧ route' ≠ route

section Recall

variable {cacheKey key : CacheKey} {history older : List CacheEvent} {event : CacheEvent}
  {entry : CacheEntry}

@[simp] theorem latest_stored_self {n : Nat} {route : CacheRoute} {t : DateTime} :
    latest entry.cacheKey (.stored n route t entry :: older) = some entry := if_pos rfl

theorem latest_stored_of_ne {n : Nat} {route : CacheRoute} {t : DateTime}
    (h : cacheKey ≠ entry.cacheKey) :
    latest cacheKey (.stored n route t entry :: older) = latest cacheKey older :=
  if_neg fun heq => h heq.symm

theorem latest_hit {n : Nat} {route : CacheRoute} {t : DateTime} :
    latest cacheKey (.looked n route key true t (some entry) :: older) =
      if key = cacheKey then (latest cacheKey older).map (CacheEntry.hit t)
      else latest cacheKey older := rfl

theorem latest_missed {n : Nat} {route : CacheRoute} {t : DateTime} {touch : Bool} :
    latest cacheKey (.looked n route key touch t none :: older) = latest cacheKey older := by
  cases touch <;> rfl

theorem latest_peeked {n : Nat} {route : CacheRoute} {t : DateTime} {found : Option CacheEntry} :
    latest cacheKey (.looked n route key false t found :: older) = latest cacheKey older := rfl

theorem latest_deleted {t : DateTime} :
    latest cacheKey (.deleted t :: older) = latest cacheKey older := rfl

theorem latest_picked {t : DateTime} {keys : List CacheKey} :
    latest cacheKey (.picked t keys :: older) = latest cacheKey older := rfl

theorem latest_swept {keys : List CacheKey} :
    latest cacheKey (.swept keys :: older) = latest cacheKey older := rfl

theorem latest_returned {n : Nat} {result : CacheResult} :
    latest cacheKey (.returned n result :: older) = latest cacheKey older := rfl

theorem since_cons (h : event.Stores cacheKey = false) :
    since cacheKey (event :: older) = event :: since cacheKey older := by
  unfold since
  rw [List.takeWhile_cons_of_pos (by rw [h]; rfl)]

theorem mem_since_cons {event' : CacheEvent} (h : event' ∈ since cacheKey older)
    (hevent : event.Stores cacheKey = false) : event' ∈ since cacheKey (event :: older) := by
  rw [since_cons hevent]
  exact List.mem_cons_of_mem _ h

theorem mem_since_self (hevent : event.Stores cacheKey = false) :
    event ∈ since cacheKey (event :: older) := by
  rw [since_cons hevent]
  exact List.mem_cons_self

theorem Picked.mono (h : Picked older cacheKey) (hsub : older <:+ history) :
    Picked history cacheKey := by
  obtain ⟨now, keys, before, old, hsuf, hmem⟩ := h
  exact ⟨now, keys, before, old, hsuf.trans hsub, hmem⟩

/-- What is gone stays gone until the next store of its key. -/
theorem Gone.cons (h : Gone older cacheKey entry) (hevent : event.Stores cacheKey = false) :
    Gone (event :: older) cacheKey entry := by
  rcases h with ⟨t, hmem, hle⟩ | ⟨⟨keys, hmem, hkey⟩, hpicked⟩
  · exact .inl ⟨t, mem_since_cons hmem hevent, hle⟩
  · exact .inr ⟨⟨keys, mem_since_cons hmem hevent, hkey⟩, hpicked.mono (List.suffix_cons _ _)⟩

theorem Gone.deleted {t : DateTime} (h : entry.expiresAt ≤ t) :
    Gone (.deleted t :: older) cacheKey entry := .inl ⟨t, mem_since_self rfl, h⟩

theorem Gone.swept {keys : List CacheKey} (hkey : cacheKey ∈ keys) (h : Picked older cacheKey) :
    Gone (.swept keys :: older) cacheKey entry :=
  .inr ⟨⟨keys, mem_since_self rfl, hkey⟩, h.mono (List.suffix_cons _ _)⟩

end Recall

/-! ## Statements -/

section Sql

variable {rows : List LlmCacheRow} {route : CacheRoute} {cacheKey : CacheKey} {now : DateTime}
  {r : LlmCacheRow}

theorem found_iff :
    r.Found route cacheKey now = true ↔ r.key = cacheKey ∧ r.route = route ∧ now < r.expiresAt := by
  simp [LlmCacheRow.Found, LlmCacheRow.key, and_assoc]

theorem lookupSql_eq_some (h : lookupSql rows route cacheKey now = some r) :
    r ∈ rows ∧ r.key = cacheKey ∧ r.route = route ∧ now < r.expiresAt :=
  ⟨List.mem_of_find?_eq_some h, found_iff.1 (List.find?_some h)⟩

@[simp] theorem key_touched : (touched route cacheKey now r).key = r.key := by
  unfold touched
  split <;> rfl

@[simp] theorem id_touched : (touched route cacheKey now r).id = r.id := by
  unfold touched
  split <;> rfl

@[simp] theorem route_touched : (touched route cacheKey now r).route = r.route := by
  unfold touched
  split <;> rfl

/-- A row that `cleanup_sql` chooses is one of the route that has expired. -/
theorem mem_expiredSql {limit : Nat} (h : r ∈ expiredSql rows route now limit) :
    r ∈ rows ∧ r.route = route ∧ r.expiresAt ≤ now := by
  have hmem := List.mem_of_mem_take h
  rw [List.mem_mergeSort, List.mem_filter, Bool.and_eq_true, decide_eq_true_eq,
    decide_eq_true_eq] at hmem
  exact hmem

/-- `upsert_sql` leaves a row under the key, with the columns of the new row. -/
theorem key_mergeEntry (new old : LlmCacheRow) (_ : old.key = new.key) :
    (mergeEntry new old).key = new.key := rfl

end Sql

/-! ## What every statement keeps -/

/-- The call of a request looks for an entry. -/
def CacheRequest.Looks (route : CacheRoute) (cacheKey : CacheKey) (touch : Bool) :
    CacheRequest → Prop
  | lookup _ route' key => route' = route ∧ key = cacheKey ∧ touch = true
  | peek route' key => route' = route ∧ key = cacheKey ∧ touch = false
  | waitForEntry route' key => route' = route ∧ key = cacheKey ∧ touch = false
  | _ => False

/-- What a request may return after some events. -/
def Backed (n : Nat) (call : CacheRequest) (history : List CacheEvent) : CacheResult → Prop
  | .found (.ok found) => ∃ route cacheKey touch now older, call.Looks route cacheKey touch ∧
      (CacheEvent.looked n route cacheKey touch now found :: older) <:+ history
  | .stored (.ok entry) => ∃ route now older,
      (CacheEvent.stored n route now entry :: older) <:+ history
  | _ => True

theorem Backed.mono {n : Nat} {call : CacheRequest} {history history' : List CacheEvent}
    {result : CacheResult} (h : Backed n call history result) (hsub : history <:+ history') :
    Backed n call history' result := by
  cases result with
  | found r =>
    cases r with
    | error e => trivial
    | ok found =>
      obtain ⟨route, cacheKey, touch, now, older, hlooks, hsuf⟩ := h
      exact ⟨route, cacheKey, touch, now, older, hlooks, hsuf.trans hsub⟩
  | stored r =>
    cases r with
    | error e => trivial
    | ok entry =>
      obtain ⟨route, now, older, hsuf⟩ := h
      exact ⟨route, now, older, hsuf.trans hsub⟩
  | cleaned r => trivial

/-- An entry has what a request has asked to store, as it is read. -/
def CacheRequests.Asked (u : CacheRequests) (n : Nat) (route : CacheRoute) (entry : CacheEntry) :
    Prop :=
  ∃ repo requestPayload responsePayload ttl,
    u.requests[n]? = some (.store repo route entry.cacheKey requestPayload responsePayload ttl) ∧
      entry.requestPayload = u.platform.fromJsonb requestPayload ∧
      entry.responsePayload = u.platform.fromJsonb responsePayload

/-- Nobody has found the entry yet. -/
def CacheEntry.Unseen (entry : CacheEntry) : Prop := entry.hitCount = 0 ∧ entry.lastHitAt = none

/-- An event is right after the events before it. -/
def CacheRequests.Right (u : CacheRequests) (older : List CacheEvent) : CacheEvent → Prop
  | .stored n route _ entry => u.Asked n route entry ∧ entry.Unseen
  | .looked _ route cacheKey touch now found => Faithful route cacheKey touch now found older
  | .deleted _ => True
  | .picked _ _ => True
  | .swept _ => True
  | .returned n result => ∃ call, u.requests[n]? = some call ∧ Backed n call older result

/-- The table and the history in a run. -/
structure CacheStore.Good (u : CacheRequests) (w : CacheStore) : Prop where
  ids : (w.rows.map LlmCacheRow.id).Nodup
  fresh : ∀ id ∈ w.rows.map LlmCacheRow.id, id < w.nextId
  caches : Table.Caches LlmCacheRow.key LlmCacheRow.entry (Gone w.history) w.rows
    fun k => latest k w.history
  routes : ∀ r ∈ w.rows, ∃ n t entry, CacheEvent.stored n r.route t entry ∈ w.history ∧
    entry.cacheKey = r.key
  right : ∀ event older, (event :: older) <:+ w.history → u.Right older event

namespace CacheStore.Good

variable {u : CacheRequests} {w : CacheStore}

/-- An event that is right may be added. -/
theorem right_cons {event : CacheEvent} (h : w.Good u) (hevent : u.Right w.history event) :
    ∀ event' older, (event' :: older) <:+ (event :: w.history) → u.Right older event' := by
  intro event' older hsuf
  rcases List.suffix_cons_iff.1 hsuf with heq | hold
  · obtain ⟨rfl, rfl⟩ := List.cons.inj heq
    exact hevent
  · exact h.right event' older hold

/-- Routes of rows are routes of stores. -/
theorem routes_cons {event : CacheEvent} {r : LlmCacheRow} (h : w.Good u) (hr : r ∈ w.rows) :
    ∃ n t entry, CacheEvent.stored n r.route t entry ∈ event :: w.history ∧
      entry.cacheKey = r.key := by
  obtain ⟨n, t, entry, hmem, hkey⟩ := h.routes r hr
  exact ⟨n, t, entry, List.mem_cons_of_mem _ hmem, hkey⟩

/-- An event that is no statement on the table. -/
theorem event (h : w.Good u) {event : CacheEvent} (hright : u.Right w.history event)
    (hstores : ∀ k, event.Stores k = false)
    (hlast : ∀ k, latest k (event :: w.history) = latest k w.history) :
    Good u { w with history := event :: w.history } where
  ids := h.ids
  fresh := h.fresh
  caches := by
    have hsame : (fun k => latest k (event :: w.history)) = fun k => latest k w.history :=
      funext hlast
    dsimp only
    rw [hsame]
    exact h.caches.mono fun _ _ hgone => hgone.cons (hstores _)
  routes _ hr := h.routes_cons hr
  right := h.right_cons hright

/-- A statement that deletes rows that may be gone then. -/
theorem delete (h : w.Good u) {event : CacheEvent} (hright : u.Right w.history event)
    (hstores : ∀ k, event.Stores k = false)
    (hlast : ∀ k, latest k (event :: w.history) = latest k w.history) {p : LlmCacheRow → Bool}
    (hp : ∀ r ∈ w.rows, p r = false → Gone (event :: w.history) r.key r.entry) :
    Good u { w with rows := w.rows.filter p, history := event :: w.history } :=
  have hafter := h.event hright hstores hlast
  { ids := hafter.ids.sublist (List.filter_sublist.map _)
    fresh := fun id hid => hafter.fresh id ((List.filter_sublist.map _).subset hid)
    caches := hafter.caches.filter (fun _ _ hgone => hgone) hp
    routes := fun r hr => hafter.routes r (List.mem_filter.1 hr).1
    right := hafter.right }

/-- What is found is what was stored. -/
theorem faithful_found (h : w.Good u) {route : CacheRoute} {cacheKey : CacheKey} {now : DateTime}
    {r : LlmCacheRow} (hr : lookupSql w.rows route cacheKey now = some r) (touch : Bool) :
    Faithful route cacheKey touch now (some (if touch then r.entry.hit now else r.entry))
      w.history := by
  obtain ⟨hmem, rfl, -, hlive⟩ := lookupSql_eq_some hr
  refine ⟨fun entry hentry => ⟨r.entry, h.caches.current r hmem, hlive, ?_⟩,
    fun hnone => by cases hnone⟩
  exact (Option.some.inj hentry).symm

/-- What is not found is not there, or not any more. -/
theorem faithful_none (h : w.Good u) {route : CacheRoute} {cacheKey : CacheKey} {now : DateTime}
    (hr : lookupSql w.rows route cacheKey now = none) (touch : Bool) :
    Faithful route cacheKey touch now none w.history := by
  refine ⟨fun entry hentry => (by cases hentry), fun _ stored hstored => ?_⟩
  by_cases hin : cacheKey ∈ w.rows.map LlmCacheRow.key
  · obtain ⟨r, hmem, rfl⟩ := List.mem_map.1 hin
    have hcurrent := h.caches.current r hmem
    rw [hstored] at hcurrent
    obtain rfl := Option.some.inj hcurrent
    have hnot : ¬ r.Found route r.key now = true := List.find?_eq_none.1 hr r hmem
    rw [found_iff, not_and, not_and] at hnot
    by_cases hroute : r.route = route
    · exact Or.inl (not_lt.1 (hnot rfl hroute))
    · obtain ⟨n, t, entry, hevent, hkey⟩ := h.routes r hmem
      exact Or.inr (Or.inr ⟨n, r.route, t, entry, hevent, hkey, hroute⟩)
  · exact Or.inr (Or.inl (h.caches.missing cacheKey stored hstored hin))

/-- `touch_sql` counts a hit on what it finds. -/
theorem touch (h : w.Good u) (n : Nat) (route : CacheRoute) (cacheKey : CacheKey) (now : DateTime) :
    Good u { w with
      rows := touchSql w.rows route cacheKey now
      history := .looked n route cacheKey true now
        ((lookupSql w.rows route cacheKey now).map fun r => r.entry.hit now) :: w.history } := by
  cases hfound : lookupSql w.rows route cacheKey now with
  | none =>
    have hidle : ∀ r ∈ w.rows, touched route cacheKey now r = r :=
      fun r hr => if_neg (List.find?_eq_none.1 hfound r hr)
    have hsame : touchSql w.rows route cacheKey now = w.rows := by
      rw [touchSql, List.map_congr_left hidle, List.map_id']
    rw [hsame]
    exact h.event (h.faithful_none hfound true) (fun _ => rfl) fun _ => latest_missed
  | some hit =>
    obtain ⟨hmem, hkey, hroute, hlive⟩ := lookupSql_eq_some hfound
    have hid : (touchSql w.rows route cacheKey now).map LlmCacheRow.id
        = w.rows.map LlmCacheRow.id := by
      rw [touchSql, List.map_map]
      exact List.map_congr_left fun r _ => id_touched
    have hright := h.faithful_found hfound true
    refine ⟨?_, ?_, h.caches.map (fun r => key_touched) (fun r hr => ?_) fun k v hv hk => ?_,
      fun r hr => ?_, h.right_cons hright⟩
    · rw [hid]
      exact h.ids
    · rw [hid]
      exact h.fresh
    · have hcurrent := h.caches.current r hr
      dsimp only [Option.map_some] at hcurrent ⊢
      rw [latest_hit, hcurrent]
      by_cases hsame : r.key = cacheKey
      · obtain rfl := h.caches.eq_of_key hr hmem (hsame.trans hkey.symm)
        rw [if_pos hsame.symm, touched, if_pos (found_iff.2 ⟨hsame, hroute, hlive⟩)]
        rfl
      · rw [if_neg fun heq => hsame heq.symm, touched,
          if_neg fun hyes => hsame (found_iff.1 hyes).1]
    · have hother : k ≠ cacheKey := by
        rintro rfl
        exact hk (hkey ▸ List.mem_map_of_mem hmem)
      dsimp only [Option.map_some] at hv ⊢
      rw [latest_hit, if_neg fun heq => hother heq.symm] at hv
      exact (h.caches.missing k v hv hk).cons rfl
    · obtain ⟨old, hold, rfl⟩ := List.mem_map.1 hr
      rw [route_touched, key_touched]
      exact h.routes_cons hold

/-- `lookup_sql` only looks. -/
theorem lookup (h : w.Good u) (n : Nat) (route : CacheRoute) (cacheKey : CacheKey)
    (now : DateTime) :
    Good u { w with
      history := .looked n route cacheKey false now
        ((lookupSql w.rows route cacheKey now).map LlmCacheRow.entry) :: w.history } := by
  cases hfound : lookupSql w.rows route cacheKey now with
  | none =>
    exact h.event (h.faithful_none hfound false) (fun _ => rfl) fun _ => latest_peeked
  | some r =>
    exact h.event (h.faithful_found hfound false) (fun _ => rfl) fun _ => latest_peeked

/-- `upsert_sql` stores what a request has asked for. -/
theorem upsert (h : w.Good u) {n : Nat} {route : CacheRoute} {now : DateTime} {new : LlmCacheRow}
    (hid : new.id = w.nextId) (hroute : new.route = route)
    (hasked : u.Asked n route new.entry ∧ new.entry.Unseen) :
    Good u { w with
      rows := upsertSql w.rows new
      nextId := w.nextId + 1
      history := .stored n route now new.entry :: w.history } := by
  have hids : (upsertSql w.rows new).map LlmCacheRow.id = w.rows.map LlmCacheRow.id ∨
      (upsertSql w.rows new).map LlmCacheRow.id = w.rows.map LlmCacheRow.id ++ [new.id] :=
    Table.map_upsert_of_merge fun old => rfl
  have hmap : (fun k => latest k (.stored n route now new.entry :: w.history)) =
      Function.update (fun k => latest k w.history) new.key (some new.entry) := by
    funext k
    by_cases hk : k = new.key
    · rw [hk, Function.update_self]
      exact latest_stored_self
    · rw [Function.update_of_ne hk]
      exact latest_stored_of_ne hk
  refine ⟨?_, fun id hmem => ?_, ?_, fun r hr => ?_, h.right_cons hasked⟩
  · rcases hids with hsame | hmore
    · rw [hsame]
      exact h.ids
    · rw [hmore, List.nodup_append]
      refine ⟨h.ids, List.nodup_singleton _, fun id hold id' hnew heq => ?_⟩
      have hlt := h.fresh id hold
      have hlast := List.mem_singleton.1 hnew
      omega
  · dsimp only at hmem ⊢
    rcases hids with hsame | hmore
    · rw [hsame] at hmem
      have hlt := h.fresh id hmem
      omega
    · rw [hmore] at hmem
      rcases List.mem_append.1 hmem with hold | hnew
      · have hlt := h.fresh id hold
        omega
      · have hlast := List.mem_singleton.1 hnew
        omega
  · dsimp only
    rw [hmap]
    refine h.caches.upsert key_mergeEntry (fun old => rfl) fun k v hne hgone => ?_
    exact hgone.cons (decide_eq_false fun heq => hne heq.symm)
  · rcases Table.mem_upsert hr with ⟨hold, -⟩ | ⟨rfl, -⟩ | ⟨old, hold, hkey, rfl⟩
    · exact h.routes_cons hold
    · exact ⟨n, now, r.entry, by rw [hroute]; exact List.mem_cons_self, rfl⟩
    · obtain ⟨n', t, entry, hmem, hentry⟩ := h.routes old hold
      exact ⟨n', t, entry, List.mem_cons_of_mem _ hmem, hentry.trans hkey⟩

end CacheStore.Good

/-! ## Later tables -/

/-- What one statement or more have left: ids are not used again, and a row keeps its key. -/
structure CacheStore.Later (w w' : CacheStore) : Prop where
  history : w.history <:+ w'.history
  nextId : w.nextId ≤ w'.nextId
  rows : ∀ r ∈ w'.rows, r.id < w.nextId → ∃ old ∈ w.rows, old.id = r.id ∧ old.key = r.key

/-- The rows that still have these ids were picked when they had expired. -/
structure CacheStore.PickedIds (w : CacheStore) (ids : List Int) : Prop where
  old : ∀ id ∈ ids, id < w.nextId
  picked : ∀ r ∈ w.rows, r.id ∈ ids → Picked w.history r.key

namespace CacheStore

variable {w w' : CacheStore}

theorem Later.refl (w : CacheStore) : w.Later w :=
  ⟨List.suffix_refl _, Int.le_refl _, fun r hr _ => ⟨r, hr, rfl, rfl⟩⟩

/-- An event, after which only rows are there that were there. -/
theorem later_cons {rows : List LlmCacheRow} (event : CacheEvent)
    (hrows : ∀ r ∈ rows, ∃ old ∈ w.rows, old.id = r.id ∧ old.key = r.key) :
    w.Later { w with rows, history := event :: w.history } :=
  ⟨List.suffix_cons _ _, Int.le_refl _, fun r hr _ => hrows r hr⟩

theorem later_event (w : CacheStore) (event : CacheEvent) :
    w.Later { w with history := event :: w.history } :=
  later_cons event fun r hr => ⟨r, hr, rfl, rfl⟩

theorem later_filter (w : CacheStore) (event : CacheEvent) (p : LlmCacheRow → Bool) :
    w.Later { w with rows := w.rows.filter p, history := event :: w.history } :=
  later_cons event fun r hr => ⟨r, (List.mem_filter.1 hr).1, rfl, rfl⟩

theorem later_touch (w : CacheStore) (event : CacheEvent) (route : CacheRoute)
    (cacheKey : CacheKey) (now : DateTime) :
    w.Later { w with
      rows := touchSql w.rows route cacheKey now
      history := event :: w.history } := by
  refine later_cons event fun r hr => ?_
  obtain ⟨old, hold, rfl⟩ := List.mem_map.1 hr
  exact ⟨old, hold, id_touched.symm, key_touched.symm⟩

theorem later_upsert {event : CacheEvent} {new : LlmCacheRow} (hid : new.id = w.nextId) :
    w.Later { w with
      rows := upsertSql w.rows new
      nextId := w.nextId + 1
      history := event :: w.history } := by
  refine ⟨List.suffix_cons _ _, Int.le_add_one (Int.le_refl _), fun r hr hlt => ?_⟩
  rcases Table.mem_upsert hr with ⟨hold, -⟩ | ⟨rfl, -⟩ | ⟨old, hold, hkey, rfl⟩
  · exact ⟨r, hold, rfl, rfl⟩
  · exact absurd hlt (by omega)
  · exact ⟨old, hold, rfl, hkey⟩

theorem PickedIds.mono {ids : List Int} (h : w.PickedIds ids) (hlater : w.Later w') :
    w'.PickedIds ids := by
  refine ⟨fun id hid => Int.lt_of_lt_of_le (h.old id hid) hlater.nextId, fun r hr hid => ?_⟩
  obtain ⟨old, hold, hsame, hkey⟩ := hlater.rows r hr (h.old _ hid)
  rw [← hkey]
  exact (h.picked old hold (hsame ▸ hid)).mono hlater.history

/-- `pickExpired` picks expired rows. -/
theorem Good.pickedIds {u : CacheRequests} (h : w.Good u) (route : CacheRoute) (now : DateTime)
    (limit : Nat) :
    let expired := expiredSql w.rows route now limit
    PickedIds { w with history := .picked now (expired.map LlmCacheRow.key) :: w.history }
      (expired.map LlmCacheRow.id) := by
  refine ⟨fun id hid => ?_, fun r hr hid => ?_⟩
  · obtain ⟨r, hr, rfl⟩ := List.mem_map.1 hid
    exact h.fresh r.id (List.mem_map_of_mem (mem_expiredSql hr).1)
  · obtain ⟨r', hr', hsame⟩ := List.mem_map.1 hid
    obtain ⟨hmem, -, hexpired⟩ := mem_expiredSql hr'
    obtain rfl : r' = r := List.inj_on_of_nodup_map h.ids hmem hr hsame
    exact ⟨now, _, w.history, r'.entry, List.suffix_refl _, List.mem_map_of_mem hr',
      h.caches.current r' hmem, hexpired⟩

/-- `deletePicked` deletes rows that were picked. -/
theorem Good.sweep {u : CacheRequests} (h : w.Good u) {ids : List Int} (hids : w.PickedIds ids) :
    Good u { w with
      rows := deletePickedSql w.rows ids
      history := .swept ((w.rows.filter fun r => r.id ∈ ids).map LlmCacheRow.key) :: w.history } := by
  have hright : u.Right w.history
      (.swept ((w.rows.filter fun r => r.id ∈ ids).map LlmCacheRow.key)) := trivial
  refine h.delete hright (fun _ => rfl) (fun _ => rfl) fun r hr hremoved => ?_
  rw [decide_eq_false_iff_not, not_not] at hremoved
  refine .swept (List.mem_map_of_mem (List.mem_filter.2 ⟨hr, ?_⟩)) (hids.picked r hr hremoved)
  exact decide_eq_true hremoved

end CacheStore

/-! ## The calls of a request -/

/-- Where a request stands: its number, what it was asked, the ids that a cleanup of it has picked
last, with their route, and the answer that it would return. -/
structure Position where
  request : Nat
  call : CacheRequest
  picked : Option (CacheRoute × List Int) := none
  answer : Option CacheResult := none

namespace Position

/-- The calls of a request. -/
def Allows (p : Position) : StoreOp CacheResult → Prop
  | .touch n route cacheKey => n = p.request ∧ p.call.Looks route cacheKey true
  | .lookup n route cacheKey => n = p.request ∧ p.call.Looks route cacheKey false
  | .upsert n route cacheKey requestPayload responsePayload _ => n = p.request ∧
      ∃ repo ttl, p.call = .store repo route cacheKey requestPayload responsePayload ttl
  | .deletePicked ids => ∃ route, p.picked = some (route, ids)
  | .returned n result => n = p.request ∧ p.answer = some result
  | _ => True

/-- A request after a call. -/
def next (p : Position) : (o : StoreOp CacheResult) → o.Resp → Position
  | .touch _ _ _, answer => { p with answer := some (.found answer) }
  | .lookup _ _ _, answer => { p with answer := some (.found answer) }
  | .upsert _ _ _ _ _ _, answer => { p with answer := some (.stored answer) }
  | .deleteExpiredByKey _, .error e => { p with answer := some (.found (.error e)) }
  | .pickExpired route _, .ok ids => { p with picked := some (route, ids) }
  | .pickExpired _ _, .error e => { p with answer := some (.cleaned (.error e)) }
  | .deletePicked _, answer =>
    { p with answer := p.picked.map fun picked =>
        .cleaned (answer.map fun deleted => ⟨picked.1, deleted.getD 0⟩) }
  | _, _ => p

/-- The request with its call. -/
def Of (n : Nat) (call : CacheRequest) (p : Position) : Prop := p.request = n ∧ p.call = call

end Position

/-- The calls of a request, as a specification. -/
def storeSpec : OpSpec storeOps Position where
  pre := Position.Allows
  step p o answer p' := p' = p.next o answer

section Follows

variable {n repo : Nat} {call : CacheRequest} {route : CacheRoute} {cacheKey : CacheKey}
  {p : Position}

/-- A part of a request that ends with an answer. -/
def Answers {α : Type} (n : Nat) (call : CacheRequest) (wrap : Except SqlxError α → CacheResult)
    (r : Except SqlxError α) (p : Position) : Prop := p.Of n call ∧ p.answer = some (wrap r)

theorem follows_cleanupExpired (hp : p.Of n call) (limit : Int) :
    (LlmCacheRepo.cleanupExpired route limit).wp storeSpec (Answers n call .cleaned) p := by
  refine ⟨trivial, fun answer p' hp' => ?_⟩
  subst hp'
  cases answer with
  | error e => exact ⟨hp, rfl⟩
  | ok ids =>
    refine ⟨⟨route, rfl⟩, fun answer p' hp' => ?_⟩
    subst hp'
    cases answer with
    | error e => exact ⟨hp, rfl⟩
    | ok deleted => exact ⟨hp, rfl⟩

theorem follows_maybeRunLazyCleanup (hp : p.Of n call) :
    (LlmCacheRepo.maybeRunLazyCleanup repo route).wp storeSpec (fun _ p' => p'.Of n call) p := by
  refine ⟨trivial, fun due p' hp' => ?_⟩
  subst hp'
  cases due with
  | true =>
    refine (Prog.wp_bind _ _ _ _).2 (Prog.wp_mono ?_ (follows_cleanupExpired hp 100))
    exact fun _ _ hanswer => hanswer.1
  | false => exact hp

theorem follows_lookup (hp : p.Of n call) (hlooks : call.Looks route cacheKey true) :
    (LlmCacheRepo.lookup repo n route cacheKey).wp storeSpec (Answers n call .found) p := by
  refine (Prog.wp_bind _ _ _ _).2 (Prog.wp_mono ?_ (follows_maybeRunLazyCleanup hp))
  rintro - q ⟨rfl, rfl⟩
  refine ⟨trivial, fun answer q' hq' => ?_⟩
  subst hq'
  cases answer with
  | error e => exact ⟨⟨rfl, rfl⟩, rfl⟩
  | ok _ =>
    refine ⟨⟨rfl, hlooks⟩, fun answer q' hq' => ?_⟩
    subst hq'
    exact ⟨⟨rfl, rfl⟩, rfl⟩

theorem follows_peek (hp : p.Of n call) (hlooks : call.Looks route cacheKey false) :
    (LlmCacheRepo.peek n route cacheKey).wp storeSpec (Answers n call .found) p := by
  obtain ⟨rfl, rfl⟩ := hp
  refine ⟨⟨rfl, hlooks⟩, fun answer p' hp' => ?_⟩
  subst hp'
  exact ⟨⟨rfl, rfl⟩, rfl⟩

theorem follows_waitLoop (hp : p.Of n call) (hlooks : call.Looks route cacheKey false)
    (sleeps : Nat) :
    (LlmCacheRepo.waitLoop n route cacheKey sleeps).wp storeSpec (Answers n call .found) p := by
  induction sleeps generalizing p with
  | zero => exact follows_peek hp hlooks
  | succ sleeps ih =>
    refine (Prog.wp_bind _ _ _ _).2 (Prog.wp_mono ?_ (follows_peek hp hlooks))
    rintro answer q ⟨hq, hanswer⟩
    cases answer with
    | error e => exact ⟨hq, hanswer⟩
    | ok found =>
      cases found with
      | some entry => exact ⟨hq, hanswer⟩
      | none => exact ih hq

theorem follows_store (hp : p.Of n call) {requestPayload responsePayload : Json}
    {ttlSeconds : Option Int}
    (hcall : call = .store repo route cacheKey requestPayload responsePayload ttlSeconds) :
    (LlmCacheRepo.store repo n route cacheKey requestPayload responsePayload ttlSeconds).wp
      storeSpec (Answers n call .stored) p := by
  refine (Prog.wp_bind _ _ _ _).2 (Prog.wp_mono ?_ (follows_maybeRunLazyCleanup hp))
  rintro - q ⟨rfl, rfl⟩
  refine ⟨trivial, fun now q' hq' => ?_⟩
  subst hq'
  dsimp only
  split
  · exact trivial
  · refine ⟨⟨rfl, repo, ttlSeconds, hcall⟩, fun answer q' hq' => ?_⟩
    subst hq'
    exact ⟨⟨rfl, rfl⟩, rfl⟩

/-- A part of a request, and the return of what it has answered. -/
theorem follows_returned {α : Type} {wrap : Except SqlxError α → CacheResult}
    {part : Prog storeOps (Except SqlxError α)}
    (h : part.wp storeSpec (Answers n call wrap) p) :
    (part.bind fun r => Prog.op (I := storeOps) (.returned n (wrap r)) Prog.ret).wp storeSpec
      (fun _ _ => True) p := by
  refine (Prog.wp_bind _ _ _ _).2 (Prog.wp_mono ?_ h)
  rintro r q ⟨⟨rfl, -⟩, hanswer⟩
  exact ⟨⟨rfl, hanswer⟩, fun _ _ _ => trivial⟩

/-- Every request makes its own calls, and returns what it was answered. -/
theorem follows_request (n : Nat) (call : CacheRequest) :
    (call.prog n).wp storeSpec (fun _ _ => True) { request := n, call } := by
  have hp : Position.Of n call { request := n, call } := ⟨rfl, rfl⟩
  cases call with
  | lookup repo route cacheKey => exact follows_returned (follows_lookup hp ⟨rfl, rfl, rfl⟩)
  | peek route cacheKey => exact follows_returned (follows_peek hp ⟨rfl, rfl, rfl⟩)
  | waitForEntry route cacheKey =>
    have hwait : (LlmCacheRepo.waitForEntry n route cacheKey).wp storeSpec
        (Answers n (.waitForEntry route cacheKey) .found)
        { request := n, call := .waitForEntry route cacheKey } := by
      refine ⟨trivial, fun sleeps p' hp' => ?_⟩
      subst hp'
      exact follows_waitLoop hp ⟨rfl, rfl, rfl⟩ sleeps
    exact follows_returned hwait
  | store repo route cacheKey requestPayload responsePayload ttlSeconds =>
    exact follows_returned (follows_store hp rfl)
  | cleanupExpired route limit => exact follows_returned (follows_cleanupExpired hp limit)

end Follows

/-! ## What a call does -/

/-- A request with its number, the ids that it has picked, and an answer that it may return. -/
structure Standing (u : CacheRequests) (w : CacheStore) (i : Nat) (p : Position) : Prop where
  request : p.request = i
  call : u.requests[i]? = some p.call
  picked : ∀ route ids, p.picked = some (route, ids) → w.PickedIds ids
  backed : ∀ result, p.answer = some result → Backed i p.call w.history result

theorem Standing.mono {u : CacheRequests} {w w' : CacheStore} {i : Nat} {p : Position}
    (h : Standing u w i p) (hlater : w.Later w') : Standing u w' i p :=
  ⟨h.request, h.call, fun route ids hids => (h.picked route ids hids).mono hlater,
    fun result hresult => (h.backed result hresult).mono hlater.history⟩

/-- A request after an answer. -/
theorem Standing.answer {u : CacheRequests} {w w' : CacheStore} {i : Nat} {p : Position}
    (h : Standing u w i p) (hlater : w.Later w') {result : CacheResult}
    (hbacked : Backed i p.call w'.history result) :
    Standing u w' i { p with answer := some result } :=
  ⟨h.request, h.call, fun route ids hids => (h.picked route ids hids).mono hlater,
    fun _ hresult => Option.some.inj hresult ▸ hbacked⟩

/-- What a call of request `i` leaves. -/
structure Keeps (u : CacheRequests) (w w' : CacheStore) (i : Nat) (p' : Position) : Prop where
  good : w'.Good u
  later : w.Later w'
  standing : Standing u w' i p'

section Exec

variable {u : CacheRequests} {w : CacheStore} {i : Nat} {p : Position} {o : StoreOp CacheResult}

/-- A statement that answers with an entry or a row. -/
theorem keeps_statement {α : Type} {after : CacheStore} (wrap : Except SqlxError α → CacheResult)
    (hw : w.Good u) (hp : Standing u w i p) (hafter : after.Good u) (hlater : w.Later after)
    (answer : α) (hok : Backed i p.call after.history (wrap (.ok answer)))
    (herror : ∀ e history, Backed i p.call history (wrap (.error e)))
    (fault : Governance.StatementFault) :
    Keeps u w (w.statement fault answer after).2 i
      { p with answer := some (wrap (w.statement fault answer after).1) } := by
  cases fault with
  | none => exact ⟨hafter, hlater, hp.answer hlater hok⟩
  | failed e => exact ⟨hw, .refl w, hp.answer (.refl w) (herror e _)⟩
  | lost e => exact ⟨hafter, hlater, hp.answer hlater (herror e _)⟩

theorem keeps_lazyCleanupDue (hw : w.Good u) (hp : Standing u w i p) (repo : Nat)
    (c : StoreChoice) : Keeps u w (CacheStore.exec u.platform w (.lazyCleanupDue repo) c).2 i p := by
  have hkeeps (last : Nat → Option Int) : Keeps u w { w with lazyCleanupLast := last } i p := by
    have hlater : w.Later { w with lazyCleanupLast := last } :=
      ⟨List.suffix_refl _, Int.le_refl _, fun r hr _ => ⟨r, hr, rfl, rfl⟩⟩
    exact ⟨⟨hw.ids, hw.fresh, hw.caches, hw.routes, hw.right⟩, hlater, hp.mono hlater⟩
  unfold CacheStore.exec
  dsimp only
  split
  · exact hkeeps _
  · exact hkeeps w.lazyCleanupLast

theorem keeps_pickExpired (hw : w.Good u) (hp : Standing u w i p) (route : CacheRoute) (limit : Int)
    (c : StoreChoice) :
    Keeps u w (CacheStore.exec u.platform w (.pickExpired route limit) c).2 i
      (p.next (.pickExpired route limit)
        (CacheStore.exec u.platform w (.pickExpired route limit) c).1) := by
  unfold CacheStore.exec
  dsimp only
  by_cases hlimit : limit < 0
  · rw [if_pos hlimit]
    exact ⟨hw, .refl w, hp.answer (.refl w) trivial⟩
  · rw [if_neg hlimit]
    have hlater := w.later_event (.picked c.now
      ((expiredSql w.rows route c.now limit.toNat).map LlmCacheRow.key))
    refine ⟨hw.event trivial (fun _ => rfl) fun _ => rfl, hlater, hp.request, hp.call,
      fun route' ids hids => ?_, (hp.mono hlater).backed⟩
    obtain ⟨-, rfl⟩ := Prod.mk.inj (Option.some.inj hids)
    exact hw.pickedIds route c.now limit.toNat

theorem keeps_deletePicked (hw : w.Good u) (hp : Standing u w i p) {route : CacheRoute}
    {ids : List Int} (hpicked : p.picked = some (route, ids)) (c : StoreChoice) :
    Keeps u w (CacheStore.exec u.platform w (.deletePicked ids) c).2 i
      (p.next (.deletePicked ids) (CacheStore.exec u.platform w (.deletePicked ids) c).1) := by
  have hnext (answer : Except SqlxError (Option Int)) : p.next (.deletePicked ids) answer =
      { p with answer := some (.cleaned (answer.map fun deleted => ⟨route, deleted.getD 0⟩)) } := by
    rw [Position.next, hpicked]
    rfl
  rw [hnext]
  exact keeps_statement (fun answer => .cleaned (answer.map fun deleted : Option Int =>
    ⟨route, deleted.getD 0⟩)) hw hp (hw.sweep (hp.picked route ids hpicked))
    (w.later_filter _ _) _ trivial (fun _ _ => trivial) c.fault

theorem keeps_deleteExpiredByKey (hw : w.Good u) (hp : Standing u w i p) (cacheKey : CacheKey)
    (c : StoreChoice) :
    Keeps u w (CacheStore.exec u.platform w (.deleteExpiredByKey cacheKey) c).2 i
      (p.next (.deleteExpiredByKey cacheKey)
        (CacheStore.exec u.platform w (.deleteExpiredByKey cacheKey) c).1) := by
  have hafter : CacheStore.Good u { w with
      rows := deleteExpiredByKeySql w.rows cacheKey c.now
      history := .deleted c.now :: w.history } := by
    have hright : u.Right w.history (.deleted c.now) := trivial
    refine hw.delete hright (fun _ => rfl) (fun _ => rfl) fun r _ hremoved => ?_
    rw [Bool.not_eq_false', Bool.and_eq_true, decide_eq_true_eq, decide_eq_true_eq] at hremoved
    exact .deleted hremoved.2
  have hlater : w.Later { w with
      rows := deleteExpiredByKeySql w.rows cacheKey c.now
      history := .deleted c.now :: w.history } := w.later_filter _ _
  unfold CacheStore.exec CacheStore.statement
  dsimp only
  cases c.fault with
  | none => exact ⟨hafter, hlater, hp.mono hlater⟩
  | failed e => exact ⟨hw, .refl w, hp.answer (.refl w) trivial⟩
  | lost e => exact ⟨hafter, hlater, hp.answer hlater trivial⟩

/-- Every call of a request keeps what holds. -/
theorem keeps_exec (hw : w.Good u) (hp : Standing u w i p) (hallows : p.Allows o)
    (c : StoreChoice) : Keeps u w (CacheStore.exec u.platform w o c).2 i
      (p.next o (CacheStore.exec u.platform w o c).1) := by
  have hidle : Keeps u w w i p := ⟨hw, .refl w, hp⟩
  cases o with
  | lazyCleanupDue repo => exact keeps_lazyCleanupDue hw hp repo c
  | pickExpired route limit => exact keeps_pickExpired hw hp route limit c
  | deletePicked ids =>
    obtain ⟨route, hpicked⟩ := hallows
    exact keeps_deletePicked hw hp hpicked c
  | deleteExpiredByKey cacheKey => exact keeps_deleteExpiredByKey hw hp cacheKey c
  | touch n route cacheKey =>
    obtain ⟨rfl, hlooks⟩ := hallows
    obtain rfl := hp.request
    exact keeps_statement .found hw hp (hw.touch p.request route cacheKey c.now)
      (w.later_touch _ route cacheKey c.now) _
      ⟨route, cacheKey, true, c.now, w.history, hlooks, List.suffix_refl _⟩ (fun _ _ => trivial) _
  | lookup n route cacheKey =>
    obtain ⟨rfl, hlooks⟩ := hallows
    obtain rfl := hp.request
    exact keeps_statement .found hw hp (hw.lookup p.request route cacheKey c.now) (w.later_event _) _
      ⟨route, cacheKey, false, c.now, w.history, hlooks, List.suffix_refl _⟩ (fun _ _ => trivial) _
  | utcNow => exact hidle
  | upsert n route cacheKey requestPayload responsePayload expiresAt =>
    obtain ⟨rfl, repo, ttl, hcall⟩ := hallows
    obtain rfl := hp.request
    have hasked : u.Asked p.request route (CacheStore.newRow u.platform w route cacheKey
        requestPayload responsePayload c.now expiresAt).entry :=
      ⟨repo, requestPayload, responsePayload, ttl, hcall ▸ hp.call, rfl, rfl⟩
    exact keeps_statement .stored hw hp (hw.upsert rfl rfl ⟨hasked, rfl, rfl⟩)
      (CacheStore.later_upsert rfl) _ ⟨route, c.now, w.history, List.suffix_refl _⟩
      (fun _ _ => trivial) _
  | polls => exact hidle
  | returned n result =>
    obtain ⟨rfl, hanswer⟩ := hallows
    obtain rfl := hp.request
    exact ⟨hw.event ⟨p.call, hp.call, hp.backed result hanswer⟩ (fun _ => rfl)
      fun _ => latest_returned, w.later_event _, hp.mono (w.later_event _)⟩

end Exec

/-! ## Every run -/

/-- The discipline of the requests. -/
def storeDiscipline (u : CacheRequests) : Discipline u.system Position where
  spec := storeSpec
  inv w v := CacheStore.Good u w ∧ ∀ i l p, v i = some (l, p) → Standing u w i p

theorem storeDiscipline_kept (u : CacheRequests) :
    (storeDiscipline u).Kept fun _ _ => True := by
  refine ⟨fun w v v' hsub hinv => ⟨hinv.1, fun i l p hi => ?_⟩,
    fun s f i c l o k _ hti hinv hallows => ?_, fun s f arrival => arrival.elim⟩
  · rcases hsub i with hnone | hsame
    · rw [hnone] at hi
      cases hi
    · exact hinv.2 i l p (hsame ▸ hi)
  · have hkeeps := keeps_exec hinv.1 (hinv.2 i l (f i) (Discipline.view_of_task hti)) hallows c
    refine ⟨_, rfl, hkeeps.good, fun j l' q hj => ?_⟩
    by_cases hji : j = i
    · subst hji
      rw [Function.update_self] at hj
      obtain rfl := congrArg Prod.snd (Option.some.inj hj)
      exact hkeeps.standing
    · rw [Function.update_of_ne hji] at hj
      exact (hinv.2 j l' q hj).mono hkeeps.later

/-- Where a request starts. -/
def CacheRequests.position (u : CacheRequests) (i : Nat) : Position where
  request := i
  call := (u.requests[i]?).getD (.cleanupExpired .interpret 0)

theorem CacheRequests.position_eq (u : CacheRequests) {i : Nat} {call : CacheRequest}
    (h : u.requests[i]? = some call) : u.position i = { request := i, call } := by
  rw [position, h]
  rfl

/-- The table and the history are good in every state of every run. -/
theorem CacheRequests.Reached.good {u : CacheRequests} {s : u.system.State}
    (h : u.Reached s) : CacheStore.Good u s.world := by
  have hempty : CacheStore.Good u
      { rows := [], nextId := 1, lazyCleanupLast := fun _ => none, history := [] } :=
    ⟨List.nodup_nil, fun _ hid => absurd hid List.not_mem_nil, Table.Caches.nil,
      fun _ hr => absurd hr List.not_mem_nil, fun event older hsuf => by
        cases List.suffix_nil.1 hsuf⟩
  have hbefore : (storeDiscipline u).Holds u.start := by
    refine ⟨u.position, ⟨hempty, fun i l p hi => ?_⟩, fun i t ht => ?_⟩
    · obtain ⟨t, ht, hpair⟩ := Option.map_eq_some_iff.1 hi
      obtain ⟨r, hr, -⟩ := Option.bind_eq_some_iff.1 ht
      obtain rfl : u.position i = p := congrArg Prod.snd hpair
      rw [u.position_eq hr]
      exact ⟨rfl, hr, fun _ _ hpicked => (by cases hpicked), fun _ hanswer => by cases hanswer⟩
    · obtain ⟨r, hr, hkeep⟩ := Option.bind_eq_some_iff.1 ht
      obtain rfl := Pool.keep_eq_some hkeep
      rw [u.position_eq hr]
      exact follows_request i r
  obtain ⟨f, hinv, -⟩ := (storeDiscipline_kept u).all.holds_of_reach h hbefore
  exact hinv.1

/-! ## What was stored -/

/-- The entry of a key has the payloads of a store, and the hits since. -/
structure Remembered (u : CacheRequests) (cacheKey : CacheKey) (history : List CacheEvent)
    (entry : CacheEntry) : Prop where
  key : entry.cacheKey = cacheKey
  asked : ∃ n route, u.Asked n route entry
  hits : entry.hitCount = ((since cacheKey history).countP (CacheEvent.Hits cacheKey) : Nat)

/-- An event that is neither a store nor a hit of the key. -/
theorem Remembered.cons {u : CacheRequests} {cacheKey : CacheKey} {older : List CacheEvent}
    {event : CacheEvent} {entry : CacheEntry} (h : Remembered u cacheKey older entry)
    (hstores : event.Stores cacheKey = false) (hhits : event.Hits cacheKey = false) :
    Remembered u cacheKey (event :: older) entry := by
  refine ⟨h.key, h.asked, ?_⟩
  rw [since_cons hstores, List.countP_cons_of_neg (by rw [hhits]; exact Bool.false_ne_true)]
  exact h.hits

/-- A hit is counted. -/
theorem Remembered.hit {u : CacheRequests} {cacheKey : CacheKey} {older : List CacheEvent}
    {entry found : CacheEntry} (h : Remembered u cacheKey older entry) (n : Nat)
    (route : CacheRoute) (now : DateTime) :
    Remembered u cacheKey (.looked n route cacheKey true now (some found) :: older)
      (entry.hit now) := by
  refine ⟨h.key, h.asked, ?_⟩
  have hcounted :
      CacheEvent.Hits cacheKey (.looked n route cacheKey true now (some found)) = true :=
    decide_eq_true rfl
  rw [since_cons rfl, List.countP_cons_of_pos hcounted, Nat.cast_succ, ← h.hits]
  rfl

/-- The entry that is latest was stored. -/
theorem remembered_of_recall {u : CacheRequests} {cacheKey : CacheKey} {history : List CacheEvent}
    (hright : ∀ event older, (event :: older) <:+ history → u.Right older event)
    {entry : CacheEntry} (h : latest cacheKey history = some entry) :
    Remembered u cacheKey history entry := by
  induction history generalizing entry with
  | nil => cases h
  | cons event older ih =>
    have hbefore : ∀ {entry}, latest cacheKey older = some entry →
        Remembered u cacheKey older entry :=
      ih fun event' older' hsuf => hright event' older' (hsuf.trans (List.suffix_cons _ _))
    cases event with
    | stored n route t stored =>
      obtain ⟨hasked, hunseen, -⟩ := hright _ _ (List.suffix_refl _)
      by_cases hkey : stored.cacheKey = cacheKey
      · subst hkey
        rw [latest_stored_self] at h
        obtain rfl := Option.some.inj h
        refine ⟨rfl, ⟨n, route, hasked⟩, ?_⟩
        rw [hunseen, since, List.takeWhile_cons_of_neg (by simp [CacheEvent.Stores])]
        rfl
      · rw [latest_stored_of_ne fun heq => hkey heq.symm] at h
        exact (hbefore h).cons (decide_eq_false hkey) rfl
    | looked n route key touch now found =>
      cases found with
      | none =>
        rw [latest_missed] at h
        exact (hbefore h).cons rfl (by cases touch <;> rfl)
      | some entry' =>
        cases touch with
        | false =>
          rw [latest_peeked] at h
          exact (hbefore h).cons rfl rfl
        | true =>
          rw [latest_hit] at h
          by_cases hkey : key = cacheKey
          · rw [if_pos hkey] at h
            obtain ⟨old, hold, rfl⟩ := Option.map_eq_some_iff.1 h
            rw [hkey]
            exact (hbefore hold).hit n route now
          · rw [if_neg hkey] at h
            exact (hbefore h).cons rfl (decide_eq_false hkey)
    | deleted t => exact (hbefore (latest_deleted ▸ h)).cons rfl rfl
    | picked now keys => exact (hbefore (latest_picked ▸ h)).cons rfl rfl
    | swept keys => exact (hbefore (latest_swept ▸ h)).cons rfl rfl
    | returned n result => exact (hbefore (latest_returned ▸ h)).cons rfl rfl

/-! ## Answers -/

/-- What `lookup`, `peek` and `wait_for_entry` return was so at a moment between their first and
their last call.  They find an entry exactly as it was last stored under the key, with the hits
since, and before it expires.  They miss only an entry that has expired by the clock of the
statement or of one that has deleted it since, one whose key another route has used, or one that
was stored while a cleanup had picked its key for an entry that had expired. -/
theorem answers_of_reached {u : CacheRequests} {s : u.system.State} (h : u.Reached s)
    {n : Nat} {found : Option CacheEntry} {older : List CacheEvent}
    (hend : (CacheEvent.returned n (.found (.ok found)) :: older) <:+ s.world.history) :
    ∃ call route cacheKey touch now before,
      u.requests[n]? = some call ∧ call.Looks route cacheKey touch ∧
      (CacheEvent.looked n route cacheKey touch now found :: before) <:+ older ∧
      (∀ entry, found = some entry → ∃ stored, latest cacheKey before = some stored ∧
        Remembered u cacheKey before stored ∧ now < stored.expiresAt ∧
        entry = if touch then stored.hit now else stored) ∧
      (found = none → ∀ stored, latest cacheKey before = some stored →
        stored.expiresAt ≤ now ∨ Gone before cacheKey stored ∨
          ∃ n' route' t entry, CacheEvent.stored n' route' t entry ∈ before ∧
            entry.cacheKey = cacheKey ∧ route' ≠ route) := by
  have hgood := h.good
  obtain ⟨call, hcall, route, cacheKey, touch, now, before, hlooks, hmoment⟩ :=
    hgood.right _ _ hend
  have hsuf := (hmoment.trans (List.suffix_cons _ _)).trans hend
  have hfaithful := hgood.right _ _ hsuf
  refine ⟨call, route, cacheKey, touch, now, before, hcall, hlooks, hmoment, ?_, hfaithful.miss⟩
  intro entry hentry
  obtain ⟨stored, hstored, hlive, heq⟩ := hfaithful.hit entry hentry
  refine ⟨stored, hstored, remembered_of_recall (fun event older' hsub => ?_) hstored, hlive, heq⟩
  exact hgood.right event older' (hsub.trans ((List.suffix_cons _ _).trans hsuf))

/-- A key of 64 digits. -/
def sampleKey : CacheKey where
  text := String.ofList (List.replicate 64 'a')
  length := by rw [String.length_ofList, List.length_replicate]
  digits c hc := by
    rw [String.toList_ofList] at hc
    rw [List.eq_of_mem_replicate hc]
    decide

/-- A request that stores an entry, and one that looks for it. -/
def sampleCache : CacheRequests where
  platform := samplePlatform
  requests := [.store 0 .interpret sampleKey .null (.str "draft") none,
    .lookup 0 .interpret sampleKey]

/-- Some calls of a request that all work, one second after the epoch. -/
def sampleCalls (request calls : Nat) : List sampleCache.system.Action :=
  List.replicate calls (.act request
    { now := 1000000000, instant := 0, fault := .none, sleeps := 0, first := 0 })

/-- The request finds the entry. -/
theorem answers_of_reached_sample : ∃ s older entry, sampleCache.Reached s ∧
    s.world.history = CacheEvent.returned 1 (.found (.ok (some entry))) :: older ∧
    entry.responsePayload = .str "draft" ∧ entry.hitCount = 1 ∧
    ∃ cacheKey before stored, latest cacheKey before = some stored ∧
      Remembered sampleCache cacheKey before stored := by
  have hplay : ((Pool.play (fun _ _ => True) sampleCache.start
      (sampleCalls 0 6 ++ sampleCalls 1 4)).map fun s => s.world.history.head?) =
      some (some (.returned 1 (.found (.ok (some
        { cacheKey := sampleKey
          requestPayload := .null
          responsePayload := .str "draft"
          createdAt := 1000000000
          expiresAt := 3601000000000
          hitCount := 1
          lastHitAt := some 1000000000 }))))) := by rfl
  obtain ⟨s, hs, hhead⟩ := Pool.exists_of_play hplay
  obtain ⟨older, holder⟩ : ∃ older, s.world.history = _ :: older := List.head?_eq_some_iff.1 hhead
  have hend := List.suffix_refl s.world.history
  nth_rewrite 1 [holder] at hend
  obtain ⟨_, _, cacheKey, _, _, before, _, _, _, hfound, _⟩ := answers_of_reached hs hend
  obtain ⟨stored, hstored, hremembered, _⟩ := hfound _ rfl
  exact ⟨s, older, _, hs, holder, rfl, rfl, cacheKey, before, stored, hstored, hremembered⟩

end KlassGateway.Cache
