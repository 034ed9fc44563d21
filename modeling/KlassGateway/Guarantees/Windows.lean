import KlassGateway.Governance.Preflight
import KlassGateway.Lib.Windowing
/-!
# Rate-limit windows

* `windowStart_eq`: `window_start` drops what is left of the minute, the hour or the day.
* `windowing`: start and end cut the times into windows.
* `recordsEach_recordAll`: a request records once for each of its policies.
* `windows_counted`: the laws of the windows, and in every run each recorded call is counted in
  exactly one bucket of its policy.
* `lastDay_panics`: `window_end` has no value in the last window of the calendar.
-/

namespace KlassGateway.Governance

open Lib

namespace WindowUnit

/-- The length of a window in seconds. -/
def seconds : WindowUnit → Nat
  | .minute => 60
  | .hour => 3600
  | .day => 86400

end WindowUnit

/-! ## The start -/

namespace DateTime

theorem frac_zero_lt : 0 < 2000000000 := by decide

/-- The time at the last multiple of `n` seconds of its day. -/
def truncate (t : DateTime) (n : Nat) : DateTime where
  date := t.date
  time :=
    { secs := t.time.secs / n * n
      frac := 0
      secs_lt := Nat.lt_of_le_of_lt (Nat.div_mul_le_self _ _) t.time.secs_lt
      frac_lt := frac_zero_lt }
  date_range := t.date_range

theorem minUtc_le (t : DateTime) : minUtc ≤ t := by
  have hdate : minDate ≤ t.date := t.date_range.1
  have hmin : minUtc.date = minDate ∧ minUtc.time.secs = 0 ∧ minUtc.time.frac = 0 := ⟨rfl, rfl, rfl⟩
  rw [le_iff]
  omega

/-- A change of the time of the day that stays below the last second has a value. -/
theorem mapLocal_eq {f : NaiveTime → Option NaiveTime} {t : DateTime} {time : NaiveTime}
    (hf : f t.time = some time) (htime : time.secs < 86399 ∨ time.frac < 1000000000) :
    mapLocal f t = some { t with time } := by
  have hmax : ({ t with time } : DateTime) ≤ maxUtc := by
    have hdate : t.date ≤ maxDate := t.date_range.2
    have hlt : time.secs < 86400 := time.secs_lt
    have hutc : maxUtc.date = maxDate ∧ maxUtc.time.secs = 86399 ∧
        maxUtc.time.frac = 999999999 := ⟨rfl, rfl, rfl⟩
    rw [le_iff]
    dsimp only
    omega
  unfold mapLocal
  rw [hf, Option.map_some, Option.filter_some, if_pos (by simpa using ⟨minUtc_le _, hmax⟩)]

theorem withSecond_zero (t : DateTime) :
    t.withSecond 0 = some { t with time := ⟨t.time.secs / 60 * 60, t.time.frac,
      by have := t.time.secs_lt; omega, t.time.frac_lt⟩ } := by
  refine mapLocal_eq rfl (Or.inl ?_)
  have := t.time.secs_lt
  show t.time.secs / 60 * 60 + 0 < 86399
  omega

theorem withMinute_zero (t : DateTime) :
    t.withMinute 0 = some { t with time := ⟨t.time.secs / 3600 * 3600 + t.time.secs % 60,
      t.time.frac, by have := t.time.secs_lt; omega, t.time.frac_lt⟩ } := by
  refine mapLocal_eq ?_ (Or.inl ?_)
  · unfold NaiveTime.withMinute
    rw [dif_pos (by decide)]
    simp
  · have := t.time.secs_lt
    dsimp only
    omega

theorem withHour_zero (t : DateTime) :
    t.withHour 0 = some { t with time := ⟨t.time.secs % 3600, t.time.frac,
      by omega, t.time.frac_lt⟩ } := by
  refine mapLocal_eq ?_ (Or.inl ?_)
  · unfold NaiveTime.withHour
    rw [dif_pos (by decide)]
    simp
  · dsimp only
    omega

theorem withNanosecond_zero (t : DateTime) :
    t.withNanosecond 0 =
      some { t with time := ⟨t.time.secs, 0, t.time.secs_lt, by decide⟩ } :=
  mapLocal_eq rfl (Or.inr (show 0 < 1000000000 by decide))

end DateTime

/-- `window_start` never fails: it goes back to the last full minute, hour or day. -/
theorem windowStart_eq (t : DateTime) (unit : WindowUnit) :
    windowStart t unit = some (t.truncate unit.seconds) := by
  have hlt : t.time.secs < 86400 := t.time.secs_lt
  cases unit with
  | minute =>
    simp only [windowStart, DateTime.withSecond_zero, DateTime.withNanosecond_zero,
      Option.bind_eq_bind, Option.bind_some]
    rfl
  | hour =>
    simp only [windowStart, DateTime.withMinute_zero, DateTime.withSecond_zero,
      DateTime.withNanosecond_zero, Option.bind_eq_bind, Option.bind_some]
    congr 1
    refine DateTime.ext rfl (NaiveTime.ext ?_ rfl)
    show (t.time.secs / 3600 * 3600 + t.time.secs % 60) / 60 * 60 = t.time.secs / 3600 * 3600
    omega
  | day =>
    simp only [windowStart, DateTime.withHour_zero, DateTime.withMinute_zero,
      DateTime.withSecond_zero, DateTime.withNanosecond_zero, Option.bind_eq_bind,
      Option.bind_some]
    congr 1
    refine DateTime.ext rfl (NaiveTime.ext ?_ rfl)
    show (t.time.secs % 3600 / 3600 * 3600 + t.time.secs % 3600 % 60) / 60 * 60 =
      t.time.secs / 86400 * 86400
    omega

/-! ## The end -/

theorem windowEnd_eq (start : DateTime) (unit : WindowUnit) :
    windowEnd start unit = start.addSeconds unit.seconds := by
  cases unit <;> rfl

/-- Where a window of the calendar ends, by the day and the second. -/
theorem windowEnd_eq_some {t e : DateTime} {unit : WindowUnit}
    (h : windowEnd (t.truncate unit.seconds) unit = some e) :
    e.date = t.date + ((t.time.secs / unit.seconds * unit.seconds + unit.seconds) / 86400 : Nat) ∧
      e.time.secs = (t.time.secs / unit.seconds * unit.seconds + unit.seconds) % 86400 ∧
      e.time.frac = 0 := by
  rw [windowEnd_eq, DateTime.addSeconds] at h
  split at h
  · cases h
    refine ⟨rfl, rfl, ?_⟩
    cases unit <;> rfl
  · cases h

/-- A window has no end when it is the last one of the calendar. -/
theorem windowEnd_eq_none_iff {t : DateTime} {unit : WindowUnit} :
    windowEnd (t.truncate unit.seconds) unit = none ↔
      t.date = maxDate ∧ 86400 ≤ t.time.secs + unit.seconds := by
  have hdate : t.date ≤ maxDate := t.date_range.2
  have hlt : t.time.secs < 86400 := t.time.secs_lt
  rw [windowEnd_eq, DateTime.addSeconds, dite_eq_right_iff]
  simp only [reduceCtorEq, imp_false, DateTime.truncate]
  cases unit <;> simp only [WindowUnit.seconds] <;> omega

/-! ## The windows of a unit -/

/-- The start and the end of the windows, an end outside the calendar being `⊤`. -/
def windowing (unit : WindowUnit) : Windowing DateTime where
  start t := t.truncate unit.seconds
  stop s := (windowEnd s unit).elim ⊤ fun e => (e : WithTop DateTime)
  start_le t := by
    have hle : t.time.secs / unit.seconds * unit.seconds ≤ t.time.secs := Nat.div_mul_le_self _ _
    refine DateTime.le_iff.2 (Or.inr ⟨rfl, ?_⟩)
    rcases Nat.lt_or_eq_of_le hle with hlt | heq
    · exact Or.inl hlt
    · exact Or.inr ⟨heq, Nat.zero_le _⟩
  lt_stop t := by
    cases h : windowEnd (t.truncate unit.seconds) unit with
    | none => exact WithTop.coe_lt_top t
    | some e =>
      obtain ⟨hdate, hsecs, hfrac⟩ := windowEnd_eq_some h
      have hlt : t.time.secs < 86400 := t.time.secs_lt
      refine WithTop.coe_lt_coe.2 (DateTime.lt_iff.2 ?_)
      rw [hdate, hsecs]
      cases unit <;> simp only [WindowUnit.seconds] <;> omega
  start_eq_of_mem t u hle hlt := by
    have hsecs : t.time.secs < 86400 := t.time.secs_lt
    have hsecs' : u.time.secs < 86400 := u.time.secs_lt
    rw [DateTime.le_iff] at hle
    simp only [DateTime.truncate] at hle
    have hsame : u.date = t.date ∧
        u.time.secs / unit.seconds = t.time.secs / unit.seconds := by
      cases h : windowEnd (t.truncate unit.seconds) unit with
      | none =>
        obtain ⟨hlast, hend⟩ := windowEnd_eq_none_iff.1 h
        have hdate : u.date ≤ maxDate := u.date_range.2
        cases unit <;> simp only [WindowUnit.seconds] at hle hend ⊢ <;> omega
      | some e =>
        obtain ⟨hdate, hend, hfrac⟩ := windowEnd_eq_some h
        rw [h] at hlt
        have hlt : u < e := WithTop.coe_lt_coe.1 hlt
        rw [DateTime.lt_iff, hdate, hend, hfrac] at hlt
        cases unit <;> simp only [WindowUnit.seconds] at hle hlt ⊢ <;> omega
    refine DateTime.ext hsame.1 (NaiveTime.ext ?_ rfl)
    simp only [DateTime.truncate]
    rw [hsame.2]

theorem windowStart_eq_start (t : DateTime) (unit : WindowUnit) :
    windowStart t unit = some ((windowing unit).start t) := windowStart_eq t unit

theorem windowing_mem {unit : WindowUnit} {s t e : DateTime} (he : windowEnd s unit = some e) :
    (windowing unit).Mem s t ↔ s ≤ t ∧ t < e := by
  unfold Windowing.Mem windowing
  dsimp only
  rw [he]
  exact and_congr_right fun _ => WithTop.coe_lt_coe

/-! ## What a bucket counts -/

/-- A recorded call falls into the window of a bucket of its policy. -/
def RateLimitBucket.Holds (b : RateLimitBucket) (usage : Int × DateTime) : Prop :=
  usage.1 = b.policyId ∧ b.windowStartedAt ≤ usage.2 ∧ usage.2 < b.windowEndsAt

instance (b : RateLimitBucket) : DecidablePred b.Holds := fun _ =>
  inferInstanceAs (Decidable (_ ∧ _ ∧ _))

/-- The unit of a policy. -/
def RateLimitPolicy.unit (p : RateLimitPolicy) : WindowUnit := WindowUnit.ofText p.windowUnit

/-- The tables of a run. -/
structure Sound (g : Tables) : Prop where
  ids : (g.policies.map RateLimitPolicy.id).Nodup
  fetched : ∀ p ∈ g.fetched, ∃ q ∈ g.policies, q.id = p.id ∧ q.windowUnit = p.windowUnit
  keys : (g.buckets.map RateLimitBucket.window).Nodup
  windows : ∀ b ∈ g.buckets, ∃ q ∈ g.policies, q.id = b.policyId ∧
    (windowing q.unit).start b.windowStartedAt = b.windowStartedAt ∧
    windowEnd b.windowStartedAt q.unit = some b.windowEndsAt
  counted : ∀ b ∈ g.buckets, b.requestCount = (g.usages.countP fun x => b.Holds x : Nat)
  placed : ∀ x ∈ g.usages, ∃ b ∈ g.buckets, b.Holds x

namespace Sound

variable {g : Tables}

/-- One id has one unit, however old the policy that a request holds. -/
theorem unit_eq (hg : Sound g) {p q : RateLimitPolicy} (hp : p ∈ g.fetched) (hq : q ∈ g.policies)
    (hid : q.id = p.id) : q.unit = p.unit := by
  obtain ⟨r, hr, hrid, hrunit⟩ := hg.fetched p hp
  have hqr : q = r := List.inj_on_of_nodup_map hg.ids hq hr (hid.trans hrid.symm)
  unfold RateLimitPolicy.unit
  rw [hqr, hrunit]

/-- A bucket of the policy holds a call exactly when the window of the call starts with it. -/
theorem holds_iff (hg : Sound g) {p : RateLimitPolicy} {b : RateLimitBucket} {t : DateTime}
    (hp : p ∈ g.fetched) (hb : b ∈ g.buckets) (hid : b.policyId = p.id) :
    b.Holds (p.id, t) ↔ (windowing p.unit).start t = b.windowStartedAt := by
  obtain ⟨q, hq, hqid, hstart, hend⟩ := hg.windows b hb
  rw [hg.unit_eq hp hq (hqid.trans hid)] at hstart hend
  have hmem : b.Holds (p.id, t) ↔ (windowing p.unit).Mem b.windowStartedAt t := by
    rw [windowing_mem hend]
    exact and_iff_right hid.symm
  rw [hmem]
  constructor
  · exact (windowing p.unit).start_eq_of_mem_start hstart
  · intro h
    rw [← h]
    exact (windowing p.unit).mem_start t

/-- The policies that a query returns have distinct ids. -/
theorem nodup_findApplicable (hg : Sound g) (route provider model : String) :
    ((findApplicable route provider model g.policies).map RateLimitPolicy.id).Nodup := by
  unfold findApplicable
  rw [((sortBy_perm compareApplicable _).map RateLimitPolicy.id).nodup_iff]
  exact hg.ids.sublist (List.filter_sublist.map _)

end Sound

theorem increment_eq_some {p : RateLimitPolicy} {m : BucketMutation} {now : DateTime}
    {buckets buckets' : List RateLimitBucket} (h : increment p m now buckets = some buckets') :
    ∃ we, windowEnd ((windowing p.unit).start now) p.unit = some we ∧
      buckets' = Table.upsert RateLimitBucket.window mergeBucket
        (bucketRow p m ((windowing p.unit).start now) we) buckets := by
  simp only [increment, windowStart_eq_start, Option.bind_eq_bind, Option.bind_some] at h
  obtain ⟨we, hend, hrow⟩ := Option.bind_eq_some_iff.1 h
  exact ⟨we, hend, (Option.some.inj hrow).symm⟩

/-! ## Runs -/

theorem mergeBucket_window (new old : RateLimitBucket) (h : old.window = new.window) :
    (mergeBucket new old).window = new.window := h

namespace Sound

variable {g : Tables}

/-- A bucket that holds a call of the policy has the window of the call as its key. -/
theorem window_of_holds (hg : Sound g) {p : RateLimitPolicy} {b : RateLimitBucket} {t : DateTime}
    (hp : p ∈ g.fetched) (hb : b ∈ g.buckets) (hholds : b.Holds (p.id, t)) :
    b.window = (p.id, (windowing p.unit).start t) := by
  have hid : b.policyId = p.id := hholds.1.symm
  exact Prod.ext hid ((hg.holds_iff hp hb hid).1 hholds).symm

/-- The buckets of one window end together. -/
theorem ends_of_window (hg : Sound g) {p : RateLimitPolicy} {b : RateLimitBucket}
    {ws we : DateTime} (hp : p ∈ g.fetched) (hb : b ∈ g.buckets) (hkey : b.window = (p.id, ws))
    (hend : windowEnd ws p.unit = some we) : b.windowEndsAt = we := by
  obtain ⟨q, hq, hqid, -, hqend⟩ := hg.windows b hb
  have hid : b.policyId = p.id := congrArg Prod.fst hkey
  have hstart : b.windowStartedAt = ws := congrArg Prod.snd hkey
  rw [hg.unit_eq hp hq (hqid.trans hid), hstart, hend] at hqend
  exact (Option.some.inj hqend).symm

end Sound

/-- The bucket of the window of a call holds the call. -/
theorem holds_now {p : RateLimitPolicy} {b : RateLimitBucket} {now we : DateTime}
    (hkey : b.window = (p.id, (windowing p.unit).start now)) (hwe : b.windowEndsAt = we)
    (hend : windowEnd ((windowing p.unit).start now) p.unit = some we) : b.Holds (p.id, now) := by
  have hmem := (windowing_mem hend).1 ((windowing p.unit).mem_start now)
  have hid : b.policyId = p.id := congrArg Prod.fst hkey
  have hstart : b.windowStartedAt = (windowing p.unit).start now := congrArg Prod.snd hkey
  refine ⟨hid.symm, ?_, ?_⟩
  · rw [hstart]
    exact hmem.1
  · rw [hwe]
    exact hmem.2

/-- The calls that a statement records: none, or one of the policy now. -/
inductive Records (p : RateLimitPolicy) (now : DateTime) (m : BucketMutation) :
    List (Int × DateTime) → Prop
  | none (h : m.requestCount = 0) : Records p now m []
  | one (h : m.requestCount = 1) : Records p now m [(p.id, now)]

namespace Records

variable {p : RateLimitPolicy} {now : DateTime} {m : BucketMutation} {calls : List (Int × DateTime)}

theorem eq_of_mem (h : Records p now m calls) {x : Int × DateTime} (hx : x ∈ calls) :
    x = (p.id, now) := by
  cases h with
  | none => exact absurd hx List.not_mem_nil
  | one => exact List.mem_singleton.1 hx

theorem length_eq (h : Records p now m calls) : m.requestCount = (calls.length : Nat) := by
  cases h with
  | none h => exact h
  | one h => exact h

/-- A bucket that holds the call counts all that is recorded. -/
theorem countP_of_holds (h : Records p now m calls) {b : RateLimitBucket}
    (hb : b.Holds (p.id, now)) : (calls.countP fun x => b.Holds x : Nat) = m.requestCount := by
  rw [h.length_eq, List.countP_eq_length.2 fun x hx => ?_]
  rw [h.eq_of_mem hx]
  exact decide_eq_true hb

theorem countP_of_not_holds (h : Records p now m calls) {b : RateLimitBucket}
    (hb : ¬ b.Holds (p.id, now)) : (calls.countP fun x => b.Holds x) = 0 := by
  refine List.countP_eq_zero.2 fun x hx hholds => hb ?_
  rw [← h.eq_of_mem hx]
  exact of_decide_eq_true hholds

end Records

namespace Sound

variable {g : Tables} {p : RateLimitPolicy} {m : BucketMutation} {now we : DateTime}
  {calls : List (Int × DateTime)}

/-- After an increment each bucket still counts the calls that it holds. -/
theorem counted_upsert (hg : Sound g) (hp : p ∈ g.fetched)
    (hend : windowEnd ((windowing p.unit).start now) p.unit = some we)
    (hcalls : Records p now m calls) {b : RateLimitBucket}
    (hb : b ∈ Table.upsert RateLimitBucket.window mergeBucket
      (bucketRow p m ((windowing p.unit).start now) we) g.buckets) :
    b.requestCount = ((g.usages ++ calls).countP fun x => b.Holds x : Nat) := by
  rw [List.countP_append, Int.natCast_add]
  rcases Table.mem_upsert hb with ⟨hold, hne⟩ | ⟨rfl, hnew⟩ | ⟨old, hold, hkey, rfl⟩
  · -- a bucket of another window
    have hnot : ¬ b.Holds (p.id, now) := fun hholds => hne (hg.window_of_holds hp hold hholds)
    rw [hg.counted b hold, hcalls.countP_of_not_holds hnot]
    rfl
  · -- a new bucket: no earlier call of the policy falls into its window
    have hnone : (g.usages.countP fun x =>
        (bucketRow p m ((windowing p.unit).start now) we).Holds x) = 0 := by
      refine List.countP_eq_zero.2 fun x hx hholds => hnew ?_
      have hholds : (bucketRow p m ((windowing p.unit).start now) we).Holds x :=
        of_decide_eq_true hholds
      obtain ⟨b, hbm, hbx⟩ := hg.placed x hx
      have hx' : x = (p.id, x.2) := Prod.ext hholds.1 rfl
      rw [hx'] at hbx
      have hstart : (windowing p.unit).start x.2 = (windowing p.unit).start now :=
        (windowing p.unit).start_eq_iff.2 ((windowing_mem hend).2 hholds.2)
      have hwindow := hg.window_of_holds hp hbm hbx
      rw [hstart] at hwindow
      exact List.mem_map.2 ⟨b, hbm, hwindow⟩
    rw [hnone, hcalls.countP_of_holds (holds_now rfl rfl hend)]
    exact (Int.zero_add _).symm
  · -- the bucket of the window
    have hholds : old.Holds (p.id, now) := holds_now hkey (hg.ends_of_window hp hold hkey hend) hend
    change old.requestCount + m.requestCount =
      ((g.usages.countP fun x => old.Holds x : Nat) : Int) + (calls.countP fun x => old.Holds x : Nat)
    rw [hg.counted old hold, hcalls.countP_of_holds hholds]

/-- After an increment each recorded call lies in a bucket. -/
theorem placed_upsert (hg : Sound g) (hp : p ∈ g.fetched)
    (hend : windowEnd ((windowing p.unit).start now) p.unit = some we)
    (hcalls : Records p now m calls) {row : RateLimitBucket}
    (hrow : row = bucketRow p m ((windowing p.unit).start now) we) {x : Int × DateTime}
    (hx : x ∈ g.usages ++ calls) :
    ∃ b ∈ Table.upsert RateLimitBucket.window mergeBucket row g.buckets, b.Holds x := by
  rcases List.mem_append.1 hx with hx | hx
  · obtain ⟨b, hbm, hholds⟩ := hg.placed x hx
    have hstays : b ∈ Table.upsert RateLimitBucket.window mergeBucket row g.buckets ∨
        mergeBucket row b ∈ Table.upsert RateLimitBucket.window mergeBucket row g.buckets :=
      Table.mem_upsert_of_mem hbm
    rcases hstays with hkept | hmerged
    · exact ⟨b, hkept, hholds⟩
    · exact ⟨_, hmerged, hholds⟩
  · have hexists : ∃ b ∈ Table.upsert RateLimitBucket.window mergeBucket row g.buckets,
        b.window = row.window := Table.exists_mem_upsert mergeBucket_window
    obtain ⟨b, hbm, hkey⟩ := hexists
    have hwindow : row.window = (p.id, (windowing p.unit).start now) := by rw [hrow]; rfl
    have hwe : b.windowEndsAt = we := by
      rcases Table.mem_upsert hbm with ⟨-, hne⟩ | ⟨rfl, -⟩ | ⟨old, hold, hokey, rfl⟩
      · exact absurd hkey hne
      · rw [hrow]
        rfl
      · show old.windowEndsAt = we
        exact hg.ends_of_window hp hold (hokey.trans hwindow) hend
    rw [hcalls.eq_of_mem hx]
    exact ⟨b, hbm, holds_now (hkey.trans hwindow) hwe hend⟩

/-- An increment that counts nothing, or one call, keeps the tables sound. -/
theorem increment (hg : Sound g) {buckets : List RateLimitBucket} (hp : p ∈ g.fetched)
    (hb : increment p m now g.buckets = some buckets) (hcalls : Records p now m calls) :
    Sound { g with buckets, usages := g.usages ++ calls } := by
  obtain ⟨we, hend, rfl⟩ := increment_eq_some hb
  refine ⟨hg.ids, hg.fetched, Table.nodup_upsert mergeBucket_window hg.keys, ?_,
    fun b hb => hg.counted_upsert hp hend hcalls hb,
    fun x hx => hg.placed_upsert hp hend hcalls rfl hx⟩
  intro b hbm
  rcases Table.mem_upsert hbm with ⟨hold, -⟩ | ⟨rfl, -⟩ | ⟨old, hold, -, rfl⟩
  · exact hg.windows b hold
  · obtain ⟨q, hq, hqid, -⟩ := hg.fetched p hp
    refine ⟨q, hq, hqid, ?_⟩
    rw [hg.unit_eq hp hq hqid]
    exact ⟨(windowing p.unit).start_start now, hend⟩
  · exact hg.windows old hold

/-- An upsert of a policy keeps the ids and the units that are there. -/
theorem exists_upsertDefault {policies : List RateLimitPolicy} {q : RateLimitPolicy}
    (hq : q ∈ policies) (id : Int) (route scopeType windowUnit : String) (limits : PolicyLimits) :
    ∃ q' ∈ upsertDefault id route scopeType windowUnit limits policies,
      q'.id = q.id ∧ q'.windowUnit = q.windowUnit := by
  unfold upsertDefault
  have hstays : ∀ new, q ∈ Table.upsert RateLimitPolicy.scope mergePolicy new policies ∨
      mergePolicy new q ∈ Table.upsert RateLimitPolicy.scope mergePolicy new policies :=
    fun _ => Table.mem_upsert_of_mem hq
  rcases hstays (defaultPolicy id route scopeType windowUnit limits) with hkept | hmerged
  · exact ⟨q, hkept, rfl, rfl⟩
  · exact ⟨_, hmerged, rfl, rfl⟩

theorem upsertDefault (hg : Sound g) {id : Int} (hid : id ∉ g.policies.map RateLimitPolicy.id)
    (route scopeType windowUnit : String) (limits : PolicyLimits) :
    Sound { g with
      policies := upsertDefault id route scopeType windowUnit limits g.policies } := by
  refine ⟨?_, ?_, hg.keys, ?_, hg.counted, hg.placed⟩
  · have hcol : ∀ new : RateLimitPolicy,
        (Table.upsert RateLimitPolicy.scope mergePolicy new g.policies).map RateLimitPolicy.id =
            g.policies.map RateLimitPolicy.id ∨
          (Table.upsert RateLimitPolicy.scope mergePolicy new g.policies).map RateLimitPolicy.id =
            g.policies.map RateLimitPolicy.id ++ [new.id] :=
      fun _ => Table.map_upsert_of_merge fun _ => rfl
    rcases hcol (defaultPolicy id route scopeType windowUnit limits) with hsame | hnew
    · exact hsame ▸ hg.ids
    · refine hnew ▸ List.nodup_append.2 ⟨hg.ids, List.nodup_singleton _, ?_⟩
      intro a ha b hb
      obtain rfl := List.mem_singleton.1 hb
      intro heq
      exact hid (heq ▸ ha)
  · intro p hp
    obtain ⟨q, hq, hqid, hunit⟩ := hg.fetched p hp
    obtain ⟨q', hq', hid', hunit'⟩ := exists_upsertDefault hq id route scopeType windowUnit limits
    exact ⟨q', hq', hid'.trans hqid, hunit'.trans hunit⟩
  · intro b hb
    obtain ⟨q, hq, hqid, hwindow⟩ := hg.windows b hb
    obtain ⟨q', hq', hid', hunit'⟩ := exists_upsertDefault hq id route scopeType windowUnit limits
    refine ⟨q', hq', hid'.trans hqid, ?_⟩
    unfold RateLimitPolicy.unit at hwindow ⊢
    rw [hunit']
    exact hwindow

theorem findApplicable (hg : Sound g) (route provider model : String) :
    Sound { g with fetched := g.fetched ++ findApplicable route provider model g.policies } := by
  refine ⟨hg.ids, ?_, hg.keys, hg.windows, hg.counted, hg.placed⟩
  intro p hp
  rcases List.mem_append.1 hp with hp | hp
  · exact hg.fetched p hp
  · have hmem : p ∈ g.policies := (List.mem_filter.1 (mem_sortBy.1 hp)).1
    exact ⟨p, hmem, rfl, rfl⟩

end Sound

/-- The tables of every run are sound. -/
theorem Reachable.sound {g : Tables} (h : Reachable g) : Sound g := by
  induction h with
  | start hids =>
    exact ⟨hids, fun _ hp => absurd hp List.not_mem_nil, List.nodup_nil,
      fun _ hb => absurd hb List.not_mem_nil, fun _ hb => absurd hb List.not_mem_nil,
      fun _ hx => absurd hx List.not_mem_nil⟩
  | upsertDefault _ hid route scopeType windowUnit limits ih =>
    exact ih.upsertDefault hid route scopeType windowUnit limits
  | findApplicable _ route provider model ih => exact ih.findApplicable route provider model
  | check _ hp hb ih =>
    have hsound := ih.increment hp hb (Records.none rfl)
    rw [List.append_nil] at hsound
    exact hsound
  | recordDenial _ hp hb ih =>
    have hsound := ih.increment hp hb (Records.none rfl)
    rw [List.append_nil] at hsound
    exact hsound
  | recordUsage _ hp hb ih => exact ih.increment hp hb (Records.one rfl)

/-- A bucket that holds a call starts where the window of the call does. -/
theorem Sound.start_of_holds {g : Tables} (hg : Sound g) {b : RateLimitBucket} {q : RateLimitPolicy}
    {x : Int × DateTime} (hb : b ∈ g.buckets) (hholds : b.Holds x) (hq : q ∈ g.policies)
    (hid : q.id = x.1) : b.window = (x.1, (windowing q.unit).start x.2) := by
  obtain ⟨r, hr, hrid, hstart, hend⟩ := hg.windows b hb
  have hqr : q = r :=
    List.inj_on_of_nodup_map hg.ids hq hr (hid.trans (hholds.1.trans hrid.symm))
  rw [← hqr] at hstart hend
  have hmem : (windowing q.unit).Mem b.windowStartedAt x.2 := (windowing_mem hend).2 hholds.2
  exact Prod.ext hholds.1.symm ((windowing q.unit).start_eq_of_mem_start hstart hmem).symm

/-! ## What a request records -/

/-- The policies for which some calls record. -/
def recordedPolicies {M : Machine governanceOps} (calls : List (Call M)) : List RateLimitPolicy :=
  calls.filterMap fun c => match c.op with
    | .recordUsage policy _ _ => some policy
    | _ => none

/-- A request has recorded for the policies one after the other, and for all of them unless it
has panicked. -/
structure RecordsEach {M : Machine governanceOps} (policies : List RateLimitPolicy)
    (out : Outcome M Unit) : Prop where
  inOrder : recordedPolicies out.calls <+: policies
  all : out.result.isSome → recordedPolicies out.calls = policies

/-- The loop after a call records for each policy, whatever the statements answer. -/
theorem recordsEach_recordAll {M : Machine governanceOps} (usage : Usage)
    (policies : List RateLimitPolicy) (env : Nat → M.Choice) (w : M.World) :
    RecordsEach policies ((recordAll usage policies).run M env w) := by
  induction policies generalizing env w with
  | nil => exact ⟨List.prefix_refl _, fun _ => rfl⟩
  | cons policy policies ih =>
    -- the clock is read, and then the statement is executed
    let now := (M.exec w .now (env 0)).1
    let w₁ := (M.exec w .now (env 0)).2
    cases hanswer : (M.exec w₁ (.recordUsage policy usage now) (env 1)).1 with
    | none =>
      have hrun : (recordAll usage (policy :: policies)).run M env w =
          ⟨[⟨w, .now, env 0⟩, ⟨w₁, .recordUsage policy usage now, env 1⟩], none,
            (M.exec w₁ (.recordUsage policy usage now) (env 1)).2⟩ := by
        simp only [recordAll, Prog.run, now, w₁] at hanswer ⊢
        rw [hanswer]
        rfl
      rw [hrun]
      exact ⟨⟨policies, rfl⟩, fun h => by cases h⟩
    | some answer =>
      let rest := (recordAll usage policies).run M (fun n => env (n + 2))
        (M.exec w₁ (.recordUsage policy usage now) (env 1)).2
      have hrun : (recordAll usage (policy :: policies)).run M env w =
          { rest with calls := ⟨w, .now, env 0⟩ :: ⟨w₁, .recordUsage policy usage now, env 1⟩ ::
              rest.calls } := by
        simp only [recordAll, Prog.run, now, w₁] at hanswer ⊢
        rw [hanswer]
      rw [hrun]
      obtain ⟨hinOrder, hall⟩ := ih (fun n => env (n + 2))
        (M.exec w₁ (.recordUsage policy usage now) (env 1)).2
      exact ⟨List.cons_prefix_cons.2 ⟨rfl, hinOrder⟩,
        fun hsome => congrArg (List.cons policy) (hall hsome)⟩

/-! ## The laws of the windows -/

/-- The last window of the calendar, which has no end. -/
def InLastWindow (unit : WindowUnit) (t : DateTime) : Prop :=
  t.date = maxDate ∧ 86400 ≤ t.time.secs + unit.seconds

/-- A time lies in the window that starts at `s`. -/
def InWindow (unit : WindowUnit) (s t : DateTime) : Prop :=
  s ≤ t ∧ ∀ e, windowEnd s unit = some e → t < e

theorem inWindow_iff {unit : WindowUnit} {s t : DateTime} :
    InWindow unit s t ↔ (windowing unit).Mem s t := by
  cases h : windowEnd s unit with
  | none =>
    unfold InWindow Windowing.Mem windowing
    dsimp only
    rw [h]
    simp
  | some e =>
    rw [windowing_mem h]
    unfold InWindow
    rw [h]
    simp

/-- The laws of `window_start` and `window_end` for a unit. -/
structure WindowLaws (unit : WindowUnit) : Prop where
  bounds : ∀ t, ¬ InLastWindow unit t → ∃ s e, windowStart t unit = some s ∧
    windowEnd s unit = some e ∧ s ≤ t ∧ t < e
  idempotent : ∀ t, ∃ s, windowStart t unit = some s ∧ windowStart s unit = some s
  monotone : ∀ t u s r, t ≤ u → windowStart t unit = some s → windowStart u unit = some r → s ≤ r
  same : ∀ t u, windowStart t unit = windowStart u unit ↔
    ∃ s, windowStart s unit = some s ∧ InWindow unit s t ∧ InWindow unit s u

theorem windowLaws (unit : WindowUnit) : WindowLaws unit where
  bounds := by
    intro t ht
    cases h : windowEnd (t.truncate unit.seconds) unit with
    | none => exact absurd (windowEnd_eq_none_iff.1 h) ht
    | some e =>
      refine ⟨t.truncate unit.seconds, e, windowStart_eq t unit, h, ?_⟩
      exact (windowing_mem h).1 ((windowing unit).mem_start t)
  idempotent := by
    intro t
    refine ⟨(windowing unit).start t, windowStart_eq_start t unit, ?_⟩
    rw [windowStart_eq_start, (windowing unit).start_start]
  monotone := by
    intro t u s r htu hs hr
    rw [windowStart_eq_start] at hs hr
    cases hs
    cases hr
    exact (windowing unit).start_mono htu
  same := by
    intro t u
    simp only [windowStart_eq_start, Option.some.injEq, inWindow_iff]
    exact (windowing unit).start_eq_start_iff

/-- What a run has counted: a query returns each policy once, each recorded call lies in exactly
one bucket of its policy, and a bucket counts its calls. -/
structure CountedOnce (g : Tables) : Prop where
  applicable : ∀ route provider model,
    ((findApplicable route provider model g.policies).map RateLimitPolicy.id).Nodup
  once : ∀ x ∈ g.usages, ∃! b, b ∈ g.buckets ∧ b.Holds x
  total : ∀ b ∈ g.buckets, b.requestCount = (g.usages.countP fun x => b.Holds x : Nat)

theorem Sound.countedOnce {g : Tables} (hg : Sound g) : CountedOnce g where
  applicable := hg.nodup_findApplicable
  once := by
    intro x hx
    obtain ⟨b, hb, hholds⟩ := hg.placed x hx
    refine ⟨b, ⟨hb, hholds⟩, ?_⟩
    rintro b' ⟨hb', hholds'⟩
    obtain ⟨q, hq, hqid, -⟩ := hg.windows b hb
    have hid : q.id = x.1 := hqid.trans hholds.1.symm
    have hkeys : b'.window = b.window :=
      (hg.start_of_holds hb' hholds' hq hid).trans (hg.start_of_holds hb hholds hq hid).symm
    exact List.inj_on_of_nodup_map hg.keys hb' hb hkeys
  total := hg.counted

/-- The windows of every unit partition the times, up to the last one.  In every run a recorded
call is counted in exactly one bucket of its policy, and a request records once for each of the
policies that its query has returned. -/
theorem windows_counted :
    (∀ unit, WindowLaws unit) ∧ (∀ g, Reachable g → CountedOnce g) ∧
      ∀ (M : Machine governanceOps) usage policies env w,
        RecordsEach policies ((recordAll usage policies).run M env w) :=
  ⟨windowLaws, fun _ h => h.sound.countedOnce, fun _ => recordsEach_recordAll⟩

/-- The last day of the calendar has no end. -/
theorem lastDay_panics : ¬ ∀ t unit, ∃ s e, windowStart t unit = some s ∧
    windowEnd s unit = some e ∧ s ≤ t ∧ t < e := by
  intro h
  obtain ⟨s, e, hs, he, -⟩ := h DateTime.maxUtc .day
  rw [windowStart_eq] at hs
  cases hs
  have hnone : windowEnd (DateTime.maxUtc.truncate WindowUnit.day.seconds) .day = none :=
    windowEnd_eq_none_iff.2 ⟨rfl, by decide⟩
  rw [hnone] at he
  cases he

end KlassGateway.Governance
