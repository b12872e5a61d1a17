import Mathlib
import StateMetrics.Proofs.Window.Operations
import StateMetrics.Aggregate.Pod
import StateMetrics.Aggregate.Event

/-! # Cleaning up idle buckets

A cleanup at `now` with a longest idle time `maxIdle` removes the buckets last seen before
`now - maxIdle` and names their keys; a bucket idle exactly `maxIdle` stays. The threshold has
to be an instant of the calendar: when it is not, the cleanup reports the overflow. Otherwise it
removes exactly the idle buckets, names each of their keys once, and leaves every other bucket
and the touch sequence as they were (`RemovesIdle`).

The windowed aggregators clean up with the retention of their window: twice the window, or
365000 days when twice the window is longer than any duration. Without further contributions, a
bucket last seen at `t` therefore survives every cleanup up to `t` plus twice the window, and
the first cleanup after that removes it (`KeepsRecent`).

The retention is capped by the longest duration, not by the calendar. A window of more than
about 4.2 × 10^12 seconds, short enough that twice it is still a duration, puts the threshold of
a present-day cleanup before the first instant of the calendar, and the cleanup overflows
(`aggregator_cleanup_overflows_iff`).

Main statements: `cleanup_removes_exactly_idle` and `aggregator_cleanup_overflows_iff`. -/

namespace StateMetrics

variable {D : Type}

/-! ## Filtering a table with one entry per key -/

section Filter

variable {α : Type}

theorem nodup_keys_filter {l : List (String × α)} (distinct : (l.map (·.1)).Nodup)
    (p : String × α → Bool) : ((l.filter p).map (·.1)).Nodup :=
  distinct.sublist (List.filter_sublist.map _)

/-- Where each key occurs once, filtering keeps exactly the entries that pass. -/
theorem findKey?_filter_of_nodup {l : List (String × α)} (distinct : (l.map (·.1)).Nodup)
    (p : String × α → Bool) (k : String) (v : α) :
    findKey? k (l.filter p) = some v ↔ findKey? k l = some v ∧ p (k, v) = true := by
  rw [← mem_iff_findKey?_of_nodup (nodup_keys_filter distinct p),
    ← mem_iff_findKey?_of_nodup distinct, List.mem_filter]

/-- Where each key occurs once, the keys of the entries that pass are the keys whose value
passes. -/
theorem mem_keys_filter_iff {l : List (String × α)} (distinct : (l.map (·.1)).Nodup)
    (p : String × α → Bool) (k : String) :
    k ∈ (l.filter p).map (·.1) ↔ ∃ v, findKey? k l = some v ∧ p (k, v) = true := by
  constructor
  · intro member
    obtain ⟨⟨k', v⟩, kept, same⟩ := List.mem_map.1 member
    obtain ⟨listed, passes⟩ := List.mem_filter.1 kept
    cases same
    exact ⟨v, findKey?_of_mem_of_nodup distinct listed, passes⟩
  · rintro ⟨v, found, passes⟩
    exact List.mem_map.2 ⟨(k, v), List.mem_filter.2 ⟨mem_of_findKey? found, passes⟩, rfl⟩

end Filter

namespace BucketMap

/-! ## One cleanup -/

/-- A cleanup whose threshold is in the calendar keeps the buckets seen at or after it and
names the others. -/
theorem cleanup_of_inRange (bm : BucketMap D) {now : Instant} {maxIdle : Int}
    (representable : Instant.inRange (now.ms - maxIdle) = true) :
    bm.cleanup now maxIdle =
      .ok (bm.retain fun e => !(e.2.lastSeen.ms < now.ms - maxIdle),
        (bm.buckets.filter fun e => e.2.lastSeen.ms < now.ms - maxIdle).map (·.1)) := by
  simp only [cleanup, Instant.sub, representable, if_true]

/-- A cleanup whose threshold is out of the calendar overflows. -/
theorem cleanup_of_not_inRange (bm : BucketMap D) {now : Instant} {maxIdle : Int}
    (outside : Instant.inRange (now.ms - maxIdle) = false) :
    bm.cleanup now maxIdle = .error .subtraction := by
  simp [cleanup, Instant.sub, outside]

/-- A cleanup fails exactly when its threshold is out of the calendar, and then it reports an
overflow of the subtraction. -/
theorem cleanup_eq_error_iff (bm : BucketMap D) (now : Instant) (maxIdle : Int)
    (e : TimeOverflow) :
    bm.cleanup now maxIdle = .error e ↔
      Instant.inRange (now.ms - maxIdle) = false ∧ e = .subtraction := by
  cases range : Instant.inRange (now.ms - maxIdle)
  · rw [cleanup_of_not_inRange bm range]
    simp [eq_comm]
  · rw [cleanup_of_inRange bm range]
    simp

/-- What a cleanup at `now` with longest idle time `maxIdle` does to a map `bm`, given the map
`kept` after it and the keys `expired` it names. -/
structure RemovesIdle (bm : BucketMap D) (now : Instant) (maxIdle : Int) (kept : BucketMap D)
    (expired : List String) : Prop where
  /-- The keys named are those of the buckets idle longer than `maxIdle`. -/
  expired_iff : ∀ k, k ∈ expired ↔ ∃ b, bm.get? k = some b ∧ b.lastSeen.ms + maxIdle < now.ms
  /-- Each is named once. -/
  expired_nodup : expired.Nodup
  /-- The buckets kept are the others, each as it was. -/
  kept_iff : ∀ k b, kept.get? k = some b ↔ bm.get? k = some b ∧ now.ms ≤ b.lastSeen.ms + maxIdle
  /-- The touch sequence stays. -/
  seq : kept.seq = bm.seq
  /-- The capacity stays. -/
  capacity : kept.capacity = bm.capacity

/-- A cleanup that succeeds removes exactly the idle buckets. -/
theorem removesIdle_of_cleanup {bm kept : BucketMap D} {now : Instant} {maxIdle : Int}
    {expired : List String} (cleaned : bm.cleanup now maxIdle = .ok (kept, expired)) :
    RemovesIdle bm now maxIdle kept expired := by
  have distinct := bm.ascending.nodup
  have representable : Instant.inRange (now.ms - maxIdle) = true := by
    cases range : Instant.inRange (now.ms - maxIdle)
    · rw [cleanup_of_not_inRange bm range] at cleaned
      cases cleaned
    · rfl
  rw [cleanup_of_inRange bm representable] at cleaned
  simp only [Except.ok.injEq, Prod.mk.injEq] at cleaned
  obtain ⟨rfl, rfl⟩ := cleaned
  -- idle longer than `maxIdle` is last seen before the threshold
  have idle : ∀ b : Bucket D, b.lastSeen.ms < now.ms - maxIdle ↔ b.lastSeen.ms + maxIdle < now.ms :=
    fun b => by omega
  refine ⟨fun k => ?_, ?_, fun k b => ?_, rfl, rfl⟩
  · rw [mem_keys_filter_iff distinct]
    simp [get?_eq_findKey?, idle]
  · exact nodup_keys_filter distinct _
  · rw [get?_eq_findKey?, get?_eq_findKey?, buckets_retain, findKey?_filter_of_nodup distinct]
    simp only [Bool.not_eq_true', decide_eq_false_iff_not, not_lt]
    constructor <;> rintro ⟨found, fresh⟩ <;> exact ⟨found, by omega⟩

/-- A cleanup whose threshold is in the calendar succeeds. -/
theorem cleanup_ok_of_inRange (bm : BucketMap D) {now : Instant} {maxIdle : Int}
    (representable : Instant.inRange (now.ms - maxIdle) = true) :
    ∃ kept expired, bm.cleanup now maxIdle = .ok (kept, expired) :=
  ⟨_, _, cleanup_of_inRange bm representable⟩

/-! ## A run of cleanups -/

/-- The buckets after a run of cleanups with longest idle time `r` at the instants `times`: those
of `before` seen within `r` of every cleanup, each as it was. -/
def KeepsRecent (r : Int) (times : List Instant) (before after : BucketMap D) : Prop :=
  ∀ k b, after.get? k = some b ↔ before.get? k = some b ∧ ∀ now ∈ times, now.ms ≤ b.lastSeen.ms + r

/-- A run of cleanups keeps exactly the buckets that were seen within `r` of every one of
them. -/
theorem keepsRecent_cleanups {r : Int} {times : List Instant} {bm after : BucketMap D}
    (ran : times.foldlM (fun bm now => Prod.fst <$> bm.cleanup now r) bm = .ok after) :
    KeepsRecent r times bm after := by
  induction times generalizing bm with
  | nil =>
    cases ran
    intro k b
    simp
  | cons now times ih =>
    -- the first cleanup removes what is idle at `now`, the rest of the run what is idle later
    rw [List.foldlM_cons] at ran
    cases cleaned : bm.cleanup now r with
    | error e => rw [cleaned] at ran; cases ran
    | ok result =>
      obtain ⟨kept, expired⟩ := result
      rw [cleaned] at ran
      have step := removesIdle_of_cleanup cleaned
      have rest := ih ran
      intro k b
      rw [rest k b, step.kept_iff k b, and_assoc, List.forall_mem_cons]

/-- A cleanup in the calendar after a bucket has been idle longer than `r` succeeds and
removes it. -/
theorem cleanup_removes_stale {bm : BucketMap D} {k : String} {b : Bucket D} {r : Int}
    {now : Instant} (found : bm.get? k = some b)
    (seen : Instant.minMillis ≤ b.lastSeen.ms) (current : now.ms ≤ Instant.maxMillis)
    (positive : 0 ≤ r) (stale : b.lastSeen.ms + r < now.ms) :
    ∃ kept expired, bm.cleanup now r = .ok (kept, expired) ∧ kept.get? k = none ∧ k ∈ expired := by
  have representable : Instant.inRange (now.ms - r) = true := by
    simp only [Instant.inRange, decide_eq_true_eq]
    omega
  obtain ⟨kept, expired, cleaned⟩ := cleanup_ok_of_inRange bm representable
  have step := removesIdle_of_cleanup cleaned
  refine ⟨kept, expired, cleaned, ?_, (step.expired_iff k).2 ⟨b, found, stale⟩⟩
  cases remaining : kept.get? k with
  | none => rfl
  | some b' =>
    obtain ⟨found', fresh⟩ := (step.kept_iff k b').1 remaining
    rw [found, Option.some.injEq] at found'
    subst found'
    omega

end BucketMap

/-! ## The aggregators

Both aggregators clean up their bucket map with the retention of their window, and keep the
window. `LiftsCleanup` says this once; what follows for their buckets is proved from it. -/

/-- The cleanup of a structure around a bucket map is the map's cleanup with the longest idle
time `r` of the structure, which the cleanup keeps. -/
structure LiftsCleanup {A : Type} (buckets : A → BucketMap D) (r : A → Int)
    (cleanup : A → Instant → Except TimeOverflow (A × Nat)) : Prop where
  /-- It fails as the map's cleanup does. -/
  error_iff : ∀ a now e, cleanup a now = .error e ↔ (buckets a).cleanup now (r a) = .error e
  /-- When it succeeds, its map is the map's cleanup, and the idle time stays. -/
  of_ok : ∀ a now a' n, cleanup a now = .ok (a', n) →
    r a' = r a ∧ ∃ expired, (buckets a).cleanup now (r a) = .ok (buckets a', expired)

namespace LiftsCleanup

variable {A : Type} {buckets : A → BucketMap D} {r : A → Int}
  {cleanup : A → Instant → Except TimeOverflow (A × Nat)}

/-- A cleanup that puts the map's cleanup back into the structure, keeping the idle time,
lifts the map's cleanup. -/
theorem of_map (rebuild : A → BucketMap D → A) (rebuilt : ∀ a bm, buckets (rebuild a bm) = bm)
    (keeps : ∀ a bm, r (rebuild a bm) = r a)
    (unfolds : ∀ a now, cleanup a now =
      ((buckets a).cleanup now (r a)).map fun result => (rebuild a result.1, result.2.length)) :
    LiftsCleanup buckets r cleanup := by
  constructor
  · intro a now e
    rw [unfolds]
    cases (buckets a).cleanup now (r a) <;> simp [Except.map]
  · intro a now a' n cleaned
    rw [unfolds] at cleaned
    cases inner : (buckets a).cleanup now (r a) with
    | error e => rw [inner] at cleaned; cases cleaned
    | ok result =>
      rw [inner] at cleaned
      simp only [Except.map, Except.ok.injEq, Prod.mk.injEq] at cleaned
      obtain ⟨rfl, -⟩ := cleaned
      exact ⟨keeps a _, result.2, by rw [rebuilt]⟩

/-- A run of cleanups of the structure is a run of cleanups of its map. -/
theorem cleanups (lifted : LiftsCleanup buckets r cleanup) {times : List Instant} {a after : A}
    (ran : times.foldlM (fun a now => Prod.fst <$> cleanup a now) a = .ok after) :
    r after = r a ∧
      times.foldlM (fun bm now => Prod.fst <$> bm.cleanup now (r a)) (buckets a) =
        .ok (buckets after) := by
  induction times generalizing a with
  | nil =>
    cases ran
    exact ⟨rfl, rfl⟩
  | cons now times ih =>
    rw [List.foldlM_cons] at ran
    cases cleaned : cleanup a now with
    | error e => rw [cleaned] at ran; cases ran
    | ok result =>
      rw [cleaned] at ran
      obtain ⟨same, expired, inner⟩ := lifted.of_ok a now result.1 result.2 cleaned
      obtain ⟨kept, rest⟩ := ih ran
      rw [same] at kept rest
      refine ⟨kept, ?_⟩
      rw [List.foldlM_cons, inner]
      exact rest

/-- A run of cleanups of the structure keeps exactly the buckets seen within the idle time of
every one of them. -/
theorem keepsRecent (lifted : LiftsCleanup buckets r cleanup) {times : List Instant}
    {a after : A} (ran : times.foldlM (fun a now => Prod.fst <$> cleanup a now) a = .ok after) :
    BucketMap.KeepsRecent (r a) times (buckets a) (buckets after) :=
  BucketMap.keepsRecent_cleanups (lifted.cleanups ran).2

/-- Where the map's cleanup succeeds, so does the structure's, and its map is the map's
cleanup. -/
theorem ok_of_ok (lifted : LiftsCleanup buckets r cleanup) {a : A} {now : Instant}
    {kept : BucketMap D} {expired : List String}
    (cleaned : (buckets a).cleanup now (r a) = .ok (kept, expired)) :
    ∃ after n, cleanup a now = .ok (after, n) ∧ buckets after = kept := by
  cases outer : cleanup a now with
  | error e =>
    rw [lifted.error_iff, cleaned] at outer
    cases outer
  | ok result =>
    obtain ⟨-, expired', inner⟩ := lifted.of_ok a now result.1 result.2 outer
    rw [cleaned, Except.ok.injEq, Prod.mk.injEq] at inner
    exact ⟨result.1, result.2, rfl, inner.1.symm⟩

/-- A bucket idle longer than the idle time is removed by the structure's next cleanup at an
instant of the calendar. -/
theorem removes_stale (lifted : LiftsCleanup buckets r cleanup) {a : A} {k : String}
    {b : Bucket D} {now : Instant} (found : (buckets a).get? k = some b) (seen : Instant.inRange b.lastSeen.ms = true)
    (current : now.ms ≤ Instant.maxMillis) (positive : 0 ≤ r a)
    (stale : b.lastSeen.ms + r a < now.ms) :
    ∃ after n, cleanup a now = .ok (after, n) ∧ (buckets after).get? k = none := by
  simp only [Instant.inRange, decide_eq_true_eq] at seen
  obtain ⟨kept, expired, cleaned, gone, -⟩ :=
    BucketMap.cleanup_removes_stale found seen.1 current positive stale
  obtain ⟨after, n, outer, rebuilt⟩ := lifted.ok_of_ok cleaned
  exact ⟨after, n, outer, rebuilt ▸ gone⟩

/-- The structure's cleanup fails exactly when the threshold is out of the calendar, with an
overflow of the subtraction. -/
theorem error_iff_outside (lifted : LiftsCleanup buckets r cleanup) (a : A) (now : Instant)
    (e : TimeOverflow) :
    cleanup a now = .error e ↔ Instant.inRange (now.ms - r a) = false ∧ e = .subtraction := by
  rw [lifted.error_iff, BucketMap.cleanup_eq_error_iff]

end LiftsCleanup

/-- Twice a window that is a duration is its retention. -/
theorem retentionSecs_of_le {w : Nat} (span : 2 * w ≤ durationMaxSecs) :
    retentionSecs w = 2 * w := by
  simp [retentionSecs, span]

/-- The retention of a window whose double is a duration, in milliseconds. -/
theorem retention_millis_of_le {w : Nat} (span : 2 * w ≤ durationMaxSecs) :
    (retentionSecs w : Int) * 1000 = 2000 * w := by
  rw [retentionSecs_of_le span]
  push_cast
  ring

/-- From the epoch to the end of the calendar, the threshold of a cleanup with the retention of
a window leaves the calendar exactly when twice the window is a duration reaching back before
its first instant: the fallback of 365000 days never does. -/
theorem retention_threshold_outside_iff {w : Nat} {now : Int} (sinceEpoch : 0 ≤ now)
    (current : now ≤ Instant.maxMillis) :
    Instant.inRange (now - (retentionSecs w : Int) * 1000) = false ↔
      2 * w ≤ durationMaxSecs ∧ now - 2000 * w < Instant.minMillis := by
  simp only [Instant.inRange, decide_eq_false_iff_not, not_and_or, not_le]
  by_cases span : 2 * w ≤ durationMaxSecs
  · rw [retention_millis_of_le span]
    simp only [span, true_and]
    omega
  · rw [retentionSecs, if_neg span]
    simp only [span, false_and, iff_false, retentionCapSecs, Instant.minMillis,
      Instant.maxMillis] at current ⊢
    omega

theorem PodAggregator.cleanup_unfolds (a : PodAggregator) (now : Instant) :
    a.cleanup now = (a.buckets.cleanup now ((retentionSecs a.windowSecs : Int) * 1000)).map
      fun result => ({ a with buckets := result.1 }, result.2.length) := by
  unfold PodAggregator.cleanup
  cases a.buckets.cleanup now ((retentionSecs a.windowSecs : Int) * 1000) <;> rfl

theorem EventAggregator.cleanup_unfolds (a : EventAggregator) (now : Instant) :
    a.cleanup now = (a.buckets.cleanup now ((retentionSecs a.windowSecs : Int) * 1000)).map
      fun result => ({ a with buckets := result.1 }, result.2.length) := by
  unfold EventAggregator.cleanup
  cases a.buckets.cleanup now ((retentionSecs a.windowSecs : Int) * 1000) <;> rfl

/-- The pod aggregator cleans up its buckets with the retention of its window. -/
theorem PodAggregator.liftsCleanup :
    LiftsCleanup PodAggregator.buckets (fun a => (retentionSecs a.windowSecs : Int) * 1000)
      PodAggregator.cleanup :=
  LiftsCleanup.of_map (fun a bm => { a with buckets := bm }) (fun _ _ => rfl) (fun _ _ => rfl)
    PodAggregator.cleanup_unfolds

/-- The event aggregator cleans up its buckets with the retention of its window. -/
theorem EventAggregator.liftsCleanup :
    LiftsCleanup EventAggregator.buckets (fun a => (retentionSecs a.windowSecs : Int) * 1000)
      EventAggregator.cleanup :=
  LiftsCleanup.of_map (fun a bm => { a with buckets := bm }) (fun _ _ => rfl) (fun _ _ => rfl)
    EventAggregator.cleanup_unfolds

/-! ## Cleanups -/

/-- A cleanup whose threshold is in the calendar removes exactly the buckets idle longer than
the longest idle time, names each of their keys once and
leaves the rest as they were. For the pod and event aggregators whose doubled window is a
duration, a run of cleanups keeps exactly the buckets last seen within twice the window of
every one of them, and a cleanup at an instant of the calendar after that span removes the
bucket. -/
theorem cleanup_removes_exactly_idle :
    (∀ {D : Type} (bm : BucketMap D) (now : Instant) (maxIdle : Int),
      Instant.inRange (now.ms - maxIdle) = true →
      ∃ kept expired, bm.cleanup now maxIdle = .ok (kept, expired) ∧
        BucketMap.RemovesIdle bm now maxIdle kept expired) ∧
    (∀ (a after : PodAggregator) (times : List Instant),
      2 * a.windowSecs ≤ durationMaxSecs →
      times.foldlM (fun a now => Prod.fst <$> a.cleanup now) a = .ok after →
      BucketMap.KeepsRecent (2000 * a.windowSecs) times a.buckets after.buckets) ∧
    (∀ (a after : EventAggregator) (times : List Instant),
      2 * a.windowSecs ≤ durationMaxSecs →
      times.foldlM (fun a now => Prod.fst <$> a.cleanup now) a = .ok after →
      BucketMap.KeepsRecent (2000 * a.windowSecs) times a.buckets after.buckets) ∧
    (∀ (a : PodAggregator) (now : Instant) (k : String) (b : Bucket PodDims),
      2 * a.windowSecs ≤ durationMaxSecs →
      a.buckets.get? k = some b → Instant.inRange b.lastSeen.ms = true →
      now.ms ≤ Instant.maxMillis → b.lastSeen.ms + 2000 * a.windowSecs < now.ms →
      ∃ after n, a.cleanup now = .ok (after, n) ∧ after.buckets.get? k = none) ∧
    (∀ (a : EventAggregator) (now : Instant) (k : String) (b : Bucket EventDims),
      2 * a.windowSecs ≤ durationMaxSecs →
      a.buckets.get? k = some b → Instant.inRange b.lastSeen.ms = true →
      now.ms ≤ Instant.maxMillis → b.lastSeen.ms + 2000 * a.windowSecs < now.ms →
      ∃ after n, a.cleanup now = .ok (after, n) ∧ after.buckets.get? k = none) := by
  refine ⟨?_, ?_, ?_, ?_, ?_⟩
  · intro D bm now maxIdle representable
    obtain ⟨kept, expired, cleaned⟩ := BucketMap.cleanup_ok_of_inRange bm representable
    exact ⟨kept, expired, cleaned, BucketMap.removesIdle_of_cleanup cleaned⟩
  · intro a after times span ran
    rw [← retention_millis_of_le span]
    exact PodAggregator.liftsCleanup.keepsRecent ran
  · intro a after times span ran
    rw [← retention_millis_of_le span]
    exact EventAggregator.liftsCleanup.keepsRecent ran
  · intro a now k b span found seen current stale
    rw [← retention_millis_of_le span] at stale
    exact PodAggregator.liftsCleanup.removes_stale found seen current (by positivity) stale
  · intro a now k b span found seen current stale
    rw [← retention_millis_of_le span] at stale
    exact EventAggregator.liftsCleanup.removes_stale found seen current (by positivity) stale

/-- With a window of a minute, a pod bucket last seen at 1000 s is still there after cleanups at
1060 s and at 1120 s, twice the window later, and the cleanup one millisecond after that
removes it. -/
theorem pod_bucket_lasts_two_windows :
    let bucket : Bucket PodDims := ⟨⟨"team-a", "Running"⟩, 1, ["web-0"], ⟨1000000⟩, ⟨1000000⟩, 0⟩
    let a : PodAggregator :=
      { windowSecs := 60, buckets := { buckets := [("team-a/Running", bucket)], ascending := by decide } }
    BucketMap.KeepsRecent (2000 * a.windowSecs) [⟨1060000⟩, ⟨1120000⟩] a.buckets a.buckets ∧
      ∃ after n, a.cleanup ⟨1120001⟩ = .ok (after, n) ∧ after.buckets.get? "team-a/Running" = none := by
  intro bucket a
  have exactlyIdle := cleanup_removes_exactly_idle
  have ran : ([⟨1060000⟩, ⟨1120000⟩] : List Instant).foldlM
      (fun a now => Prod.fst <$> a.cleanup now) a = .ok a := by
    simp only [a, bucket]
    rfl
  exact ⟨exactlyIdle.2.1 a a _ (by decide) ran,
    exactlyIdle.2.2.2.1 a ⟨1120001⟩ "team-a/Running" bucket (by decide) rfl rfl (by decide)
      (by decide)⟩

/-- From the epoch to the end of the calendar, a cleanup of an aggregator overflows exactly when
twice its window is a duration that reaches back before the first instant of the calendar, and
the overflow is then one of the subtraction. The retention of 365000 days bounds only the
windows whose double is no duration. -/
theorem aggregator_cleanup_overflows_iff (now : Instant) (e : TimeOverflow) (sinceEpoch : 0 ≤ now.ms)
    (current : now.ms ≤ Instant.maxMillis) :
    (∀ a : PodAggregator, a.cleanup now = .error e ↔
      e = .subtraction ∧ 2 * a.windowSecs ≤ durationMaxSecs ∧
        now.ms - 2000 * a.windowSecs < Instant.minMillis) ∧
    (∀ a : EventAggregator, a.cleanup now = .error e ↔
      e = .subtraction ∧ 2 * a.windowSecs ≤ durationMaxSecs ∧
        now.ms - 2000 * a.windowSecs < Instant.minMillis) := by
  refine ⟨fun a => ?_, fun a => ?_⟩
  · rw [PodAggregator.liftsCleanup.error_iff_outside, retention_threshold_outside_iff sinceEpoch current,
      and_comm]
  · rw [EventAggregator.liftsCleanup.error_iff_outside,
      retention_threshold_outside_iff sinceEpoch current, and_comm]

/-- At a present-day instant, an event aggregator with a window of 10^12 seconds cleans up, and
one with a window of 10^13 seconds overflows. -/
theorem long_window_cleanup_overflows :
    let now : Instant := ⟨1700000000000⟩
    let events : EventAggregator := { windowSecs := 10000000000000, buckets := {} }
    (∀ e, ({ events with windowSecs := 1000000000000 }).cleanup now ≠ .error e) ∧
      events.cleanup now = .error .subtraction := by
  intro now events
  have overflows := aggregator_cleanup_overflows_iff now .subtraction (by decide) (by decide)
  refine ⟨fun e refused => ?_, (overflows.2 events).2 ⟨rfl, by decide, by decide⟩⟩
  obtain ⟨-, -, reaches⟩ :=
    ((aggregator_cleanup_overflows_iff now e (by decide) (by decide)).2 _).1 refused
  revert reaches
  decide

/-- A pod aggregator with a window of 10^13 seconds cannot clean up at a present-day instant:
the threshold lies about 634000 years before the epoch. -/
theorem pod_cleanup_overflows_long_window :
    ({ windowSecs := 10000000000000 } : PodAggregator).cleanup ⟨1700000000000⟩ =
      .error .subtraction := by
  rfl

end StateMetrics
