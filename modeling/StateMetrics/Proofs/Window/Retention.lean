import Mathlib
import StateMetrics.Proofs.Window.Cleanup

/-! # Retention grows with the window, up to the longest duration

The retention of a window is twice the window while that is a duration, and 365000 days
otherwise. On the windows whose double is a duration it is therefore monotone and never shorter
than the window. A cleanup with a longer idle time keeps every bucket that one with a shorter
idle time keeps (`cleanup_sublist_of_le`), so an aggregator with a longer such window reclaims no
bucket sooner than one with a shorter window.

Past the longest duration the fallback of 365000 days is far shorter than the window itself,
so retention drops at that boundary: the window of 4611686018427388 seconds keeps idle buckets
for less time than the window one second shorter (`retention_drops_past_longest_duration`).

Main statement: `retention_monotone_within_durations`. -/

namespace StateMetrics

variable {D : Type}

/-! ## The retention of a window -/

theorem retentionSecs_mono {w w' : Nat} (le : w ≤ w') (span : 2 * w' ≤ durationMaxSecs) :
    retentionSecs w ≤ retentionSecs w' := by
  rw [retentionSecs_of_le (by omega), retentionSecs_of_le span]
  omega

/-- Past the longest duration the retention is the fixed fallback. -/
theorem retentionSecs_of_gt {w : Nat} (beyond : durationMaxSecs < 2 * w) :
    retentionSecs w = retentionCapSecs := by
  rw [retentionSecs, if_neg (not_le.2 beyond)]

/-- The fallback is shorter than every window past the longest duration. -/
theorem retentionSecs_lt_of_gt {w : Nat} (beyond : durationMaxSecs < 2 * w) :
    retentionSecs w < w := by
  rw [retentionSecs_of_gt beyond]
  simp only [retentionCapSecs, durationMaxSecs] at beyond ⊢
  omega

/-! ## Cleanups with different idle times -/

namespace BucketMap

/-- At an instant of the calendar, a cleanup with a longer idle time that succeeds is preceded
by one with any shorter, non-negative idle time that also succeeds and keeps a part of what the
longer one keeps, in the same order. -/
theorem cleanup_sublist_of_le {bm : BucketMap D} {now : Instant} {maxIdle maxIdle' : Int}
    (le : maxIdle ≤ maxIdle') (nonneg : 0 ≤ maxIdle) (current : now.ms ≤ Instant.maxMillis)
    {kept' : BucketMap D} {expired' : List String}
    (cleaned' : bm.cleanup now maxIdle' = .ok (kept', expired')) :
    ∃ kept expired, bm.cleanup now maxIdle = .ok (kept, expired) ∧
      kept.buckets.Sublist kept'.buckets := by
  have representable' : Instant.inRange (now.ms - maxIdle') = true := by
    cases range : Instant.inRange (now.ms - maxIdle')
    · rw [cleanup_of_not_inRange bm range] at cleaned'
      cases cleaned'
    · rfl
  -- the later threshold lies between the earlier one and `now`
  have representable : Instant.inRange (now.ms - maxIdle) = true := by
    simp only [Instant.inRange, decide_eq_true_eq] at representable' ⊢
    omega
  rw [cleanup_of_inRange bm representable'] at cleaned'
  simp only [Except.ok.injEq, Prod.mk.injEq] at cleaned'
  obtain ⟨rfl, -⟩ := cleaned'
  refine ⟨_, _, cleanup_of_inRange bm representable, ?_⟩
  exact List.monotone_filter_right _ fun e kept => by
    simp only [Bool.not_eq_true', decide_eq_false_iff_not, not_lt] at kept ⊢
    omega

end BucketMap

namespace LiftsCleanup

variable {A : Type} {buckets : A → BucketMap D} {r : A → Int}
  {cleanup : A → Instant → Except TimeOverflow (A × Nat)}

/-- Of two structures with the same map, the one with the shorter idle time cleans up wherever
the other does, and keeps a part of what it keeps. -/
theorem sublist_of_le (lifted : LiftsCleanup buckets r cleanup) {a b : A}
    (sameMap : buckets a = buckets b) (le : r a ≤ r b) (nonneg : 0 ≤ r a) {now : Instant}
    (current : now.ms ≤ Instant.maxMillis) {after' : A} {n' : Nat}
    (cleaned' : cleanup b now = .ok (after', n')) :
    ∃ after n, cleanup a now = .ok (after, n) ∧
      (buckets after).buckets.Sublist (buckets after').buckets := by
  obtain ⟨-, expired', inner'⟩ := lifted.of_ok b now after' n' cleaned'
  rw [← sameMap] at inner'
  obtain ⟨kept, expired, inner, kept_sublist⟩ :=
    BucketMap.cleanup_sublist_of_le le nonneg current inner'
  obtain ⟨after, n, outer, rebuilt⟩ := lifted.ok_of_ok inner
  exact ⟨after, n, outer, rebuilt ▸ kept_sublist⟩

end LiftsCleanup

/-! ## Retention -/

/-- Retention is twice the window for every window whose double is a duration, so there it is
monotone and never shorter than the window; and a pod or event aggregator with a longer such
window, cleaning up at an instant of the calendar, keeps every bucket that the same aggregator
with a shorter window keeps, so it reclaims no idle bucket sooner. Past the longest duration
retention is the fallback of 365000 days, shorter than the window. -/
theorem retention_monotone_within_durations :
    (∀ w, 2 * w ≤ durationMaxSecs → retentionSecs w = 2 * w ∧ w ≤ retentionSecs w) ∧
    (∀ w w', w ≤ w' → 2 * w' ≤ durationMaxSecs → retentionSecs w ≤ retentionSecs w') ∧
    (∀ w, durationMaxSecs < 2 * w → retentionSecs w = retentionCapSecs ∧ retentionSecs w < w) ∧
    (∀ (a after' : PodAggregator) (w w' n' : Nat) (now : Instant),
      w ≤ w' → 2 * w' ≤ durationMaxSecs → now.ms ≤ Instant.maxMillis →
      { a with windowSecs := w' }.cleanup now = .ok (after', n') →
      ∃ after n, { a with windowSecs := w }.cleanup now = .ok (after, n) ∧
        after.buckets.buckets.Sublist after'.buckets.buckets) ∧
    (∀ (a after' : EventAggregator) (w w' n' : Nat) (now : Instant),
      w ≤ w' → 2 * w' ≤ durationMaxSecs → now.ms ≤ Instant.maxMillis →
      { a with windowSecs := w' }.cleanup now = .ok (after', n') →
      ∃ after n, { a with windowSecs := w }.cleanup now = .ok (after, n) ∧
        after.buckets.buckets.Sublist after'.buckets.buckets) := by
  -- the idle times of the two windows, in milliseconds, compare as the windows do
  have idle : ∀ w w' : Nat, w ≤ w' → 2 * w' ≤ durationMaxSecs →
      (retentionSecs w : Int) * 1000 ≤ (retentionSecs w' : Int) * 1000 := by
    intro w w' le span
    have mono := retentionSecs_mono le span
    omega
  have nonneg : ∀ w : Nat, (0 : Int) ≤ (retentionSecs w : Int) * 1000 := fun w => by positivity
  refine ⟨fun w span => ⟨retentionSecs_of_le span, ?_⟩, fun w w' => retentionSecs_mono,
    fun w beyond => ⟨retentionSecs_of_gt beyond, retentionSecs_lt_of_gt beyond⟩, ?_, ?_⟩
  · rw [retentionSecs_of_le span]
    omega
  · intro a after' w w' n' now le span current cleaned'
    exact PodAggregator.liftsCleanup.sublist_of_le (a := { a with windowSecs := w })
      (b := { a with windowSecs := w' }) rfl (idle w w' le span) (nonneg w) current cleaned'
  · intro a after' w w' n' now le span current cleaned'
    exact EventAggregator.liftsCleanup.sublist_of_le (a := { a with windowSecs := w })
      (b := { a with windowSecs := w' }) rfl (idle w w' le span) (nonneg w) current cleaned'

/-- Just past the longest duration retention drops to 365000 days: the window of
4611686018427388 seconds keeps idle buckets for less than the window, and for less than the
window one second shorter does. -/
theorem retention_drops_past_longest_duration :
    retentionSecs 4611686018427388 < 4611686018427388 ∧
      retentionSecs 4611686018427388 < retentionSecs 4611686018427387 := by
  decide

end StateMetrics
