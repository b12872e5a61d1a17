import Mathlib
import StateMetrics.Proofs.Window.Capacity
import StateMetrics.Aggregate.Event

/-! # Event updates that add nothing

An event update that keeps its bucket key and whose occurrence count did not grow contributes
nothing: its bucket is only refreshed. A re-list delivers every event again as an update to
itself, so this is the path those updates take, and it must neither bring back a bucket that
was cleaned up or evicted nor evict a live one to make room in a full map.

A refresh stamps the bucket under its key, when there is one, as seen now, gives it the next
touch number and adds the involved object's name to its members; it keeps the bucket's count,
dimensions and first sighting, every other bucket, and the set of keys
(`update_without_growth_only_refreshes`). -/

namespace StateMetrics

open Kube

namespace BucketMap

variable {D : Type}

/-- A refresh keeps the bucket under every other key. -/
theorem get?_refresh_of_ne (bm : BucketMap D) {key x : String} (member : String) (now : Instant)
    (other : x ≠ key) : (bm.refresh key member now).1.get? x = bm.get? x := by
  cases found : bm.get? key with
  | none => rw [refresh_of_absent found]; rfl
  | some b => rw [refresh_of_get? found, get?_put, if_neg other, get?_with_seq]

/-- A refresh of a missing key creates no bucket. -/
theorem get?_refresh_of_absent {bm : BucketMap D} {key : String} (absent : bm.get? key = none)
    (member : String) (now : Instant) : (bm.refresh key member now).1.get? key = none := by
  rw [refresh_of_absent absent]
  exact absent

/-- A refresh of a present key stamps its bucket as seen now with the next touch number and
adds a non-empty member; the count, the dimensions and the first sighting stay. -/
theorem get?_refresh_of_get? {bm : BucketMap D} {key : String} {b : Bucket D}
    (found : bm.get? key = some b) (member : String) (now : Instant) :
    ∃ b', (bm.refresh key member now).1.get? key = some b' ∧
      b'.dims = b.dims ∧ b'.count = b.count ∧ b'.firstSeen = b.firstSeen ∧
      b'.lastSeen = now ∧ b'.stamp = bm.seq + 1 ∧
      ∀ m, m ∈ b'.members ↔ m ∈ b.members ∨ (m = member ∧ m ≠ "") := by
  rw [refresh_of_get? found, get?_put, if_pos rfl]
  refine ⟨_, rfl, rfl, rfl, rfl, rfl, rfl, fun m => ?_⟩
  by_cases empty : member = ""
  · subst empty
    simp
  · simp only [String.isEmpty_iff, empty, if_false, mem_insertMember]
    constructor
    · rintro (rfl | old)
      · exact .inr ⟨rfl, empty⟩
      · exact .inl old
    · rintro (old | ⟨rfl, -⟩)
      · exact .inr old
      · exact .inl rfl

end BucketMap

namespace EventAggregator

/-- An update that keeps its bucket key and whose count did not grow only refreshes the bucket. -/
theorem update_of_no_growth (a : EventAggregator) {old new : Event}
    (sameKey : old.bucketKey = new.bucketKey) (noGrowth : new.occurrences ≤ old.occurrences)
    (now : Instant) :
    a.update old new now =
      { a with buckets := (a.buckets.refresh new.bucketKey new.involvedName now).1 } := by
  simp [update, sameKey, Nat.sub_eq_zero_of_le noGrowth]

/-- An event update that keeps its bucket key and whose count did not grow, in any state of the
aggregator, full or not: every key keeps or lacks its bucket as before, so no bucket is created,
brought back or evicted; the bucket under every other key stays as it was; and the bucket under
the event's key, if there is one, keeps its count, dimensions and first sighting, is seen now
with the next touch number, and gains the involved object's name as a member when it is not
empty. -/
theorem update_without_growth_only_refreshes (a : EventAggregator) (old new : Event)
    (now : Instant) (sameKey : old.bucketKey = new.bucketKey)
    (noGrowth : new.occurrences ≤ old.occurrences) :
    let a' := a.update old new now
    a'.windowSecs = a.windowSecs ∧ a'.buckets.capacity = a.buckets.capacity ∧
    (∀ x, a'.buckets.contains x = a.buckets.contains x) ∧
    (∀ x, x ≠ new.bucketKey → a'.buckets.get? x = a.buckets.get? x) ∧
    (a.buckets.get? new.bucketKey = none → a'.buckets.get? new.bucketKey = none) ∧
    ∀ b, a.buckets.get? new.bucketKey = some b → ∃ b', a'.buckets.get? new.bucketKey = some b' ∧
      b'.dims = b.dims ∧ b'.count = b.count ∧ b'.firstSeen = b.firstSeen ∧ b'.lastSeen = now ∧
      b'.stamp = a.buckets.seq + 1 ∧
      ∀ m, m ∈ b'.members ↔ m ∈ b.members ∨ (m = new.involvedName ∧ m ≠ "") := by
  intro a'
  have refreshed :
      a' = { a with buckets := (a.buckets.refresh new.bucketKey new.involvedName now).1 } :=
    a.update_of_no_growth sameKey noGrowth now
  rw [refreshed]
  refine ⟨rfl, ?_, BucketMap.refresh_keepsKeys _ _ _ _, fun x other => ?_,
    fun absent => BucketMap.get?_refresh_of_absent absent _ now,
    fun b found => BucketMap.get?_refresh_of_get? found _ now⟩
  · cases found : a.buckets.get? new.bucketKey <;> simp [BucketMap.refresh, found]
  · exact BucketMap.get?_refresh_of_ne _ _ now other

/-- A re-listed event, seen again with its count unchanged in a full map of one bucket, refreshes
its bucket and evicts nothing. -/
theorem relisted_event_refreshes_full_map :
    let old : Event := ⟨"default", "BackOff", "Warning", "Pod", "web", some 3⟩
    let new : Event := ⟨"default", "BackOff", "Warning", "Pod", "web-2", some 3⟩
    let a := (EventAggregator.new 300 1).add old ⟨0⟩
    let a' := a.update old new ⟨1000⟩
    old.bucketKey = new.bucketKey ∧ new.occurrences ≤ old.occurrences ∧
    (a'.windowSecs = a.windowSecs ∧ a'.buckets.capacity = a.buckets.capacity ∧
    (∀ x, a'.buckets.contains x = a.buckets.contains x) ∧
    (∀ x, x ≠ new.bucketKey → a'.buckets.get? x = a.buckets.get? x) ∧
    (a.buckets.get? new.bucketKey = none → a'.buckets.get? new.bucketKey = none) ∧
    ∀ b, a.buckets.get? new.bucketKey = some b → ∃ b', a'.buckets.get? new.bucketKey = some b' ∧
      b'.dims = b.dims ∧ b'.count = b.count ∧ b'.firstSeen = b.firstSeen ∧ b'.lastSeen = ⟨1000⟩ ∧
      b'.stamp = a.buckets.seq + 1 ∧
      ∀ m, m ∈ b'.members ↔ m ∈ b.members ∨ (m = new.involvedName ∧ m ≠ "")) := by
  intro old new a a'
  exact ⟨rfl, by decide, update_without_growth_only_refreshes a old new ⟨1000⟩ rfl (by decide)⟩

end EventAggregator

end StateMetrics
