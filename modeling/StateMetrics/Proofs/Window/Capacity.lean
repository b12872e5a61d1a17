import Mathlib
import StateMetrics.Proofs.Window.Operations

/-! # Capacity of bucket maps

A map built with a capacity holds at most that many buckets; a capacity of zero is raised to
one. Only a contribution can add a bucket, and it enforces the bound itself, for new keys
alone: a contribution to a new key in a full map first evicts one bucket under another key, so
the map stays exactly full. A contribution to a present key, a contribution of no occurrences
and a refresh leave the keys as they were, and removing, cleaning up and evicting only shrink
the map.

Main statement: `run_withCapacity_respects_capacity`, over every run from an empty map. -/

namespace StateMetrics.BucketMap

variable {D : Type}

/-- A map of capacity `cap` in the form every run keeps. -/
structure Bounded (cap : Nat) (bm : BucketMap D) : Prop where
  /-- The capacity is `cap`. -/
  capacity : bm.capacity = some cap
  /-- There are at most `cap` buckets. -/
  size_le : bm.size ≤ cap

/-- Two maps with the same keys: an operation between them neither created nor removed a
bucket. -/
def KeepsKeys (bm bm' : BucketMap D) : Prop := ∀ x, bm'.contains x = bm.contains x

/-- How a contribution under `key` to a map `bm` of capacity `cap` must behave, given the map
after it and its report. -/
structure RespectsCapacity (cap : Nat) (bm : BucketMap D) (key : String)
    (result : BucketMap D × Contribution) : Prop where
  /-- The key is present afterwards. -/
  present : result.1.contains key = true
  /-- A bucket is created exactly for a new key. -/
  created : result.2.created = !bm.contains key
  /-- A bucket is evicted exactly when the key is new and the map full. -/
  evicts_iff : result.2.evicted.isSome = true ↔ bm.contains key = false ∧ bm.size = cap
  /-- The evicted bucket was present under another key, and the map is full again. -/
  evicted : ∀ k, result.2.evicted = some k → k ≠ key ∧ bm.contains k = true ∧
    result.1.size = cap ∧ ∀ x, result.1.contains x = true ↔ x = key ∨ (bm.contains x = true ∧ x ≠ k)
  /-- Without an eviction, the keys are the earlier ones and the key. -/
  kept : result.2.evicted = none → ∀ x, result.1.contains x = true ↔ x = key ∨ bm.contains x = true
  /-- The map holds at most `cap` buckets afterwards. -/
  size_le : result.1.size ≤ cap

theorem bounded_withCapacity (c : Nat) : Bounded (max c 1) (withCapacity c : BucketMap D) where
  capacity := rfl
  size_le := by simp [withCapacity]

/-! ## One contribution -/

section Touch

variable {cap : Nat} {bm : BucketMap D} (dims : D) (now : Instant) (change : Bucket D → Bucket D)

theorem respectsCapacity_touch_of_get? {key : String} {b : Bucket D} (inv : Bounded cap bm)
    (found : bm.get? key = some b) :
    RespectsCapacity cap bm key (bm.touch key dims now change) := by
  have present : key ∈ bm.buckets.map (·.1) := findKey?_isSome_iff.1 (by simp [← get?_eq_findKey?, found])
  have contained : bm.contains key = true := contains_iff.2 present
  rw [touch_of_get? dims now change found]
  refine ⟨?_, ?_, ?_, ?_, ?_, ?_⟩
  · simp [contains_iff, setBucket_eq_insertSorted, mem_keys_insertSorted]
  · simp [contained]
  · simp [contained]
  · simp
  · intro _ x
    simp [contains_iff, setBucket_eq_insertSorted, mem_keys_insertSorted]
  · simpa [setBucket_eq_insertSorted, length_insertSorted_of_mem bm.ascending present]
      using inv.size_le

theorem respectsCapacity_touch_of_room {key : String} (inv : Bounded cap bm)
    (absent : bm.get? key = none) (room : bm.size < cap) :
    RespectsCapacity cap bm key (bm.touch key dims now change) := by
  have missing : key ∉ bm.buckets.map (·.1) := findKey?_eq_none_iff.1 absent
  have notContained : bm.contains key = false := get?_eq_none_iff.1 absent
  have roomy : ∀ c, bm.capacity = some c → bm.size < c := by
    intro c capacity
    rw [inv.capacity, Option.some.injEq] at capacity
    exact capacity ▸ room
  rw [touch_of_room dims now change absent roomy]
  refine ⟨?_, ?_, ?_, ?_, ?_, ?_⟩
  · simp [contains_iff, setBucket_eq_insertSorted, mem_keys_insertSorted]
  · simp [notContained]
  · simp only [Option.isSome_none, Bool.false_eq_true, false_iff, not_and]
    intro _ full
    exact absurd full (Nat.ne_of_lt room)
  · simp
  · intro _ x
    simp [contains_iff, setBucket_eq_insertSorted, mem_keys_insertSorted]
  · simp only [size_eq] at room
    simp [setBucket_eq_insertSorted, length_insertSorted_of_not_mem missing]
    omega

theorem respectsCapacity_touch_of_full {key : String} (positive : 0 < cap) (inv : Bounded cap bm)
    (absent : bm.get? key = none) (full : cap ≤ bm.size) :
    RespectsCapacity cap bm key (bm.touch key dims now change) := by
  have missing : key ∉ bm.buckets.map (·.1) := findKey?_eq_none_iff.1 absent
  have notContained : bm.contains key = false := get?_eq_none_iff.1 absent
  have isFull : bm.size = cap := le_antisymm inv.size_le full
  -- a full map is not empty, since the capacity is at least one
  obtain ⟨⟨k, old⟩, oldest⟩ : ∃ entry, oldestKey bm.buckets = some entry := by
    apply Option.ne_none_iff_exists'.1
    rw [Ne, oldestKey_eq_none_iff]
    intro empty
    simp [empty] at isFull
    omega
  have evictedKey : k ∈ bm.buckets.map (·.1) := List.mem_map_of_mem (mem_of_oldestKey oldest)
  have different : k ≠ key := fun same => missing (same ▸ evictedKey)
  have missingAfter : key ∉ (eraseKey k bm.buckets).map (·.1) := by
    rw [eraseKey, mem_keys_filter_ne]
    exact fun kept => missing kept.2
  have shrunk := length_filter_ne_of_mem bm.ascending evictedKey
  rw [touch_of_full dims now change absent inv.capacity full oldest]
  refine ⟨?_, ?_, ?_, ?_, ?_, ?_⟩
  · simp [contains_iff, setBucket_eq_insertSorted, mem_keys_insertSorted]
  · simp [notContained]
  · simp only [size_eq] at isFull
    simp [notContained, isFull]
  · intro k' evicted
    simp only [Option.some.injEq] at evicted
    subst evicted
    refine ⟨different, contains_iff.2 evictedKey, ?_, ?_⟩
    · simp only [size_eq, buckets_put, buckets_erase, setBucket_eq_insertSorted,
        length_insertSorted_of_not_mem missingAfter]
      simp only [eraseKey, size_eq] at shrunk isFull ⊢
      omega
    · intro x
      simp [contains_iff, setBucket_eq_insertSorted, mem_keys_insertSorted, eraseKey,
        mem_keys_filter_ne, and_comm]
  · simp
  · simp only [size_eq, buckets_put, buckets_erase, setBucket_eq_insertSorted,
      length_insertSorted_of_not_mem missingAfter]
    simp only [eraseKey, size_eq] at shrunk isFull ⊢
    omega

/-- Every contribution to a bounded map of positive capacity respects the capacity. -/
theorem respectsCapacity_touch (positive : 0 < cap) (inv : Bounded cap bm) (key : String) :
    RespectsCapacity cap bm key (bm.touch key dims now change) := by
  cases found : bm.get? key with
  | some b => exact respectsCapacity_touch_of_get? dims now change inv found
  | none =>
    by_cases room : bm.size < cap
    · exact respectsCapacity_touch_of_room dims now change inv found room
    · exact respectsCapacity_touch_of_full dims now change positive inv found (not_lt.1 room)

/-- A contribution to a present key reports nothing and keeps the keys. -/
theorem touch_keepsKeys_of_contains {key : String} (present : bm.contains key = true) :
    (bm.touch key dims now change).2 = {} ∧ KeepsKeys bm (bm.touch key dims now change).1 := by
  obtain ⟨b, found⟩ := Option.isSome_iff_exists.1 present
  rw [touch_of_get? dims now change found]
  exact ⟨rfl, contains_of_setBucket present rfl⟩

end Touch

/-! ## Every call -/

theorem refresh_keepsKeys (bm : BucketMap D) (key member : String) (now : Instant) :
    KeepsKeys bm (bm.refresh key member now).1 := by
  intro x
  cases found : bm.get? key with
  | none => rw [refresh_of_absent found]; rfl
  | some b =>
    rw [refresh_of_get? found]
    exact contains_of_setBucket (by simp [contains, found]) rfl x

theorem size_refresh (bm : BucketMap D) (key member : String) (now : Instant) :
    (bm.refresh key member now).1.size = bm.size := by
  cases found : bm.get? key with
  | none => rw [refresh_of_absent found]; rfl
  | some b =>
    have present : key ∈ bm.buckets.map (·.1) :=
      findKey?_isSome_iff.1 (by simp [← get?_eq_findKey?, found])
    rw [refresh_of_get? found]
    simp [setBucket_eq_insertSorted, length_insertSorted_of_mem bm.ascending present]

theorem size_removeMember_le (bm : BucketMap D) (key member : String) :
    (bm.removeMember key member).1.size ≤ bm.size := by
  cases found : bm.get? key with
  | none => rw [removeMember_of_absent found]
  | some b =>
    have present : key ∈ bm.buckets.map (·.1) :=
      findKey?_isSome_iff.1 (by simp [← get?_eq_findKey?, found])
    rw [removeMember_of_get? found]
    split
    · exact List.length_filter_le _ _
    · simp [setBucket_eq_insertSorted, length_insertSorted_of_mem bm.ascending present]

theorem size_evictOldest_le (bm : BucketMap D) : bm.evictOldest.1.size ≤ bm.size := by
  obtain ⟨p, evicted⟩ := evictOldest_eq_filter bm
  rw [evicted]
  exact List.length_filter_le _ _

theorem size_apply_cleanup_le (bm : BucketMap D) (now : Instant) (maxIdle : Int) :
    (bm.apply (.cleanup now maxIdle)).size ≤ bm.size := by
  obtain ⟨p, cleaned⟩ := apply_cleanup_eq_filter bm now maxIdle
  rw [cleaned]
  exact List.length_filter_le _ _

/-- Every call keeps a map of positive capacity bounded. -/
theorem Bounded.apply {cap : Nat} {bm : BucketMap D} (positive : 0 < cap) (inv : Bounded cap bm)
    (op : Op D) : Bounded cap (bm.apply op) := by
  refine ⟨(capacity_apply bm op).trans inv.capacity, ?_⟩
  cases op with
  | addMember key dims member now =>
    exact (respectsCapacity_touch dims now _ positive inv key).size_le
  | addOccurrences key dims member n now =>
    by_cases zero : n = 0
    · subst zero
      simpa only [BucketMap.apply, addOccurrences_zero, size_refresh] using inv.size_le
    · simpa only [BucketMap.apply, addOccurrences, zero, if_false]
        using (respectsCapacity_touch dims now _ positive inv key).size_le
  | refresh key member now =>
    simpa only [BucketMap.apply, size_refresh] using inv.size_le
  | removeMember key member =>
    exact le_trans (size_removeMember_le bm key member) inv.size_le
  | cleanup now maxIdle => exact le_trans (size_apply_cleanup_le bm now maxIdle) inv.size_le
  | evictOldest => exact le_trans (size_evictOldest_le bm) inv.size_le

/-! ## Every run -/

/-- Every run from an empty map with capacity `c` stays within `max c 1` buckets; in every
state it reaches, a contribution under a new key to the full map evicts exactly one bucket under
another key, and otherwise nothing, and leaves the key present, while a contribution to a
present key, a contribution of no occurrences and a refresh neither create nor remove a
bucket. -/
theorem run_withCapacity_respects_capacity (c : Nat) (ops : List (Op D)) :
    let bm := (withCapacity c : BucketMap D).run ops
    bm.size ≤ max c 1 ∧
    (∀ key dims member now,
      RespectsCapacity (max c 1) bm key (bm.addMember key dims member now)) ∧
    (∀ key dims member n now, 0 < n →
      RespectsCapacity (max c 1) bm key (bm.addOccurrences key dims member n now)) ∧
    (∀ key dims member now, bm.contains key = true →
      (bm.addMember key dims member now).2 = {} ∧
        KeepsKeys bm (bm.addMember key dims member now).1) ∧
    (∀ key dims member n now, bm.contains key = true ∨ n = 0 →
      (bm.addOccurrences key dims member n now).2 = {} ∧
        KeepsKeys bm (bm.addOccurrences key dims member n now).1) ∧
    (∀ key member now, KeepsKeys bm (bm.refresh key member now).1) := by
  intro bm
  have positive : 0 < max c 1 := lt_max_of_lt_right Nat.one_pos
  have inv : Bounded (max c 1) bm :=
    run_invariant _ (fun _ op inv => inv.apply positive op) (bounded_withCapacity c) ops
  refine ⟨inv.size_le, ?_, ?_, ?_, ?_, refresh_keepsKeys bm⟩
  · intro key dims member now
    exact respectsCapacity_touch dims now _ positive inv key
  · intro key dims member n now nonzero
    simpa only [addOccurrences, Nat.pos_iff_ne_zero.1 nonzero, if_false]
      using respectsCapacity_touch dims now _ positive inv key
  · intro key dims member now present
    exact touch_keepsKeys_of_contains dims now _ present
  · intro key dims member n now present
    by_cases zero : n = 0
    · subst zero
      rw [addOccurrences_zero]
      exact ⟨rfl, refresh_keepsKeys bm key member now⟩
    · simp only [addOccurrences, zero, if_false]
      exact touch_keepsKeys_of_contains dims now _ (present.resolve_right zero)

/-- In a map of capacity one that holds a bucket, a contribution under another key evicts. -/
theorem capacity_one_contribution_evicts :
    let bm := (withCapacity 1 : BucketMap Unit).run [.addMember "a" () "x" ⟨0⟩]
    0 < 1 ∧ RespectsCapacity 1 bm "b" (bm.addOccurrences "b" () "y" 1 ⟨0⟩) ∧
      (bm.addOccurrences "b" () "y" 1 ⟨0⟩).2.evicted = some "a" :=
  ⟨by decide,
   (run_withCapacity_respects_capacity 1 [.addMember "a" () "x" ⟨0⟩]).2.2.1 "b" () "y" 1 ⟨0⟩
     (by decide),
   by decide⟩

end StateMetrics.BucketMap
