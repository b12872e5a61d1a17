import Mathlib
import StateMetrics.Proofs.Entries

/-! # Bucket map operations

What each operation of a bucket map does to its buckets. A contribution (`touch`) falls in one
of three cases: the key is present and its bucket is changed in place; the key is new and the
map has room, so a bucket is added; or the key is new and the map is full, so the oldest bucket
is evicted before the new one is added. The other operations change the bucket under an
existing key, or filter buckets out. The windowed aggregators drive a map only through these
operations (`Op`), so what holds after every `Op` holds after every run. Members are kept
ascending, each once (`pairwise_insertMember`). -/

namespace StateMetrics.BucketMap

variable {D : Type}

/-- One call a windowed aggregator makes on its bucket map. -/
inductive Op (D : Type) where
  | addMember (key : String) (dims : D) (member : String) (now : Instant)
  | addOccurrences (key : String) (dims : D) (member : String) (occurrences : Nat) (now : Instant)
  | refresh (key member : String) (now : Instant)
  | removeMember (key member : String)
  | cleanup (now : Instant) (maxIdle : Int)
  | evictOldest

/-- The map after one call. A cleanup whose threshold falls outside the calendar stops before it
removes anything, so the map stays as it was. -/
def apply (bm : BucketMap D) : Op D → BucketMap D
  | .addMember key dims member now => (bm.addMember key dims member now).1
  | .addOccurrences key dims member n now => (bm.addOccurrences key dims member n now).1
  | .refresh key member now => (bm.refresh key member now).1
  | .removeMember key member => (bm.removeMember key member).1
  | .cleanup now maxIdle =>
    match bm.cleanup now maxIdle with
    | .ok (kept, _) => kept
    | .error _ => bm
  | .evictOldest => bm.evictOldest.1

/-- The map after a sequence of calls. -/
def run (bm : BucketMap D) (ops : List (Op D)) : BucketMap D := ops.foldl apply bm

@[simp] theorem run_nil (bm : BucketMap D) : bm.run [] = bm := rfl

@[simp] theorem run_cons (bm : BucketMap D) (op : Op D) (ops : List (Op D)) :
    bm.run (op :: ops) = (bm.apply op).run ops := rfl

/-- A property that every call keeps holds after every run. -/
theorem run_invariant (P : BucketMap D → Prop) (step : ∀ bm op, P bm → P (bm.apply op))
    {bm : BucketMap D} (start : P bm) (ops : List (Op D)) : P (bm.run ops) := by
  induction ops generalizing bm with
  | nil => exact start
  | cons op ops ih => exact ih (step bm op start)

/-! ## Lookup -/

theorem get?_eq_findKey? (bm : BucketMap D) (x : String) : bm.get? x = findKey? x bm.buckets :=
  rfl

theorem contains_iff {bm : BucketMap D} {x : String} :
    bm.contains x = true ↔ x ∈ bm.buckets.map (·.1) := by
  simp only [contains, get?_eq_findKey?, findKey?_isSome_iff]

theorem get?_eq_none_iff {bm : BucketMap D} {x : String} :
    bm.get? x = none ↔ bm.contains x = false := by
  simp [contains]

@[simp] theorem size_eq (bm : BucketMap D) : bm.size = bm.buckets.length := rfl

/-- Advancing the touch sequence changes no bucket. -/
@[simp] theorem get?_with_seq (bm : BucketMap D) (seq : UInt64) (x : String) :
    ({ bm with seq } : BucketMap D).get? x = bm.get? x := rfl

/-- The buckets after setting one under a key. -/
theorem get?_of_setBucket {bm bm' : BucketMap D} {key : String} {b : Bucket D}
    (set : bm'.buckets = setBucket key b bm.buckets) (x : String) :
    bm'.get? x = if x = key then some b else bm.get? x := by
  rw [get?_eq_findKey?, set, setBucket_eq_insertSorted, findKey?_insertSorted, get?_eq_findKey?]

/-- The buckets after erasing the one under a key. -/
theorem get?_of_eraseKey {bm bm' : BucketMap D} {key : String}
    (erased : bm'.buckets = eraseKey key bm.buckets) (x : String) :
    bm'.get? x = if x = key then none else bm.get? x := by
  rw [get?_eq_findKey?, erased, eraseKey, findKey?_filter_ne, get?_eq_findKey?]

theorem get?_put (bm : BucketMap D) (key : String) (b : Bucket D) (x : String) :
    (bm.put key b).get? x = if x = key then some b else bm.get? x :=
  get?_of_setBucket rfl x

theorem get?_erase (bm : BucketMap D) (key x : String) :
    (bm.erase key).get? x = if x = key then none else bm.get? x :=
  get?_of_eraseKey rfl x

/-- Setting the bucket under a present key keeps the keys. -/
theorem contains_of_setBucket {bm bm' : BucketMap D} {key : String} {b : Bucket D}
    (present : bm.contains key = true) (set : bm'.buckets = setBucket key b bm.buckets)
    (x : String) : bm'.contains x = bm.contains x := by
  unfold contains
  rw [get?_of_setBucket set]
  split_ifs with same
  · subst same
    exact present.symm
  · rfl

/-! ## Eviction -/

/-- The oldest bucket is one of the buckets. -/
theorem mem_of_oldestKey {l : List (String × Bucket D)} {k : String} {b : Bucket D}
    (oldest : oldestKey l = some (k, b)) : (k, b) ∈ l := by
  induction l generalizing k b with
  | nil => simp [oldestKey] at oldest
  | cons entry rest ih =>
    obtain ⟨k', b'⟩ := entry
    simp only [oldestKey] at oldest
    split at oldest
    · simp_all
    · split at oldest
      · simp only [Option.some.injEq] at oldest
        exact List.mem_cons_of_mem _ (ih (oldest ▸ ‹_›))
      · simp_all

theorem oldestKey_eq_none_iff {l : List (String × Bucket D)} : oldestKey l = none ↔ l = [] := by
  cases l with
  | nil => simp [oldestKey]
  | cons entry rest =>
    simp only [oldestKey, reduceCtorEq, iff_false]
    split <;> (try split) <;> simp

theorem evictOldest_of_oldestKey {bm : BucketMap D} {k : String} {b : Bucket D}
    (oldest : oldestKey bm.buckets = some (k, b)) : bm.evictOldest = (bm.erase k, some k) := by
  simp [evictOldest, oldest]

theorem evictOldest_of_empty {bm : BucketMap D} (empty : bm.buckets = []) :
    bm.evictOldest = (bm, none) := by
  simp [evictOldest, empty, oldestKey]

/-- Evicting keeps a part of the buckets and the rest of the map. -/
theorem evictOldest_eq_filter (bm : BucketMap D) :
    ∃ p : String × Bucket D → Bool, bm.evictOldest.1 = bm.retain p := by
  cases oldest : oldestKey bm.buckets with
  | none => exact ⟨fun _ => true, by simp [evictOldest, oldest, retain]⟩
  | some entry => exact ⟨(·.1 != entry.1), by rw [evictOldest_of_oldestKey oldest]; rfl⟩

/-! ## Contributions -/

section Touch

variable (dims : D) (now : Instant) (change : Bucket D → Bucket D)

/-- A contribution to a present key changes its bucket in place. -/
theorem touch_of_get? {bm : BucketMap D} {key : String} {b : Bucket D}
    (found : bm.get? key = some b) :
    bm.touch key dims now change =
      (({ bm with seq := bm.seq + 1 } : BucketMap D).put key
          (change { b with lastSeen := now, stamp := bm.seq + 1 }),
       { created := false, evicted := none }) := by
  simp only [get?] at found
  simp [touch, contains, get?, found]

/-- A contribution to a new key in a map with room adds a bucket. -/
theorem touch_of_room {bm : BucketMap D} {key : String} (absent : bm.get? key = none)
    (room : ∀ c, bm.capacity = some c → bm.size < c) :
    bm.touch key dims now change =
      (({ bm with seq := bm.seq + 1 } : BucketMap D).put key
          (change ⟨dims, 0, [], now, now, bm.seq + 1⟩),
       { created := true, evicted := none }) := by
  simp only [get?] at absent
  cases capacity : bm.capacity with
  | none => simp [touch, capacity, absent, get?]
  | some c =>
    have roomy : ¬ c ≤ bm.buckets.length := not_le.2 (room c capacity)
    simp [touch, capacity, absent, get?, roomy, size, contains]

/-- A contribution to a new key in a full map evicts the oldest bucket, then adds one. -/
theorem touch_of_full {bm : BucketMap D} {key k : String} {c : Nat} {old : Bucket D}
    (absent : bm.get? key = none) (capacity : bm.capacity = some c) (full : c ≤ bm.size)
    (oldest : oldestKey bm.buckets = some (k, old)) :
    bm.touch key dims now change =
      ((({ bm with seq := bm.seq + 1 } : BucketMap D).erase k).put key
          (change ⟨dims, 0, [], now, now, bm.seq + 1⟩),
       { created := true, evicted := some k }) := by
  have stillAbsent : findKey? key (eraseKey k bm.buckets) = none := by
    rw [eraseKey, findKey?_filter_ne]
    split
    · rfl
    · exact absent
  simp only [findKey?] at stillAbsent
  simp only [get?] at absent
  simp only [size] at full
  simp [touch, capacity, absent, get?, full, evictOldest, oldest, stillAbsent, contains, size]

/-- A contribution to an empty map adds its one bucket, whatever the capacity. -/
theorem touch_of_empty {bm : BucketMap D} {key : String} (empty : bm.buckets = []) :
    bm.touch key dims now change =
      (({ bm with seq := bm.seq + 1 } : BucketMap D).put key
          (change ⟨dims, 0, [], now, now, bm.seq + 1⟩),
       { created := true, evicted := none }) := by
  cases capacity : bm.capacity <;>
    simp [touch, capacity, empty, get?, evictOldest, oldestKey, contains, size]

end Touch

/-! ## Refreshing and removing -/

/-- Refreshing a present key stamps its bucket, adding a non-empty member. -/
theorem refresh_of_get? {bm : BucketMap D} {key : String} {b : Bucket D}
    (found : bm.get? key = some b) (member : String) (now : Instant) :
    bm.refresh key member now =
      (({ bm with seq := bm.seq + 1 } : BucketMap D).put key
          { b with members := if member.isEmpty then b.members else insertMember member b.members,
                   lastSeen := now, stamp := bm.seq + 1 }, true) := by
  simp [refresh, found]

/-- Refreshing a missing key only advances the touch sequence. -/
theorem refresh_of_absent {bm : BucketMap D} {key : String} (absent : bm.get? key = none)
    (member : String) (now : Instant) :
    bm.refresh key member now = ({ bm with seq := bm.seq + 1 }, false) := by
  simp [refresh, absent]

theorem addOccurrences_zero (bm : BucketMap D) (key : String) (dims : D) (member : String)
    (now : Instant) : bm.addOccurrences key dims member 0 now = ((bm.refresh key member now).1, {}) := by
  simp [addOccurrences]

/-- Removing a member from a missing key changes nothing. -/
theorem removeMember_of_absent {bm : BucketMap D} {key : String} (absent : bm.get? key = none)
    (member : String) : bm.removeMember key member = (bm, false) := by
  simp [removeMember, absent]

/-- Removing a member from a present key drops its bucket when no member is left, and otherwise
recounts it. -/
theorem removeMember_of_get? {bm : BucketMap D} {key : String} {b : Bucket D}
    (found : bm.get? key = some b) (member : String) :
    bm.removeMember key member =
      if (b.members.filter (· != member)).isEmpty then (bm.erase key, true)
      else
        (bm.put key { b with members := b.members.filter (· != member),
                             count := (b.members.filter (· != member)).length }, false) := by
  simp [removeMember, found]

/-- A cleanup that succeeds keeps the buckets seen at or after its threshold. -/
theorem cleanup_ok {bm kept : BucketMap D} {now : Instant} {maxIdle : Int} {expired : List String}
    (cleaned : bm.cleanup now maxIdle = .ok (kept, expired)) :
    ∃ threshold : Instant, now.sub maxIdle = .ok threshold ∧
      kept = bm.retain (fun (_, b) => !(b.lastSeen.ms < threshold.ms)) ∧
      expired = (bm.buckets.filter fun (_, b) => b.lastSeen.ms < threshold.ms).map (·.1) := by
  unfold cleanup at cleaned
  split at cleaned
  · simp at cleaned
  · rename_i threshold subtraction
    simp only [Except.ok.injEq, Prod.mk.injEq] at cleaned
    exact ⟨threshold, subtraction, cleaned.1.symm, cleaned.2.symm⟩

/-- A cleanup call keeps a part of the buckets and the rest of the map, also when its threshold
falls outside the calendar and it stops before removing anything. -/
theorem apply_cleanup_eq_filter (bm : BucketMap D) (now : Instant) (maxIdle : Int) :
    ∃ p : String × Bucket D → Bool, bm.apply (.cleanup now maxIdle) = bm.retain p := by
  simp only [apply]
  split
  · rename_i kept expired cleaned
    obtain ⟨threshold, -, rfl, -⟩ := cleanup_ok cleaned
    exact ⟨_, rfl⟩
  · exact ⟨fun _ => true, by simp [retain]⟩

/-- What a contribution can do to the buckets: set the bucket under its key, after evicting
one bucket under another key or none. -/
theorem touch_shape (bm : BucketMap D) (key : String) (dims : D) (now : Instant)
    (change : Bucket D → Bucket D) :
    ∃ b, ((bm.touch key dims now change).2.evicted = none ∧
          (bm.touch key dims now change).1 = ({ bm with seq := bm.seq + 1 } : BucketMap D).put key b) ∨
         (∃ k, (bm.touch key dims now change).2.evicted = some k ∧ k ≠ key ∧
          k ∈ bm.buckets.map (·.1) ∧
          (bm.touch key dims now change).1 =
            (({ bm with seq := bm.seq + 1 } : BucketMap D).erase k).put key b) := by
  cases found : bm.get? key with
  | some b =>
    rw [touch_of_get? dims now change found]
    exact ⟨_, .inl ⟨rfl, rfl⟩⟩
  | none =>
    by_cases room : ∀ c, bm.capacity = some c → bm.size < c
    · rw [touch_of_room dims now change found room]
      exact ⟨_, .inl ⟨rfl, rfl⟩⟩
    · simp only [not_forall, not_lt] at room
      obtain ⟨c, capacity, full⟩ := room
      cases oldest : oldestKey bm.buckets with
      | none =>
        have empty := oldestKey_eq_none_iff.1 oldest
        rw [touch_of_empty dims now change empty]
        exact ⟨_, .inl ⟨rfl, rfl⟩⟩
      | some entry =>
        obtain ⟨k, old⟩ := entry
        have evicted : k ∈ bm.buckets.map (·.1) := List.mem_map_of_mem (mem_of_oldestKey oldest)
        have different : k ≠ key := by
          rintro rfl
          exact absurd (findKey?_isSome_iff.2 evicted) (by simp [← get?_eq_findKey?, found])
        rw [touch_of_full dims now change found capacity full oldest]
        exact ⟨_, .inr ⟨k, rfl, different, evicted, rfl⟩⟩

/-- A contribution keeps a property of every entry when the entry it writes has it, whether its
bucket is the one found under the key or a fresh one: every other entry it keeps or evicts. -/
theorem forall_mem_touch {P : String × Bucket D → Prop} {bm : BucketMap D}
    (all : ∀ e ∈ bm.buckets, P e) {key : String} {dims : D} {now : Instant}
    {change : Bucket D → Bucket D}
    (found : ∀ b, bm.get? key = some b →
      P (key, change { b with lastSeen := now, stamp := bm.seq + 1 }))
    (fresh : P (key, change ⟨dims, 0, [], now, now, bm.seq + 1⟩)) :
    ∀ e ∈ (bm.touch key dims now change).1.buckets, P e := by
  have set : ∀ {b : Bucket D} {l : List (String × Bucket D)}, (∀ e ∈ l, P e) → P (key, b) →
      ∀ e ∈ setBucket key b l, P e := by
    intro b l old new e member
    rw [setBucket_eq_insertSorted] at member
    rcases mem_insertSorted member with rfl | kept
    · exact new
    · exact old e kept
  cases present : bm.get? key with
  | some b =>
    rw [touch_of_get? dims now change present]
    exact set all (found b present)
  | none =>
    by_cases room : ∀ c, bm.capacity = some c → bm.size < c
    · rw [touch_of_room dims now change present room]
      exact set all fresh
    · simp only [not_forall, not_lt] at room
      obtain ⟨c, capacity, full⟩ := room
      cases oldest : oldestKey bm.buckets with
      | none =>
        rw [touch_of_empty dims now change (oldestKey_eq_none_iff.1 oldest)]
        exact set all fresh
      | some entry =>
        obtain ⟨k, old⟩ := entry
        rw [touch_of_full dims now change present capacity full oldest]
        exact set (fun e member => all e (List.mem_of_mem_filter member)) fresh

theorem capacity_touch (bm : BucketMap D) (key : String) (dims : D) (now : Instant)
    (change : Bucket D → Bucket D) : (bm.touch key dims now change).1.capacity = bm.capacity := by
  obtain ⟨b, ⟨-, same⟩ | ⟨k, -, -, -, same⟩⟩ := touch_shape bm key dims now change <;>
    rw [same] <;> rfl

/-- No call changes the capacity. -/
theorem capacity_apply (bm : BucketMap D) (op : Op D) : (bm.apply op).capacity = bm.capacity := by
  cases op with
  | addMember key dims member now => exact capacity_touch bm key dims now _
  | addOccurrences key dims member n now =>
    by_cases zero : n = 0
    · subst zero
      cases found : bm.get? key <;> simp [apply, addOccurrences_zero, refresh, found]
    · simpa only [apply, addOccurrences, zero, if_false] using capacity_touch bm key dims now _
  | refresh key member now => cases found : bm.get? key <;> simp [apply, refresh, found]
  | removeMember key member =>
    cases found : bm.get? key with
    | none => simp [apply, removeMember_of_absent found]
    | some b => rw [apply, removeMember_of_get? found]; split <;> rfl
  | cleanup now maxIdle =>
    obtain ⟨p, cleaned⟩ := apply_cleanup_eq_filter bm now maxIdle
    rw [cleaned, capacity_retain]
  | evictOldest =>
    obtain ⟨p, evicted⟩ := evictOldest_eq_filter bm
    rw [apply, evicted, capacity_retain]

/-! ## Members -/

theorem mem_insertMember {m x : String} {l : List String} :
    x ∈ insertMember m l ↔ x = m ∨ x ∈ l := by
  fun_induction insertMember m l with
  | case1 => simp
  | case2 y rest below => simp
  | case3 rest notBelow => simp
  | case4 y rest notBelow different ih => grind

/-- Inserting a member keeps the members ascending. -/
theorem pairwise_insertMember (m : String) {l : List String} (sorted : l.Pairwise (· < ·)) :
    (insertMember m l).Pairwise (· < ·) := by
  fun_induction insertMember m l with
  | case1 => simp
  | case2 y rest below =>
    refine List.Pairwise.cons (fun z member => ?_) sorted
    rcases List.mem_cons.1 member with rfl | later
    · exact below
    · exact String.lt_trans below (List.rel_of_pairwise_cons sorted later)
  | case3 rest notBelow => exact sorted
  | case4 y rest notBelow different ih =>
    have above : y < m := lt_of_le_of_ne (not_lt.1 notBelow) (Ne.symm different)
    refine List.Pairwise.cons (fun z member => ?_) (ih sorted.of_cons)
    rcases mem_insertMember.1 member with rfl | later
    · exact above
    · exact List.rel_of_pairwise_cons sorted later

theorem insertMember_ne_nil (m : String) (l : List String) : insertMember m l ≠ [] := by
  cases l with
  | nil => simp [insertMember]
  | cons y rest => unfold insertMember; split_ifs <;> simp

end StateMetrics.BucketMap
