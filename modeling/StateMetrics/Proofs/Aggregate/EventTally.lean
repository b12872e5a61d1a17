import Mathlib
import StateMetrics.Proofs.Window.Operations
import StateMetrics.Aggregate.Event

/-! # Event tallies

An event aggregator is told about events object by object: an object's first version is added,
and every later version updates the version before it (`deliverVersions`), the objects'
deliveries interleaved in any order. When all versions of an object share one bucket, the
bucket of each key counts exactly what the versions of its objects account for: an object's
first version in full, then every growth of its count from one version to the next, a fall
counting nothing (`versionTally`). So no occurrence is lost or counted twice: with counts that
never fall, a bucket counts the latest count of each of its objects. A bucket's members are the
non-empty names of the involved objects of its versions. This holds while the map never has to
evict, that is while no more keys are contributed to than the map holds, and no cleanup runs.

An update whose count did not grow refreshes the bucket and adds nothing; since the object's
first version made the bucket and nothing removes it, the refresh always finds it.

Main statement: `event_buckets_tally_versions`. -/

namespace StateMetrics

open Kube BucketMap

/-! ## Adding occurrences to a bucket map -/

section Occurrences

variable {D : Type}

/-- Adding occurrences under a key that has a bucket, or a positive number of them to a map with
room: the bucket under the key counts them on top of what it counted, modulo `2 ^ 64` (no
occurrences only refresh it), and holds the member if it is not empty; every other bucket
stays. -/
theorem get?_addOccurrences {bm : BucketMap D} (key : String) (dims : D) (member : String)
    (n : Nat) (now : Instant)
    (room : bm.contains key = true ∨ (0 < n ∧ ∀ c, bm.capacity = some c → bm.size < c)) :
    (∀ x, x ≠ key → (bm.addOccurrences key dims member n now).1.get? x = bm.get? x) ∧
    ∃ b', (bm.addOccurrences key dims member n now).1.get? key = some b' ∧
      b'.count = (if n = 0 then ((bm.get? key).map (·.count)).getD 0
        else (((bm.get? key).map (·.count)).getD 0 + n) % 2 ^ 64) ∧
      ∀ m, m ∈ b'.members ↔ (m = member ∧ member ≠ "") ∨ ∃ b, bm.get? key = some b ∧ m ∈ b.members := by
  have inserted : ∀ ms : List String, ∀ m,
      m ∈ (if member.isEmpty then ms else insertMember member ms) ↔
        (m = member ∧ member ≠ "") ∨ m ∈ ms := by
    intro ms m
    by_cases empty : member = "" <;> simp [empty, mem_insertMember, String.isEmpty_iff]
  cases found : bm.get? key with
  | some b =>
    by_cases zero : n = 0
    · -- no occurrences: the bucket is refreshed
      subst zero
      rw [addOccurrences_zero, refresh_of_get? found]
      refine ⟨fun x other => by rw [get?_put, if_neg other, get?_with_seq], _,
        by rw [get?_put, if_pos rfl], by simp, fun m => (inserted _ m).trans ?_⟩
      simp
    · simp only [addOccurrences, zero, if_false]
      rw [touch_of_get? dims now _ found]
      refine ⟨fun x other => by rw [get?_put, if_neg other, get?_with_seq], _,
        by rw [get?_put, if_pos rfl], by simp, fun m => (inserted _ m).trans ?_⟩
      simp
  | none =>
    have fresh : bm.contains key = false := get?_eq_none_iff.1 found
    obtain ⟨positive, roomy⟩ := room.resolve_left (by simp [fresh])
    simp only [addOccurrences, Nat.pos_iff_ne_zero.1 positive, if_false]
    rw [touch_of_room dims now _ found roomy]
    refine ⟨fun x other => by rw [get?_put, if_neg other, get?_with_seq], _,
      by rw [get?_put, if_pos rfl], by simp, fun m => (inserted _ m).trans ?_⟩
    simp

/-- A map has as many buckets as keys. -/
theorem size_eq_card_keys {bm : BucketMap D} {keys : List String}
    (present : ∀ k, bm.contains k = true ↔ k ∈ keys) : bm.size = keys.toFinset.card := by
  have same : (bm.buckets.map (·.1)).toFinset = keys.toFinset := by
    ext k
    simp only [List.mem_toFinset, ← contains_iff, present]
  rw [size_eq, ← List.length_map (f := (·.1)), ← List.toFinset_card_of_nodup bm.ascending.nodup, same]

end Occurrences

/-! ## Versions and their tally -/

/-- The occurrences the versions of one object account for: all of the first version's, then
each growth of the count from one version to the next; a fall counts nothing. -/
def versionTally : List Event → Nat
  | [] => 0
  | v :: rest =>
    v.occurrences + (List.zipWith (fun a b => b.occurrences - a.occurrences) (v :: rest) rest).sum

/-- The steps between consecutive items of a list that grows by one gain one step, from its last
item. -/
theorem zipWith_tail_concat {β γ : Type} (f : β → β → γ) (v w : β) (rest : List β) :
    List.zipWith f (v :: rest ++ [w]) (rest ++ [w]) =
      List.zipWith f (v :: rest) rest ++ [f ((v :: rest).getLast (by simp)) w] := by
  induction rest generalizing v with
  | nil => rfl
  | cons u rest ih =>
    simp only [List.cons_append, List.zipWith_cons_cons] at ih ⊢
    rw [ih u, List.getLast_cons_cons]

/-- A new version adds its growth over the version before it, or all its occurrences when it is
the first. -/
theorem versionTally_concat (vs : List Event) (v : Event) :
    versionTally (vs ++ [v]) =
      versionTally vs + (v.occurrences - (vs.getLast?.map Event.occurrences).getD 0) := by
  cases vs with
  | nil => simp [versionTally]
  | cons w rest =>
    simp only [versionTally, List.cons_append]
    rw [← List.cons_append, zipWith_tail_concat, List.sum_append, List.sum_singleton,
      List.getLast?_eq_some_getLast (List.cons_ne_nil w rest), Option.map_some, Option.getD_some]
    omega

/-- With counts that never fall, the versions of an object account for its latest count. -/
theorem versionTally_of_rising {vs : List Event}
    (rising : vs.Pairwise fun e e' => e.occurrences ≤ e'.occurrences) :
    versionTally vs = (vs.getLast?.map Event.occurrences).getD 0 := by
  induction vs using List.reverseRecOn with
  | nil => rfl
  | append_singleton vs v ih =>
    obtain ⟨earlier, -, below⟩ := List.pairwise_append.1 rising
    rw [versionTally_concat, ih earlier, List.getLast?_concat, Option.map_some, Option.getD_some]
    cases last : vs.getLast? with
    | none => simp
    | some p =>
      have grew : p.occurrences ≤ v.occurrences :=
        below p (List.mem_of_getLast? last) v (List.mem_singleton_self v)
      simp only [Option.map_some, Option.getD_some]
      omega

/-! ## Deliveries -/

section Deliveries

variable {α : Type} [DecidableEq α]

/-- The versions of object `x` among deliveries, in order. -/
def versionsOf (ds : List (α × Event × Instant)) (x : α) : List Event :=
  ds.filterMap fun d => if d.1 = x then some d.2.1 else none

/-- The objects delivered with a version in bucket `k`. -/
def objectsOf (ds : List (α × Event × Instant)) (k : String) : Finset α :=
  ((ds.filter fun d => d.2.1.bucketKey = k).map (·.1)).toFinset

/-- All versions of each object fall in one bucket. -/
def OneBucketEach (ds : List (α × Event × Instant)) : Prop :=
  ∀ d ∈ ds, ∀ d' ∈ ds, d.1 = d'.1 → d.2.1.bucketKey = d'.2.1.bucketKey

/-- What delivering `d` after `ds` adds to its bucket: its growth over the object's version
before, or all its occurrences for a first version. -/
def growthOf (ds : List (α × Event × Instant)) (d : α × Event × Instant) : Nat :=
  d.2.1.occurrences - ((versionsOf ds d.1).getLast?.map Event.occurrences).getD 0

namespace EventAggregator

/-- Delivers a version of an object after the deliveries `earlier`: the object's first version
is added, a later one updates the version delivered before it. -/
def deliverVersion (a : EventAggregator) (earlier : List (α × Event × Instant))
    (d : α × Event × Instant) : EventAggregator :=
  match (versionsOf earlier d.1).getLast? with
  | none => a.add d.2.1 d.2.2
  | some old => a.update old d.2.1 d.2.2

/-- Delivers versions of objects in order, each tagged with its object, at its instant. -/
def deliverVersions (a : EventAggregator) (ds : List (α × Event × Instant)) : EventAggregator :=
  (ds.foldl (fun acc d => (acc.1.deliverVersion acc.2 d, acc.2 ++ [d])) (a, [])).1

theorem foldl_deliverVersion_snd (ds earlier : List (α × Event × Instant)) (a : EventAggregator) :
    (ds.foldl (fun acc d => (acc.1.deliverVersion acc.2 d, acc.2 ++ [d])) (a, earlier)).2 =
      earlier ++ ds := by
  induction ds generalizing a earlier with
  | nil => simp
  | cons d ds ih => rw [List.foldl_cons, ih, List.append_assoc, List.singleton_append]

theorem deliverVersions_concat (a : EventAggregator) (ds : List (α × Event × Instant))
    (d : α × Event × Instant) :
    a.deliverVersions (ds ++ [d]) = (a.deliverVersions ds).deliverVersion ds d := by
  have earlier := foldl_deliverVersion_snd ds [] a
  rw [List.nil_append] at earlier
  simp only [deliverVersions, List.foldl_append, List.foldl_cons, List.foldl_nil, earlier]

end EventAggregator

theorem versionsOf_concat (ds : List (α × Event × Instant)) (d : α × Event × Instant) (x : α) :
    versionsOf (ds ++ [d]) x = if d.1 = x then versionsOf ds x ++ [d.2.1] else versionsOf ds x := by
  by_cases same : d.1 = x <;> simp [versionsOf, List.filterMap_append, same]

theorem mem_versionsOf {ds : List (α × Event × Instant)} {x : α} {v : Event} :
    v ∈ versionsOf ds x ↔ ∃ t, (x, v, t) ∈ ds := by
  simp only [versionsOf, List.mem_filterMap, Option.ite_none_right_eq_some, Option.some.injEq]
  constructor
  · rintro ⟨⟨y, w, t⟩, member, rfl, rfl⟩
    exact ⟨t, member⟩
  · rintro ⟨t, member⟩
    exact ⟨(x, v, t), member, rfl, rfl⟩

theorem mem_objectsOf {ds : List (α × Event × Instant)} {k : String} {x : α} :
    x ∈ objectsOf ds k ↔ ∃ d ∈ ds, d.1 = x ∧ d.2.1.bucketKey = k := by
  simp only [objectsOf, List.mem_toFinset, List.mem_map, List.mem_filter, decide_eq_true_eq]
  constructor
  · rintro ⟨d, ⟨member, key⟩, rfl⟩
    exact ⟨d, member, rfl, key⟩
  · rintro ⟨d, member, rfl, key⟩
    exact ⟨d, ⟨member, key⟩, rfl⟩

theorem objectsOf_concat (ds : List (α × Event × Instant)) (d : α × Event × Instant) (k : String) :
    objectsOf (ds ++ [d]) k =
      if d.2.1.bucketKey = k then insert d.1 (objectsOf ds k) else objectsOf ds k := by
  have listed : ∀ x, x ∈ objectsOf (ds ++ [d]) k ↔
      x ∈ objectsOf ds k ∨ (d.1 = x ∧ d.2.1.bucketKey = k) := by
    intro x
    simp only [mem_objectsOf, List.mem_append, List.mem_singleton]
    constructor
    · rintro ⟨e, member | rfl, same, key⟩
      · exact .inl ⟨e, member, same, key⟩
      · exact .inr ⟨same, key⟩
    · rintro (⟨e, member, same, key⟩ | ⟨same, key⟩)
      · exact ⟨e, .inl member, same, key⟩
      · exact ⟨d, .inr rfl, same, key⟩
  split_ifs with inBucket
  · ext x
    rw [listed, Finset.mem_insert]
    simp [inBucket, eq_comm, or_comm]
  · ext x
    rw [listed]
    simp [inBucket]

omit [DecidableEq α] in
theorem OneBucketEach.of_concat {ds : List (α × Event × Instant)} {d : α × Event × Instant}
    (one : OneBucketEach (ds ++ [d])) : OneBucketEach ds :=
  fun e member e' member' same =>
    one e (List.mem_append_left _ member) e' (List.mem_append_left _ member') same

/-- An object with a version in a bucket other than `d`'s is not `d`'s object. -/
theorem OneBucketEach.ne_of_objectsOf {ds : List (α × Event × Instant)} {d : α × Event × Instant}
    (one : OneBucketEach (ds ++ [d])) {k : String} (other : d.2.1.bucketKey ≠ k) {x : α}
    (member : x ∈ objectsOf ds k) : x ≠ d.1 := by
  rintro rfl
  obtain ⟨d', listed, same, key⟩ := mem_objectsOf.1 member
  exact other (key ▸ (one d' (List.mem_append_left _ listed) d (by simp) same).symm)

/-- The version of `d`'s object delivered before `d` lies in `d`'s bucket. -/
theorem OneBucketEach.getLast?_key {ds : List (α × Event × Instant)} {d : α × Event × Instant}
    (one : OneBucketEach (ds ++ [d])) {old : Event} (last : (versionsOf ds d.1).getLast? = some old) :
    old.bucketKey = d.2.1.bucketKey := by
  obtain ⟨t, member⟩ := mem_versionsOf.1 (List.mem_of_getLast? last)
  exact one _ (List.mem_append_left _ member) d (by simp) rfl

/-- Delivering `d` adds its growth to the tally of its bucket and changes no other tally. -/
theorem sum_tally_concat {ds : List (α × Event × Instant)} {d : α × Event × Instant}
    (one : OneBucketEach (ds ++ [d])) (k : String) :
    ∑ x ∈ objectsOf (ds ++ [d]) k, versionTally (versionsOf (ds ++ [d]) x) =
      ∑ x ∈ objectsOf ds k, versionTally (versionsOf ds x) +
        if d.2.1.bucketKey = k then growthOf ds d else 0 := by
  have other : ∀ x, x ≠ d.1 → versionTally (versionsOf (ds ++ [d]) x) = versionTally (versionsOf ds x) :=
    fun x different => by rw [versionsOf_concat, if_neg (Ne.symm different)]
  have self : versionTally (versionsOf (ds ++ [d]) d.1) =
      versionTally (versionsOf ds d.1) + growthOf ds d := by
    rw [versionsOf_concat, if_pos rfl, versionTally_concat, growthOf]
  rw [objectsOf_concat]
  split_ifs with inBucket
  · by_cases seen : d.1 ∈ objectsOf ds k
    · -- a later version of an object of the bucket: only its own tally grows
      rw [Finset.insert_eq_of_mem seen, ← Finset.add_sum_erase _ _ seen,
        ← Finset.add_sum_erase _ _ seen, self,
        Finset.sum_congr rfl fun x member => other x (Finset.ne_of_mem_erase member)]
      omega
    · -- a first version: the object had no version before
      have fresh : versionsOf ds d.1 = [] := by
        rw [List.eq_nil_iff_forall_not_mem]
        intro v member
        obtain ⟨t, listed⟩ := mem_versionsOf.1 member
        exact seen (mem_objectsOf.2 ⟨_, listed, rfl,
          (one _ (List.mem_append_left _ listed) d (by simp) rfl).trans inBucket⟩)
      rw [Finset.sum_insert seen, self,
        Finset.sum_congr rfl fun x member => other x fun same => seen (same ▸ member)]
      simp [fresh, versionTally]
      omega
  · rw [Finset.sum_congr rfl fun x member => other x (one.ne_of_objectsOf inBucket member)]
    simp

/-- The buckets after a delivery: the delivery's growth is added under its key, with its
involved object's name. -/
theorem deliverVersion_buckets {ds : List (α × Event × Instant)} {d : α × Event × Instant}
    (one : OneBucketEach (ds ++ [d])) (a : EventAggregator) :
    (a.deliverVersion ds d).buckets =
      (a.buckets.addOccurrences d.2.1.bucketKey (EventAggregator.dimsOf d.2.1) d.2.1.involvedName
        (growthOf ds d) d.2.2).1 := by
  unfold EventAggregator.deliverVersion growthOf
  cases last : (versionsOf ds d.1).getLast? with
  | none => simp [EventAggregator.add, EventAggregator.contribute]
  | some old =>
    -- an update within one bucket adds the growth; an update that adds nothing is a refresh
    simp only [EventAggregator.update, one.getLast?_key last, beq_self_eq_true, if_true,
      Option.map_some, Option.getD_some]
    split_ifs with zero
    · rw [zero, addOccurrences_zero]
    · rfl

/-- An event aggregator holding, for the deliveries `ds`, one bucket for each delivered key in a
map of capacity `cap`, each counting the tally of the objects of its key and holding the
non-empty names of the involved objects delivered under it. -/
structure TalliesVersions (cap : Nat) (ds : List (α × Event × Instant)) (a : EventAggregator) :
    Prop where
  capacity : a.buckets.capacity = some cap
  present : ∀ k, a.buckets.contains k = true ↔ k ∈ ds.map (·.2.1.bucketKey)
  count : ∀ k b, a.buckets.get? k = some b →
    b.count = (∑ x ∈ objectsOf ds k, versionTally (versionsOf ds x)) % 2 ^ 64
  members : ∀ k b, a.buckets.get? k = some b → ∀ n,
    n ∈ b.members ↔ n ≠ "" ∧ ∃ d ∈ ds, d.2.1.bucketKey = k ∧ d.2.1.involvedName = n

theorem talliesVersions_new (windowSecs maxEvents : Nat) :
    TalliesVersions (max maxEvents 1) ([] : List (α × Event × Instant))
      (EventAggregator.new windowSecs maxEvents) where
  capacity := rfl
  present k := by simp [EventAggregator.new, withCapacity, contains, get?]
  count k b found := by simp [EventAggregator.new, withCapacity, get?] at found
  members k b found := by simp [EventAggregator.new, withCapacity, get?] at found

section Tallies

variable {cap : Nat} {ds : List (α × Event × Instant)} {a : EventAggregator}

/-- The count under any key, none counting zero, is the tally of the key's objects modulo
`2 ^ 64`. -/
theorem TalliesVersions.count_getD (inv : TalliesVersions cap ds a) (k : String) :
    ((a.buckets.get? k).map (·.count)).getD 0 =
      (∑ x ∈ objectsOf ds k, versionTally (versionsOf ds x)) % 2 ^ 64 := by
  cases found : a.buckets.get? k with
  | some b => exact inv.count k b found
  | none =>
    -- a key without a bucket has no object
    have unseen : k ∉ ds.map (·.2.1.bucketKey) := by
      rw [← inv.present, contains, found]
      simp
    rw [Option.map_none, Option.getD_none, Finset.sum_eq_zero, Nat.zero_mod]
    intro x member
    obtain ⟨e, listed, -, key⟩ := mem_objectsOf.1 member
    exact absurd (List.mem_map.2 ⟨e, listed, key⟩) unseen

/-- The members under any key, none holding nothing, are the names delivered under it. -/
theorem TalliesVersions.mem_members (inv : TalliesVersions cap ds a) (k n : String) :
    (∃ b, a.buckets.get? k = some b ∧ n ∈ b.members) ↔
      n ≠ "" ∧ ∃ d ∈ ds, d.2.1.bucketKey = k ∧ d.2.1.involvedName = n := by
  constructor
  · rintro ⟨b, found, member⟩
    exact (inv.members k b found n).1 member
  · rintro ⟨named, d, listed, key, rfl⟩
    have present : a.buckets.contains k = true := (inv.present k).2 (List.mem_map.2 ⟨d, listed, key⟩)
    obtain ⟨b, found⟩ := Option.isSome_iff_exists.1 present
    exact ⟨b, found, (inv.members k b found _).2 ⟨named, d, listed, key, rfl⟩⟩

/-- The key of a delivery has a bucket, or the delivery is its object's first version and the
map has room for the key. -/
theorem TalliesVersions.room (inv : TalliesVersions cap ds a) {d : α × Event × Instant}
    (one : OneBucketEach (ds ++ [d]))
    (fits : ((ds ++ [d]).map (·.2.1.bucketKey)).toFinset.card ≤ cap) :
    a.buckets.contains d.2.1.bucketKey = true ∨
      (0 < growthOf ds d ∧ ∀ c, a.buckets.capacity = some c → a.buckets.size < c) := by
  by_cases present : a.buckets.contains d.2.1.bucketKey = true
  · exact .inl present
  · have unseen : d.2.1.bucketKey ∉ ds.map (·.2.1.bucketKey) := fun seen =>
      present ((inv.present _).2 seen)
    -- a version of the object before would have put its key in
    have fresh : (versionsOf ds d.1).getLast? = none := by
      cases last : (versionsOf ds d.1).getLast? with
      | none => rfl
      | some old =>
        obtain ⟨t, member⟩ := mem_versionsOf.1 (List.mem_of_getLast? last)
        exact absurd (List.mem_map.2 ⟨_, member, one.getLast?_key last⟩) unseen
    have positive : 0 < growthOf ds d := by
      simp only [growthOf, fresh, Option.map_none, Option.getD_none, Nat.sub_zero]
      exact Event.occurrences_pos d.2.1
    refine .inr ⟨positive, fun c capacity => ?_⟩
    rw [inv.capacity, Option.some.injEq] at capacity
    have grown : ((ds ++ [d]).map (·.2.1.bucketKey)).toFinset =
        insert d.2.1.bucketKey (ds.map (·.2.1.bucketKey)).toFinset := by
      ext k
      simp
    rw [grown, Finset.card_insert_of_notMem (by simpa using unseen)] at fits
    rw [size_eq_card_keys inv.present, ← capacity]
    omega

/-- A delivery whose object keeps its bucket, to a map with room for every key delivered so far,
keeps the buckets tallying the deliveries. -/
theorem TalliesVersions.deliver (inv : TalliesVersions cap ds a) {d : α × Event × Instant}
    (one : OneBucketEach (ds ++ [d]))
    (fits : ((ds ++ [d]).map (·.2.1.bucketKey)).toFinset.card ≤ cap) :
    TalliesVersions cap (ds ++ [d]) (a.deliverVersion ds d) := by
  obtain ⟨others, b', found, count, members⟩ :=
    get?_addOccurrences d.2.1.bucketKey (EventAggregator.dimsOf d.2.1) d.2.1.involvedName
      (growthOf ds d) d.2.2 (inv.room one fits)
  have buckets := deliverVersion_buckets one a
  refine ⟨?_, fun k => ?_, fun k b lookup => ?_, fun k b lookup n => ?_⟩
  · rw [buckets]
    exact (capacity_apply a.buckets (.addOccurrences _ _ _ _ d.2.2)).trans inv.capacity
  · rw [contains, buckets]
    by_cases self : k = d.2.1.bucketKey
    · subst self
      simp [found]
    · rw [others k self, ← contains, inv.present k]
      simp [self]
  · rw [buckets] at lookup
    rw [sum_tally_concat one]
    by_cases self : k = d.2.1.bucketKey
    · -- the delivery's bucket grows by the delivery's growth
      subst self
      rw [found, Option.some.injEq] at lookup
      subst lookup
      -- the count wraps where the tally goes on; no growth leaves both as they were
      rw [count, inv.count_getD, if_pos rfl]
      split_ifs with none
      · rw [none, Nat.add_zero]
      · exact Nat.mod_add_mod _ _ _
    · rw [others k self] at lookup
      rw [inv.count k b lookup, if_neg (Ne.symm self), Nat.add_zero]
  · rw [buckets] at lookup
    have delivered : (∃ e ∈ ds ++ [d], e.2.1.bucketKey = k ∧ e.2.1.involvedName = n) ↔
        (∃ e ∈ ds, e.2.1.bucketKey = k ∧ e.2.1.involvedName = n) ∨
          (d.2.1.bucketKey = k ∧ d.2.1.involvedName = n) := by
      simp only [List.mem_append, List.mem_singleton, or_and_right, exists_or, exists_eq_left]
    rw [delivered]
    by_cases self : k = d.2.1.bucketKey
    · -- the delivery's bucket gains the name of its involved object
      subst self
      rw [found, Option.some.injEq] at lookup
      subst lookup
      rw [members, inv.mem_members]
      constructor
      · rintro (⟨rfl, named⟩ | ⟨named, earlier⟩)
        · exact ⟨named, .inr ⟨rfl, rfl⟩⟩
        · exact ⟨named, .inl earlier⟩
      · rintro ⟨named, earlier | ⟨-, rfl⟩⟩
        · exact .inr ⟨named, earlier⟩
        · exact .inl ⟨rfl, named⟩
    · rw [others k self] at lookup
      rw [inv.members k b lookup n]
      simp [Ne.symm self]

end Tallies

/-- Delivering versions to a new aggregator, each object's versions in one bucket and no more
keys than the map holds, leaves buckets tallying the deliveries. -/
theorem talliesVersions_deliverVersions (windowSecs maxEvents : Nat) (ds : List (α × Event × Instant))
    (one : OneBucketEach ds) (fits : (ds.map (·.2.1.bucketKey)).toFinset.card ≤ max maxEvents 1) :
    TalliesVersions (max maxEvents 1) ds
      ((EventAggregator.new windowSecs maxEvents).deliverVersions ds) := by
  induction ds using List.reverseRecOn with
  | nil => exact talliesVersions_new windowSecs maxEvents
  | append_singleton ds d ih =>
    have earlier : (ds.map (·.2.1.bucketKey)).toFinset.card ≤ max maxEvents 1 :=
      le_trans (Finset.card_le_card fun k member => by simp_all) fits
    rw [EventAggregator.deliverVersions_concat]
    exact (ih one.of_concat earlier).deliver one fits

end Deliveries

/-- An event aggregator fed every version of a set of objects in any interleaving, each object
added with its first version and updated with each later one from the version before, all
versions of an object in one bucket, no cleanup, and no more keys than the map holds: a bucket
exists for exactly the delivered keys; each counts, modulo `2 ^ 64`, over the objects of its
key, the first version's occurrences and every growth of the count from one version to the next,
so exactly that tally while it stays below `2 ^ 64`, and with counts that never fall, the latest
count of each object; its members are the non-empty names of the involved objects delivered
under its key. -/
theorem event_buckets_tally_versions {α : Type} [DecidableEq α] (windowSecs maxEvents : Nat)
    (ds : List (α × Event × Instant)) (one : OneBucketEach ds)
    (fits : (ds.map (·.2.1.bucketKey)).toFinset.card ≤ max maxEvents 1) :
    let a := (EventAggregator.new windowSecs maxEvents).deliverVersions ds
    ∀ k, (a.buckets.contains k = true ↔ k ∈ ds.map (·.2.1.bucketKey)) ∧
      ∀ b, a.buckets.get? k = some b →
        b.count = (∑ x ∈ objectsOf ds k, versionTally (versionsOf ds x)) % 2 ^ 64 ∧
        (∑ x ∈ objectsOf ds k, versionTally (versionsOf ds x) < 2 ^ 64 →
          b.count = ∑ x ∈ objectsOf ds k, versionTally (versionsOf ds x)) ∧
        ((∀ x, (versionsOf ds x).Pairwise fun e e' => e.occurrences ≤ e'.occurrences) →
          b.count =
            (∑ x ∈ objectsOf ds k, ((versionsOf ds x).getLast?.map Event.occurrences).getD 0) %
              2 ^ 64) ∧
        ∀ n, n ∈ b.members ↔ n ≠ "" ∧ ∃ d ∈ ds, d.2.1.bucketKey = k ∧ d.2.1.involvedName = n := by
  intro a k
  have inv := talliesVersions_deliverVersions windowSecs maxEvents ds one fits
  refine ⟨inv.present k, fun b found => ⟨inv.count k b found, fun below => ?_, fun rising => ?_,
    inv.members k b found⟩⟩
  · rw [inv.count k b found, Nat.mod_eq_of_lt below]
  · rw [inv.count k b found]
    exact congrArg (· % 2 ^ 64) (Finset.sum_congr rfl fun x _ => versionTally_of_rising (rising x))

/-- Two pods' back-off events in one bucket, the first seen with count 2 and then 5, the second
with count 3: the bucket counts 8. -/
theorem back_off_versions_tallied :
    let web : Event := ⟨"default", "BackOff", "Warning", "Pod", "web", some 2⟩
    let db : Event := ⟨"default", "BackOff", "Warning", "Pod", "db", some 3⟩
    let ds : List (Nat × Event × Instant) :=
      [(0, web, ⟨0⟩), (1, db, ⟨1⟩), (0, { web with count := some 5 }, ⟨2⟩)]
    let a := (EventAggregator.new 300 1).deliverVersions ds
    OneBucketEach ds ∧ (ds.map (·.2.1.bucketKey)).toFinset.card ≤ max 1 1 ∧
      (a.buckets.contains "default/BackOff/Pod" = true ↔
        "default/BackOff/Pod" ∈ ds.map (·.2.1.bucketKey)) ∧
      (a.buckets.get? "default/BackOff/Pod").map (·.count) = some 8 := by
  intro web db ds a
  have one : OneBucketEach ds := by
    intro d member d' member' _
    simp only [ds, List.mem_cons, List.not_mem_nil, or_false] at member member'
    rcases member with rfl | rfl | rfl <;> rcases member' with rfl | rfl | rfl <;> rfl
  have fits : (ds.map (·.2.1.bucketKey)).toFinset.card ≤ max 1 1 := by decide
  exact ⟨one, fits, (event_buckets_tally_versions 300 1 ds one fits "default/BackOff/Pod").1,
    by decide⟩

/-! ## A count past `2 ^ 64` -/

/-- Each of the objects `0, …, n - 1` delivered once, as the event `ev` at instant `t`. -/
def onceEach (ev : Event) (t : Instant) (n : Nat) : List (Nat × Event × Instant) :=
  (List.range n).map fun i => (i, ev, t)

theorem versionsOf_onceEach (ev : Event) (t : Instant) (n x : Nat) :
    versionsOf (onceEach ev t n) x = if x < n then [ev] else [] := by
  induction n with
  | zero => rfl
  | succ n ih =>
    rw [onceEach, List.range_succ, List.map_append, ← onceEach, List.map_singleton,
      versionsOf_concat, ih]
    by_cases below : x < n
    · simp [below, Nat.ne_of_gt below, Nat.lt_succ_of_lt below]
    · by_cases last : x = n
      · simp [last]
      · have beyond : ¬x < n + 1 := by omega
        simp [below, Ne.symm last, beyond]

theorem mem_onceEach {ev : Event} {t : Instant} {n i : Nat} (below : i < n) :
    (i, ev, t) ∈ onceEach ev t n :=
  List.mem_map.2 ⟨i, List.mem_range.2 below, rfl⟩

theorem oneBucketEach_onceEach (ev : Event) (t : Instant) (n : Nat) :
    OneBucketEach (onceEach ev t n) := by
  intro d listed d' listed' _
  obtain ⟨i, -, rfl⟩ := List.mem_map.1 listed
  obtain ⟨j, -, rfl⟩ := List.mem_map.1 listed'
  rfl

theorem card_keys_onceEach (ev : Event) (t : Instant) (n : Nat) :
    ((onceEach ev t n).map (·.2.1.bucketKey)).toFinset.card ≤ 1 := by
  apply Finset.card_le_one.2
  intro a member b member'
  simp only [onceEach, List.map_map, List.mem_toFinset, List.mem_map] at member member'
  obtain ⟨i, -, rfl⟩ := member
  obtain ⟨j, -, rfl⟩ := member'
  rfl

/-- Objects delivered once each with one event account for its occurrences once per object. -/
theorem tally_onceEach (ev : Event) (t : Instant) (n : Nat) :
    ∑ x ∈ objectsOf (onceEach ev t n) ev.bucketKey, versionTally (versionsOf (onceEach ev t n) x) =
      n * ev.occurrences := by
  have objects : objectsOf (onceEach ev t n) ev.bucketKey = Finset.range n := by
    ext x
    simp [mem_objectsOf, onceEach]
  rw [objects, Finset.sum_congr rfl fun x member => by
    rw [versionsOf_onceEach, if_pos (Finset.mem_range.1 member)]]
  simp [versionTally]

/-- Objects delivered once each with one event leave its bucket counting its occurrences once
per object, modulo `2 ^ 64`. -/
theorem count_onceEach (windowSecs maxEvents : Nat) (ev : Event) (t : Instant) {n : Nat}
    (pos : 0 < n) :
    (((EventAggregator.new windowSecs maxEvents).deliverVersions (onceEach ev t n)).buckets.get?
        ev.bucketKey).map (·.count) = some (n * ev.occurrences % 2 ^ 64) := by
  have fits : ((onceEach ev t n).map (·.2.1.bucketKey)).toFinset.card ≤ max maxEvents 1 :=
    (card_keys_onceEach ev t n).trans (le_max_right _ _)
  have inv := talliesVersions_deliverVersions windowSecs maxEvents _
    (oneBucketEach_onceEach ev t n) fits
  have listed : ev.bucketKey ∈ (onceEach ev t n).map (·.2.1.bucketKey) :=
    List.mem_map.2 ⟨(0, ev, t), mem_onceEach pos, rfl⟩
  obtain ⟨b, found⟩ := Option.isSome_iff_exists.1 ((inv.present _).2 listed)
  rw [found, Option.map_some, inv.count _ b found, tally_onceEach]

/-- Events of `2 ^ 33 + 5` objects, each seen once with the largest count a 32-bit field holds,
all in one bucket: they account for `2 ^ 64 + 2147483643` occurrences, and the bucket's 64-bit
count has wrapped to 2147483643. -/
theorem event_count_wraps_past_64_bits :
    let ev : Event := ⟨"default", "BackOff", "Warning", "Pod", "web", some 2147483647⟩
    OneBucketEach (onceEach ev ⟨0⟩ (2 ^ 33 + 5)) ∧
      ((onceEach ev ⟨0⟩ (2 ^ 33 + 5)).map (·.2.1.bucketKey)).toFinset.card ≤ max 1 1 ∧
      ∑ x ∈ objectsOf (onceEach ev ⟨0⟩ (2 ^ 33 + 5)) ev.bucketKey,
        versionTally (versionsOf (onceEach ev ⟨0⟩ (2 ^ 33 + 5)) x) = 2 ^ 64 + 2147483643 ∧
      (((EventAggregator.new 300 1).deliverVersions (onceEach ev ⟨0⟩ (2 ^ 33 + 5))).buckets.get?
        ev.bucketKey).map (·.count) = some 2147483643 := by
  intro ev
  have occurrences : ev.occurrences = 2147483647 := rfl
  refine ⟨oneBucketEach_onceEach ev ⟨0⟩ _, card_keys_onceEach ev ⟨0⟩ _, ?_, ?_⟩
  · rw [tally_onceEach, occurrences]
    norm_num
  · rw [count_onceEach 300 1 ev ⟨0⟩ (by norm_num), occurrences]
    norm_num

end StateMetrics
