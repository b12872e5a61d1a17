import Mathlib
import StateMetrics.Proofs.Window.Operations
import StateMetrics.Proofs.Watch.Known
import StateMetrics.Aggregate.Pod

/-! # Pod tallies

The pod aggregator counts the pods it is told about. Against a table of pods by identity
(`P : String → Option Pod`, each pod under `<namespace>/<name>`), it keeps one bucket for each
namespace and phase that a pod of the table has, under the key `<namespace>/<phase>`. The
bucket's members are the names of the table's pods in that group, each once and in ascending
order; its count is their number, and it has one at least. The abnormal table holds exactly the
identities of the table's abnormal pods. `Tallies P a` says all of this.

Adding a pod, updating a pod to a new version, and removing a pod whose version in the table
has its namespace and phase keep the tallies of the table changed accordingly
(`Tallies.add`, `Tallies.update`, `Tallies.remove`). Namespaces are free of `/` throughout, so
that `<namespace>/<phase>` and `<namespace>/<name>` each name one namespace; names and phases
may hold any text. -/

namespace StateMetrics

open Kube BucketMap

section Table

variable (P : String → Option Pod)

/-- A table of pods by identity, with namespaces free of `/`. -/
structure Filed : Prop where
  /-- Each pod stands under `<namespace>/<name>`. -/
  identity : ∀ x p, P x = some p → p.identity = x
  /-- No namespace holds `/`. -/
  noSlash : ∀ x p, P x = some p → '/' ∉ p.namespaceName.toList

/-- The table has a pod named `name` in namespace `ns` and phase `phase`. -/
def InGroup (ns phase name : String) : Prop :=
  ∃ p, P (ns ++ "/" ++ name) = some p ∧ p.phase = phase

/-- A bucket counts the pods of a table in its namespace and phase: its members are their names,
each once and in ascending order, its count is their number, and it has one at least. -/
structure Counts (b : Bucket PodDims) : Prop where
  members : ∀ n, n ∈ b.members ↔ InGroup P b.dims.namespaceName b.dims.phase n
  sorted : b.members.Pairwise (· < ·)
  count : b.count = b.members.length
  nonempty : b.members ≠ []

/-- Buckets that count the pods of a table by namespace and phase. -/
structure Grouped (bm : BucketMap PodDims) : Prop where
  ascending : Ascending bm.buckets
  unbounded : bm.capacity = none
  /-- Each bucket stands under `<namespace>/<phase>` of its own dimensions. -/
  key : ∀ k b, bm.get? k = some b →
    k = b.dims.namespaceName ++ "/" ++ b.dims.phase ∧ '/' ∉ b.dims.namespaceName.toList
  counts : ∀ k b, bm.get? k = some b → Counts P b
  /-- Every pod of the table has its bucket. -/
  complete : ∀ x p, P x = some p → (bm.get? p.bucketKey).isSome

/-- An abnormal table holding exactly the identities of the abnormal pods of a table. -/
structure Tracks (abnormal : List (String × AbnormalEntry)) : Prop where
  ascending : Ascending abnormal
  tracked : ∀ x, (findKey? x abnormal).isSome ↔ ∃ p, P x = some p ∧ p.isAbnormal = true

/-- An aggregator that tallies the pods of a table. -/
structure Tallies (a : PodAggregator) : Prop where
  filed : Filed P
  grouped : Grouped P a.buckets
  tracks : Tracks P a.abnormal

end Table

theorem tallies_empty (windowSecs : Nat) : Tallies (fun _ => none) { windowSecs } where
  filed :=
    { identity := fun _ _ found => by cases found
      noSlash := fun _ _ found => by cases found }
  grouped :=
    { ascending := ascending_nil
      unbounded := rfl
      key := fun _ _ found => by cases found
      counts := fun _ _ found => by cases found
      complete := fun _ _ found => by cases found }
  tracks := ⟨ascending_nil, fun x => by simp⟩

/-! ## Changing the pod under one identity -/

section Update

variable {P : String → Option Pod} {p : Pod}

/-- What a table changed under one key holds: the new value there, the old ones elsewhere. -/
theorem update_some_eq_some {α : Type} {f : String → Option α} {key x : String} {v w : α}
    (found : Function.update f key (some v) x = some w) :
    (x = key ∧ w = v) ∨ (x ≠ key ∧ f x = some w) := by
  by_cases same : x = key
  · subst same
    simp only [Function.update_self, Option.some.injEq] at found
    exact .inl ⟨rfl, found.symm⟩
  · rw [Function.update_of_ne same] at found
    exact .inr ⟨same, found⟩

theorem update_none_eq_some {α : Type} {f : String → Option α} {key x : String} {w : α}
    (found : Function.update f key none x = some w) : x ≠ key ∧ f x = some w := by
  by_cases same : x = key
  · simp [same] at found
  · rw [Function.update_of_ne same] at found
    exact ⟨same, found⟩

theorem Filed.set (filed : Filed P) (hp : '/' ∉ p.namespaceName.toList) :
    Filed (Function.update P p.identity (some p)) := by
  constructor
  · intro x q found
    rcases update_some_eq_some found with ⟨rfl, rfl⟩ | ⟨-, old⟩
    · rfl
    · exact filed.identity x q old
  · intro x q found
    rcases update_some_eq_some found with ⟨-, rfl⟩ | ⟨-, old⟩
    · exact hp
    · exact filed.noSlash x q old

theorem Filed.erase (filed : Filed P) (key : String) : Filed (Function.update P key none) :=
  ⟨fun x q found => filed.identity x q (update_none_eq_some found).2,
    fun x q found => filed.noSlash x q (update_none_eq_some found).2⟩

/-- Changing the pod under `p`'s identity changes the name `p.name` of `p`'s namespace only. -/
theorem inGroup_update (v : Option Pod) (hp : '/' ∉ p.namespaceName.toList) {ns phase n : String}
    (hns : '/' ∉ ns.toList) :
    InGroup (Function.update P p.identity v) ns phase n ↔
      if ns = p.namespaceName ∧ n = p.name then ∃ q, v = some q ∧ q.phase = phase
      else InGroup P ns phase n := by
  unfold InGroup
  split_ifs with same
  · obtain ⟨rfl, rfl⟩ := same
    simp [Pod.identity]
  · have different : ns ++ "/" ++ n ≠ p.identity := fun eq => same (slash_join_inj hns hp eq)
    simp only [Function.update_of_ne different]

theorem inGroup_set_self (hp : '/' ∉ p.namespaceName.toList) (n : String) :
    InGroup (Function.update P p.identity (some p)) p.namespaceName p.phase n ↔
      n = p.name ∨ InGroup P p.namespaceName p.phase n := by
  rw [inGroup_update _ hp hp]
  by_cases same : n = p.name <;> simp [same]

theorem inGroup_erase_self (hp : '/' ∉ p.namespaceName.toList) (n : String) :
    InGroup (Function.update P p.identity none) p.namespaceName p.phase n ↔
      n ≠ p.name ∧ InGroup P p.namespaceName p.phase n := by
  rw [inGroup_update _ hp hp]
  by_cases same : n = p.name <;> simp [same]

/-- Putting `p`, or nothing, under `p`'s identity leaves every other group as it was, when the
version it replaces is in `p`'s phase. -/
theorem inGroup_update_of_ne {v : Option Pod} (hp : '/' ∉ p.namespaceName.toList)
    (newPhase : ∀ q, v = some q → q.phase = p.phase)
    (oldPhase : ∀ q, P p.identity = some q → q.phase = p.phase) {ns phase : String}
    (hns : '/' ∉ ns.toList) (other : ns = p.namespaceName → phase ≠ p.phase) (n : String) :
    InGroup (Function.update P p.identity v) ns phase n ↔ InGroup P ns phase n := by
  rw [inGroup_update v hp hns]
  split_ifs with same
  · obtain ⟨rfl, rfl⟩ := same
    have differs := other rfl
    constructor
    · rintro ⟨q, fresh, inPhase⟩
      exact absurd (inPhase ▸ newPhase q fresh) differs
    · rintro ⟨q, found, inPhase⟩
      exact absurd (inPhase ▸ oldPhase q found) differs
  · rfl

end Update

/-! ## Buckets -/

section Buckets

variable {P P' : String → Option Pod} {bm bm' : BucketMap PodDims} {p : Pod}

/-- A pod of a filed table is in the group of its own namespace and phase. -/
theorem Filed.inGroup (filed : Filed P) {x : String} {q : Pod} (found : P x = some q) :
    InGroup P q.namespaceName q.phase q.name :=
  ⟨q, by rw [← Pod.identity, filed.identity x q found, found], rfl⟩

theorem Counts.congr {b : Bucket PodDims} (counts : Counts P b)
    (same : ∀ n, InGroup P' b.dims.namespaceName b.dims.phase n ↔
      InGroup P b.dims.namespaceName b.dims.phase n) : Counts P' b where
  members n := (counts.members n).trans (same n).symm
  sorted := counts.sorted
  count := counts.count
  nonempty := counts.nonempty

/-- A group without a bucket has no pod. -/
theorem Grouped.not_inGroup (grouped : Grouped P bm) (filed : Filed P) {ns phase : String}
    (hns : '/' ∉ ns.toList) (absent : bm.get? (ns ++ "/" ++ phase) = none) (n : String) :
    ¬ InGroup P ns phase n := by
  rintro ⟨q, found, rfl⟩
  have sameNs : q.namespaceName = ns :=
    (slash_join_inj (filed.noSlash _ q found) hns (filed.identity _ q found)).1
  have present := grouped.complete _ q found
  rw [Pod.bucketKey, sameNs, absent] at present
  cases present

/-- The bucket under `p`'s key stands for `p`'s namespace and phase. -/
theorem Grouped.dims_of_get? (grouped : Grouped P bm) (hp : '/' ∉ p.namespaceName.toList)
    {b : Bucket PodDims} (found : bm.get? p.bucketKey = some b) :
    b.dims = ⟨p.namespaceName, p.phase⟩ := by
  obtain ⟨key, hb⟩ := grouped.key _ b found
  obtain ⟨sameNs, samePhase⟩ := slash_join_inj hb hp key.symm
  rw [← sameNs, ← samePhase]

/-- A bucket of another group than `p`'s still counts its pods once `p`, or nothing, stands
under `p`'s identity, when the version it replaces is in `p`'s phase. -/
theorem Grouped.counts_of_ne (grouped : Grouped P bm) (hp : '/' ∉ p.namespaceName.toList)
    {v : Option Pod} (newPod : ∀ q, v = some q → q = p)
    (oldPhase : ∀ q, P p.identity = some q → q.phase = p.phase) {k : String} {c : Bucket PodDims}
    (found : bm.get? k = some c) (other : k ≠ p.bucketKey) :
    Counts (Function.update P p.identity v) c := by
  obtain ⟨key, hc⟩ := grouped.key k c found
  refine (grouped.counts k c found).congr
    (inGroup_update_of_ne hp (fun q fresh => by rw [newPod q fresh]) oldPhase hc
      fun sameNs samePhase => other ?_)
  rw [key, sameNs, samePhase]
  rfl

/-- Setting the bucket of `p`'s group to one that counts the table with `p`, or with nothing,
under `p`'s identity keeps the buckets grouped, when the version replaced is in `p`'s phase. -/
theorem Grouped.setBucket (grouped : Grouped P bm) (hp : '/' ∉ p.namespaceName.toList)
    {v : Option Pod} (newPod : ∀ q, v = some q → q = p)
    (oldPhase : ∀ q, P p.identity = some q → q.phase = p.phase) {b : Bucket PodDims}
    (set : bm'.buckets = BucketMap.setBucket p.bucketKey b bm.buckets)
    (capacity : bm'.capacity = bm.capacity) (dims : b.dims = ⟨p.namespaceName, p.phase⟩)
    (counts : Counts (Function.update P p.identity v) b) :
    Grouped (Function.update P p.identity v) bm' where
  ascending := by
    rw [set, setBucket_eq_insertSorted]
    exact grouped.ascending.insertSorted _ _
  unbounded := capacity.trans grouped.unbounded
  key k c found := by
    rw [get?_of_setBucket set] at found
    split_ifs at found with same
    · cases found
      rw [same, dims]
      exact ⟨rfl, hp⟩
    · exact grouped.key k c found
  counts k c found := by
    rw [get?_of_setBucket set] at found
    split_ifs at found with same
    · cases found
      exact counts
    · exact grouped.counts_of_ne hp newPod oldPhase found same
  complete x q found := by
    rw [get?_of_setBucket set]
    split_ifs with same
    · rfl
    · by_cases mine : x = p.identity
      · rw [mine, Function.update_self] at found
        exact absurd (by rw [newPod q found]) same
      · exact grouped.complete x q (by rwa [Function.update_of_ne mine] at found)

/-- Erasing the bucket of `p`'s group keeps the buckets grouped, when no pod of that group is
left once nothing stands under `p`'s identity. -/
theorem Grouped.eraseKey (grouped : Grouped P bm) (filed : Filed P)
    (hp : '/' ∉ p.namespaceName.toList) (oldPhase : ∀ q, P p.identity = some q → q.phase = p.phase)
    (erased : bm'.buckets = BucketMap.eraseKey p.bucketKey bm.buckets)
    (capacity : bm'.capacity = bm.capacity)
    (gone : ∀ n, ¬ InGroup (Function.update P p.identity none) p.namespaceName p.phase n) :
    Grouped (Function.update P p.identity none) bm' where
  ascending := by
    rw [erased, BucketMap.eraseKey]
    exact grouped.ascending.filter _
  unbounded := capacity.trans grouped.unbounded
  key k c found := by
    rw [get?_of_eraseKey erased] at found
    split_ifs at found
    exact grouped.key k c found
  counts k c found := by
    rw [get?_of_eraseKey erased] at found
    split_ifs at found with same
    exact grouped.counts_of_ne hp (by simp) oldPhase found same
  complete x q found := by
    have kept : P x = some q := (update_none_eq_some found).2
    rw [get?_of_eraseKey erased]
    split_ifs with same
    · -- a pod left in `p`'s group would still be counted
      obtain ⟨sameNs, samePhase⟩ :=
        slash_join_inj ((filed.erase _).noSlash x q found) hp same
      have member := (filed.erase _).inGroup found
      rw [sameNs, samePhase] at member
      exact absurd member (gone q.name)
    · exact grouped.complete x q kept

/-- Adding `p` to the bucket of its group, when the version it replaces is in its phase. -/
theorem Grouped.addMember (grouped : Grouped P bm) (filed : Filed P)
    (hp : '/' ∉ p.namespaceName.toList) (oldPhase : ∀ q, P p.identity = some q → q.phase = p.phase)
    (now : Instant) :
    Grouped (Function.update P p.identity (some p))
      (bm.addMember p.bucketKey ⟨p.namespaceName, p.phase⟩ p.name now).1 := by
  have newPod : ∀ q, some p = some q → q = p := fun q same => (Option.some.inj same).symm
  cases found : bm.get? p.bucketKey with
  | some b =>
    -- the pod joins the members of its group's bucket
    have dims := grouped.dims_of_get? hp found
    have counts := grouped.counts _ b found
    rw [BucketMap.addMember, touch_of_get? _ _ _ found]
    refine grouped.setBucket hp newPod oldPhase rfl rfl dims
      ⟨fun n => ?_, pairwise_insertMember _ counts.sorted, rfl, insertMember_ne_nil _ _⟩
    simp only at dims ⊢
    rw [dims, inGroup_set_self hp, mem_insertMember, counts.members, dims]
  | none =>
    -- the pod opens its group's bucket: the group had no pod
    have empty := grouped.not_inGroup filed hp found
    rw [BucketMap.addMember, touch_of_room _ _ _ found (by simp [grouped.unbounded])]
    refine grouped.setBucket hp newPod oldPhase rfl rfl rfl
      ⟨fun n => ?_, pairwise_insertMember _ List.Pairwise.nil, rfl, insertMember_ne_nil _ _⟩
    simp only [inGroup_set_self hp, mem_insertMember, List.not_mem_nil, or_false, empty n]

/-- Removing `p` from the bucket of its group, when the version in the table is in its phase;
a bucket left empty goes. -/
theorem Grouped.removeMember (grouped : Grouped P bm) (filed : Filed P)
    (hp : '/' ∉ p.namespaceName.toList) (oldPhase : ∀ q, P p.identity = some q → q.phase = p.phase) :
    Grouped (Function.update P p.identity none) (bm.removeMember p.bucketKey p.name).1 := by
  cases found : bm.get? p.bucketKey with
  | none =>
    -- no bucket, so the table has no pod under `p`'s identity
    have missing : P p.identity = none := by
      cases old : P p.identity with
      | none => rfl
      | some q => exact absurd ⟨q, old, oldPhase q old⟩ (grouped.not_inGroup filed hp found p.name)
    rw [removeMember_of_absent found, Function.update_eq_self_iff.2 missing.symm]
    exact grouped
  | some b =>
    have dims := grouped.dims_of_get? hp found
    have counts := grouped.counts _ b found
    have members : ∀ n, n ∈ b.members.filter (· != p.name) ↔
        InGroup (Function.update P p.identity none) p.namespaceName p.phase n := by
      intro n
      rw [inGroup_erase_self hp, List.mem_filter, counts.members, dims, bne_iff_ne, ne_eq]
      exact and_comm
    rw [removeMember_of_get? found]
    split_ifs with emptied
    · -- the bucket had `p` alone, so it goes
      simp only [List.isEmpty_iff] at emptied
      refine grouped.eraseKey filed hp oldPhase rfl rfl fun n member => ?_
      have listed := (members n).2 member
      rw [emptied] at listed
      cases listed
    · refine grouped.setBucket hp (by simp) oldPhase rfl rfl dims
        ⟨fun n => ?_, counts.sorted.filter _, rfl, ?_⟩
      · simpa only [dims] using members n
      · simpa only [List.isEmpty_iff] using emptied

end Buckets

/-! ## Abnormal pods -/

section Abnormal

variable {P : String → Option Pod} {p : Pod}

/-- Seeing `p` starts or keeps its tracking when it is abnormal, and stops it otherwise. -/
theorem Tracks.observe {a : PodAggregator} (tracks : Tracks P a.abnormal) (now : Instant) :
    Tracks (Function.update P p.identity (some p)) (a.observe p now).abnormal := by
  have answer : ∀ x, (∃ q, Function.update P p.identity (some p) x = some q ∧ q.isAbnormal = true) ↔
      if x = p.identity then p.isAbnormal = true else ∃ q, P x = some q ∧ q.isAbnormal = true := by
    intro x
    split_ifs with same
    · subst same
      simp
    · simp only [Function.update_of_ne same]
  simp only [PodAggregator.observe]
  split_ifs with abnormal present
  · refine ⟨tracks.ascending, fun x => ?_⟩
    rw [answer]
    split_ifs with same
    · subst same
      simp [present, abnormal]
    · exact tracks.tracked x
  · refine ⟨tracks.ascending.insertSorted _ _, fun x => ?_⟩
    rw [answer, findKey?_insertSorted]
    split_ifs with same
    · simp [abnormal]
    · exact tracks.tracked x
  · refine ⟨tracks.ascending.filter _, fun x => ?_⟩
    rw [answer, findKey?_filter_ne]
    split_ifs with same
    · simp [abnormal]
    · exact tracks.tracked x

/-- Forgetting a pod stops its tracking. -/
theorem Tracks.erase {abnormal : List (String × AbnormalEntry)} (tracks : Tracks P abnormal)
    (key : String) : Tracks (Function.update P key none) (abnormal.filter (·.1 != key)) := by
  refine ⟨tracks.ascending.filter _, fun x => ?_⟩
  rw [findKey?_filter_ne]
  split_ifs with same
  · simp [same]
  · simp only [Function.update_of_ne same]
    exact tracks.tracked x

end Abnormal

/-! ## Adding, updating and removing pods -/

section Aggregator

variable {P : String → Option Pod} {a : PodAggregator}

/-- Adding a pod the table lacks tallies the table with the pod. -/
theorem Tallies.add (tallies : Tallies P a) {p : Pod} (hp : '/' ∉ p.namespaceName.toList)
    (fresh : P p.identity = none) (now : Instant) :
    Tallies (Function.update P p.identity (some p)) (a.add p now) where
  filed := tallies.filed.set hp
  grouped := tallies.grouped.addMember tallies.filed hp (by simp [fresh]) now
  tracks := tallies.tracks.observe now

/-- Updating a pod of the table to a new version tallies the table with the new version: the
pod leaves its old bucket when its phase changed, and joins its new one. -/
theorem Tallies.update (tallies : Tallies P a) {old new : Pod}
    (hnew : '/' ∉ new.namespaceName.toList) (found : P new.identity = some old) (now : Instant) :
    Tallies (Function.update P new.identity (some new)) (a.update old new now) := by
  have hold := tallies.filed.noSlash _ old found
  obtain ⟨sameNs, sameName⟩ := slash_join_inj hold hnew (tallies.filed.identity _ old found)
  have sameIdentity : old.identity = new.identity := by rw [Pod.identity, sameNs, sameName]; rfl
  simp only [PodAggregator.update]
  split_ifs with moved
  · -- the pod leaves the bucket of its old phase first
    have left := tallies.grouped.removeMember tallies.filed hold
      (by rw [sameIdentity, found]; simp)
    rw [sameIdentity] at left
    refine ⟨tallies.filed.set hnew, ?_, tallies.tracks.observe now⟩
    have joined := left.addMember (tallies.filed.erase _) hnew (by simp) now
    rwa [Function.update_idem] at joined
  · -- the pod stays in the bucket of its phase
    have samePhase : old.phase = new.phase := by
      simp only [bne_iff_ne, ne_eq, not_not] at moved
      exact (slash_join_inj hold hnew moved).2
    refine ⟨tallies.filed.set hnew, ?_, tallies.tracks.observe now⟩
    exact tallies.grouped.addMember tallies.filed hnew (by simp [found, samePhase]) now

/-- Removing a pod whose version in the table is in its namespace and phase tallies the table
without it. -/
theorem Tallies.remove (tallies : Tallies P a) {p : Pod} (hp : '/' ∉ p.namespaceName.toList)
    (samePhase : ∀ q, P p.identity = some q → q.phase = p.phase) :
    Tallies (Function.update P p.identity none) (a.remove p) where
  filed := tallies.filed.erase _
  grouped := tallies.grouped.removeMember tallies.filed hp samePhase
  tracks := tallies.tracks.erase _

end Aggregator

end StateMetrics
