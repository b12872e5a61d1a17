import Mathlib
import StateMetrics.Proofs.Aggregate.PodTally
import StateMetrics.Proofs.Window.Cleanup

/-! # Abnormal-pod timers

A pod aggregator sees a pod whenever it is added or updated to a version of it, and sees it go
when it is removed. How long a pod has been abnormal is a matter of these sightings alone: its
timer runs from the first of its latest uninterrupted abnormal sightings, and only while the
latest sighting is abnormal (`abnormalSince`). A normal sighting or a removal stops the timer,
and a later abnormal sighting starts it afresh. Repeated adds, updates that move the pod
between buckets and cleanups leave a running timer as it is; a cleanup is no sighting at all.

On every run of adds, updates, removals and cleanups, each at the instant the clock then shows,
over pods whose namespaces hold no `/`, the abnormal table stays keyed by the pods' identities
(`ByIdentity`) and starts the entry of each pod where its history says (`Times`). So the time a
pod has been abnormal at any instant is the time since that start, zero when the clock stands
before it or when no abnormal run is going on, and the abnormal pods listed are exactly the
pods whose timer runs, with those times, in ascending order of namespace and then name.

Main statement: `abnormal_timers_follow_sightings`. -/

namespace StateMetrics

open Kube

namespace PodAggregator

/-! ## Runs and sightings -/

/-- One call on a pod aggregator. -/
inductive Call where
  | add (p : Pod)
  | update (old new : Pod)
  | remove (p : Pod)
  | cleanup
  deriving Repr, DecidableEq

/-- The pods a call hands over. -/
def Call.pods : Call → List Pod
  | .add p | .remove p => [p]
  | .update old new => [old, new]
  | .cleanup => []

/-- The aggregator after a call at an instant; a cleanup that overflows changes nothing. -/
def apply (a : PodAggregator) (now : Instant) : Call → PodAggregator
  | .add p => a.add p now
  | .update old new => a.update old new now
  | .remove p => a.remove p
  | .cleanup =>
    match a.cleanup now with
    | .ok result => result.1
    | .error _ => a

/-- The aggregator after calls, each at its instant. -/
def run (a : PodAggregator) (calls : List (Call × Instant)) : PodAggregator :=
  calls.foldl (fun a c => a.apply c.2 c.1) a

theorem run_concat (a : PodAggregator) (calls : List (Call × Instant)) (c : Call) (t : Instant) :
    a.run (calls ++ [(c, t)]) = (a.run calls).apply t c := by
  rw [run, List.foldl_append]
  rfl

/-- What a call shows of one pod. -/
inductive Sighting where
  | abnormal
  | normal
  | removed
  deriving Repr, DecidableEq

/-- How a version of a pod shows the pod named `name` in namespace `ns`: abnormal or normal if
it is a version of that pod, and nothing otherwise. -/
def Sighting.ofVersion (p : Pod) (ns name : String) : Option Sighting :=
  if p.namespaceName = ns ∧ p.name = name then
    some (if p.isAbnormal then .abnormal else .normal)
  else none

/-- How a call shows the pod named `name` in namespace `ns`: the version it adds or updates to
is seen, and a removal of the pod sees it go. -/
def Call.sighting (ns name : String) : Call → Option Sighting
  | .add p | .update _ p => Sighting.ofVersion p ns name
  | .remove p => if p.namespaceName = ns ∧ p.name = name then some .removed else none
  | .cleanup => none

/-- The sightings of a pod in a run, each at its instant, in order. -/
def sightings (ns name : String) (calls : List (Call × Instant)) : List (Sighting × Instant) :=
  calls.filterMap fun c => (c.1.sighting ns name).map fun s => (s, c.2)

/-- When the latest uninterrupted abnormal sightings of a pod began, if the run ends with some:
the instant of the first abnormal sighting after its last normal sighting or removal. -/
def abnormalSince (ns name : String) (calls : List (Call × Instant)) : Option Instant :=
  (((sightings ns name calls).reverse.takeWhile fun s => s.1 == .abnormal).getLast?).map (·.2)

section History

variable {ns name : String} {c : Call}

theorem sightings_concat (calls : List (Call × Instant)) (t : Instant) :
    sightings ns name (calls ++ [(c, t)]) =
      sightings ns name calls ++ ((c.sighting ns name).map fun s => (s, t)).toList := by
  cases seen : c.sighting ns name <;> simp [sightings, seen]

/-- A call that does not show the pod leaves its timer. -/
theorem abnormalSince_concat_of_none (unseen : c.sighting ns name = none)
    (calls : List (Call × Instant)) (t : Instant) :
    abnormalSince ns name (calls ++ [(c, t)]) = abnormalSince ns name calls := by
  rw [abnormalSince, sightings_concat, unseen]
  simp [abnormalSince]

/-- An abnormal sighting keeps a running timer, and starts one otherwise. -/
theorem abnormalSince_concat_abnormal (seen : c.sighting ns name = some .abnormal)
    (calls : List (Call × Instant)) (t : Instant) :
    abnormalSince ns name (calls ++ [(c, t)]) = some ((abnormalSince ns name calls).getD t) := by
  rw [abnormalSince, sightings_concat, seen]
  simp only [Option.map_some, Option.toList_some, List.reverse_append, List.reverse_singleton,
    List.singleton_append, List.takeWhile_cons, beq_self_eq_true, if_true, List.getLast?_cons,
    abnormalSince]
  cases (List.takeWhile (fun s => s.1 == Sighting.abnormal)
    (sightings ns name calls).reverse).getLast? <;> rfl

/-- A normal sighting or a removal stops the timer. -/
theorem abnormalSince_concat_of_ne {s : Sighting} (seen : c.sighting ns name = some s)
    (stops : s ≠ .abnormal) (calls : List (Call × Instant)) (t : Instant) :
    abnormalSince ns name (calls ++ [(c, t)]) = none := by
  rw [abnormalSince, sightings_concat, seen]
  simp [stops]

/-- A pod of a namespace holding `/` is never seen when no pod handed over has such a
namespace. -/
theorem abnormalSince_of_slash {calls : List (Call × Instant)}
    (slashFree : ∀ c ∈ calls, ∀ p ∈ c.1.pods, '/' ∉ p.namespaceName.toList)
    (slashed : '/' ∈ ns.toList) : abnormalSince ns name calls = none := by
  have unseen : sightings ns name calls = [] := by
    refine List.filterMap_eq_nil_iff.2 fun c member => ?_
    obtain ⟨call, t⟩ := c
    -- a pod of namespace `ns` would hold `/`
    have other : ∀ p ∈ call.pods, p.namespaceName ≠ ns := fun p handed same =>
      slashFree (call, t) member p handed (same ▸ slashed)
    cases call with
    | add p => simp [Call.sighting, Sighting.ofVersion, other p (by simp [Call.pods])]
    | update old new => simp [Call.sighting, Sighting.ofVersion, other new (by simp [Call.pods])]
    | remove p => simp [Call.sighting, other p (by simp [Call.pods])]
    | cleanup => rfl
  simp [abnormalSince, unseen]

end History

/-! ## What each call does to the abnormal table -/

theorem abnormal_observe (a : PodAggregator) (p : Pod) (now : Instant) :
    (a.observe p now).abnormal =
      if p.isAbnormal then
        (if (findKey? p.identity a.abnormal).isSome then a.abnormal
         else insertSorted p.identity ⟨p.namespaceName, p.name, now⟩ a.abnormal)
      else a.abnormal.filter (·.1 != p.identity) := rfl

/-- Seeing a pod starts its entry if it is abnormal and has none, keeps its entry if it is
abnormal, and drops it otherwise. -/
theorem findKey?_observe (a : PodAggregator) (p : Pod) (now : Instant) (x : String) :
    findKey? x (a.observe p now).abnormal =
      if x = p.identity then
        (if p.isAbnormal then some ((findKey? x a.abnormal).getD ⟨p.namespaceName, p.name, now⟩)
         else none)
      else findKey? x a.abnormal := by
  rw [abnormal_observe]
  by_cases same : x = p.identity
  · subst same
    cases abnormal : p.isAbnormal <;> cases found : findKey? p.identity a.abnormal <;>
      simp [found, findKey?_insertSorted, findKey?_filter_ne]
  · split_ifs <;> simp [same, findKey?_insertSorted, findKey?_filter_ne]

/-- An update sees the new version; moving the pod between buckets leaves the abnormal table. -/
theorem abnormal_update (a : PodAggregator) (old new : Pod) (now : Instant) :
    (a.update old new now).abnormal = (a.observe new now).abnormal := by
  simp only [update]
  split <;> rfl

theorem abnormal_remove (a : PodAggregator) (p : Pod) :
    (a.remove p).abnormal = a.abnormal.filter (·.1 != p.identity) := rfl

/-- A cleanup, whether it succeeds or overflows, leaves the abnormal table. -/
theorem abnormal_apply_cleanup (a : PodAggregator) (now : Instant) :
    (a.apply now .cleanup).abnormal = a.abnormal := by
  simp only [apply, cleanup_unfolds]
  cases a.buckets.cleanup now ((retentionSecs a.windowSecs : Int) * 1000) <;> rfl

/-! ## The table keyed by identity -/

/-- An abnormal table kept by identity: in ascending key order, each entry under the identity
of the pod it names, whose namespace holds no `/`. -/
structure ByIdentity (abnormal : List (String × AbnormalEntry)) : Prop where
  ascending : Ascending abnormal
  keyed : ∀ k e, (k, e) ∈ abnormal →
    k = e.namespaceName ++ "/" ++ e.name ∧ '/' ∉ e.namespaceName.toList

theorem ByIdentity.filter {abnormal : List (String × AbnormalEntry)} (table : ByIdentity abnormal)
    (p : String × AbnormalEntry → Bool) : ByIdentity (abnormal.filter p) :=
  ⟨table.ascending.filter p, fun k e member => table.keyed k e (List.mem_of_mem_filter member)⟩

theorem ByIdentity.observe {a : PodAggregator} (table : ByIdentity a.abnormal) {p : Pod}
    (hp : '/' ∉ p.namespaceName.toList) (now : Instant) :
    ByIdentity (a.observe p now).abnormal := by
  rw [abnormal_observe]
  split_ifs
  · exact table
  · refine ⟨table.ascending.insertSorted _ _, fun k e member => ?_⟩
    rcases mem_insertSorted member with started | old
    · cases started
      exact ⟨rfl, hp⟩
    · exact table.keyed k e old
  · exact table.filter _

theorem ByIdentity.apply {a : PodAggregator} (table : ByIdentity a.abnormal) {c : Call}
    (slashFree : ∀ p ∈ c.pods, '/' ∉ p.namespaceName.toList) (now : Instant) :
    ByIdentity (a.apply now c).abnormal := by
  cases c with
  | add p => exact table.observe (slashFree p (by simp [Call.pods])) now
  | update old new =>
    rw [PodAggregator.apply, abnormal_update]
    exact table.observe (slashFree new (by simp [Call.pods])) now
  | remove p => exact table.filter _
  | cleanup =>
    rw [abnormal_apply_cleanup]
    exact table

/-! ## Timers against the history -/

/-- The key of a pod of a namespace without `/` is its identity exactly when it names the same
namespace and name. -/
theorem key_eq_identity_iff {p : Pod} {ns name : String} (hp : '/' ∉ p.namespaceName.toList)
    (hns : '/' ∉ ns.toList) :
    ns ++ "/" ++ name = p.identity ↔ p.namespaceName = ns ∧ p.name = name := by
  constructor
  · intro same
    obtain ⟨sameNs, sameName⟩ := slash_join_inj hns hp same
    exact ⟨sameNs.symm, sameName.symm⟩
  · rintro ⟨rfl, rfl⟩
    rfl

/-- The entry of every pod of a namespace without `/` starts when the history says its latest
abnormal sightings began, and there is none when they do not go on. -/
def Times (calls : List (Call × Instant)) (abnormal : List (String × AbnormalEntry)) : Prop :=
  ∀ ns name, '/' ∉ ns.toList →
    (findKey? (ns ++ "/" ++ name) abnormal).map (·.since) = abnormalSince ns name calls

section Step

variable {calls : List (Call × Instant)} {a : PodAggregator} {c : Call}

/-- Seeing a version of a pod moves its timer as the history does, and no other. -/
theorem Times.observe (times : Times calls a.abnormal) {p : Pod}
    (hp : '/' ∉ p.namespaceName.toList)
    (sees : ∀ ns name, c.sighting ns name = Sighting.ofVersion p ns name) (t : Instant) :
    Times (calls ++ [(c, t)]) (a.observe p t).abnormal := by
  intro ns name hns
  rw [findKey?_observe]
  by_cases same : ns ++ "/" ++ name = p.identity
  · have named := (key_eq_identity_iff hp hns).1 same
    rw [if_pos same]
    cases abnormal : p.isAbnormal
    · -- a normal version stops the timer
      rw [abnormalSince_concat_of_ne (s := .normal)
        (by simp [sees, Sighting.ofVersion, named, abnormal]) (by decide)]
      rfl
    · -- an abnormal version keeps a running timer and starts a stopped one
      rw [abnormalSince_concat_abnormal (by simp [sees, Sighting.ofVersion, named, abnormal]),
        ← times ns name hns]
      cases findKey? (ns ++ "/" ++ name) a.abnormal <;> rfl
  · have other := mt (key_eq_identity_iff hp hns).2 same
    rw [if_neg same, abnormalSince_concat_of_none (by simp [sees, Sighting.ofVersion, other])]
    exact times ns name hns

/-- Removing a pod stops its timer, and no other. -/
theorem Times.remove (times : Times calls a.abnormal) {p : Pod}
    (hp : '/' ∉ p.namespaceName.toList) (t : Instant) :
    Times (calls ++ [(.remove p, t)]) (a.remove p).abnormal := by
  intro ns name hns
  rw [abnormal_remove, findKey?_filter_ne]
  by_cases same : ns ++ "/" ++ name = p.identity
  · have named := (key_eq_identity_iff hp hns).1 same
    rw [if_pos same, abnormalSince_concat_of_ne (s := .removed) (by simp [Call.sighting, named])
      (by decide)]
    rfl
  · have other := mt (key_eq_identity_iff hp hns).2 same
    rw [if_neg same, abnormalSince_concat_of_none (by simp [Call.sighting, other])]
    exact times ns name hns

/-- Every call moves the timers as the history does. -/
theorem Times.apply (times : Times calls a.abnormal)
    (slashFree : ∀ p ∈ c.pods, '/' ∉ p.namespaceName.toList) (t : Instant) :
    Times (calls ++ [(c, t)]) (a.apply t c).abnormal := by
  cases c with
  | add p => exact times.observe (slashFree p (by simp [Call.pods])) (fun _ _ => rfl) t
  | update old new =>
    rw [PodAggregator.apply, abnormal_update]
    exact times.observe (slashFree new (by simp [Call.pods])) (fun _ _ => rfl) t
  | remove p => exact times.remove (slashFree p (by simp [Call.pods])) t
  | cleanup =>
    intro ns name hns
    rw [abnormal_apply_cleanup, abnormalSince_concat_of_none rfl]
    exact times ns name hns

end Step

/-- Every run from a fresh aggregator over pods whose namespaces hold no `/` keeps the abnormal
table by identity, with the timers the history says. -/
theorem byIdentity_times_run (windowSecs : Nat) {calls : List (Call × Instant)}
    (slashFree : ∀ c ∈ calls, ∀ p ∈ c.1.pods, '/' ∉ p.namespaceName.toList) :
    ByIdentity (({ windowSecs } : PodAggregator).run calls).abnormal ∧
      Times calls (({ windowSecs } : PodAggregator).run calls).abnormal := by
  induction calls using List.reverseRecOn with
  | nil =>
    refine ⟨⟨ascending_nil, fun _ _ member => by cases member⟩, fun ns name _ => ?_⟩
    rfl
  | append_singleton calls c ih =>
    obtain ⟨table, times⟩ := ih fun c' member => slashFree c' (by simp [member])
    have handed := slashFree c (by simp)
    rw [run_concat]
    exact ⟨table.apply handed c.2, times.apply handed c.2⟩

/-! ## The abnormal pods listed -/

/-- Two texts compared as keys of a sort: by the first, then by the second. -/
theorem lexLe_pair (x y u v : String) :
    Text.lexLe [x, y] [u, v] = true ↔ toLex (x, y) ≤ toLex (u, v) := by
  rw [Prod.Lex.toLex_le_toLex, le_iff_lt_or_eq (a := y)]
  simp [Text.lexLe]

/-- The entries of an abnormal table kept by identity, sorted by namespace and then name, are
strictly ascending in that order. -/
theorem pairwise_sortByTexts {abnormal : List (String × AbnormalEntry)}
    (table : ByIdentity abnormal) :
    (Text.sortByTexts (fun (e : AbnormalEntry) => [e.namespaceName, e.name])
      (abnormal.map (·.2))).Pairwise
        fun e f => toLex (e.namespaceName, e.name) < toLex (f.namespaceName, f.name) := by
  have perm := List.mergeSort_perm (abnormal.map (·.2))
    (fun e f => Text.lexLe [e.namespaceName, e.name] [f.namespaceName, f.name])
  -- sorted by the key, non-strictly
  have sorted : ((abnormal.map (·.2)).mergeSort fun e f =>
      Text.lexLe [e.namespaceName, e.name] [f.namespaceName, f.name]).Pairwise fun e f =>
        Text.lexLe [e.namespaceName, e.name] [f.namespaceName, f.name] = true := by
    refine List.pairwise_mergeSort (fun e f g ef fg => ?_) (fun e f => ?_) _
    · exact (lexLe_pair _ _ _ _).2
        (le_trans ((lexLe_pair _ _ _ _).1 ef) ((lexLe_pair _ _ _ _).1 fg))
    · rcases le_total (toLex (e.namespaceName, e.name)) (toLex (f.namespaceName, f.name))
        with ef | fe
      · simp [(lexLe_pair _ _ _ _).2 ef]
      · simp [(lexLe_pair _ _ _ _).2 fe]
  -- the entries name distinct pods, since their identities are distinct keys
  have distinct : (abnormal.map (·.2)).Pairwise fun e f =>
      (e.namespaceName, e.name) ≠ (f.namespaceName, f.name) := by
    have keys : abnormal.Pairwise fun x y => x.1 < y.1 := List.pairwise_map.1 table.ascending
    refine List.pairwise_map.2 (keys.imp_of_mem fun {x y} listedX listedY below same => ?_)
    obtain ⟨keyX, -⟩ := table.keyed x.1 x.2 listedX
    obtain ⟨keyY, -⟩ := table.keyed y.1 y.2 listedY
    simp only [Prod.mk.injEq] at same
    rw [keyX, keyY, same.1, same.2] at below
    exact lt_irrefl _ below
  have sortedDistinct := (perm.pairwise_iff fun {_ _} different => Ne.symm different).2 distinct
  unfold Text.sortByTexts
  refine (sorted.and sortedDistinct).imp fun {e f} both => ?_
  exact lt_of_le_of_ne ((lexLe_pair _ _ _ _).1 both.1) (by simpa using both.2)

theorem mem_abnormalPods (a : PodAggregator) (now : Instant) (ns name : String) (d : Nat) :
    (ns, name, d) ∈ a.abnormalPods now ↔
      ∃ k e, (k, e) ∈ a.abnormal ∧ e.namespaceName = ns ∧ e.name = name ∧
        d = elapsedMs e.since now := by
  simp only [abnormalPods, Text.sortByTexts, List.mem_map, List.mem_mergeSort, Prod.mk.injEq,
    Prod.exists, exists_eq_right]
  constructor
  · rintro ⟨e, ⟨k, listed⟩, sameNs, sameName, sameTime⟩
    exact ⟨k, e, listed, sameNs, sameName, sameTime.symm⟩
  · rintro ⟨k, e, listed, sameNs, sameName, sameTime⟩
    exact ⟨e, ⟨k, listed⟩, sameNs, sameName, sameTime.symm⟩

section Listing

variable {calls : List (Call × Instant)} {a : PodAggregator}

/-- A pod's time is the time since its timer started, and zero when it does not run. -/
theorem abnormalDurationMs_of_times (times : Times calls a.abnormal) (now : Instant)
    {ns : String} (hns : '/' ∉ ns.toList) (name : String) :
    a.abnormalDurationMs now ns name =
      ((abnormalSince ns name calls).map fun t0 => (now.ms - t0.ms).toNat).getD 0 := by
  rw [← times ns name hns, abnormalDurationMs]
  cases findKey? (ns ++ "/" ++ name) a.abnormal <;> rfl

theorem isTrackedAbnormal_of_times (times : Times calls a.abnormal) {ns : String}
    (hns : '/' ∉ ns.toList) (name : String) :
    a.isTrackedAbnormal ns name = (abnormalSince ns name calls).isSome := by
  rw [← times ns name hns, isTrackedAbnormal, Option.isSome_map]

/-- The pods listed are those whose timer runs, each with the time since it started. -/
theorem mem_abnormalPods_of_times (table : ByIdentity a.abnormal) (times : Times calls a.abnormal)
    (slashFree : ∀ c ∈ calls, ∀ p ∈ c.1.pods, '/' ∉ p.namespaceName.toList) (now : Instant)
    (ns name : String) (d : Nat) :
    (ns, name, d) ∈ a.abnormalPods now ↔
      ∃ t0, abnormalSince ns name calls = some t0 ∧ d = (now.ms - t0.ms).toNat := by
  rw [mem_abnormalPods]
  constructor
  · rintro ⟨k, e, listed, rfl, rfl, rfl⟩
    obtain ⟨rfl, hns⟩ := table.keyed k e listed
    have started := times e.namespaceName e.name hns
    rw [findKey?_of_mem table.ascending listed] at started
    exact ⟨e.since, started.symm, rfl⟩
  · rintro ⟨t0, started, rfl⟩
    by_cases hns : '/' ∈ ns.toList
    · rw [abnormalSince_of_slash slashFree hns] at started
      cases started
    · rw [← times ns name hns] at started
      obtain ⟨e, found, rfl⟩ := Option.map_eq_some_iff.1 started
      have listed := mem_of_findKey? found
      obtain ⟨key, heNs⟩ := table.keyed _ e listed
      obtain ⟨sameNs, sameName⟩ := slash_join_inj hns heNs key
      exact ⟨_, e, listed, sameNs.symm, sameName.symm, rfl⟩

end Listing

/-- For every run of adds, updates, removals and cleanups on a fresh aggregator, each at the
instant its clock then shows, over pods whose namespaces hold no `/`: at any instant `now`, the
time a pod of a namespace without `/` has been abnormal is `now` less the instant its latest
uninterrupted abnormal sightings began, or zero when `now` is earlier, and zero when the run
does not end with such sightings (the pod was last seen normal, or removed, or never seen),
and the pod is tracked exactly when they go on; the abnormal pods listed are exactly these
pods, each once with its time, in strictly ascending order of namespace and then name. A
cleanup shows no pod, so cleanups change none of this. -/
theorem abnormal_timers_follow_sightings (windowSecs : Nat) (calls : List (Call × Instant))
    (slashFree : ∀ c ∈ calls, ∀ p ∈ c.1.pods, '/' ∉ p.namespaceName.toList) (now : Instant) :
    let a := ({ windowSecs } : PodAggregator).run calls
    (∀ ns name, '/' ∉ ns.toList →
      a.abnormalDurationMs now ns name =
        ((abnormalSince ns name calls).map fun t0 => (now.ms - t0.ms).toNat).getD 0 ∧
      a.isTrackedAbnormal ns name = (abnormalSince ns name calls).isSome) ∧
    (∀ ns name d, (ns, name, d) ∈ a.abnormalPods now ↔
      ∃ t0, abnormalSince ns name calls = some t0 ∧ d = (now.ms - t0.ms).toNat) ∧
    (a.abnormalPods now).Pairwise fun x y => x.1 < y.1 ∨ (x.1 = y.1 ∧ x.2.1 < y.2.1) := by
  intro a
  obtain ⟨table, times⟩ := byIdentity_times_run windowSecs slashFree
  refine ⟨fun ns name hns => ⟨abnormalDurationMs_of_times times now hns name,
    isTrackedAbnormal_of_times times hns name⟩, mem_abnormalPods_of_times table times slashFree now,
    ?_⟩
  -- the listing follows the sorted entries
  rw [abnormalPods, List.pairwise_map]
  refine (pairwise_sortByTexts table).imp fun {e f} ordered => ?_
  exact Prod.Lex.toLex_lt_toLex.1 ordered

/-- A pod added while unschedulable and updated thirty seconds later to running but not ready
has been abnormal for those thirty seconds: moving it to another bucket leaves its timer. -/
theorem unready_pod_keeps_unschedulable_timer :
    let pending : Pod := ⟨"default", "a", some ⟨some "Pending", [⟨"PodScheduled", "False"⟩]⟩⟩
    let running : Pod := ⟨"default", "a", some ⟨some "Running", [⟨"Ready", "False"⟩]⟩⟩
    let calls := [(Call.add pending, (⟨1700000000000⟩ : Instant)),
      (.update pending running, ⟨1700000030000⟩)]
    (∀ c ∈ calls, ∀ p ∈ c.1.pods, '/' ∉ p.namespaceName.toList) ∧
      (({ windowSecs := 300 } : PodAggregator).run calls).abnormalDurationMs ⟨1700000030000⟩
        "default" "a" = 30000 := by
  intro pending running calls
  have slashFree : ∀ c ∈ calls, ∀ p ∈ c.1.pods, '/' ∉ p.namespaceName.toList := by decide
  refine ⟨slashFree, ?_⟩
  rw [((abnormal_timers_follow_sightings 300 calls slashFree ⟨1700000030000⟩).1 "default" "a"
    (by decide)).1]
  decide

end PodAggregator

end StateMetrics
