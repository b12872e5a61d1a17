import Mathlib
import StateMetrics.Proofs.Watch.Known

/-! # Restarting a watch

A watch's known objects change by three calls: an applied object is stored under its key, a
deleted one is forgotten, and a restart replaces everything by a listing. Over any sequence of
these calls every object stays stored under its own resource key and the keys ascend, as the
table itself carries.

A restart hands back two things. The objects that vanished are the known ones whose keys the
listing lacks, each once. The listed objects come back in listing order, each paired with the
version known before the restart when it is the first object of the listing with its key, and
with nothing when an earlier object of the listing had that key already: the first one took the
known version out (`relist_snd`). Afterwards the known objects are the listing by key, the last
object of a key winning (`get?_restarted`).

Main statement: `replayed_restart_partitions_known`. -/

namespace StateMetrics.KnownObjects

/-- The known objects after the call a watcher event names: `applied`, `deleted` or
`restarted`. -/
def call (k : KnownObjects) : WatcherEvent → KnownObjects
  | .applied obj => (k.applied obj).1
  | .deleted obj => (k.deleted obj).1
  | .restarted objs => (k.restarted objs).1

/-- The known objects after a sequence of calls. -/
def replay (k : KnownObjects) (calls : List WatcherEvent) : KnownObjects := calls.foldl call k

/-! ## What a restart hands back -/

/-- A restart pairs each listed object with the version known before under its key when no
earlier object of the listing has that key, and with nothing otherwise. -/
theorem relist_snd {prev : List (String × Json)} (sorted : Ascending prev) (objs : List Json) :
    (relist prev objs).2 = objs.mapIdx fun i o =>
      (if resourceKey o ∈ (objs.take i).map resourceKey then none
       else findKey? (resourceKey o) prev, o) := by
  induction objs generalizing prev with
  | nil => rfl
  | cons o rest ih =>
    simp only [relist, ResourceCache.eraseEntry_eq sorted, ih (sorted.filter _), List.mapIdx_cons,
      List.take_zero, List.map_nil, List.not_mem_nil, if_false, List.cons.injEq, true_and]
    -- a later object finds the first one's key taken out, as if listed before it
    congr 1
    funext i o'
    rw [List.take_succ_cons, List.map_cons, findKey?_filter_ne]
    by_cases same : resourceKey o' = resourceKey o <;> simp [same]

/-- The objects that vanish in a restart are the known ones whose keys the listing lacks. -/
theorem mem_vanished (k : KnownObjects) (objs : List Json) (o : Json) :
    o ∈ (k.restarted objs).2.2 ↔ ∃ x, k.get? x = some o ∧ x ∉ objs.map resourceKey := by
  rw [restarted_eq, relist_fst k.ascending]
  simp only [List.mem_map, List.mem_filter, decide_eq_true_eq]
  constructor
  · rintro ⟨⟨x, o'⟩, ⟨member, unlisted⟩, rfl⟩
    exact ⟨x, findKey?_of_mem k.ascending member, unlisted⟩
  · rintro ⟨x, found, unlisted⟩
    exact ⟨(x, o), ⟨mem_of_findKey? found, unlisted⟩, rfl⟩

/-- No object vanishes twice: the vanished objects have distinct keys. -/
theorem nodup_vanished (k : KnownObjects) (objs : List Json) :
    (k.restarted objs).2.2.Nodup := by
  rw [restarted_eq, relist_fst k.ascending]
  have keyed :
      ((k.entries.filter fun e => e.1 ∉ objs.map resourceKey).map (·.2)).map resourceKey =
        (k.entries.filter fun e => e.1 ∉ objs.map resourceKey).map (·.1) := by
    rw [List.map_map]
    exact List.map_congr_left fun e member => (k.keyed e (List.mem_of_mem_filter member)).symm
  apply List.Nodup.of_map resourceKey
  rw [keyed]
  exact k.ascending.nodup.sublist ((List.filter_sublist).map _)

theorem listed_restarted (k : KnownObjects) (objs : List Json) :
    (k.restarted objs).2.1 = objs.mapIdx fun i o =>
      (if resourceKey o ∈ (objs.take i).map resourceKey then none
       else k.get? (resourceKey o), o) := by
  rw [restarted_eq, relist_snd k.ascending]
  rfl

/-- Over any sequence of calls from nothing, every object is stored under its resource key;
and a restart then hands back as vanished exactly the known objects whose keys the listing
lacks, each once, hands back the listing in order with each object's previously known version
for the first object of its key and nothing for a repeat, and leaves the listing by key with
the last object of each key. -/
theorem replayed_restart_partitions_known (calls : List WatcherEvent) (objs : List Json) :
    let k := replay {} calls
    KeyedByResource k.entries ∧
      (∀ o, o ∈ (k.restarted objs).2.2 ↔
        ∃ x, k.get? x = some o ∧ x ∉ objs.map resourceKey) ∧
      (k.restarted objs).2.2.Nodup ∧
      (k.restarted objs).2.1 = objs.mapIdx (fun i o =>
        (if resourceKey o ∈ (objs.take i).map resourceKey then none
         else k.get? (resourceKey o), o)) ∧
      ∀ x, (k.restarted objs).1.get? x = lastListed objs x := by
  intro k
  exact ⟨k.keyed, mem_vanished k objs, nodup_vanished k objs, listed_restarted k objs,
    get?_restarted k objs⟩

end StateMetrics.KnownObjects
