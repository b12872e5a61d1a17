import StateMetrics.Resource.Cache
import StateMetrics.Watch.Target

/-! # Known objects and dispatch

A watch remembers the objects it has seen, by resource key, so that it can tell its target
what changed. An applied object is an addition when its key is new and an update of the
remembered version otherwise; a deleted object is forgotten. A restart replaces everything
known by a fresh listing: the objects that vanished from it are deleted first, in key order,
then each listed object is added or updated in listing order. When a listing repeats a key, the
repeat finds nothing remembered from before the restart and is added again. -/

namespace StateMetrics

/-- What a watcher reports. -/
inductive WatcherEvent where
  /-- An object was created or changed. -/
  | applied (obj : Json)
  /-- An object was deleted. -/
  | deleted (obj : Json)
  /-- The watch started over with a full listing. -/
  | restarted (objs : List Json)
  deriving Inhabited

/-- The objects a watch has seen, by key in ascending order, each under its resource key. -/
structure KnownObjects where
  entries : List (String × Json) := []
  ascending : Ascending entries := by exact ascending_nil
  keyed : KeyedByResource entries := by exact keyedByResource_nil

namespace KnownObjects

instance : Inhabited KnownObjects := ⟨{}⟩

/-- The number of known objects. -/
def size (k : KnownObjects) : Nat := k.entries.length

/-- Whether no object is known. -/
def isEmpty (k : KnownObjects) : Bool := k.entries.isEmpty

/-- Stores an object under its resource key, replacing the version the key held. -/
def store (k : KnownObjects) (obj : Json) : KnownObjects :=
  ⟨(ResourceCache.insertEntry (resourceKey obj) obj k.entries).1,
    ResourceCache.ascending_insertEntry k.ascending _ obj,
    ResourceCache.keyed_insertEntry k.keyed obj⟩

/-- Takes the object under a key out; returns the version it held. -/
def erase (k : KnownObjects) (key : String) : KnownObjects × Option Json :=
  let erased := ResourceCache.eraseEntry key k.entries
  let kept := ResourceCache.eraseEntry_sublist key k.entries
  (⟨erased.1, k.ascending.sublist kept, k.keyed.sublist kept⟩, erased.2)

/-- Remembers an applied object; returns the version it replaces. -/
def applied (k : KnownObjects) (obj : Json) : KnownObjects × Option Json :=
  let (rest, previous) := k.erase (resourceKey obj)
  (rest.store obj, previous)

/-- Forgets a deleted object; returns the version that was known. -/
def deleted (k : KnownObjects) (obj : Json) : KnownObjects × Option Json :=
  k.erase (resourceKey obj)

/-- Lists the objects of a restart against those remembered before it, each with the version
it replaces; what remains of the earlier objects is returned too. -/
def relist : List (String × Json) → List Json → List (String × Json) × List (Option Json × Json)
  | previous, [] => (previous, [])
  | previous, obj :: rest =>
    let (previous, old) := ResourceCache.eraseEntry (resourceKey obj) previous
    let (vanished, listed) := relist previous rest
    (vanished, (old, obj) :: listed)

/-- Replaces the known objects by a listing. Returns each listed object with the version it
replaces, and the objects that vanished, in key order. -/
def restarted (k : KnownObjects) (objs : List Json) :
    KnownObjects × List (Option Json × Json) × List Json :=
  let (vanished, listed) := relist k.entries objs
  (objs.foldl store {}, listed, vanished.map (·.2))

end KnownObjects

/-- The change an applied object makes to its target: an update of the version it replaces,
or an addition. -/
def changeOf (old : Option Json) (new : Json) : ResourceEvent :=
  match old with
  | some o => .updated o new
  | none => .added new

/-- Applies a watcher event to the known objects. Returns the changes to hand to the target,
in order, and whether the event was a full listing. -/
def dispatch (k : KnownObjects) : WatcherEvent → KnownObjects × List ResourceEvent × Bool
  | .applied obj =>
    let (k, previous) := k.applied obj
    (k, [changeOf previous obj], false)
  | .deleted obj => ((k.deleted obj).1, [.deleted obj], false)
  | .restarted objs =>
    let (k, listed, vanished) := k.restarted objs
    (k, vanished.map .deleted ++ listed.map fun (old, new) => changeOf old new, true)

end StateMetrics
