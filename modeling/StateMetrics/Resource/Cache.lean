import StateMetrics.Entries
import StateMetrics.Json.Path

/-! # Resource caches

Resources are identified by their key `<namespace>/<name>`, read from their metadata; a
missing or non-string namespace or name counts as empty. A cache holds the latest version of
each resource by key: its entries are kept in ascending key order, each key once, so that
listing a cache is deterministic and equal caches have one form. The cache carries that order
as a field, which storing and removing keep. -/

namespace StateMetrics

/-- The key of a resource: `<metadata.namespace>/<metadata.name>`. -/
def resourceKey (obj : Json) : String :=
  Json.extractString obj "metadata.namespace" ++ "/" ++ Json.extractString obj "metadata.name"

/-- Every entry of a table is stored under the resource key of its object. -/
def KeyedByResource (l : List (String × Json)) : Prop := ∀ e ∈ l, e.1 = resourceKey e.2

theorem keyedByResource_nil : KeyedByResource [] := fun _ member => by cases member

theorem KeyedByResource.sublist {l l' : List (String × Json)} (keyed : KeyedByResource l)
    (sub : l'.Sublist l) : KeyedByResource l' :=
  fun e member => keyed e (sub.subset member)

theorem KeyedByResource.insertSorted {l : List (String × Json)} (keyed : KeyedByResource l)
    (obj : Json) : KeyedByResource (insertSorted (resourceKey obj) obj l) := by
  intro e member
  rcases mem_insertSorted member with rfl | old
  · rfl
  · exact keyed e old

/-- The latest version of each resource, by key, in ascending key order. -/
structure ResourceCache where
  entries : List (String × Json) := []
  ascending : Ascending entries := by exact ascending_nil

namespace ResourceCache

instance : Inhabited ResourceCache := ⟨{}⟩

/-- Puts a value under a key of a sorted entry list; reports whether a value was replaced. -/
def insertEntry (key : String) (obj : Json) : List (String × Json) → List (String × Json) × Bool
  | [] => ([(key, obj)], false)
  | (k, v) :: rest =>
    if key < k then ((key, obj) :: (k, v) :: rest, false)
    else if key = k then ((key, obj) :: rest, true)
    else
      let (rest', replaced) := insertEntry key obj rest
      ((k, v) :: rest', replaced)

/-- Takes the value under a key out of an entry list. -/
def eraseEntry (key : String) : List (String × Json) → List (String × Json) × Option Json
  | [] => ([], none)
  | (k, v) :: rest =>
    if k = key then (rest, some v)
    else
      let (rest', removed) := eraseEntry key rest
      ((k, v) :: rest', removed)

theorem insertEntry_fst (key : String) (obj : Json) (l : List (String × Json)) :
    (insertEntry key obj l).1 = insertSorted key obj l := by
  induction l with
  | nil => rfl
  | cons entry rest ih =>
    obtain ⟨k, v⟩ := entry
    simp only [insertEntry, insertSorted]
    split
    · rfl
    · split
      · rfl
      · simp [ih]

theorem eraseEntry_sublist (key : String) (l : List (String × Json)) :
    (eraseEntry key l).1.Sublist l := by
  induction l with
  | nil => exact List.Sublist.slnil
  | cons entry rest ih =>
    obtain ⟨k, v⟩ := entry
    simp only [eraseEntry]
    split
    · exact List.sublist_cons_self _ _
    · exact ih.cons_cons _

theorem ascending_insertEntry {l : List (String × Json)} (sorted : Ascending l) (key : String)
    (obj : Json) : Ascending (insertEntry key obj l).1 := by
  rw [insertEntry_fst]
  exact sorted.insertSorted key obj

theorem keyed_insertEntry {l : List (String × Json)} (keyed : KeyedByResource l) (obj : Json) :
    KeyedByResource (insertEntry (resourceKey obj) obj l).1 := by
  rw [insertEntry_fst]
  exact keyed.insertSorted obj

/-- Stores a resource under its key; reports whether it replaced an earlier version. -/
def upsert (c : ResourceCache) (obj : Json) : ResourceCache × Bool :=
  let inserted := insertEntry (resourceKey obj) obj c.entries
  (⟨inserted.1, ascending_insertEntry c.ascending _ obj⟩, inserted.2)

/-- Removes the resource with the key of `obj`; returns the version that was stored. -/
def remove (c : ResourceCache) (obj : Json) : ResourceCache × Option Json :=
  let erased := eraseEntry (resourceKey obj) c.entries
  (⟨erased.1, c.ascending.sublist (eraseEntry_sublist _ _)⟩, erased.2)

/-- The resource stored under a key. -/
def get? (c : ResourceCache) (key : String) : Option Json :=
  Json.lookupMember key c.entries

/-- Whether a resource is stored under a key. -/
def contains (c : ResourceCache) (key : String) : Bool :=
  (c.get? key).isSome

/-- The number of resources stored. -/
def size (c : ResourceCache) : Nat := c.entries.length

/-- The keys, in ascending order. -/
def keys (c : ResourceCache) : List String := c.entries.map (·.1)

/-- The resources, in ascending key order. -/
def objects (c : ResourceCache) : List Json := c.entries.map (·.2)

end ResourceCache

end StateMetrics
