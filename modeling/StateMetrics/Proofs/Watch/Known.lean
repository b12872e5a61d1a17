import Mathlib
import StateMetrics.Proofs.Entries
import StateMetrics.Watch.Known

/-! # Known objects

The objects a watch knows form a table keyed by resource key: every object is stored under its
own key and the keys ascend, which the table carries. Applying an object stores it under its key,
deleting one forgets its key, and a restart replaces the table by its listing, in which of two
objects with one key the later wins (`lastListed`). The objects that vanish in a restart are
the known ones whose keys the listing lacks; each listed object is paired with the version
known before the restart, when no earlier object of the listing had its key. A key
`<namespace>/<name>` whose namespace holds no `/` names both parts (`slash_join_inj`).

Main statements: the lookup laws `get?_applied`, `get?_deleted` and `get?_restarted`. -/

namespace StateMetrics

/-- A prefix without `/` is the part of a text before its first `/`. -/
theorem eq_of_append_slash_eq {s t a b : List Char} (hs : '/' ∉ s) (ht : '/' ∉ t)
    (same : s ++ '/' :: a = t ++ '/' :: b) : s = t := by
  induction s generalizing t with
  | nil =>
    cases t with
    | nil => rfl
    | cons d t =>
      simp only [List.nil_append, List.cons_append, List.cons.injEq] at same
      exact absurd (same.1 ▸ List.mem_cons_self) ht
  | cons c s ih =>
    cases t with
    | nil =>
      simp only [List.nil_append, List.cons_append, List.cons.injEq] at same
      exact absurd (same.1 ▸ List.mem_cons_self) hs
    | cons d t =>
      simp only [List.cons_append, List.cons.injEq] at same
      simp only [List.mem_cons, not_or] at hs ht
      rw [same.1, ih hs.2 ht.2 same.2]

/-- A key `<s>/<a>` whose first part is free of `/` names both parts. -/
theorem slash_join_inj {s t a b : String} (hs : '/' ∉ s.toList) (ht : '/' ∉ t.toList)
    (same : s ++ "/" ++ a = t ++ "/" ++ b) : s = t ∧ a = b := by
  have chars : s.toList ++ '/' :: a.toList = t.toList ++ '/' :: b.toList := by
    simpa using congrArg String.toList same
  have first := eq_of_append_slash_eq hs ht chars
  rw [first, List.append_cancel_left_eq, List.cons.injEq] at chars
  exact ⟨String.toList_inj.1 first, String.toList_inj.1 chars.2⟩

/-- The object of a listing under a key: the last listed object with that resource key. -/
def lastListed (objs : List Json) (key : String) : Option Json :=
  objs.reverse.find? fun o => resourceKey o == key

theorem lastListed_cons (o : Json) (objs : List Json) (key : String) :
    lastListed (o :: objs) key =
      (lastListed objs key).or (if resourceKey o = key then some o else none) := by
  by_cases same : resourceKey o = key <;> simp [lastListed, List.find?_append, same]

theorem lastListed_eq_none_iff {objs : List Json} {key : String} :
    lastListed objs key = none ↔ key ∉ objs.map resourceKey := by
  simp [lastListed, List.find?_eq_none]

/-- A listing written entry by entry into a table overrides the table's keys. -/
theorem findKey?_foldl_insertSorted (objs : List Json) (es : List (String × Json)) (x : String) :
    findKey? x (objs.foldl (fun es o => insertSorted (resourceKey o) o es) es) =
      (lastListed objs x).or (findKey? x es) := by
  induction objs generalizing es with
  | nil => simp [lastListed]
  | cons o rest ih =>
    rw [List.foldl_cons, ih, findKey?_insertSorted, lastListed_cons]
    by_cases same : x = resourceKey o
    · subst same
      cases lastListed rest (resourceKey o) <;> simp
    · simp [same, Ne.symm same]

namespace KnownObjects

/-- The object known under a key. -/
def get? (k : KnownObjects) (key : String) : Option Json := findKey? key k.entries

/-! ## Applying and deleting -/

theorem entries_erase (k : KnownObjects) (key : String) :
    (k.erase key).1.entries = k.entries.filter (·.1 != key) := by
  simp [erase, ResourceCache.eraseEntry_eq k.ascending]

theorem erase_snd (k : KnownObjects) (key : String) : (k.erase key).2 = k.get? key := by
  simp [erase, ResourceCache.eraseEntry_eq k.ascending, get?]

theorem entries_store (k : KnownObjects) (obj : Json) :
    (k.store obj).entries = insertSorted (resourceKey obj) obj k.entries :=
  ResourceCache.insertEntry_fst _ obj k.entries

theorem entries_applied (k : KnownObjects) (obj : Json) :
    (k.applied obj).1.entries =
      insertSorted (resourceKey obj) obj (k.entries.filter (·.1 != resourceKey obj)) := by
  rw [applied, entries_store, entries_erase]

theorem applied_snd (k : KnownObjects) (obj : Json) :
    (k.applied obj).2 = k.get? (resourceKey obj) :=
  erase_snd k _

theorem get?_applied (k : KnownObjects) (obj : Json) (x : String) :
    (k.applied obj).1.get? x = if x = resourceKey obj then some obj else k.get? x := by
  rw [get?, entries_applied]
  by_cases same : x = resourceKey obj <;>
    simp [get?, findKey?_insertSorted, findKey?_filter_ne, same]

theorem entries_deleted (k : KnownObjects) (obj : Json) :
    (k.deleted obj).1.entries = k.entries.filter (·.1 != resourceKey obj) :=
  entries_erase k _

theorem deleted_snd (k : KnownObjects) (obj : Json) :
    (k.deleted obj).2 = k.get? (resourceKey obj) :=
  erase_snd k _

theorem get?_deleted (k : KnownObjects) (obj : Json) (x : String) :
    (k.deleted obj).1.get? x = if x = resourceKey obj then none else k.get? x := by
  rw [get?, entries_deleted]
  exact findKey?_filter_ne x _ k.entries

/-! ## Restarting -/

/-- What a restart leaves of the earlier objects: those whose keys the listing lacks. -/
theorem relist_fst {prev : List (String × Json)} (sorted : Ascending prev) (objs : List Json) :
    (relist prev objs).1 = prev.filter fun e => e.1 ∉ objs.map resourceKey := by
  induction objs generalizing prev with
  | nil => simp [relist]
  | cons o rest ih =>
    simp only [relist, ResourceCache.eraseEntry_eq sorted, ih (sorted.filter _), List.filter_filter]
    congr 1
    funext e
    by_cases same : e.1 = resourceKey o <;> simp [same]

/-- A restart lists every object of the listing, in order. -/
theorem relist_snd_objects (prev : List (String × Json)) (objs : List Json) :
    (relist prev objs).2.map Prod.snd = objs := by
  induction objs generalizing prev with
  | nil => rfl
  | cons o rest ih => simp [relist, ih]

/-- In a listing without repeated keys, each object is paired with the version known before
the restart. -/
theorem relist_snd_of_nodup {prev : List (String × Json)} (sorted : Ascending prev)
    {objs : List Json} (distinct : (objs.map resourceKey).Nodup) :
    (relist prev objs).2 = objs.map fun o => (findKey? (resourceKey o) prev, o) := by
  induction objs generalizing prev with
  | nil => rfl
  | cons o rest ih =>
    simp only [List.map_cons, List.nodup_cons, List.mem_map, not_exists, not_and] at distinct
    simp only [relist, ResourceCache.eraseEntry_eq sorted, ih (sorted.filter _) distinct.2,
      List.map_cons, List.cons.injEq, true_and]
    apply List.map_congr_left
    intro o' member
    have different : resourceKey o' ≠ resourceKey o := fun same => distinct.1 o' member same
    simp [findKey?_filter_ne, different]

theorem restarted_eq (k : KnownObjects) (objs : List Json) :
    k.restarted objs =
      (objs.foldl store {}, (relist k.entries objs).2, (relist k.entries objs).1.map (·.2)) :=
  rfl

/-- A listing stored object by object is written entry by entry into the table. -/
theorem entries_foldl_store (objs : List Json) (k : KnownObjects) :
    (objs.foldl store k).entries =
      objs.foldl (fun es o => insertSorted (resourceKey o) o es) k.entries := by
  induction objs generalizing k with
  | nil => rfl
  | cons o rest ih => rw [List.foldl_cons, ih, entries_store, List.foldl_cons]

theorem get?_restarted (k : KnownObjects) (objs : List Json) (x : String) :
    (k.restarted objs).1.get? x = lastListed objs x := by
  rw [restarted_eq, get?, entries_foldl_store, findKey?_foldl_insertSorted]
  cases lastListed objs x <;> rfl

/-- The objects that vanish in a restart are the known ones whose keys the listing lacks. -/
theorem mem_vanished_keys (k : KnownObjects) (objs : List Json) (x : String) :
    x ∈ ((relist k.entries objs).1.map (·.2)).map resourceKey ↔
      (k.get? x).isSome ∧ x ∉ objs.map resourceKey := by
  rw [relist_fst k.ascending, get?, findKey?_isSome_iff]
  simp only [List.map_map, List.mem_map, List.mem_filter, Function.comp_apply, decide_eq_true_eq]
  constructor
  · rintro ⟨e, ⟨member, missing⟩, rfl⟩
    rw [← k.keyed e member]
    exact ⟨⟨e, member, rfl⟩, missing⟩
  · rintro ⟨⟨e, member, rfl⟩, missing⟩
    exact ⟨e, ⟨member, missing⟩, (k.keyed e member).symm⟩

theorem get?_dispatch_restarted (k : KnownObjects) (objs : List Json) (x : String) :
    (StateMetrics.dispatch k (.restarted objs)).1.get? x = lastListed objs x :=
  get?_restarted k objs x

end KnownObjects

end StateMetrics
