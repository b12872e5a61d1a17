import Mathlib
import StateMetrics.Health
import StateMetrics.Resource.Cache
import StateMetrics.Window.BucketMap

/-! # Lookups in sorted entry lists

The keyed tables of the exporter (cached resources, known objects, buckets, component health)
carry their strictly ascending key order in their types, so each key occurs once. This module
gives what that means for lookups (`findKey?`): `insertSorted` and filtering a key out act on
them as a map update would, and an ascending list is determined by its lookups. The tables' own
insertion and removal functions are shown to be these two. -/

namespace StateMetrics

variable {α : Type}

/-- A key below the first key of an ascending list is no key of it. -/
theorem not_mem_keys_of_lt {key k : String} {v : α} {l : List (String × α)}
    (sorted : Ascending ((k, v) :: l)) (below : key ≤ k) : key ∉ l.map (·.1) := by
  intro member
  have above := (ascending_cons.1 sorted).1 key member
  exact absurd (lt_of_le_of_lt below above) (lt_irrefl key)

/-- In an ascending list each key occurs once. -/
theorem Ascending.nodup {l : List (String × α)} (sorted : Ascending l) : (l.map (·.1)).Nodup :=
  sorted.imp ne_of_lt

/-! ## Lookup -/

@[simp] theorem findKey?_nil (x : String) : findKey? x ([] : List (String × α)) = none := rfl

@[simp] theorem findKey?_cons (x k : String) (v : α) (l : List (String × α)) :
    findKey? x ((k, v) :: l) = if k = x then some v else findKey? x l := by
  by_cases equal : k = x <;> simp [findKey?, equal]

theorem findKey?_eq_none_iff {x : String} {l : List (String × α)} :
    findKey? x l = none ↔ x ∉ l.map (·.1) := by
  induction l with
  | nil => simp
  | cons entry rest ih =>
    obtain ⟨k, v⟩ := entry
    by_cases equal : k = x
    · simp [equal]
    · simp [equal, ih, Ne.symm equal]

theorem findKey?_isSome_iff {x : String} {l : List (String × α)} :
    (findKey? x l).isSome ↔ x ∈ l.map (·.1) := by
  rw [← not_iff_not, Option.not_isSome_iff_eq_none, findKey?_eq_none_iff]

/-- A found value is the value of an entry under its key. -/
theorem mem_of_findKey? {x : String} {v : α} {l : List (String × α)}
    (found : findKey? x l = some v) : (x, v) ∈ l := by
  induction l with
  | nil => simp at found
  | cons entry rest ih =>
    obtain ⟨k, w⟩ := entry
    by_cases equal : k = x
    · subst equal
      simp only [findKey?_cons, if_true, Option.some.injEq] at found
      simp [found]
    · simp only [findKey?_cons, equal, if_false] at found
      exact List.mem_cons_of_mem _ (ih found)

/-- Where each key occurs once, an entry is what lookup of its key finds. -/
theorem findKey?_of_mem_of_nodup {x : String} {v : α} {l : List (String × α)}
    (distinct : (l.map (·.1)).Nodup) (member : (x, v) ∈ l) : findKey? x l = some v := by
  induction l with
  | nil => cases member
  | cons entry rest ih =>
    obtain ⟨k, w⟩ := entry
    simp only [List.map_cons, List.nodup_cons] at distinct
    obtain ⟨fresh, distinct⟩ := distinct
    rcases List.mem_cons.1 member with same | later
    · simp only [Prod.mk.injEq] at same
      simp [same.1, same.2]
    · have different : k ≠ x := by
        rintro rfl
        exact fresh (List.mem_map_of_mem later)
      simpa [different] using ih distinct later

theorem mem_iff_findKey?_of_nodup {x : String} {v : α} {l : List (String × α)}
    (distinct : (l.map (·.1)).Nodup) : (x, v) ∈ l ↔ findKey? x l = some v :=
  ⟨findKey?_of_mem_of_nodup distinct, mem_of_findKey?⟩

/-- In an ascending list an entry is what lookup of its key finds. -/
theorem findKey?_of_mem {x : String} {v : α} {l : List (String × α)} (sorted : Ascending l)
    (member : (x, v) ∈ l) : findKey? x l = some v :=
  findKey?_of_mem_of_nodup sorted.nodup member

/-- An ascending list is determined by its lookups: it is the one sorted arrangement of the
entries they find. -/
theorem eq_of_findKey?_eq {l l' : List (String × α)} (sorted : Ascending l)
    (sorted' : Ascending l') (same : ∀ x, findKey? x l = findKey? x l') : l = l' := by
  have perm : l.Perm l' := by
    rw [List.perm_ext_iff_of_nodup (sorted.nodup.of_map _) (sorted'.nodup.of_map _)]
    rintro ⟨x, v⟩
    rw [mem_iff_findKey?_of_nodup sorted.nodup, mem_iff_findKey?_of_nodup sorted'.nodup, same]
  exact perm.eq_of_pairwise (fun _ _ _ _ below above => absurd (lt_trans below above) (lt_irrefl _))
    (List.pairwise_map.1 sorted) (List.pairwise_map.1 sorted')

/-! ## Insertion -/

theorem findKey?_insertSorted (x key : String) (v : α) (l : List (String × α)) :
    findKey? x (insertSorted key v l) = if x = key then some v else findKey? x l := by
  fun_induction insertSorted key v l with
  | case1 => by_cases equal : x = key <;> simp [equal, eq_comm]
  | case2 k w rest below => by_cases equal : x = key <;> simp [equal, eq_comm]
  | case3 w rest _ => by_cases equal : x = key <;> simp [equal, eq_comm]
  | case4 k w rest _ different ih =>
    by_cases equal : x = key
    · subst equal
      simp [ih, Ne.symm different]
    · simp [ih, equal]

theorem mem_keys_insertSorted {x key : String} {v : α} {l : List (String × α)} :
    x ∈ (insertSorted key v l).map (·.1) ↔ x = key ∨ x ∈ l.map (·.1) := by
  rw [← findKey?_isSome_iff, findKey?_insertSorted, ← findKey?_isSome_iff]
  by_cases equal : x = key <;> simp [equal]

theorem length_insertSorted_of_not_mem {key : String} {v : α} {l : List (String × α)}
    (absent : key ∉ l.map (·.1)) : (insertSorted key v l).length = l.length + 1 := by
  fun_induction insertSorted key v l with
  | case1 => rfl
  | case2 => simp
  | case3 w rest _ => simp at absent
  | case4 k w rest _ _ ih =>
    simp only [List.map_cons, List.mem_cons, not_or] at absent
    simp [ih absent.2]

theorem length_insertSorted_of_mem {key : String} {v : α} {l : List (String × α)}
    (sorted : Ascending l) (present : key ∈ l.map (·.1)) :
    (insertSorted key v l).length = l.length := by
  fun_induction insertSorted key v l with
  | case1 => simp at present
  | case2 k w rest below =>
    have different : key ≠ k := ne_of_lt below
    simp only [List.map_cons, List.mem_cons, different, false_or] at present
    exact absurd present (not_mem_keys_of_lt sorted (le_of_lt below))
  | case3 => simp
  | case4 k w rest _ different ih =>
    simp only [List.map_cons, List.mem_cons, different, false_or] at present
    simp [ih (ascending_cons.1 sorted).2 present]

/-! ## Erasure -/

theorem findKey?_filter_ne (x key : String) (l : List (String × α)) :
    findKey? x (l.filter (·.1 != key)) = if x = key then none else findKey? x l := by
  induction l with
  | nil => simp
  | cons entry rest ih =>
    obtain ⟨k, v⟩ := entry
    by_cases same : k = key
    · subst same
      by_cases equal : x = k
      · subst equal
        simp [ih]
      · simp [ih, equal, Ne.symm equal]
    · by_cases equal : k = x
      · subst equal
        simp [same]
      · simp [same, equal, ih]

theorem mem_keys_filter_ne {x key : String} {l : List (String × α)} :
    x ∈ (l.filter (·.1 != key)).map (·.1) ↔ x ≠ key ∧ x ∈ l.map (·.1) := by
  rw [← findKey?_isSome_iff, findKey?_filter_ne, ← findKey?_isSome_iff]
  by_cases equal : x = key <;> simp [equal]

/-- Filtering out a key that an ascending list holds removes exactly one entry. -/
theorem length_filter_ne_of_mem {key : String} {l : List (String × α)} (sorted : Ascending l)
    (present : key ∈ l.map (·.1)) : (l.filter (·.1 != key)).length + 1 = l.length := by
  induction l with
  | nil => simp at present
  | cons entry rest ih =>
    obtain ⟨k, v⟩ := entry
    by_cases same : k = key
    · subst same
      have absent := not_mem_keys_of_lt sorted le_rfl
      have kept : rest.filter (·.1 != k) = rest := by
        rw [List.filter_eq_self]
        intro entry member
        have different : entry.1 ≠ k := fun equal =>
          absent (equal ▸ List.mem_map_of_mem member)
        simpa using different
      simp [kept]
    · simp only [List.map_cons, List.mem_cons, Ne.symm same, false_or] at present
      simp [same, ih (ascending_cons.1 sorted).2 present]

/-- Filtering out a key that a list does not hold changes nothing. -/
theorem filter_ne_of_not_mem {key : String} {l : List (String × α)}
    (absent : key ∉ l.map (·.1)) : l.filter (·.1 != key) = l := by
  rw [List.filter_eq_self]
  intro entry member
  have different : entry.1 ≠ key := fun equal => absent (equal ▸ List.mem_map_of_mem member)
  simpa using different

/-! ## The tables' own functions -/

/-- On an ascending list, taking a key's entry out is filtering the key out, and yields what
lookup finds. -/
theorem ResourceCache.eraseEntry_eq {key : String} {l : List (String × Json)}
    (sorted : Ascending l) :
    ResourceCache.eraseEntry key l = (l.filter (·.1 != key), findKey? key l) := by
  induction l with
  | nil => rfl
  | cons entry rest ih =>
    obtain ⟨k, v⟩ := entry
    by_cases same : k = key
    · subst same
      simp [ResourceCache.eraseEntry, filter_ne_of_not_mem (not_mem_keys_of_lt sorted le_rfl)]
    · simp [ResourceCache.eraseEntry, same, ih (ascending_cons.1 sorted).2]

theorem Json.lookupMember_eq_findKey? (key : String) (l : List (String × Json)) :
    Json.lookupMember key l = findKey? key l := by
  induction l with
  | nil => rfl
  | cons entry rest ih =>
    obtain ⟨k, v⟩ := entry
    by_cases same : k = key <;> simp [Json.lookupMember, same, ih]

theorem ResourceCache.get?_eq_findKey? (c : ResourceCache) (key : String) :
    c.get? key = findKey? key c.entries :=
  Json.lookupMember_eq_findKey? key c.entries

theorem ResourceCache.get?_upsert (c : ResourceCache) (obj : Json) (x : String) :
    (c.upsert obj).1.get? x = if x = resourceKey obj then some obj else c.get? x := by
  simp [ResourceCache.upsert, ResourceCache.get?_eq_findKey?, ResourceCache.insertEntry_fst,
    findKey?_insertSorted]

theorem ResourceCache.get?_remove (c : ResourceCache) (obj : Json) (x : String) :
    (c.remove obj).1.get? x = if x = resourceKey obj then none else c.get? x := by
  simp [ResourceCache.remove, ResourceCache.get?_eq_findKey?,
    ResourceCache.eraseEntry_eq c.ascending, findKey?_filter_ne]

/-- Two caches that store the same resource under every key are the same cache. -/
theorem ResourceCache.ext_get? {c c' : ResourceCache} (same : ∀ x, c.get? x = c'.get? x) :
    c = c' := by
  obtain ⟨entries, sorted⟩ := c
  obtain ⟨entries', sorted'⟩ := c'
  simp only [ResourceCache.get?_eq_findKey?] at same
  obtain rfl := eq_of_findKey?_eq sorted sorted' same
  rfl

end StateMetrics
