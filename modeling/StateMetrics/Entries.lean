/-! # Sorted entry lists

The exporter's keyed tables (cached resources, known objects, buckets, component health) are
lists of key-value entries kept in strictly ascending key order, so that each key occurs once
and listing a table is deterministic. A table type carries `Ascending` of its entries as a
field: its operations build the new entries with `insertSorted` or by dropping entries, and
both keep the keys ascending (`Ascending.insertSorted`, `Ascending.sublist`). -/

namespace StateMetrics

variable {α : Type}

/-- Puts a value under a key of a list sorted by key, replacing an equal key's value. -/
def insertSorted (key : String) (v : α) : List (String × α) → List (String × α)
  | [] => [(key, v)]
  | (k, w) :: rest =>
    if key < k then (key, v) :: (k, w) :: rest
    else if key = k then (key, v) :: rest
    else (k, w) :: insertSorted key v rest

/-- The value under a key of a list of pairs. -/
def findKey? (key : String) (l : List (String × α)) : Option α :=
  (l.find? (·.1 == key)).map (·.2)

/-- The keys of an entry list ascend strictly, so that each key occurs once. -/
def Ascending (l : List (String × α)) : Prop := (l.map (·.1)).Pairwise (· < ·)

instance (l : List (String × α)) : Decidable (Ascending l) :=
  inferInstanceAs (Decidable ((l.map (·.1)).Pairwise (· < ·)))

@[simp] theorem ascending_nil : Ascending ([] : List (String × α)) := List.Pairwise.nil

theorem ascending_cons {k : String} {v : α} {l : List (String × α)} :
    Ascending ((k, v) :: l) ↔ (∀ x ∈ l.map (·.1), k < x) ∧ Ascending l := by
  simp [Ascending, List.pairwise_cons]

theorem Ascending.sublist {l l' : List (String × α)} (sorted : Ascending l)
    (sub : l'.Sublist l) : Ascending l' :=
  List.Pairwise.sublist (sub.map _) sorted

theorem Ascending.filter (p : String × α → Bool) {l : List (String × α)} (sorted : Ascending l) :
    Ascending (l.filter p) :=
  sorted.sublist List.filter_sublist

/-- An entry after insertion is the inserted one or an earlier one. -/
theorem mem_insertSorted {e : String × α} {key : String} {v : α} {l : List (String × α)}
    (member : e ∈ insertSorted key v l) : e = (key, v) ∨ e ∈ l := by
  fun_induction insertSorted key v l with
  | case1 => simpa using member
  | case2 k w rest _ => simpa using member
  | case3 w rest _ =>
    rcases List.mem_cons.1 member with same | later
    · exact .inl same
    · exact .inr (List.mem_cons_of_mem _ later)
  | case4 k w rest _ _ ih =>
    rcases List.mem_cons.1 member with same | later
    · exact .inr (same ▸ List.mem_cons_self)
    · rcases ih later with inserted | old
      · exact .inl inserted
      · exact .inr (List.mem_cons_of_mem _ old)

theorem Ascending.insertSorted (key : String) (v : α) {l : List (String × α)}
    (sorted : Ascending l) : Ascending (insertSorted key v l) := by
  fun_induction StateMetrics.insertSorted key v l with
  | case1 => simp [Ascending]
  | case2 k w rest below =>
    refine ascending_cons.2 ⟨?_, sorted⟩
    intro x member
    rcases List.mem_cons.1 member with rfl | later
    · exact below
    · exact String.lt_trans below ((ascending_cons.1 sorted).1 x later)
  | case3 w rest _ => exact ascending_cons.2 (ascending_cons.1 sorted)
  | case4 k w rest above different ih =>
    -- the new key lies above `k`, and so does every key of the rest
    have below : k < key := Std.lt_of_le_of_ne (String.not_lt.1 above) (Ne.symm different)
    obtain ⟨least, tail⟩ := ascending_cons.1 sorted
    refine ascending_cons.2 ⟨?_, ih tail⟩
    intro x member
    obtain ⟨e, inserted, rfl⟩ := List.mem_map.1 member
    rcases mem_insertSorted inserted with rfl | old
    · exact below
    · exact least e.1 (List.mem_map_of_mem old)

end StateMetrics
