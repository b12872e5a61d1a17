import StateMetrics.Entries
import StateMetrics.Json.Basic

/-! # Ordered JSON values

The objects of the exporter's values keep their members in strictly ascending key order at
every depth. `Json` is a nested inductive, whose object constructor holds a plain member list,
so the order cannot be a field of the type as it is for the keyed tables; it is this predicate
instead, and the reader, `Json.object` and the schema's reshaping are shown to produce only
values that satisfy it. -/

namespace StateMetrics.Json

mutual
/-- Whether every object within a value has its keys in strictly ascending order. -/
def isOrdered : Json → Bool
  | .arr items => itemsOrdered items
  | .obj members => decide (Ascending members) && membersOrdered members
  | _ => true

/-- Whether every item of an array is ordered. -/
def itemsOrdered : List Json → Bool
  | [] => true
  | v :: rest => v.isOrdered && itemsOrdered rest

/-- Whether the value of every member of an object is ordered. -/
def membersOrdered : List (String × Json) → Bool
  | [] => true
  | (_, v) :: rest => v.isOrdered && membersOrdered rest
end

theorem isOrdered_obj {members : List (String × Json)} :
    (Json.obj members).isOrdered = true ↔
      Ascending members ∧ membersOrdered members = true := by
  simp [isOrdered]

theorem itemsOrdered_iff {items : List Json} :
    itemsOrdered items = true ↔ ∀ v ∈ items, v.isOrdered = true := by
  induction items with
  | nil => simp [itemsOrdered]
  | cons v rest ih => simp [itemsOrdered, ih]

theorem membersOrdered_iff {members : List (String × Json)} :
    membersOrdered members = true ↔ ∀ e ∈ members, e.2.isOrdered = true := by
  induction members with
  | nil => simp [membersOrdered]
  | cons e rest ih =>
    obtain ⟨k, v⟩ := e
    simp [membersOrdered, ih]

theorem isOrdered_arr {items : List Json} :
    (Json.arr items).isOrdered = true ↔ ∀ v ∈ items, v.isOrdered = true := by
  simp [isOrdered, itemsOrdered_iff]

end StateMetrics.Json
