import Mathlib
import StateMetrics.Proofs.Crd.Strategies
import StateMetrics.Kube.Client

/-! # Objects from the cluster are ordered

Objects are kept with their members in strictly ascending key order: the reader puts each
member in place as it reads it, later equal keys replacing earlier ones, and an object written
back is built the same way (`Json.object`). This module shows that every value the client hands
over is ordered at every depth (`Json.isOrdered`): whatever a text reads as (`read_isOrdered`),
every item of a list reply (`Reply.listing_items_ordered`) and the object of every added,
modified or deleted event of a watch stream (`decodeWatchLine_ordered`).

The reader's three functions call one another with one unit of fuel less, so one induction on
the fuel carries all three (`reads_ordered`); writing an object back is one induction over the
schema's three functions (`isOrdered_reshape`). -/

namespace StateMetrics

theorem exists_of_map_eq_ok {ε α β : Type} {f : α → β} {x : Except ε α} {y : β}
    (mapped : x.map f = .ok y) : ∃ a, x = .ok a ∧ f a = y := by
  cases x with
  | error e => cases mapped
  | ok a => exact ⟨a, rfl, Except.ok.inj mapped⟩

/-- What every element gives satisfies `P`, so every element of a successful map does. -/
theorem forall_mem_of_mapM_eq_ok {ε α β : Type} {f : α → Except ε β} {xs : List α}
    {ys : List β} (P : β → Prop) (each : ∀ x ∈ xs, ∀ y, f x = .ok y → P y)
    (mapped : xs.mapM f = .ok ys) : ∀ y ∈ ys, P y := by
  induction xs generalizing ys with
  | nil =>
    cases mapped
    intro y member
    cases member
  | cons x rest ih =>
    simp only [List.mapM_cons] at mapped
    cases first : f x with
    | error e => simp [first, bind, Except.bind] at mapped
    | ok y =>
      cases later : rest.mapM f with
      | error e => simp [first, later, bind, Except.bind] at mapped
      | ok ys' =>
        simp only [first, later, bind, Except.bind, pure, Except.pure, Except.ok.injEq] at mapped
        subst mapped
        intro z member
        rcases List.mem_cons.1 member with rfl | member
        · exact each x (.head _) z first
        · exact ih (fun x member => each x (.tail _ member)) later z member

namespace Json

/-! ## Ordered arrays and objects -/

theorem insertMember_eq_insertSorted (key : String) (v : Json) (l : List (String × Json)) :
    insertMember key v l = insertSorted key v l := by
  induction l with
  | nil => rfl
  | cons e rest ih =>
    obtain ⟨k, w⟩ := e
    simp only [insertMember, insertSorted, ih]

/-- Putting an ordered member in place in an ordered object keeps it ordered. -/
theorem isOrdered_insertMember {acc : List (String × Json)} {key : String} {v : Json}
    (ordered : (Json.obj acc).isOrdered = true) (vOrdered : v.isOrdered = true) :
    (Json.obj (insertMember key v acc)).isOrdered = true := by
  rw [isOrdered_obj, membersOrdered_iff] at ordered ⊢
  rw [insertMember_eq_insertSorted]
  refine ⟨ordered.1.insertSorted key v, fun e member => ?_⟩
  rcases mem_insertSorted member with rfl | old
  · exact vOrdered
  · exact ordered.2 e old

/-- An object built from members in any order is ordered when their values are. -/
theorem isOrdered_object {members : List (String × Json)}
    (ordered : ∀ e ∈ members, e.2.isOrdered = true) :
    (Json.object members).isOrdered = true := by
  unfold object
  -- the members are put in place one by one into an ordered object, from the empty one
  have start : (Json.obj ([] : List (String × Json))).isOrdered = true := rfl
  generalize ([] : List (String × Json)) = acc at start ⊢
  induction members generalizing acc with
  | nil => exact start
  | cons e rest ih =>
    obtain ⟨k, v⟩ := e
    rw [List.foldl_cons]
    exact ih (fun e member => ordered e (.tail _ member)) _
      (isOrdered_insertMember start (ordered (k, v) (.head _)))

/-! ## Reading -/

theorem readKeyword_value {word : List Char} {w v : Json} {cs rest : List Char}
    (read : readKeyword word w cs = .ok (v, rest)) : v = w := by
  unfold readKeyword failBefore failAt at read
  split_ifs at read
  cases read
  rfl

/-- A reading mapped to values that are all ordered gives an ordered value. -/
theorem isOrdered_of_map {α : Type} {x : Reading α} {f : α × List Char → Json × List Char}
    {v : Json} {rest : List Char} (always : ∀ a, (f a).1.isOrdered = true)
    (read : x.map f = .ok (v, rest)) : v.isOrdered = true := by
  obtain ⟨a, -, mapped⟩ := exists_of_map_eq_ok read
  simpa [mapped] using always a

/-- Every value read with the fuel is ordered. -/
def ValueReadOrdered (fuel : Nat) : Prop :=
  ∀ depth cs v rest, readValue fuel depth cs = .ok (v, rest) → v.isOrdered = true

/-- The array of ordered items read so far and the items read with the fuel is ordered. -/
def ItemsReadOrdered (fuel : Nat) : Prop :=
  ∀ depth acc cs v rest, (∀ w ∈ acc, w.isOrdered = true) →
    readItems fuel depth acc cs = .ok (v, rest) → v.isOrdered = true

/-- The ordered object of the members read so far, with the members read with the fuel put in
place, is ordered. -/
def MembersReadOrdered (fuel : Nat) : Prop :=
  ∀ depth acc cs v rest, (Json.obj acc).isOrdered = true →
    readMembers fuel depth acc cs = .ok (v, rest) → v.isOrdered = true

theorem ValueReadOrdered.succ {fuel : Nat} (itemsOk : ItemsReadOrdered fuel)
    (membersOk : MembersReadOrdered fuel) : ValueReadOrdered (fuel + 1) := by
  intro depth cs v rest read
  rw [readValue] at read
  -- by the first character after the blanks
  split at read
  · cases read
  · exact isOrdered_of_map (fun _ => rfl) read
  · split_ifs at read
    · cases read
    split at read
    · cases read
      rfl
    · exact itemsOk _ _ _ _ _ (by simp) read
  · split_ifs at read
    · cases read
    split at read
    · cases read
      rfl
    · exact membersOk _ _ _ _ _ rfl read
  · rw [readKeyword_value read]; rfl
  · rw [readKeyword_value read]; rfl
  · rw [readKeyword_value read]; rfl
  · split_ifs at read
    · exact isOrdered_of_map (fun _ => rfl) read
    · cases read

theorem ItemsReadOrdered.succ {fuel : Nat} (valueOk : ValueReadOrdered fuel)
    (itemsOk : ItemsReadOrdered fuel) : ItemsReadOrdered (fuel + 1) := by
  intro depth acc cs v rest accOrdered read
  rw [readItems] at read
  split at read
  · cases read
  rename_i w after valueRead
  have allOrdered : ∀ u ∈ w :: acc, u.isOrdered = true :=
    List.forall_mem_cons.2 ⟨valueOk _ _ _ _ valueRead, accOrdered⟩
  split at read
  · split at read
    · cases read
    · exact itemsOk _ _ _ _ _ allOrdered read
  · cases read
    exact isOrdered_arr.2 fun u member => allOrdered u (List.mem_reverse.1 member)
  · cases read
  · cases read

theorem MembersReadOrdered.succ {fuel : Nat} (valueOk : ValueReadOrdered fuel)
    (membersOk : MembersReadOrdered fuel) : MembersReadOrdered (fuel + 1) := by
  intro depth acc cs v rest accOrdered read
  rw [readMembers] at read
  split at read
  · split at read
    · cases read
    rename_i key _ _
    split at read
    · split at read
      · cases read
      rename_i w after valueRead
      have inserted :=
        @isOrdered_insertMember _ key _ accOrdered (valueOk _ _ _ _ valueRead)
      split at read
      · split at read
        · cases read
        · exact membersOk _ _ _ _ _ inserted read
      · cases read
        exact inserted
      · cases read
      · cases read
    · cases read
    · cases read
  · cases read
  · cases read

/-- Whatever the reader's three functions give is ordered, with any fuel. -/
theorem reads_ordered (fuel : Nat) :
    ValueReadOrdered fuel ∧ ItemsReadOrdered fuel ∧ MembersReadOrdered fuel := by
  induction fuel with
  | zero =>
    refine ⟨fun _ _ _ _ read => ?_, fun _ _ _ _ _ _ read => ?_, fun _ _ _ _ _ _ read => ?_⟩ <;>
      cases read
  | succ fuel ih =>
    obtain ⟨valueOk, itemsOk, membersOk⟩ := ih
    exact ⟨.succ itemsOk membersOk, .succ valueOk itemsOk, .succ valueOk membersOk⟩

/-- Every value a JSON text reads as is ordered at every depth. -/
theorem read_isOrdered {text : String} {v : Json} (read : Json.read text = .ok v) :
    v.isOrdered = true := by
  unfold Json.read at read
  dsimp only at read
  split at read
  · cases read
  rename_i w rest valueRead
  split at read
  · cases read
    exact (reads_ordered _).1 _ _ _ _ valueRead
  · cases read

end Json

namespace Kube

open Json

/-! ## Writing objects back -/

theorem Schema.isOrdered_defaultValue (s : Schema) : s.defaultValue.isOrdered = true := by
  cases s <;> rfl

/-- Writing a value back by a schema keeps it ordered. -/
theorem isOrdered_reshape (s : Schema) (v : Json) :
    v.isOrdered = true → (reshape s v).isOrdered = true := by
  -- one induction over values, the members of records and the items of lists
  refine reshape.induct (fun s v => v.isOrdered = true → (reshape s v).isOrdered = true)
    (fun fields members => (∀ e ∈ members, e.2.isOrdered = true) →
      ∀ e ∈ reshapeMembers fields members, e.2.isOrdered = true)
    (fun item items => (∀ v ∈ items, v.isOrdered = true) →
      ∀ v ∈ reshapeItems item items, v.isOrdered = true)
    ?time ?badTime ?list ?record ?other ?noItems ?item ?noMembers ?nullMember ?member ?unknown s v
  case time =>
    intro s t inner ts parsed _
    rw [reshape.eq_1 s t inner, parsed]
    rfl
  case badTime =>
    intro s t inner e failed _
    rw [reshape.eq_1 s t inner, failed]
    rfl
  case list =>
    intro s item items inner ih ordered
    rw [reshape.eq_2 s item items inner]
    exact isOrdered_arr.2 (ih (isOrdered_arr.1 ordered))
  case record =>
    intro s name fields members inner ih ordered
    rw [reshape.eq_3 s fields members name inner]
    -- the known members written back, then the defaults of the absent required ones
    refine isOrdered_object fun e member => ?_
    rcases List.mem_append.1 member with kept | default
    · exact ih (membersOrdered_iff.1 (isOrdered_obj.1 ordered).2) e kept
    · obtain ⟨⟨k, f⟩, -, rfl⟩ := List.mem_map.1 default
      exact f.inner.isOrdered_defaultValue
  case other =>
    intro s v notTime notList notRecord ordered
    rwa [reshape.eq_4 s v notTime notList notRecord]
  case noItems => intro item _ v member; cases member
  case item =>
    intro item v rest ih ihs ordered u member
    rw [reshapeItems] at member
    rcases List.mem_cons.1 member with rfl | later
    · exact ih (ordered v (.head _))
    · exact ihs (fun w member => ordered w (.tail _ member)) u later
  case noMembers => intro fields _ e member; cases member
  case nullMember =>
    intro fields k rest ih ordered
    simp only [reshapeMembers]
    exact ih fun e member => ordered e (.tail _ member)
  case member =>
    intro fields k v rest notNull s found ih ihs ordered e member
    rw [reshapeMembers.eq_3 fields k v rest notNull, found] at member
    rcases List.mem_cons.1 member with rfl | later
    · exact ih (ordered (k, v) (.head _))
    · exact ihs (fun e member => ordered e (.tail _ member)) e later
  case unknown =>
    intro fields k v rest notNull missing ih ordered
    rw [reshapeMembers.eq_3 fields k v rest notNull, missing]
    exact ih fun e member => ordered e (.tail _ member)

/-- Taking an object's type leaves members of the object and members passed over. -/
theorem mem_takeType {e : String × Json} {members kept : List (String × Json)}
    {apiVersion kind : Option String}
    (member : e ∈ (takeType members apiVersion kind kept).2) : e ∈ members ∨ e ∈ kept := by
  fun_induction takeType members apiVersion kind kept with
  | case1 => exact .inr (List.mem_reverse.1 member)
  | case2 | case5 =>
    -- reading stopped: the members passed over and the rest are left
    rcases List.mem_append.1 member with passed | later
    · exact .inr (List.mem_reverse.1 passed)
    · exact .inl (.tail _ later)
  | case3 | case4 =>
    rename_i ih
    rcases ih member with later | passed
    · exact .inl (.tail _ later)
    · exact .inr passed
  | case6 =>
    rename_i ih
    rcases ih member with later | passed
    · exact .inl (.tail _ later)
    · rcases List.mem_cons.1 passed with rfl | passed
      · exact .inl (.head _)
      · exact .inr passed

/-- A dynamic object read from an ordered value is ordered. -/
theorem isOrdered_dynamicObject {v w : Json} (ordered : v.isOrdered = true)
    (decoded : dynamicObject v = .ok w) : w.isOrdered = true := by
  unfold dynamicObject at decoded
  split at decoded
  · rename_i members
    split at decoded
    · cases decoded
    rename_i m found
    cases checked : check objectMeta m with
    | error e => simp [checked, bind, Except.bind] at decoded
    | ok u =>
      simp only [checked, bind, Except.bind, pure, Except.pure, Except.ok.injEq] at decoded
      subst decoded
      have valuesOrdered := (isOrdered_obj.1 ordered).2
      refine isOrdered_object fun e member => ?_
      rcases List.mem_append.1 member with typed | member
      · -- the type members hold strings
        split at typed
        · simp only [List.mem_cons, List.mem_nil_iff, or_false] at typed
          rcases typed with rfl | rfl <;> rfl
        · cases typed
      rcases List.mem_cons.1 member with rfl | rest
      · exact isOrdered_reshape _ _ (isOrdered_of_lookupMember valuesOrdered found)
      rcases mem_takeType rest with kept | passed
      · exact membersOrdered_iff.1 valuesOrdered e (List.mem_filter.1 kept).1
      · cases passed
  · cases decoded

/-! ## Lists and watch events -/

/-- Every item of a list read from an ordered value is ordered. -/
theorem ObjectList.items_ordered {v : Json} {l : ObjectList} (ordered : v.isOrdered = true)
    (decoded : ObjectList.decode v = .ok l) : ∀ obj ∈ l.items, obj.isOrdered = true := by
  unfold ObjectList.decode at decoded
  split at decoded
  · rename_i members
    have decodedItems : ∀ xs items, lookupMember "items" members = some (.arr xs) →
        xs.mapM dynamicObject = .ok items → ∀ obj ∈ items, obj.isOrdered = true :=
      fun xs items found mapped =>
        forall_mem_of_mapM_eq_ok _ (fun x member _ decoded => isOrdered_dynamicObject
          (isOrdered_arr.1 (isOrdered_of_lookupMember (isOrdered_obj.1 ordered).2 found) x member)
          decoded) mapped
    simp only [bind, Except.bind, pure, Except.pure] at decoded
    -- the metadata is read first; whatever it holds, the items are those of the `items` member
    repeat' split at decoded
    all_goals try cases decoded
    all_goals first
      | exact fun obj member => absurd member List.not_mem_nil
      | exact decodedItems _ _ ‹_› ‹_›
  · cases decoded

/-- Every object of a list reply is ordered. -/
theorem Reply.listing_items_ordered {r : Reply} {l : ObjectList} (listed : r.listing = .ok l) :
    ∀ obj ∈ l.items, obj.isOrdered = true := by
  unfold Reply.listing at listed
  split_ifs at listed
  split at listed
  · cases listed
  rename_i v read
  split at listed
  · cases listed
    exact ObjectList.items_ordered (read_isOrdered read) ‹_›
  · cases listed

/-- Every object an event of a watch stream carries satisfies `P`; bookmarks and errors carry
none. -/
def WatchEvent.ForallObj (P : Json → Prop) : WatchEvent → Prop
  | .added o | .modified o | .deleted o => P o
  | .bookmark _ | .error _ => True

/-- An event read from an ordered value carries ordered objects. -/
theorem WatchEvent.decode_ordered {v : Json} {e : WatchEvent} (ordered : v.isOrdered = true)
    (decoded : WatchEvent.decode v = .ok e) : e.ForallObj (·.isOrdered = true) := by
  unfold WatchEvent.decode at decoded
  split at decoded
  · rename_i t o typed found
    have objectOrdered := isOrdered_get? ordered found
    -- an object event carries the object as the client writes it back
    have carried : ∀ (event : Json → WatchEvent), (dynamicObject o).map event = .ok e →
        ∃ w, e = event w ∧ w.isOrdered = true := fun event mapped => by
      obtain ⟨w, written, rfl⟩ := exists_of_map_eq_ok mapped
      exact ⟨w, rfl, isOrdered_dynamicObject objectOrdered written⟩
    split_ifs at decoded
    · obtain ⟨w, rfl, wOrdered⟩ := carried _ decoded
      exact wOrdered
    · obtain ⟨w, rfl, wOrdered⟩ := carried _ decoded
      exact wOrdered
    · obtain ⟨w, rfl, wOrdered⟩ := carried _ decoded
      exact wOrdered
    · obtain ⟨rv, -, rfl⟩ := exists_of_map_eq_ok decoded
      trivial
    · split at decoded
      · cases decoded
        trivial
      · cases decoded
  · cases decoded
  · cases decoded

/-- Every object an event read from a line of a watch stream carries is ordered at every
depth. -/
theorem decodeWatchLine_ordered {line : String} {e : WatchEvent}
    (decoded : decodeWatchLine line = some (.ok e)) : e.ForallObj (·.isOrdered = true) := by
  unfold decodeWatchLine at decoded
  split at decoded
  · -- a cut-off line yields nothing and any other failure an error
    split_ifs at decoded
    cases decoded
  rename_i v read
  split at decoded
  · cases decoded
    exact WatchEvent.decode_ordered (read_isOrdered read) ‹_›
  · split at decoded <;> cases decoded

end Kube

end StateMetrics
