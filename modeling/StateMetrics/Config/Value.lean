import StateMetrics.Json.Basic
import StateMetrics.Text.Unicode

/-! # The configuration tree

Configuration is gathered from several sources into one tree of values. Every value knows the
source it came from, its origin, for messages; a table made while merging has none.

Sources are merged by setting their entries at paths. A path is a name followed by `.name`
steps and `[index]` subscripts, names being made of letters, digits, blanks, `_` and `-`, and
an index being a signed 64-bit integer; an entry whose key is not a path is set under the key
as it is. Names are lower-cased as they are set, so keys match in any letter case. Setting a
table merges it into the table already there, member by member, so that later sources override
single values and keep the rest (the members of tables inside arrays keep their names as they
are); setting anything else replaces what was there. Steps through a value that is not a table
(or for a subscript, not an array) replace it by an empty one first.

A negative index counts from the end of the array. One that reaches further back than the
array's start names a position past any array that can exist: the setting stops with the
failure of the growth it asks for (`MergeHalt`). -/

namespace StateMetrics.Config

/-- A value of the configuration tree, with its origin. -/
inductive Value where
  | nil (origin : Option String)
  | bool (origin : Option String) (b : Bool)
  | int (origin : Option String) (i : Int)
  | float (origin : Option String) (f : Float)
  | text (origin : Option String) (s : String)
  | array (origin : Option String) (items : List Value)
  | table (origin : Option String) (members : List (String × Value))
  deriving Repr, Inhabited

namespace Value

/-- The source a value came from. -/
def origin : Value → Option String
  | .nil o | .bool o _ | .int o _ | .float o _ | .text o _ | .array o _ | .table o _ => o

/-- An empty table made while merging. -/
def emptyTable : Value := .table none []

/-- The members of a table, or none for any other value. -/
def membersOf : Value → List (String × Value)
  | .table _ ms => ms
  | _ => []

/-- Puts a member into a list sorted by name, replacing an equal name's value. -/
def putMember (key : String) (v : Value) : List (String × Value) → List (String × Value)
  | [] => [(key, v)]
  | (k, w) :: rest =>
    if key < k then (key, v) :: (k, w) :: rest
    else if key = k then (key, v) :: rest
    else (k, w) :: putMember key v rest

/-- The member under a name. -/
def member? (key : String) (ms : List (String × Value)) : Option Value :=
  (ms.find? (·.1 == key)).map (·.2)

mutual

/-- Sets a value under a name of a table, lower-cased, merging a table into the table there; a
value that is not a table is first replaced by an empty table. -/
def setMember (name : String) (root : Value) (v : Value) : Value :=
  let key := Text.Unicode.lowercase name
  let (origin, ms) := match root with
    | .table o ms => (o, ms)
    | _ => (none, [])
  match v with
  | .table _ incoming =>
    let target := (member? key ms).getD emptyTable
    .table origin (putMember key (mergeInto target incoming) ms)
  | _ => .table origin (putMember key v ms)

/-- Sets each incoming member into a value, in order. -/
def mergeInto (target : Value) : List (String × Value) → Value
  | [] => target
  | (k, x) :: rest => mergeInto (setMember k target x) rest

end

end Value

/-- A path into the configuration tree. -/
inductive PathExpr where
  | ident (name : String)
  | child (parent : PathExpr) (name : String)
  | subscript (parent : PathExpr) (index : Int)
  deriving Repr, BEq, Inhabited

namespace PathExpr

/-- The characters of a name in a path. -/
def isNameChar (c : Char) : Bool := c.isAlphanum || c == ' ' || c == '_' || c == '-'

/-- Reads a name. -/
def readName (cs : List Char) : Option (String × List Char) :=
  let name := cs.takeWhile isNameChar
  if name.isEmpty then none else some (String.ofList name, cs.dropWhile isNameChar)

/-- Whether a character is a blank around a subscript's index. -/
def isSpace (c : Char) : Bool := c == ' ' || c == '\t'

/-- The largest magnitude of a negative index, and one more than the largest positive index. -/
def indexBound : Nat := Nat.pow 2 63

/-- Reads a `.name` step or an `[index]` subscript after a path; an index that does not fit in
64 bits is not read. -/
def readStep (e : PathExpr) : List Char → Option (PathExpr × List Char)
  | '.' :: rest => (readName rest).map fun (n, r) => (.child e n, r)
  | '[' :: rest =>
    let r := rest.dropWhile isSpace
    let (negative, r) := match r with
      | '-' :: r => (true, r)
      | r => (false, r)
    let ds := r.takeWhile Char.isDigit
    let r := (r.dropWhile Char.isDigit).dropWhile isSpace
    let v : Nat := ds.foldl (fun n c => 10 * n + (c.toNat - '0'.toNat)) 0
    if ds.isEmpty || indexBound < v || (v = indexBound && !negative) then none
    else match r with
      | ']' :: r => some (.subscript e (if negative then -(v : Int) else v), r)
      | _ => none
  | _ => none

/-- Reads steps until the text ends; `fuel` bounds the number of steps. -/
def readSteps : Nat → PathExpr → List Char → Option PathExpr
  | _, e, [] => some e
  | 0, _, _ :: _ => none
  | fuel + 1, e, cs =>
    match readStep e cs with
    | some (e, rest) => readSteps fuel e rest
    | none => none

/-- Reads a path; a text that is not a path gives none. -/
def parse (s : String) : Option PathExpr :=
  match readName s.toList with
  | some (n, rest) => readSteps rest.length (.ident n) rest
  | none => none

end PathExpr

/-- Why setting a value stopped: an index reached before the start of an array, either by
exactly one place, which empties the array and then misses it, or by more, which asks for an
array too large to exist. -/
inductive MergeHalt where
  | outOfBounds
  | capacityOverflow
  deriving Repr, BEq, Inhabited

/-- The message the stop is reported with. -/
def MergeHalt.message : MergeHalt → String
  | .outOfBounds => "index out of bounds: the len is 0 but the index is 18446744073709551615"
  | .capacityOverflow => "capacity overflow"

/-- Where in the merging code the stop is reported. -/
def MergeHalt.location : MergeHalt → String
  | .outOfBounds => "src/path/mod.rs"
  | .capacityOverflow => "alloc/src/raw_vec.rs"

namespace PathExpr

/-- The position an index names in an array of a length: a negative index counts from the
end, and one reaching before the start stops the setting. -/
def position (index : Int) (len : Nat) : Except MergeHalt Nat :=
  if 0 ≤ index then .ok index.toNat
  else if index.natAbs ≤ len then .ok (len - index.natAbs)
  else if index.natAbs = len + 1 then .error .outOfBounds
  else .error .capacityOverflow

/-- Applies a change to the value a path names, making the way: a missing member is taken as
`nil`, a step through a value that is not a table makes it an empty table, and a subscript
through a value that is not an array makes it an empty array, grown with `nil` to reach the
index. Names are lower-cased. At the top the root must be a table, or nothing changes. -/
def update : PathExpr → Value → (Value → Except MergeHalt Value) → Except MergeHalt Value
  | .ident name, root, f =>
    let id := Text.Unicode.lowercase name
    match root with
    | .table o ms => do
      let v ← f ((Value.member? id ms).getD (.nil none))
      .ok (.table o (Value.putMember id v ms))
    | v => .ok v
  | .child e name, root, f =>
    let key := Text.Unicode.lowercase name
    update e root fun parent => do
      let (o, ms) := match parent with
        | .table o ms => (o, ms)
        | _ => (none, [])
      let v ← f ((Value.member? key ms).getD (.nil none))
      .ok (.table o (Value.putMember key v ms))
  | .subscript e index, root, f =>
    update e root fun parent => do
      let (o, items) := match parent with
        | .array o items => (o, items)
        | _ => (none, [])
      let i ← position index items.length
      let items := if i < items.length then items else items ++ List.replicate (i + 1 - items.length) (.nil none)
      let v ← f (items.getD i (.nil none))
      .ok (.array o (items.set i v))

/-- Sets a value at a path of the tree. -/
def set : PathExpr → Value → Value → Except MergeHalt Value
  | .ident id, root, v => .ok (Value.setMember id root v)
  | .child e key, root, v =>
    update e root fun parent =>
      .ok (Value.setMember key (match parent with
        | .table .. => parent
        | _ => Value.emptyTable) v)
  | .subscript e index, root, v => update (.subscript e index) root fun _ => .ok v

end PathExpr

/-- Sets an entry of a source into the tree: under its key read as a path, or under the key as
it is when it is not one. -/
def setEntry (root : Value) (key : String) (v : Value) : Except MergeHalt Value :=
  match PathExpr.parse key with
  | some e => e.set root v
  | none => .ok (Value.setMember key root v)

/-- Merges the entries of a source into the tree, in order. -/
def mergeSource (root : Value) : List (String × Value) → Except MergeHalt Value
  | [] => .ok root
  | (k, v) :: rest => do
    let r ← setEntry root k v
    mergeSource r rest

end StateMetrics.Config
