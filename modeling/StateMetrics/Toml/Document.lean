import StateMetrics.Toml.Values

/-! # TOML documents

A document is read line by line: blank lines, comments, table headers (`[a.b]`), array
headers (`[[a.b]]`) and key and value pairs. Pairs go into the table of the last header, the
root before any header, which is kept apart while it is being filled and put in place when the
next header (or the end) comes.

Tables are made in three ways, and a table remembers which: by a header (explicit), by a
header or pair naming a table below one that does not exist yet (implicit), and by a dotted
key (dotted). A header may define a table that only exists implicitly; a dotted key may go
through tables it made itself but not through a table a header defined; a plain key may only
be set in a table that is not dotted, and a dotted key only in a dotted one. Nothing is set
twice, and no path goes through a value that is not a table. Going through an array of tables
goes into its last table.

A failure is shown with its line and column, the line itself and a caret under the column,
then its message. A failure when the last table is put in place has no position, and is shown
by its message alone. -/

namespace StateMetrics.Toml

/-- An entry of a document's tables: a value, a table with the way it was made, or an array of
tables. -/
inductive Item where
  | value (v : Value)
  | table (entries : List (String × Item)) (implicit dotted : Bool)
  | tables (list : List (List (String × Item)))
  deriving Repr, Inhabited

/-- The entry under a key. -/
def itemAt? (key : String) : List (String × Item) → Option Item
  | [] => none
  | (k, i) :: rest => if k == key then some i else itemAt? key rest

/-- Applies an update to the table at a path below a table, making implicit tables (dotted ones
when `dotted`) where the path is missing. The update is told whether the table it gets is
dotted. A path may not go through a value, nor, when `dotted`, through a table that is not
implicit. `full` is the whole path, for messages. -/
def descend {α : Type} (dotted : Bool) (full : List String)
    (update : Bool → List (String × Item) → Except Conflict (List (String × Item) × α)) :
    List String → List (String × Item) → Bool → Except Conflict (List (String × Item) × α)
  | [], entries, isDotted => update isDotted entries
  | k :: rest, entries, _ =>
    let reached := full.take (full.length - rest.length)
    match itemAt? k entries with
    | none => do
      let (sub, a) ← descend dotted full update rest [] dotted
      .ok (entries ++ [(k, .table sub true dotted)], a)
    | some (.value v) => .error (.extendsValue reached v.typeName)
    | some (.tables ts) => do
      let (sub, a) ← descend dotted full update rest (ts.getLast?.getD []) false
      .ok (setEntry k (.tables (ts.dropLast ++ [sub])) entries, a)
    | some (.table sub implicit isDotted) =>
      if dotted && !implicit then .error (.duplicate k none)
      else do
        let (sub, a) ← descend dotted full update rest sub isDotted
        .ok (setEntry k (.table sub implicit isDotted) entries, a)

/-- The conflict of a header whose last key is already taken. -/
def headerConflict (path : List String) : Conflict :=
  .duplicate (keyText (path.getLast?.getD "")) (some path.dropLast)

/-- A document being read: its root, the table being filled with its header's path (empty for
the root), and whether that header is an array header. -/
structure Reading where
  root : List (String × Item)
  current : List (String × Item)
  path : List String
  isArray : Bool
  deriving Inhabited

namespace Reading

/-- Nothing read yet. -/
def empty : Reading := ⟨[], [], [], false⟩

/-- Sets a key below a dotted prefix in the table being filled. -/
def setPair (r : Reading) (pre : List String) (key : String) (v : Value) :
    Except Conflict Reading := do
  let (current, ()) ← descend true pre (fun isDotted entries =>
    if isDotted == pre.isEmpty then .error (.duplicate key none)
    else if (itemAt? key entries).isSome then .error (.duplicate key (some r.path))
    else .ok (entries ++ [(key, .value v)], ())) pre r.current false
  .ok { r with current }

/-- Puts the table being filled in place: as the root, as the next table of its array, or
under its key, where only an implicit table may stand already. -/
def finish (r : Reading) : Except Conflict Reading :=
  if r.path.isEmpty then .ok { r with root := r.current, current := [] }
  else do
    let key := r.path.getLast?.getD ""
    let parent := r.path.dropLast
    let (root, ()) ← descend false parent (fun _ entries =>
      match itemAt? key entries, r.isArray with
      | none, true => .ok (entries ++ [(key, .tables [r.current])], ())
      | some (.tables ts), true => .ok (setEntry key (.tables (ts ++ [r.current])) entries, ())
      | none, false => .ok (entries ++ [(key, .table r.current false false)], ())
      | some (.table _ true _), false => .ok (setEntry key (.table r.current false false) entries, ())
      | _, _ => .error (headerConflict r.path)) parent r.root false
    .ok ⟨root, [], [], false⟩

/-- Starts the table of a header, after the previous one is in place. A table that exists
implicitly (not by dotted keys) is taken up with what it holds. -/
def startTable (r : Reading) (path : List String) : Except Conflict Reading := do
  let key := path.getLast?.getD ""
  let parent := path.dropLast
  let (root, taken) ← descend false parent (fun _ entries =>
    match itemAt? key entries with
    | none => .ok (entries, [])
    | some (.table t true false) => .ok (entries.filter (·.1 != key), t)
    | some _ => .error (headerConflict path)) parent r.root false
  .ok ⟨root, taken, path, false⟩

/-- Starts the next table of an array header, after the previous table is in place. -/
def startArray (r : Reading) (path : List String) : Except Conflict Reading := do
  let key := path.getLast?.getD ""
  let parent := path.dropLast
  let (root, ()) ← descend false parent (fun _ entries =>
    match itemAt? key entries with
    | none => .ok (entries ++ [(key, .tables [])], ())
    | some (.tables _) => .ok (entries, ())
    | some _ => .error (headerConflict path)) parent r.root false
  .ok ⟨root, [], path, true⟩

end Reading

/-- A conflict found by the rule that started at a position. -/
def conflictAt (pos : Nat) (c : Conflict) : Failure := (Failure.because pos c.text).commit

/-- A key and value pair on a line of its own, starting at its key. -/
def pairLine (src : Array Char) (r : Reading) (pos : Nat) : Except Failure (Reading × Nat) := do
  let (keys, q) ← committed (dottedKey src pos)
  if src[q]? != some '=' then throw (Failure.stop q [expectChar '.', expectChar '='])
  let (v, s) ← committed (value src valueDepth (blanks src (q + 1)))
  let e ← (lineTrailing src s).mapError fun f => (f.noted [expectChar '\n', expectChar '#']).commit
  match r.setPair keys.dropLast (keys.getLast?.getD "") v with
  | .ok r => .ok (r, e)
  | .error c => .error (conflictAt pos c)

/-- A table or array header, starting at its bracket. -/
def headerLine (src : Array Char) (r : Reading) (pos : Nat) : Except Failure (Reading × Nat) :=
  withNotes [.label "table header"] <|
    if src.size ≤ pos + 1 then .error (.miss pos)
    else
      let isArray := src[pos + 1]? == some '['
      let close := if isArray then "]]" else "]"
      let closeNote := if isArray then expectText "]]" else expectChar ']'
      do
        let (path, q) ← committed (dottedKey src (pos + close.length))
        if !textAt src q close then throw (Failure.stop q [expectChar '.', closeNote])
        let e ← (lineTrailing src (q + close.length)).mapError fun f =>
          (f.noted [expectChar '\n', expectChar '#']).commit
        let started := do
          let r ← r.finish
          if isArray then r.startArray path else r.startTable path
        match started with
        | .ok r => .ok (r, e)
        | .error c => .error (conflictAt pos c)

/-- Why a document cannot be read: a failure at a position, or a conflict found when the last
table is put in place. -/
inductive Problem where
  | located (f : Failure)
  | unplaced (c : Conflict)
  deriving Inhabited

/-- Reads the lines of a document from a position, at most `fuel` of them. -/
def lines (src : Array Char) : Nat → Nat → Reading → Except Failure Reading
  | 0, _, r => .ok r
  | fuel + 1, p, r =>
    let next := fun (q : Nat) (r : Reading) => lines src fuel (blanks src q) r
    match src[p]? with
    | none => .ok r
    | some '#' =>
      match lineEnding src (comment src p) with
      | .ok q => next q r
      | .error f => .error f.commit
    | some '[' => do
      let (r, q) ← headerLine src r p
      next q r
    | some '\n' | some '\r' =>
      match newline src p with
      | .ok q => next q r
      | .error _ => .error (.miss p)
    | some _ => do
      let (r, q) ← pairLine src r p
      next q r

/-- Reads a document: an optional byte order mark, then its lines, then the last table put in
place. Gives the root table. -/
def readDocument (src : Array Char) : Except Problem (List (String × Item)) :=
  let start := if src[0]? == some '\uFEFF' then 1 else 0
  match lines src (src.size + 1) (blanks src start) Reading.empty with
  | .error f => .error (.located f)
  | .ok r => match r.finish with
    | .ok r => .ok r.root
    | .error c => .error (.unplaced c)

/-- The line and column of a position, both from zero. A position at the very end is placed
just after the last character, on that character's line. The column counts characters, except
where the character at the position takes more than one byte: then it counts the bytes since
the line's start. -/
def lineColumn (src : Array Char) (pos : Nat) : Nat × Nat :=
  if src.size == 0 then (0, pos)
  else
    let safe := min pos (src.size - 1)
    let before := (src.toList.take safe)
    let line := before.count '\n'
    let inLine := before.reverse.takeWhile (· != '\n')
    let column := match src[safe]? with
      | some c => if c.utf8Size == 1 then inLine.length else (inLine.map Char.utf8Size).foldl (· + ·) 0
      | none => inLine.length
    (line, column + (pos - safe))

/-- The number of carets under a failure: the bytes of the character at its position (none
at the very end), at most as many as the line has bytes after the column, and at least one. -/
def caretCount (src : Array Char) (content : String) (pos column : Nat) : Nat :=
  let width := match src[pos]? with
    | some c => c.utf8Size
    | none => 0
  max 1 (min width (content.utf8ByteSize - column))

/-- A failure as it is shown: where, the line with carets under the column, and the
message. -/
def failureText (text : String) (src : Array Char) (f : Failure) : String :=
  let (line, column) := lineColumn src f.pos
  let number := toString (line + 1)
  let gutter := String.ofList (List.replicate (number.length + 1) ' ')
  let content := ((text.splitOn "\n")[line]?).getD ""
  "TOML parse error at line " ++ number ++ ", column " ++ toString (column + 1) ++ "\n" ++
    gutter ++ "|\n" ++
    number ++ " | " ++ content ++ "\n" ++
    gutter ++ "|" ++ String.ofList (List.replicate (column + 1) ' ') ++
    String.ofList (List.replicate (caretCount src content f.pos column) '^') ++ "\n" ++
    f.message ++ "\n"

/-- Reads a TOML text into its root table, or gives the text of its first problem. -/
def parseDocument (text : String) : Except String (List (String × Item)) :=
  let src := text.toList.toArray
  match readDocument src with
  | .ok root => .ok root
  | .error (.located f) => .error (failureText text src f)
  | .error (.unplaced c) => .error (c.text ++ "\n")

end StateMetrics.Toml
