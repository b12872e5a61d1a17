import StateMetrics.Text.Categories

/-! # Reading JSON5

JSON5 extends JSON with comments (`//` to the end of the line, `/* ... */`), identifiers as
object keys, strings in single quotes with more escapes and line continuations, hexadecimal
numbers, `Infinity`, `NaN`, numbers with a leading or trailing point or a plus sign, and a
trailing comma in arrays and objects. White space includes the Unicode space separators and
line terminators.

The grammar is read as a parsing expression grammar: alternatives are tried in order and the
first that matches wins, without going back into it later. White space and comments may stand
between the tokens of arrays, objects and the document, but not inside strings, identifiers
or numbers.

**Errors.** When the document does not match, the error points at the furthest position where
one of the named rules of the grammar (`array`, `boolean`, `null`, `number`, `object`,
`string`, `identifier`, the pieces of strings, and the end of input `EOI`) failed to match,
and lists the rules that failed there. A rule that fails after exactly one of its inner rules
failed at its own start is left out in favour of that inner rule. The report shows the line
and column of the position, the line itself, and a marker under the column. -/

namespace StateMetrics.Json5

/-- The named rules of the grammar, in the order reports list them. -/
inductive Rule where
  | eoi
  | array
  | boolean
  | charEscapeSequence
  | charLiteral
  | hexEscapeSequence
  | identifier
  | nulEscapeSequence
  | null
  | number
  | object
  | string
  | unicodeEscapeSequence
  deriving Repr, DecidableEq, Inhabited

/-- The position of a rule in the order reports list them. -/
def Rule.rank : Rule → Nat
  | .eoi => 0
  | .array => 1
  | .boolean => 2
  | .charEscapeSequence => 3
  | .charLiteral => 4
  | .hexEscapeSequence => 5
  | .identifier => 6
  | .nulEscapeSequence => 7
  | .null => 8
  | .number => 9
  | .object => 10
  | .string => 11
  | .unicodeEscapeSequence => 12

/-- The name a report gives a rule. -/
def Rule.name : Rule → String
  | .eoi => "EOI"
  | .array => "array"
  | .boolean => "boolean"
  | .charEscapeSequence => "char_escape_sequence"
  | .charLiteral => "char_literal"
  | .hexEscapeSequence => "hex_escape_sequence"
  | .identifier => "identifier"
  | .nulEscapeSequence => "nul_escape_sequence"
  | .null => "null"
  | .number => "number"
  | .object => "object"
  | .string => "string"
  | .unicodeEscapeSequence => "unicode_escape_sequence"

/-- The furthest position where named rules failed, and those rules in the order they failed. -/
structure Attempts where
  pos : Nat := 0
  rules : List Rule := []
  deriving Inhabited

/-- The number of failures recorded at a position. -/
def Attempts.count (t : Attempts) (pos : Nat) : Nat :=
  if t.pos == pos then t.rules.length else 0

/-- Records that a rule failed at `pos`. `index` is the number of failures recorded there when
the rule started and `prev` the count at its start; failures of inner rules at the same
position are replaced by the rule, unless there was exactly one. -/
def Attempts.track (t : Attempts) (r : Rule) (pos index prev : Nat) : Attempts :=
  let curr := t.count pos
  if prev < curr && curr - prev == 1 then t
  else
    let t := if pos == t.pos then { t with rules := t.rules.take index } else t
    let t := if t.pos < pos then { pos := pos, rules := [] } else t
    if pos == t.pos then { t with rules := t.rules ++ [r] } else t

/-- Runs a named rule at a position, recording its failure. -/
def rule (r : Rule) (i : Nat) (body : StateM Attempts (Option (α × Nat))) :
    StateM Attempts (Option (α × Nat)) := do
  let t ← get
  let index := if i == t.pos then t.rules.length else 0
  let prev := t.count i
  let res ← body
  if res.isNone then modify fun t => t.track r i index prev
  pure res

/-- A piece of a string or an identifier: a character, as written or escaped, or the code of
a hexadecimal escape, which need not name a character. -/
inductive Piece where
  | char (c : Char)
  | code (n : Nat)
  deriving Repr, Inhabited

/-- A value as the grammar reads it; numbers keep their text. -/
inductive Node where
  | null
  | bool (b : Bool)
  | string (pieces : List Piece)
  | number (text : String)
  | array (items : List Node)
  | object (members : List (List Piece × Node))
  deriving Inhabited

/-! ## Characters -/

/-- Whether a character ends a line. -/
def isLineTerminator (c : Char) : Bool :=
  c == '\n' || c == '\r' || c == '\u2028' || c == '\u2029'

/-- Whether a character is white space. -/
def isSpace (c : Char) : Bool :=
  c == '\t' || c == '\x0B' || c == '\x0C' || c == ' ' || c == '\xA0' || c == '\uFEFF' ||
    Text.Categories.isSpaceSeparator c || isLineTerminator c

/-- The value of a hexadecimal digit. -/
def hexDigit? (c : Char) : Option Nat :=
  if c.isDigit then some (c.toNat - '0'.toNat)
  else if 'a' ≤ c && c ≤ 'f' then some (c.toNat - 'a'.toNat + 10)
  else if 'A' ≤ c && c ≤ 'F' then some (c.toNat - 'A'.toNat + 10)
  else none

/-- Whether a word stands at a position. -/
def wordAt (s : Array Char) (i : Nat) (w : String) : Bool :=
  (w.toList.zipIdx.all fun (c, k) => s[i + k]? == some c)

/-- The position after the end of a block comment whose body starts at `j`. -/
def blockEnd (s : Array Char) : Nat → Nat → Option Nat
  | 0, _ => none
  | fuel + 1, j =>
    if s.size ≤ j then none
    else if s[j]? == some '*' && s[j + 1]? == some '/' then some (j + 2)
    else blockEnd s fuel (j + 1)

/-- The position after a comment at `i`, if one starts there. -/
def commentEnd (s : Array Char) (i : Nat) : Option Nat :=
  if wordAt s i "/*" then blockEnd s s.size (i + 2)
  else if wordAt s i "//" then
    some (i + 2 + ((s.toList.drop (i + 2)).takeWhile (!isLineTerminator ·)).length)
  else none

/-- Skips white space and comments. -/
def skipFrom (s : Array Char) : Nat → Nat → Nat
  | 0, i => i
  | fuel + 1, i =>
    match s[i]? with
    | some c =>
      if isSpace c then skipFrom s fuel (i + 1)
      else
        match commentEnd s i with
        | some j => if i < j then skipFrom s fuel j else i
        | none => i
    | none => i

/-- Skips white space and comments. -/
def skip (s : Array Char) (i : Nat) : Nat := skipFrom s (s.size + 1) i

/-! ## Strings and identifiers -/

/-- `char_literal`: any character but a backslash or a line terminator. -/
def charLiteral (s : Array Char) (i : Nat) : StateM Attempts (Option (Char × Nat)) :=
  rule .charLiteral i (pure (match s[i]? with
    | some c => if c == '\\' || isLineTerminator c then none else some (c, i + 1)
    | none => none))

/-- The character an escaped character stands for. -/
def escapedChar (c : Char) : Char :=
  match c with
  | 'b' => '\x08'
  | 'f' => '\x0C'
  | 'n' => '\n'
  | 'r' => '\r'
  | 't' => '\t'
  | 'v' => '\x0B'
  | other => other

/-- Whether a character escapes to itself or to a control. -/
def isSingleEscape (c : Char) : Bool :=
  c == '\'' || c == '"' || c == '\\' || c == 'b' || c == 'f' || c == 'n' || c == 'r' ||
    c == 't' || c == 'v'

/-- `char_escape_sequence`: a single escape character, or any character that does not start
another kind of escape and does not end a line. -/
def charEscape (s : Array Char) (i : Nat) : StateM Attempts (Option (Piece × Nat)) :=
  rule .charEscapeSequence i (pure (match s[i]? with
    | some c =>
      if isSingleEscape c then some (.char (escapedChar c), i + 1)
      else if c.isDigit || c == 'x' || c == 'u' || isLineTerminator c then none
      else some (.char c, i + 1)
    | none => none))

/-- A fixed number of hexadecimal digits as a code. -/
def hexRun (s : Array Char) (i n : Nat) : Option (Piece × Nat) :=
  ((List.range n).foldlM (fun acc k => (s[i + k]?.bind hexDigit?).map (acc * 16 + ·)) 0).map
    fun v => (.code v, i + n)

/-- An escape after its backslash. -/
def escapeSequence (s : Array Char) (i : Nat) : StateM Attempts (Option (Piece × Nat)) := do
  if let some r := (← charEscape s i) then return some r
  let nul := if s[i]? == some '0' then some (Piece.char '\x00', i + 1) else none
  if let some r := (← rule .nulEscapeSequence i (pure nul)) then return some r
  if s[i]? == some 'x' then
    if let some r := (← rule .hexEscapeSequence (i + 1) (pure (hexRun s (i + 1) 2))) then
      return some r
  if s[i]? == some 'u' then
    if let some r := (← rule .unicodeEscapeSequence (i + 1) (pure (hexRun s (i + 1) 4))) then
      return some r
  return none

/-- The position after a line break at a position, a carriage return and line feed counting
as one. -/
def lineBreakEnd (s : Array Char) (i : Nat) : Option Nat :=
  if s[i]? == some '\r' && s[i + 1]? == some '\n' then some (i + 2)
  else match s[i]? with
    | some c => if isLineTerminator c then some (i + 1) else none
    | none => none

/-- One character of a string quoted by `q`: an escape, a line continuation (which stands for
nothing), or any other character but the quote. -/
def stringChar (s : Array Char) (q : Char) (i : Nat) :
    StateM Attempts (Option (Option Piece × Nat)) := do
  if s[i]? == some '\\' then
    if let some (p, j) := (← escapeSequence s (i + 1)) then return some (some p, j)
  if s[i]? == some '\\' then
    if let some j := lineBreakEnd s (i + 1) then return some (none, j)
  if s[i]? == some q then return none
  match ← charLiteral s i with
  | some (c, j) => return some (some (.char c), j)
  | none => return none

/-- The characters of a string up to where none more reads. -/
def stringChars (s : Array Char) (q : Char) :
    Nat → Nat → List Piece → StateM Attempts (List Piece × Nat)
  | 0, i, acc => pure (acc.reverse, i)
  | fuel + 1, i, acc => do
    match ← stringChar s q i with
    | some (p, j) => stringChars s q fuel j (match p with | some x => x :: acc | none => acc)
    | none => pure (acc.reverse, i)

/-- `string`: characters between double or single quotes. -/
def string (s : Array Char) (i : Nat) : StateM Attempts (Option (List Piece × Nat)) :=
  rule .string i do
    match s[i]? with
    | some q =>
      if q == '"' || q == '\'' then
        let (ps, j) ← stringChars s q (s.size + 1) (i + 1) []
        if s[j]? == some q then return some (ps, j + 1) else return none
      else return none
    | none => return none

/-- The start of an identifier or of its next part: a letter, `$` or `_`, or a `\u` escape. -/
def identifierStart (s : Array Char) (i : Nat) : StateM Attempts (Option (Piece × Nat)) := do
  match s[i]? with
  | some c =>
    if Text.Categories.isLetter c || c == '$' || c == '_' then return some (.char c, i + 1)
    else if c == '\\' && s[i + 1]? == some 'u' then
      rule .unicodeEscapeSequence (i + 2) (pure (hexRun s (i + 2) 4))
    else return none
  | none => return none

/-- A part of an identifier after its start: another start, or a mark, digit, connector or
joiner. -/
def identifierPart (s : Array Char) (i : Nat) : StateM Attempts (Option (Piece × Nat)) := do
  if let some r := (← identifierStart s i) then return some r
  match s[i]? with
  | some c =>
    if Text.Categories.isIdentifierPart c || c == '\u200C' || c == '\u200D' then
      return some (.char c, i + 1)
    else return none
  | none => return none

/-- The parts of an identifier up to where none more reads. -/
def identifierParts (s : Array Char) : Nat → Nat → List Piece → StateM Attempts (List Piece × Nat)
  | 0, i, acc => pure (acc.reverse, i)
  | fuel + 1, i, acc => do
    match ← identifierPart s i with
    | some (p, j) => identifierParts s fuel j (p :: acc)
    | none => pure (acc.reverse, i)

/-- `identifier`: a start and its parts. -/
def identifier (s : Array Char) (i : Nat) : StateM Attempts (Option (List Piece × Nat)) :=
  rule .identifier i do
    match ← identifierStart s i with
    | some (p, j) =>
      let (ps, k) ← identifierParts s (s.size + 1) j [p]
      return some (ps, k)
    | none => return none

/-! ## Numbers and words -/

/-- The end of a run of decimal digits. -/
def digitsEnd (s : Array Char) (i : Nat) : Nat :=
  i + ((s.toList.drop i).takeWhile Char.isDigit).length

/-- The end of an optional exponent: `e` or `E`, a sign, and digits. -/
def exponentEnd (s : Array Char) (i : Nat) : Nat :=
  if s[i]? == some 'e' || s[i]? == some 'E' then
    let j := if s[i + 1]? == some '+' || s[i + 1]? == some '-' then i + 2 else i + 1
    let k := digitsEnd s j
    if j < k then k else i
  else i

/-- The end of a decimal integer: `0`, or a nonzero digit and more digits. -/
def decimalIntegerEnd (s : Array Char) (i : Nat) : Option Nat :=
  match s[i]? with
  | some '0' => some (i + 1)
  | some c => if c.isDigit then some (digitsEnd s (i + 1)) else none
  | none => none

/-- The end of a number without its sign. -/
def numericEnd (s : Array Char) (i : Nat) : Option Nat :=
  let hexEnd := (s.toList.drop (i + 2)).takeWhile (fun c => (hexDigit? c).isSome) |>.length
  if s[i]? == some '0' && (s[i + 1]? == some 'x' || s[i + 1]? == some 'X') && 0 < hexEnd then
    some (i + 2 + hexEnd)
  else
    match decimalIntegerEnd s i with
    | some j =>
      if s[j]? == some '.' then some (exponentEnd s (digitsEnd s (j + 1)))
      else some (exponentEnd s j)
    | none =>
      if s[i]? == some '.' && i + 1 < digitsEnd s (i + 1) then
        some (exponentEnd s (digitsEnd s (i + 1)))
      else if wordAt s i "Infinity" then some (i + 8)
      else if wordAt s i "NaN" then some (i + 3)
      else none

/-- The end of a number with its optional sign. -/
def numberEnd (s : Array Char) (i : Nat) : Option Nat :=
  numericEnd s (if s[i]? == some '+' || s[i]? == some '-' then i + 1 else i)

/-- The text between two positions. -/
def slice (s : Array Char) (i j : Nat) : String := String.ofList ((s.toList.drop i).take (j - i))

/-! ## Values -/

mutual

/-- A value; `fuel` bounds the calls. -/
def value (s : Array Char) : Nat → Nat → StateM Attempts (Option (Node × Nat))
  | 0, _ => pure none
  | fuel + 1, i => do
    let null := if wordAt s i "null" then some ((), i + 4) else none
    if let some (_, j) := (← rule .null i (pure null)) then return some (.null, j)
    let bool := if wordAt s i "true" then some (true, i + 4)
      else if wordAt s i "false" then some (false, i + 5) else none
    if let some (b, j) := (← rule .boolean i (pure bool)) then return some (.bool b, j)
    if let some (ps, j) := (← string s i) then return some (.string ps, j)
    let num := (numberEnd s i).map fun j => ((), j)
    if let some (_, j) := (← rule .number i (pure num)) then return some (.number (slice s i j), j)
    if let some r := (← object s fuel i) then return some r
    array s fuel i

/-- `object`: members between braces. -/
def object (s : Array Char) : Nat → Nat → StateM Attempts (Option (Node × Nat))
  | 0, _ => pure none
  | fuel + 1, i =>
    rule .object i do
      if s[i]? != some '\x7b' then return none
      let j := skip s (i + 1)
      if s[j]? == some '\x7d' then return some (.object [], j + 1)
      match ← member s fuel j with
      | none => return none
      | some (m, k) =>
        let (ms, k) ← moreMembers s fuel k [m]
        let k := skip s k
        let k := if s[k]? == some ',' then skip s (k + 1) else k
        if s[k]? == some '\x7d' then return some (.object ms, k + 1) else return none

/-- A member: a key, a colon and a value. -/
def member (s : Array Char) : Nat → Nat → StateM Attempts (Option ((List Piece × Node) × Nat))
  | 0, _ => pure none
  | fuel + 1, i => do
    let key ← match ← identifier s i with
      | some r => pure (some r)
      | none => string s i
    match key with
    | none => return none
    | some (k, j) =>
      let j := skip s j
      if s[j]? != some ':' then return none
      match ← value s fuel (skip s (j + 1)) with
      | some (v, m) => return some ((k, v), m)
      | none => return none

/-- Further members, each after a comma, as long as they read. -/
def moreMembers (s : Array Char) : Nat → Nat → List (List Piece × Node) →
    StateM Attempts (List (List Piece × Node) × Nat)
  | 0, i, acc => pure (acc.reverse, i)
  | fuel + 1, i, acc => do
    let j := skip s i
    if s[j]? != some ',' then return (acc.reverse, i)
    match ← member s fuel (skip s (j + 1)) with
    | some (m, k) => moreMembers s fuel k (m :: acc)
    | none => return (acc.reverse, i)

/-- `array`: values between brackets. -/
def array (s : Array Char) : Nat → Nat → StateM Attempts (Option (Node × Nat))
  | 0, _ => pure none
  | fuel + 1, i =>
    rule .array i do
      if s[i]? != some '[' then return none
      let j := skip s (i + 1)
      if s[j]? == some ']' then return some (.array [], j + 1)
      match ← value s fuel j with
      | none => return none
      | some (v, k) =>
        let (vs, k) ← moreItems s fuel k [v]
        let k := skip s k
        let k := if s[k]? == some ',' then skip s (k + 1) else k
        if s[k]? == some ']' then return some (.array vs, k + 1) else return none

/-- Further items, each after a comma, as long as they read. -/
def moreItems (s : Array Char) : Nat → Nat → List Node → StateM Attempts (List Node × Nat)
  | 0, i, acc => pure (acc.reverse, i)
  | fuel + 1, i, acc => do
    let j := skip s i
    if s[j]? != some ',' then return (acc.reverse, i)
    match ← value s fuel (skip s (j + 1)) with
    | some (v, k) => moreItems s fuel k (v :: acc)
    | none => return (acc.reverse, i)

end

/-! ## Documents and reports -/

/-- The line and column of a position, both counted from one; a carriage return before a line
feed does not count as a column. -/
def lineCol (before : List Char) (line col : Nat) : Nat × Nat :=
  match before with
  | [] => (line, col)
  | '\r' :: '\n' :: rest => lineCol rest (line + 1) 1
  | '\n' :: rest => lineCol rest (line + 1) 1
  | _ :: rest => lineCol rest line (col + 1)

/-- The line a position stands in, with its line feed, made fit for a report: when the position
is at a line break, carriage returns and line feeds are shown as symbols, and otherwise they
are dropped. -/
def reportLine (s : Array Char) (pos : Nat) : String :=
  let cs := s.toList
  let start := match ((cs.take pos).zipIdx.filter (·.1 == '\n')).getLast? with
    | some (_, k) => k + 1
    | none => 0
  let stop := match (cs.drop pos).findIdx? (· == '\n') with
    | some k => pos + k + 1
    | none => cs.length
  let raw := (cs.drop start).take (stop - start)
  if s[pos]? == some '\n' || s[pos]? == some '\r' then
    String.ofList (raw.flatMap fun c =>
      if c == '\r' then ['\u240D'] else if c == '\n' then ['\u240A'] else [c])
  else String.ofList (raw.filter fun c => c != '\r' && c != '\n')

/-- Inserts a rule into a list sorted by rank, once. -/
def insertRule (r : Rule) : List Rule → List Rule
  | [] => [r]
  | x :: rest =>
    if r.rank < x.rank then r :: x :: rest
    else if r.rank == x.rank then x :: rest
    else x :: insertRule r rest

/-- What a report says was expected. -/
def expectation (rules : List Rule) : String :=
  let names := (rules.foldl (fun acc r => insertRule r acc) []).map Rule.name
  match names with
  | [] => "unknown parsing error"
  | [a] => "expected " ++ a
  | [a, b] => "expected " ++ a ++ " or " ++ b
  | _ => "expected " ++ ", ".intercalate names.dropLast ++ ", or " ++ names.getLastD ""

/-- The report of a failure at a position. -/
def report (s : Array Char) (t : Attempts) : String :=
  let (line, col) := lineCol (s.toList.take t.pos) 1 1
  let ls := toString line
  let pad := String.ofList (List.replicate ls.length ' ')
  let text := reportLine s t.pos
  let underline := String.ofList ((text.toList.take (col - 1)).map fun c => if c == '\t' then '\t' else ' ')
    ++ "^---"
  pad ++ "--> " ++ ls ++ ":" ++ toString col ++ "\n" ++ pad ++ " |\n" ++ ls ++ " | " ++ text ++ "\n" ++
    pad ++ " | " ++ underline ++ "\n" ++ pad ++ " |\n" ++ pad ++ " = " ++ expectation t.rules

/-- The document: one value with white space and comments around it, and nothing after. -/
def document (s : Array Char) : StateM Attempts (Option (Node × Nat)) := do
  match ← value s (4 * s.size + 8) (skip s 0) with
  | none => return none
  | some (v, j) =>
    let k := skip s j
    match ← rule .eoi k (pure (if k == s.size then some ((), k) else none)) with
    | some _ => return some (v, k)
    | none => return none

/-- Reads a document, or reports where and why it does not match. -/
def parse (text : String) : Except String Node :=
  let s := text.toList.toArray
  match (document s).run {} with
  | (some (v, _), _) => .ok v
  | (none, t) => .error (report s t)

end StateMetrics.Json5
