import StateMetrics.Text.Quoted

/-! # INI documents

An INI document is a run of sections, each a list of properties `key = value`; the properties
before the first section header belong to the general section, which always comes first. A
section header `[name]` starts a new section, even when one of that name came before.

The text is read one character at a time:

* white space between items is skipped, line breaks included;
* `;` and `#` start a comment that runs to the end of the line, but only in the first column
  (after blanks, they are refused as inline comments);
* `[` starts a header, whose name runs to the next `]`;
* any other character starts a key, which runs to the next `=` or `:`, across lines if need
  be; the key and the section names are trimmed of white space at both ends;
* `=` or `:` after a key starts its value, which runs to the end of the line. Blanks before it
  are skipped; a value that starts with a double or a single quote runs to the closing quote,
  and whatever follows on the line is added to it. Values are trimmed as well.

Inside keys, names and values a backslash escapes the next character: `\0`, `\a`, `\b`, `\t`,
`\r` and `\n` stand for their controls, a backslash before a line break joins the lines,
`\x` followed by four hexadecimal digits is a code point, and any other character stands for
itself.

Errors name the line and the column of the character where reading stopped, both counted from
one: the text ended before a key's `=`, a header's `]` or a closing quote, an escape was bad, or
a value came without a key. -/

namespace StateMetrics.Ini

open Text

/-- A reading position: the characters from the current one on, with the line and the column
of the current one counted from zero, a line feed opening the next line at column zero. -/
structure Cursor where
  rest : List Char
  line : Nat
  col : Nat
  deriving Inhabited

/-- The line and column of the first of some characters, given those of the character before. -/
def advanced (line col : Nat) : List Char → Nat × Nat
  | '\n' :: _ => (line + 1, 0)
  | _ :: _ => (line, col + 1)
  | [] => (line, col)

/-- The position at the start of a text. -/
def Cursor.start (text : List Char) : Cursor :=
  let (line, col) := advanced 0 0 text
  ⟨text, line, col⟩

/-- The current character, none at the end of the text. -/
def Cursor.ch (c : Cursor) : Option Char := c.rest.head?

/-- Moves to the next character. -/
def Cursor.bump (c : Cursor) : Cursor :=
  match c.rest with
  | [] => c
  | _ :: rest =>
    let (line, col) := advanced c.line c.col rest
    ⟨rest, line, col⟩

/-- Why a document does not read, and where. -/
structure ParseError where
  line : Nat
  col : Nat
  message : String
  deriving Repr, Inhabited

/-- The message of an error: line and column, counted from one, then the cause. -/
def ParseError.text (e : ParseError) : String :=
  toString (e.line + 1) ++ ":" ++ toString (e.col + 1) ++ " " ++ e.message

/-- An error at a position. -/
def failAt (c : Cursor) (message : String) : Except ParseError α :=
  .error ⟨c.line, c.col, message⟩

/-- How a list of end markers is named in a message. -/
def showEnds (ends : List (Option Char)) : String :=
  "[" ++ ", ".intercalate (ends.map fun
    | some c => "Some(" ++ quotedChar c ++ ")"
    | none => "None") ++ "]"

/-- The current character, or the error of meeting the end while looking for an end marker. -/
def charOrEnd (ends : List (Option Char)) (c : Cursor) : Except ParseError Char :=
  match c.ch with
  | some ch => .ok ch
  | none => failAt c ("expecting \"" ++ showEnds ends ++ "\" but found EOF.")

/-- The value of a hexadecimal numeral of four characters, which may start with `+`. -/
def hexCode (cs : List Char) : Option Nat :=
  let digit := fun (ch : Char) =>
    if ch.isDigit then some (ch.toNat - '0'.toNat)
    else if 'a' ≤ ch && ch ≤ 'f' then some (ch.toNat - 'a'.toNat + 10)
    else if 'A' ≤ ch && ch ≤ 'F' then some (ch.toNat - 'A'.toNat + 10)
    else none
  let body := match cs with
    | '+' :: more => more
    | _ => cs
  if body.isEmpty then none
  else body.foldlM (fun acc ch => (digit ch).map (acc * 16 + ·)) 0

/-- Reads the four characters of an `\x` escape after the `x`: each is the character after a
move, and a backslash among them must stand before a line feed. -/
def hexEscape (ends : List (Option Char)) : Nat → Cursor → List Char → Except ParseError (Char × Cursor)
  | 0, c, code =>
    match hexCode code.reverse with
    | some n =>
      if n < 0xD800 || (0xDFFF < n && n < 0x110000) then .ok (Char.ofNat n, c)
      else failAt c "unknown character in \\xHH form"
    | none => failAt c "unknown character in \\xHH form"
  | k + 1, c, code => do
    let c := c.bump
    let ch ← charOrEnd ends c
    let c ← if ch == '\\' then
        let c := c.bump
        if c.ch != some '\n' then
          failAt c ("expecting \"\\\\n\" but found \"" ++
            (match c.ch with
              | some d => "Some(" ++ quotedChar d ++ ")"
              | none => "None") ++ "\".")
        else pure c
      else pure c
    hexEscape ends k c (ch :: code)

/-- The character an escape stands for, none for a backslash before a line feed. -/
def escaped (ch : Char) : Option Char :=
  match ch with
  | '0' => some '\x00'
  | 'a' => some '\x07'
  | 'b' => some '\x08'
  | 't' => some '\t'
  | 'r' => some '\r'
  | 'n' => some '\n'
  | '\n' => none
  | other => some other

/-- Reads text up to one of the end markers (`none` standing for the end of the text), which
is not consumed, handling escapes; `fuel` bounds the characters read. -/
def readUntil (ends : List (Option Char)) : Nat → Cursor → List Char →
    Except ParseError (String × Cursor)
  | 0, c, acc => .ok (String.ofList acc.reverse, c)
  | fuel + 1, c, acc =>
    if ends.contains c.ch then .ok (String.ofList acc.reverse, c)
    else do
      let ch ← charOrEnd ends c
      if ch == '\\' then
        let c := c.bump
        let e ← charOrEnd ends c
        if e == 'x' then
          let (code, c) ← hexEscape ends 4 c []
          readUntil ends fuel c.bump (code :: acc)
        else
          match escaped e with
          | some d => readUntil ends fuel c.bump (d :: acc)
          | none => readUntil ends fuel c.bump acc
      else readUntil ends fuel c.bump (ch :: acc)

/-- The end markers of a value's line. -/
def lineEnds : List (Option Char) := [some '\n', some '\r', none]

/-- Skips white space, line breaks included. -/
def skipBlank : Nat → Cursor → Cursor
  | 0, c => c
  | fuel + 1, c =>
    match c.ch with
    | some ch => if Unicode.isWhitespace ch then skipBlank fuel c.bump else c
    | none => c

/-- Skips blanks and tabs, but no line break. -/
def skipInline : Nat → Cursor → Cursor
  | 0, c => c
  | fuel + 1, c =>
    match c.ch with
    | some ch =>
      if ch == '\t' || (ch != '\n' && ch != '\r' && Unicode.isWhitespace ch) then skipInline fuel c.bump
      else c
    | none => c

/-- Skips a comment up to and with its line feed. -/
def skipComment : Nat → Cursor → Cursor
  | 0, c => c
  | fuel + 1, c =>
    match c.ch with
    | some ch => if ch == '\n' then c.bump else skipComment fuel c.bump
    | none => c

/-- Reads a value after its `=` or `:`. -/
def readValue (fuel : Nat) (c : Cursor) : Except ParseError (String × Cursor) := do
  let c := skipInline fuel c.bump
  match c.ch with
  | none => pure ("", c)
  | some q =>
    if q == '"' || q == '\'' then
      let (quotedPart, c) ← readUntil [some q] fuel c.bump []
      let (tail, c) ← readUntil lineEnds fuel c.bump []
      pure (quotedPart ++ tail, c)
    else readUntil lineEnds fuel c []

/-- Text without white space at both ends. -/
def trimmed (s : String) : String :=
  String.ofList ((s.toList.dropWhile Unicode.isWhitespace).reverse.dropWhile
    Unicode.isWhitespace).reverse

/-- A section: its name (none for the general section) and its properties in order. -/
abbrev Section := Option String × List (String × String)

/-- A document: its sections in order, the general section first. -/
abbrev Document := List Section

/-- Adds a property to the last section. -/
def addProperty (doc : Document) (key value : String) : Document :=
  match doc.reverse with
  | [] => [(none, [(key, value)])]
  | (name, props) :: before => (before.reverse) ++ [(name, props ++ [(key, value)])]

/-- Reads the items of a document from a position, given the key waiting for its value and the
sections so far; `fuel` bounds the items. -/
def readItems (budget : Nat) : Nat → Cursor → String → Document → Except ParseError Document
  | 0, _, _, doc => .ok doc
  | fuel + 1, c, key, doc => do
    let c := skipBlank budget c
    match c.ch with
    | none => pure doc
    | some ch =>
      if ch == ';' || ch == '#' then
        if c.col > 1 then failAt c "doesn't support inline comment"
        else readItems budget fuel (skipComment budget c) key doc
      else if ch == '[' then
        let (name, c) ← readUntil [some ']'] budget c.bump []
        readItems budget fuel c.bump key (doc ++ [(some (trimmed name), [])])
      else if ch == '=' || ch == ':' then
        if key.isEmpty then failAt c "missing key"
        else
          let (value, c) ← readValue budget c
          readItems budget fuel c "" (addProperty doc key (trimmed value))
      else
        let (k, c) ← readUntil [some '=', some ':'] budget c []
        readItems budget fuel c (trimmed k) doc

/-- Reads a document. Every item takes at least one character, so there are no more items than
characters. -/
def parse (text : String) : Except ParseError Document :=
  let cs := text.toList
  readItems (cs.length + 1) (cs.length + 1) (Cursor.start cs) "" [(none, [])]

end StateMetrics.Ini
