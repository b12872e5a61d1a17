import StateMetrics.Ron.Value
import StateMetrics.Decimal.Text
import StateMetrics.Text.Quoted
import StateMetrics.Text.Utf8

/-! # Reading RON

A RON document is read byte by byte, as the text of one value with white space and comments
(`// line` and nestable `/* block */`) around and between its parts. Before the value, `#![enable(...)]`
attributes may name extensions; of those, `implicit_some` lets a value after `Some` stand
without parentheses.

A value is, by the first thing that matches:

* the words `true`, `false`, `None`, `inf`, `-inf` and `NaN`, the unit `()`, or `Some` and a
  value in parentheses;
* an identifier, which names a struct when parentheses follow it and is a unit otherwise;
* parentheses holding `name: value` fields, read as a map, or else values, read as a sequence;
* `[` values `]`, a sequence, and `{` `key: value` entries `}`, a map whose keys are
  values;
* a number: an optional sign and digits (with a `0x`, `0b` or `0o` prefix for other bases, and
  `_` between digits), or a float when more of it reads as a float than as an integer. An
  integer that does not fit is read as a float instead; an unsigned integer beyond the range of
  signed 64 bits is a float as well;
* a string in double quotes with escapes, a raw string `r#"..."#`, or a character in single
  quotes.

Items of sequences and maps are separated by commas, and a comma may end the list. Nesting is
limited: every sequence, map, struct, option and item takes one level of 128.

An error tells its line and column, both counted from one, the column in bytes. It is where
reading stopped, with two exceptions that follow the reader's own bookkeeping: deciding whether
parentheses hold fields looks ahead on a copy, so its errors point at the parenthesis, and a
number that fails to read as an integer is read again as a float from its start while the
position keeps what the integer attempt passed over. -/

namespace StateMetrics.Ron

open Text

/-- Why a RON document does not read. -/
inductive Fault where
  | eof
  | expectedAttribute
  | expectedAttributeEnd
  | expectedComma
  | expectedChar
  | expectedFloat
  | floatUnderscore
  | expectedInteger
  | expectedOption
  | expectedOptionEnd
  | expectedMapColon
  | expectedString
  | expectedStringEnd
  | expectedIdentifier
  | invalidEscape (what : String)
  | integerOutOfBounds
  | noSuchExtension (name : String)
  | notUtf8 (f : Utf8.Fault)
  | unclosedBlockComment
  | underscoreAtBeginning
  | unexpectedByte (b : Nat)
  | trailingCharacters
  | exceededRecursionLimit
  deriving Repr, Inhabited

/-- Whether a character may start an identifier. -/
def isIdentFirst (ch : Char) : Bool :=
  ('a' ≤ ch && ch ≤ 'z') || ('A' ≤ ch && ch ≤ 'Z') || ch == '_'

/-- Whether a character may go on an identifier. -/
def isIdentChar (ch : Char) : Bool := isIdentFirst ch || ch.isDigit

/-- Whether a character may stand in a raw identifier `r#name`. -/
def isIdentRawChar (ch : Char) : Bool := isIdentChar ch || ch == '.' || ch == '+' || ch == '-'

/-- How an identifier is shown in a message. -/
def identifierText (name : String) : String :=
  match name.toList with
  | [] => quoted name ++ "_[invalid identifier]"
  | first :: more =>
    if !(first :: more).all isIdentRawChar then quoted name ++ "_[invalid identifier]"
    else if isIdentFirst first && more.all isIdentChar then "`" ++ name ++ "`"
    else "`r#" ++ name ++ "`"

/-- The message of a fault. -/
def Fault.message : Fault → String
  | .eof => "Unexpected end of RON"
  | .expectedAttribute => "Expected an `#![enable(...)]` attribute"
  | .expectedAttributeEnd => "Expected closing `)]` after the enable attribute"
  | .expectedComma => "Expected comma"
  | .expectedChar => "Expected char"
  | .expectedFloat => "Expected float"
  | .floatUnderscore => "Unexpected underscore in float"
  | .expectedInteger => "Expected integer"
  | .expectedOption => "Expected option"
  | .expectedOptionEnd => "Expected closing `)`"
  | .expectedMapColon => "Expected colon"
  | .expectedString => "Expected string"
  | .expectedStringEnd => "Expected end of string"
  | .expectedIdentifier => "Expected identifier"
  | .invalidEscape what => what
  | .integerOutOfBounds => "Integer is out of bounds"
  | .noSuchExtension name => "No RON extension named " ++ identifierText name
  | .notUtf8 f => f.message
  | .unclosedBlockComment => "Unclosed block comment"
  | .underscoreAtBeginning => "Unexpected leading underscore in an integer"
  | .unexpectedByte b => "Unexpected byte " ++ quotedChar (Char.ofNat b)
  | .trailingCharacters => "Non-whitespace trailing characters"
  | .exceededRecursionLimit =>
    "Exceeded recursion limit, try increasing `ron::Options::recursion_limit` and using " ++
      "`serde_stacker` to protect against a stack overflow"

/-- A reading position: the characters from the current one on, and its line and its column
in bytes, both counted from one. -/
structure Cursor where
  rest : List Char
  line : Nat
  col : Nat
  deriving Inhabited

/-- Where a document fails, and why. -/
structure ReadError where
  fault : Fault
  line : Nat
  col : Nat
  deriving Repr, Inhabited

/-- The message of an error: line and column, then the fault. -/
def ReadError.text (e : ReadError) : String :=
  toString e.line ++ ":" ++ toString e.col ++ ": " ++ e.fault.message

namespace Cursor

/-- The position at the start of a text. -/
def start (text : String) : Cursor := ⟨text.toList, 1, 1⟩

/-- Moves past the current character. -/
def step (c : Cursor) : Cursor :=
  match c.rest with
  | [] => c
  | ch :: r => if ch == '\n' then ⟨r, c.line + 1, 1⟩ else ⟨r, c.line, c.col + ch.utf8Size⟩

/-- Moves past some characters. -/
def advance : Nat → Cursor → Cursor
  | 0, c => c
  | n + 1, c => advance n c.step

/-- The position an error reports after the first byte of the current character was taken. -/
def afterByte (c : Cursor) : Cursor :=
  match c.rest with
  | [] => c
  | ch :: r => if ch == '\n' then ⟨r, c.line + 1, 1⟩ else ⟨r, c.line, c.col + 1⟩

/-- Fails here. -/
def fail (c : Cursor) (f : Fault) : Except ReadError α := .error ⟨f, c.line, c.col⟩

/-- Whether the text goes on with a word. -/
def startsWith (c : Cursor) (s : String) : Bool := s.toList.isPrefixOf c.rest

/-- Whether the text goes on with a word that no identifier character follows. -/
def checkIdent (c : Cursor) (word : String) : Bool :=
  c.startsWith word && !((c.rest.drop word.length).head?.any isIdentChar)

end Cursor

/-- The first byte of a character's UTF-8 form. -/
def firstByte (ch : Char) : Nat :=
  let n := ch.toNat
  if n < 0x80 then n
  else if n < 0x800 then 0xC0 + n / 64
  else if n < 0x10000 then 0xE0 + n / 4096
  else 0xF0 + n / 262144

/-- Whether a character is white space between tokens. -/
def isWhite (ch : Char) : Bool := ch == ' ' || ch == '\t' || ch == '\n' || ch == '\r'

/-- Skips the body of block comments, `level` deep, after an opening; `fuel` bounds the steps,
each of which takes a character. -/
def blockComment : Nat → Nat → Cursor → Except ReadError Cursor
  | 0, _, c => c.fail .unclosedBlockComment
  | fuel + 1, level, c =>
    if c.rest.isEmpty then c.fail .unclosedBlockComment
    else
      let c := c.advance (c.rest.takeWhile fun ch => ch != '/' && ch != '*').length
      if c.startsWith "/*" then blockComment fuel (level + 1) (c.advance 2)
      else if c.startsWith "*/" then
        if level ≤ 1 then .ok (c.advance 2) else blockComment fuel (level - 1) (c.advance 2)
      else if c.rest.isEmpty then c.fail .unclosedBlockComment
      else blockComment fuel level c.step

/-- Skips white space and comments; `fuel` bounds the steps, each of which takes a character. -/
def skipBlank : Nat → Cursor → Except ReadError Cursor
  | 0, c => .ok c
  | fuel + 1, c =>
    match c.rest with
    | [] => .ok c
    | ch :: more =>
      if isWhite ch then skipBlank fuel c.step
      else if ch == '/' then
        let c1 := c.step
        match more with
        | [] => c1.fail .eof
        | '/' :: _ => skipBlank fuel (c1.advance (more.takeWhile (· != '\n')).length)
        | '*' :: _ =>
          match blockComment (more.length + 1) 1 c1.step with
          | .ok c2 => skipBlank fuel c2
          | .error e => .error e
        | d :: _ => c1.afterByte.fail (.unexpectedByte (firstByte d))
      else .ok c

/-- Skips white space and comments. -/
def Cursor.skipWs (c : Cursor) : Except ReadError Cursor := skipBlank (c.rest.length + 1) c

/-- Reads an identifier, or a raw identifier `r#name` without its prefix. -/
def identifier (c : Cursor) : Except ReadError (String × Cursor) :=
  match c.rest with
  | [] => c.fail .eof
  | ch :: more =>
    if !isIdentFirst ch then c.fail .expectedIdentifier
    else if ch == 'r' then
      match more with
      | [] => c.fail .eof
      | '"' :: _ => c.fail .expectedIdentifier
      | '#' :: body =>
        match body.head? with
        | some d =>
          if isIdentRawChar d then
            let name := body.takeWhile isIdentRawChar
            .ok (String.ofList name, c.advance (2 + name.length))
          else c.fail .expectedIdentifier
        | none => c.fail .expectedIdentifier
      | _ =>
        let name := c.rest.takeWhile isIdentChar
        .ok (String.ofList name, c.advance name.length)
    else
      let name := c.rest.takeWhile isIdentChar
      .ok (String.ofList name, c.advance name.length)

/-- Reads an optional comma with the blanks around it; tells whether there was one. -/
def comma (c : Cursor) : Except ReadError (Bool × Cursor) := do
  let c ← c.skipWs
  if c.startsWith "," then
    let d ← c.step.skipWs
    pure (true, d)
  else pure (false, c)

/-! ## Numbers -/

/-- Whether a character belongs to the run of an integer. -/
def isIntChar (ch : Char) : Bool :=
  ch.isDigit || ('a' ≤ ch && ch ≤ 'f') || ('A' ≤ ch && ch ≤ 'F') || ch == '_'

/-- Whether a character belongs to the run of a float. -/
def isFloatChar (ch : Char) : Bool :=
  ch.isDigit || ch == '.' || ch == '+' || ch == '-' || ch == 'e' || ch == 'E' || ch == '_'

/-- The value of a hexadecimal digit. -/
def hexValue? (ch : Char) : Option Nat :=
  if ch.isDigit then some (ch.toNat - '0'.toNat)
  else if 'a' ≤ ch && ch ≤ 'f' then some (ch.toNat - 'a'.toNat + 10)
  else if 'A' ≤ ch && ch ≤ 'F' then some (ch.toNat - 'A'.toNat + 10)
  else none

/-- The bounds of signed and unsigned 64-bit integers. -/
def i64Low : Int := -((Nat.pow 2 63 : Nat) : Int)
def i64High : Int := ((Nat.pow 2 63 : Nat) : Int) - 1
def u64High : Int := ((Nat.pow 2 64 : Nat) : Int) - 1

/-- Accumulates the digits of an integer in a base, counting down for a negative one, within
bounds; underscores are skipped. -/
def digitsValue (base : Nat) (negative : Bool) (lo hi : Int) : Int → List Char → Except Fault Int
  | acc, [] => .ok acc
  | acc, ch :: rest =>
    if ch == '_' then digitsValue base negative lo hi acc rest
    else
      let scaled := acc * base
      if scaled < lo || hi < scaled then .error .integerOutOfBounds
      else
        match hexValue? ch with
        | none => .error (.invalidEscape "Non-hex digit found")
        | some d =>
          if base ≤ d then .error .expectedInteger
          else
            let next := if negative then scaled - d else scaled + d
            if next < lo || hi < next then .error .integerOutOfBounds
            else digitsValue base negative lo hi next rest

/-- Reads the digits of an integer after its sign, with a base prefix. The digits are passed
over even when their value fails. -/
def anyInteger (negative : Bool) (lo hi : Int) (c : Cursor) : Except ReadError (Int × Cursor) :=
  let (base, c) := match c.rest with
    | '0' :: 'x' :: _ => (16, c.advance 2)
    | '0' :: 'b' :: _ => (2, c.advance 2)
    | '0' :: 'o' :: _ => (8, c.advance 2)
    | _ => (10, c)
  let digits := c.rest.takeWhile isIntChar
  if digits.isEmpty then c.fail .expectedInteger
  else if digits.head? == some '_' then c.fail .underscoreAtBeginning
  else
    let c' := c.advance digits.length
    match digitsValue base negative lo hi 0 digits with
    | .ok v => .ok (v, c')
    | .error f => c'.fail f

/-- Reads an integer with an optional sign within the signed 64-bit range. -/
def signedInteger (c : Cursor) : Except ReadError (Int × Cursor) :=
  match c.rest with
  | '+' :: _ => anyInteger false i64Low i64High c.step
  | '-' :: _ => anyInteger true i64Low i64High c.step
  | _ => anyInteger false i64Low i64High c

/-- The words that read as floats. -/
def floatWords : List (String × Float) :=
  let inf := Numeral.toFloat (.infinite false)
  [("inf", inf), ("+inf", inf), ("-inf", Numeral.toFloat (.infinite true)), ("NaN", Numeral.toFloat .nan),
    ("+NaN", Numeral.toFloat .nan), ("-NaN", Numeral.toFloat .nan)]

/-- Reads a float: one of the words, or the run of float characters as a numeral. -/
def readFloat (c : Cursor) : Except ReadError (Float × Cursor) :=
  match floatWords.find? (fun (w, _) => c.checkIdent w) with
  | some (w, f) => .ok (f, c.advance w.length)
  | none =>
    let s := c.rest.takeWhile isFloatChar
    match s.findIdx? (· == '_') with
    | some k => (c.advance k).fail .floatUnderscore
    | none =>
      let c' := c.advance s.length
      match parseFloat? (String.ofList s) with
      | some f => .ok (f, c')
      | none => c'.fail .expectedFloat

/-- Whether more of the text reads as a float than as an integer, after an optional sign. -/
def nextIsFloat (c : Cursor) : Bool :=
  let body := match c.rest with
    | '+' :: r | '-' :: r => r
    | r => r
  (body.takeWhile isIntChar).length < (body.takeWhile isFloatChar).length

/-- Reads a number: a float, or an integer, or a float again when the integer fails. An
unsigned integer beyond the signed range is a float. -/
def anyNum (c : Cursor) : Except ReadError (Value × Cursor) :=
  let asFloat := fun (d : Cursor) => (readFloat d).map fun (f, d) => (Value.float f, d)
  if nextIsFloat c then asFloat c
  else if c.rest.head? == some '+' || c.rest.head? == some '-' then
    match signedInteger c with
    | .ok (i, d) => .ok (.integer i, d)
    | .error e => asFloat { c with line := e.line, col := e.col }
  else
    match anyInteger false 0 u64High c with
    | .ok (n, d) => .ok (if n ≤ i64High then .integer n else .float (floatOfInt n), d)
    | .error e => asFloat { c with line := e.line, col := e.col }

/-! ## Strings and characters -/

/-- What an escape stands for: one byte, from `\x`, or a character. -/
inductive Escape where
  | byte (b : UInt8)
  | char (c : Char)

/-- The bytes an escape adds to a string. -/
def Escape.bytes : Escape → List UInt8
  | .byte b => [b]
  | .char c => Utf8.bytesOf (String.singleton c)

/-- Reads the two hexadecimal digits of an `\x` escape. -/
def hexByte (c : Cursor) : Except ReadError (UInt8 × Cursor) :=
  match c.rest with
  | [] => c.fail .eof
  | a :: _ =>
    match hexValue? a with
    | none => c.afterByte.fail (.invalidEscape "Non-hex digit found")
    | some x =>
      let c := c.step
      match c.rest with
      | [] => c.fail .eof
      | b :: _ =>
        match hexValue? b with
        | none => c.afterByte.fail (.invalidEscape "Non-hex digit found")
        | some y => .ok ((x * 16 + y).toUInt8, c.step)

/-- Reads up to `k` more hexadecimal digits of a `\u` escape, stopping at a closing brace;
returns the value and the number of digits. -/
def unicodeDigits : Nat → Nat → Nat → Cursor → Except ReadError ((Nat × Nat) × Cursor)
  | 0, v, n, c => .ok ((v, n), c)
  | k + 1, v, n, c =>
    match c.rest with
    | [] => c.fail .eof
    | ch :: _ =>
      if ch == '\x7d' then .ok ((v, n), c)
      else
        match hexValue? ch with
        | none => c.afterByte.fail (.invalidEscape "Non-hex digit found")
        | some d => unicodeDigits k (v * 16 + d) (n + 1) c.step

/-- Reads an escape after its backslash. -/
def escape (c : Cursor) : Except ReadError (Escape × Cursor) :=
  match c.rest with
  | [] => c.fail .eof
  | ch :: _ =>
    let c1 := c.step
    match ch with
    | '\'' => .ok (.byte 0x27, c1)
    | '"' => .ok (.byte 0x22, c1)
    | '\\' => .ok (.byte 0x5C, c1)
    | 'n' => .ok (.byte 10, c1)
    | 'r' => .ok (.byte 13, c1)
    | 't' => .ok (.byte 9, c1)
    | '0' => .ok (.byte 0, c1)
    | 'x' => (hexByte c1).map fun (b, d) => (.byte b, d)
    | 'u' =>
      match c1.rest with
      | [] => c1.fail .eof
      | '\x7b' :: _ => do
        let ((v, n), c3) ← unicodeDigits 6 0 0 c1.step
        if n == 0 then
          c3.fail (.invalidEscape "Expected 1-6 digits, got 0 digits in Unicode escape")
        else
          match c3.rest with
          | [] => c3.fail .eof
          | '\x7d' :: _ =>
            let c4 := c3.step
            if v < 0xD800 || (0xDFFF < v && v < 0x110000) then pure (.char (Char.ofNat v), c4)
            else c4.fail (.invalidEscape "Not a valid char")
          | _ => c3.afterByte.fail (.invalidEscape "No \x7d at the end of Unicode escape")
      | _ => c1.afterByte.fail (.invalidEscape "Missing \x7b in Unicode escape")
    | _ => c.afterByte.fail (.invalidEscape "Unknown escape character")

/-- Reads the body of a string after its opening quote, gathering its bytes; `fuel` bounds the
escapes. -/
def stringBody : Nat → List UInt8 → Cursor → Except ReadError (String × Cursor)
  | 0, _, c => c.fail .expectedStringEnd
  | fuel + 1, acc, c =>
    let plain := c.rest.takeWhile fun ch => ch != '\\' && ch != '"'
    match c.rest.drop plain.length with
    | [] => c.fail .expectedStringEnd
    | ch :: _ =>
      let acc := acc ++ Utf8.bytesOf (String.ofList plain)
      let c1 := c.advance (plain.length + 1)
      if ch == '"' then
        match Utf8.decode acc with
        | .ok s => .ok (s, c1)
        | .error f => c1.fail (.notUtf8 f)
      else
        match escape c1 with
        | .ok (e, c2) => stringBody fuel (acc ++ e.bytes) c2
        | .error err => .error err

/-- The index of the first place where a text goes on with `ending`. -/
def findEnding (ending : List Char) : List Char → Option Nat
  | [] => none
  | ch :: rest =>
    if ending.isPrefixOf (ch :: rest) then some 0 else (findEnding ending rest).map (· + 1)

/-- Reads a raw string after its `r`: hashes, a quote, and the text up to a quote followed by
as many hashes. -/
def rawString (c : Cursor) : Except ReadError (String × Cursor) :=
  let hashes := (c.rest.takeWhile (· == '#')).length
  let c1 := c.advance hashes
  match c1.rest with
  | '"' :: body =>
    let c2 := c1.step
    match findEnding ('"' :: List.replicate hashes '#') body with
    | some i => .ok (String.ofList (body.take i), c2.advance (i + hashes + 1))
    | none => c2.fail .expectedStringEnd
  | _ => c1.fail .expectedString

/-- Reads a string in double quotes or a raw string. -/
def readString (c : Cursor) : Except ReadError (String × Cursor) :=
  match c.rest with
  | '"' :: _ => stringBody (c.rest.length + 1) [] c.step
  | 'r' :: _ => rawString c.step
  | _ => c.fail .expectedString

/-- The number of characters before a single quote that starts within the first five bytes,
`offset` bytes being passed already. -/
def quoteWithin (offset k : Nat) : List Char → Option Nat
  | [] => none
  | ch :: rest =>
    if 5 ≤ offset then none
    else if ch == '\'' then some k
    else quoteWithin (offset + ch.utf8Size) (k + 1) rest

/-- Reads the closing quote of a character. -/
def closeQuote (ch : Char) (c : Cursor) : Except ReadError (Char × Cursor) :=
  match c.rest with
  | '\'' :: _ => .ok (ch, c.step)
  | _ => c.fail .expectedChar

/-- Reads a character in single quotes: one character, or an escape (a byte escape standing
for the character of its value). -/
def readChar (c : Cursor) : Except ReadError (Char × Cursor) :=
  match c.rest with
  | '\'' :: _ =>
    let c1 := c.step
    match c1.rest with
    | [] => c1.fail .eof
    | '\\' :: _ =>
      match escape c1.step with
      | .ok (.byte b, c2) => closeQuote (Char.ofNat b.toNat) c2
      | .ok (.char d, c2) => closeQuote d c2
      | .error e => .error e
    | ch :: _ =>
      match quoteWithin 0 0 c1.rest with
      | some 1 => closeQuote ch c1.step
      | _ => c1.fail .expectedChar
  | _ => c.fail .expectedChar

/-! ## Values -/

/-- Whether parentheses hold a tuple rather than fields: they do unless an identifier and a
colon come first. Reads ahead from after the parenthesis. -/
def isTuple (c : Cursor) : Except ReadError Bool := do
  let c ← c.skipWs
  match identifier c with
  | .error _ => pure true
  | .ok (_, d) =>
    let d ← d.skipWs
    match d.rest with
    | [] => d.fail .eof
    | ch :: _ => pure (ch != ':')

mutual

/-- Reads a value; `imp` tells whether `Some` may stand without parentheses, `fuel` bounds the
calls and `limit` the nesting levels left. -/
def value (imp : Bool) : Nat → Nat → Cursor → Except ReadError (Value × Cursor)
  | 0, _, c => c.fail .eof
  | fuel + 1, limit, c =>
    if c.checkIdent "true" then .ok (.bool true, c.advance 4)
    else if c.checkIdent "false" then .ok (.bool false, c.advance 5)
    else if c.checkIdent "Some" then option imp fuel limit c
    else if c.checkIdent "None" then .ok (.option none, c.advance 4)
    else if c.startsWith "()" then .ok (.unit, c.advance 2)
    else
      match floatWords.find? (fun (w, _) => (w == "inf" || w == "-inf" || w == "NaN") && c.checkIdent w) with
      | some (w, f) => .ok (.float f, c.advance w.length)
      | none =>
        match identifier c with
        | .ok (_, c1) =>
          match c1.skipWs with
          | .ok c2 => anyStruct imp fuel limit c2
          | .error e => .error e
        | .error _ =>
          match c.rest with
          | [] => c.fail .eof
          | ch :: _ =>
            if ch == '(' then anyStruct imp fuel limit c
            else if ch == '[' then
              match limit with
              | 0 => c.step.fail .exceededRecursionLimit
              | l + 1 =>
                match items imp fuel l ']' true [] c.step with
                | .ok (xs, d) => .ok (.seq xs, d.step)
                | .error e => .error e
            else if ch == '\x7b' then
              match limit with
              | 0 => c.step.fail .exceededRecursionLimit
              | l + 1 =>
                match entries imp fuel l '\x7d' false true [] c.step with
                | .ok (es, d) => .ok (.map es, d.step)
                | .error e => .error e
            else if ch.isDigit || ch == '+' || ch == '-' then anyNum c
            else if ch == '.' then (readFloat c).map fun (f, d) => (.float f, d)
            else if ch == '"' || ch == 'r' then (readString c).map fun (s, d) => (.string s, d)
            else if ch == '\'' then (readChar c).map fun (x, d) => (.char x, d)
            else c.fail (.unexpectedByte (firstByte ch))

/-- Reads `Some` and its value, in parentheses or, with `imp`, without. -/
def option (imp : Bool) : Nat → Nat → Cursor → Except ReadError (Value × Cursor)
  | 0, _, c => c.fail .eof
  | fuel + 1, limit, c => do
    let c1 ← (c.advance 4).skipWs
    if c1.startsWith "(" then
      let c2 ← c1.step.skipWs
      match limit with
      | 0 => c2.fail .exceededRecursionLimit
      | l + 1 =>
        let (v, c3) ← value imp fuel l c2
        let (_, c4) ← comma c3
        if c4.startsWith ")" then pure (.option (some v), c4.step) else c4.fail .expectedOptionEnd
    else if imp then
      match limit with
      | 0 => c1.fail .exceededRecursionLimit
      | l + 1 =>
        let (v, c2) ← value imp fuel l c1
        pure (.option (some v), c2)
    else c1.fail .expectedOption

/-- Reads what may follow an identifier: parentheses holding fields (a map) or a tuple (a
sequence), or nothing (a unit). -/
def anyStruct (imp : Bool) : Nat → Nat → Cursor → Except ReadError (Value × Cursor)
  | 0, _, c => c.fail .eof
  | fuel + 1, limit, c =>
    if c.startsWith "(" then
      match isTuple c.step with
      | .error e => c.fail e.fault
      | .ok tuple =>
        match limit with
        | 0 => c.step.fail .exceededRecursionLimit
        | l + 1 =>
          if tuple then
            match items imp fuel l ')' true [] c.step with
            | .ok (xs, d) => .ok (.seq xs, d.step)
            | .error e => .error e
          else
            match entries imp fuel l ')' true true [] c.step with
            | .ok (es, d) => .ok (.map es, d.step)
            | .error e => .error e
    else .ok (.unit, c)

/-- Reads the items of a sequence up to its closing character, which is not taken. -/
def items (imp : Bool) : Nat → Nat → Char → Bool → List Value → Cursor →
    Except ReadError (List Value × Cursor)
  | 0, _, _, _, _, c => c.fail .eof
  | fuel + 1, limit, close, hadComma, acc, c => do
    let c ← c.skipWs
    match c.rest with
    | [] => c.fail .eof
    | ch :: _ =>
      if ch == close then pure (acc.reverse, c)
      else if !hadComma then c.fail .expectedComma
      else
        match limit with
        | 0 => c.fail .exceededRecursionLimit
        | l + 1 =>
          let (v, d) ← value imp fuel l c
          let (had, d) ← comma d
          items imp fuel limit close had (v :: acc) d

/-- Reads the entries of a map, or the fields of a struct when `named`, up to the closing
character, which is not taken. -/
def entries (imp : Bool) : Nat → Nat → Char → Bool → Bool → List (Value × Value) → Cursor →
    Except ReadError (List (Value × Value) × Cursor)
  | 0, _, _, _, _, _, c => c.fail .eof
  | fuel + 1, limit, close, named, hadComma, acc, c => do
    let c ← c.skipWs
    match c.rest with
    | [] => c.fail .eof
    | ch :: _ =>
      if ch == close then pure (acc, c)
      else if !hadComma then c.fail .expectedComma
      else
        let (k, d) ← if named then (identifier c).map fun (s, d) => (Value.string s, d)
          else value imp fuel limit c
        let d ← d.skipWs
        if !d.startsWith ":" then d.fail .expectedMapColon
        else
          let d ← d.step.skipWs
          match limit with
          | 0 => d.fail .exceededRecursionLimit
          | l + 1 =>
            let (v, d) ← value imp fuel l d
            let (had, d) ← comma d
            entries imp fuel limit close named had (putEntry k v acc) d

end

/-! ## Documents -/

/-- Takes each of some words in turn where it stands, with the blanks after it, and tells
whether all of them were there. -/
def consumeAll (c : Cursor) : List String → Except ReadError (Bool × Cursor)
  | [] => .ok (true, c)
  | w :: rest =>
    if c.startsWith w then do
      let c ← (c.advance w.length).skipWs
      consumeAll c rest
    else do
      let (_, c) ← consumeAll c rest
      pure (false, c)

/-- The extensions an attribute may name. -/
def knownExtensions : List String := ["unwrap_newtypes", "implicit_some", "unwrap_variant_newtypes"]

/-- Reads the extension names of an attribute, separated by commas. -/
def extensionNames : Nat → List String → Cursor → Except ReadError (List String × Cursor)
  | 0, names, c => .ok (names, c)
  | fuel + 1, names, c => do
    let (name, c) ← identifier c
    if !knownExtensions.contains name then c.fail (.noSuchExtension name)
    else
      let (had, c) ← comma c
      let more := c.rest.head?.any isIdentChar
      if !had && more then c.fail .expectedComma
      else if !had || !more then pure (name :: names, c)
      else extensionNames fuel (name :: names) c

/-- Reads an attribute `#![enable(...)]`. -/
def enableAttribute (c : Cursor) : Except ReadError (List String × Cursor) := do
  let (opened, c) ← consumeAll c ["#", "!", "[", "enable", "("]
  if !opened then c.fail .expectedAttribute
  else
    let c ← c.skipWs
    let (names, c) ← extensionNames (c.rest.length + 1) [] c
    let c ← c.skipWs
    let (closed, c) ← consumeAll c [")", "]"]
    if closed then pure (names, c) else c.fail .expectedAttributeEnd

/-- Reads the attributes before the value; tells whether `implicit_some` was enabled. -/
def attributes : Nat → Bool → Cursor → Except ReadError (Bool × Cursor)
  | 0, imp, c => .ok (imp, c)
  | fuel + 1, imp, c =>
    if c.rest.head? != some '#' then .ok (imp, c)
    else do
      let (names, c) ← enableAttribute c
      let c ← c.skipWs
      attributes fuel (imp || names.contains "implicit_some") c

/-- The nesting levels a document may use. -/
def recursionLimit : Nat := 128

/-- Reads a RON document: attributes, one value, and nothing but blanks after it. -/
def read (text : String) : Except ReadError Value := do
  let c ← (Cursor.start text).skipWs
  let (imp, c) ← attributes (c.rest.length + 1) false c
  let (v, c) ← value imp (2 * c.rest.length + 2) recursionLimit c
  let c ← c.skipWs
  if c.rest.isEmpty then pure v else c.fail .trailingCharacters

end StateMetrics.Ron
