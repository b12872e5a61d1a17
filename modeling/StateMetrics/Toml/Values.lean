import StateMetrics.Toml.Grammar

/-! # TOML: keys and values

The grammar of keys and values. A key is one or more simple keys joined by dots, each bare
(letters, digits, `-`, `_`) or quoted. A value is a string in one of four forms, a boolean, a
number, a date-time, an array, or an inline table; the first character decides which.

Numbers and date-times share their first characters, so a date-time is tried first, then a
float, then an integer, each from the value's start: a rule that fails without committing
hands over to the next, and the last one's failure is the value's. Integers are 64-bit and
signed; a float that reads as positive infinity is refused. A date-time keeps the text it
is shown with: the date, `T` and the time, and the offset, with the fraction of a second
trimmed of trailing zeros.

Arrays and inline tables nest values at most 79 deep. An inline table's keys are set as in a
table, so a key may not repeat and a dotted key may not reach into a value. -/

namespace StateMetrics.Toml

/-- A TOML value. An inline table knows whether a dotted key made it (`implicit` and `dotted`). -/
inductive Value where
  | string (s : String)
  | integer (i : Int)
  | float (f : Float)
  | boolean (b : Bool)
  | datetime (text : String)
  | array (items : List Value)
  | inline (entries : List (String × Value)) (implicit dotted : Bool)
  deriving Repr, Inhabited

/-- The name of a value's type, as messages give it. -/
def Value.typeName : Value → String
  | .string _ => "string"
  | .integer _ => "integer"
  | .float _ => "float"
  | .boolean _ => "boolean"
  | .datetime _ => "datetime"
  | .array _ => "array"
  | .inline .. => "inline table"

/-- Why a key cannot be set where it is written. -/
inductive Conflict where
  /-- A key that is already set, shown as given, with the table it is in when that is known. -/
  | duplicate (key : String) (table : Option (List String))
  /-- A dotted key whose prefix names a value that is not a table. -/
  | extendsValue (path : List String) (actual : String)
  deriving Repr, Inhabited

/-- The message of a conflict. -/
def Conflict.text : Conflict → String
  | .duplicate key none => "duplicate key \x60" ++ key ++ "\x60"
  | .duplicate key (some []) => "duplicate key \x60" ++ key ++ "\x60 in document root"
  | .duplicate key (some table) =>
    "duplicate key \x60" ++ key ++ "\x60 in table \x60" ++ ".".intercalate table ++ "\x60"
  | .extendsValue path actual =>
    "dotted key \x60" ++ ".".intercalate path ++ "\x60 attempted to extend non-table type (" ++
      actual ++ ")"

/-- A key as a header would write it: bare when it can be, otherwise as a basic string. -/
def keyText (key : String) : String :=
  if !key.isEmpty && key.toList.all isKeyChar then key
  else
    let escaped := key.toList.map fun c =>
      match c with
      | '\x08' => "\\b"
      | '\t' => "\\t"
      | '\n' => "\\n"
      | '\x0c' => "\\f"
      | '\r' => "\\r"
      | '"' => "\\\""
      | '\\' => "\\\\"
      | c =>
        if c.toNat ≤ 0x1F || c.toNat == 0x7F then
          let h := (Nat.toDigits 16 c.toNat).map Char.toUpper
          "\\u" ++ String.ofList (List.replicate (4 - h.length) '0' ++ h)
        else c.toString
    "\"" ++ String.join escaped ++ "\""

/-- Replaces the value under a key in an association list, keeping its place. -/
def setEntry {α : Type} (key : String) (v : α) : List (String × α) → List (String × α)
  | [] => []
  | (k, w) :: rest => if k == key then (k, v) :: rest else (k, w) :: setEntry key v rest

/-- Sets a key of an inline table below a dotted path, making the tables the path names. The
table reached must be one the path made (for a dotted path) or the inline table itself (for a
plain key), and must not have the key already. `full` is the whole path, for messages. -/
def placeInline (full : List String) (key : String) (v : Value) :
    List String → List (String × Value) → Bool → Except Conflict (List (String × Value))
  | [], entries, dotted =>
    if dotted == full.isEmpty then .error (.duplicate key none)
    else if entries.any (·.1 == key) then .error (.duplicate key none)
    else .ok (entries ++ [(key, v)])
  | k :: rest, entries, _ =>
    let reached := full.take (full.length - rest.length)
    match entries.lookup k with
    | none => do
      let sub ← placeInline full key v rest [] true
      .ok (entries ++ [(k, .inline sub true true)])
    | some (.inline sub implicit dotted) =>
      if !implicit then .error (.duplicate k none)
      else do
        let sub ← placeInline full key v rest sub dotted
        .ok (setEntry k (.inline sub implicit dotted) entries)
    | some other => .error (.extendsValue reached other.typeName)

/-- The entries of an inline table from its key and value pairs, in order. -/
def inlineEntries (pairs : List (List String × Value)) : Except Conflict (List (String × Value)) :=
  pairs.foldlM (fun entries (path, v) =>
    placeInline path.dropLast (path.getLast?.getD "") v path.dropLast entries false) []

/-! ## Strings -/

/-- A character given by hexadecimal digits after `u` or `U`: exactly `n` of them, naming a
Unicode scalar value. -/
def hexEscape (src : Array Char) (pos n : Nat) (label : String) : Except Failure (Char × Nat) :=
  let run := skipWhile src isHexChar pos - pos
  if run < n then .error (.stop pos [.label label])
  else
    let v := digitsValue 16 (slice src pos (pos + n))
    if v < 0xD800 || (0xDFFF < v && v < 0x110000) then .ok (Char.ofNat v, pos + n)
    else .error { Failure.stop pos [.label label] with cause := some "value is out of range" }

/-- The character an escape sequence stands for; `pos` is just after the backslash. -/
def escapeSeq (src : Array Char) (pos : Nat) : Except Failure (Char × Nat) :=
  let simple := fun (ch : Char) => Except.ok (ch, pos + 1)
  match src[pos]? with
  | none => .error (.miss pos)
  | some 'b' => simple '\x08'
  | some 'f' => simple '\x0c'
  | some 'n' => simple '\n'
  | some 'r' => simple '\r'
  | some 't' => simple '\t'
  | some '\\' => simple '\\'
  | some '"' => simple '"'
  | some 'u' => hexEscape src (pos + 1) 4 "unicode 4-digit hex code"
  | some 'U' => hexEscape src (pos + 1) 8 "unicode 8-digit hex code"
  | some _ =>
    .error (.stop (pos + 1) (.label "escape sequence" :: "bfnrtuU\\\"".toList.map expectChar))

/-- The characters of a basic string up to where they stop. -/
def basicBody (src : Array Char) : Nat → Nat → String → Except Failure (String × Nat)
  | 0, p, acc => .ok (acc, p)
  | fuel + 1, p, acc =>
    match src[p]? with
    | some c =>
      if isBasicChar c then basicBody src fuel (p + 1) (acc.push c)
      else if c == '\\' then
        match escapeSeq src (p + 1) with
        | .ok (ch, q) => basicBody src fuel q (acc.push ch)
        | .error e => if e.final then .error e else .ok (acc, p)
      else .ok (acc, p)
    | none => .ok (acc, p)

/-- A basic string, starting at its quotation mark. -/
def basicString (src : Array Char) (pos : Nat) : Except Failure (String × Nat) := do
  let (s, p) ← basicBody src (src.size + 1) (pos + 1) ""
  if src[p]? == some '"' then .ok (s, p + 1) else .error (.stop p [.label "basic string"])

/-- A literal string, starting at its apostrophe. -/
def literalString (src : Array Char) (pos : Nat) : Except Failure (String × Nat) :=
  let e := skipWhile src isLiteralChar (pos + 1)
  if src[e]? == some '\'' then .ok (slice src (pos + 1) e, e + 1)
  else .error (.stop e [.label "literal string"])

/-- Blanks and line breaks, as after a line-ending backslash. -/
def blanksAndBreaks (src : Array Char) (pos : Nat) : Nat :=
  go (src.size + 1) pos
where
  /-- Skips at most `fuel` runs. -/
  go : Nat → Nat → Nat
    | 0, p => p
    | fuel + 1, p =>
      match newline src p with
      | .ok q => go fuel q
      | .error _ => if holdsAt src isBlank p then go fuel (blanks src p) else p

/-- Line-ending backslashes of a multi-line basic string: each a backslash, blanks and a line
break, with the blanks and line breaks after it. -/
def escapedBreaks (src : Array Char) (pos : Nat) : Option Nat :=
  let one := fun (q : Nat) =>
    if src[q]? == some '\\' then
      match newline src (blanks src (q + 1)) with
      | .ok r => some (blanksAndBreaks src r)
      | .error _ => none
    else none
  let rec more : Nat → Nat → Nat
    | 0, q => q
    | fuel + 1, q => match one q with
      | some r => more fuel r
      | none => q
  (one pos).map (more src.size)

/-- One piece of a multi-line basic string: unescaped characters, escaped line breaks, an
escape sequence, or a line break. -/
def mlBasicPiece (src : Array Char) (p : Nat) : Except Failure (String × Nat) :=
  match src[p]? with
  | none => .error (.miss p)
  | some c =>
    if isBasicChar c then .ok (c.toString, p + 1)
    else if c == '\\' then
      match escapedBreaks src p with
      | some q => .ok ("", q)
      | none => (escapeSeq src (p + 1)).map fun (ch, q) => (ch.toString, q)
    else (newline src p).map fun q => ("\n", q)

/-- Pieces of a multi-line basic string for as long as they read. -/
def mlBasicPieces (src : Array Char) : Nat → Nat → String → Except Failure (String × Nat)
  | 0, p, acc => .ok (acc, p)
  | fuel + 1, p, acc =>
    match mlBasicPiece src p with
    | .ok (s, q) => mlBasicPieces src fuel q (acc ++ s)
    | .error e => if e.final then .error e else .ok (acc, p)

/-- One or two quotation marks followed by what a test accepts. -/
def quoteRun (src : Array Char) (quote : Char) (p : Nat) (follow : Nat → Bool) :
    Option (String × Nat) :=
  if src[p]? == some quote && src[p + 1]? == some quote && follow (p + 2) then
    some (String.ofList [quote, quote], p + 2)
  else if src[p]? == some quote && follow (p + 1) then some (quote.toString, p + 1)
  else none

/-- The body of a multi-line basic string: pieces, then runs of quotation marks each followed
by more pieces, then quotation marks just before the closing ones. -/
def mlBasicBody (src : Array Char) (pos : Nat) : Except Failure (String × Nat) := do
  let fuel := src.size + 1
  let (acc, p) ← mlBasicPieces src fuel pos ""
  let rec quotes : Nat → Nat → String → Except Failure (String × Nat)
    | 0, p, acc => .ok (acc, p)
    | fuel + 1, p, acc =>
      match quoteRun src '"' p (holdsAt src (· != '"')) with
      | none => .ok (acc, p)
      | some (qs, q) =>
        match mlBasicPiece src q with
        | .ok (s, r) => do
          let (acc, r) ← mlBasicPieces src (src.size + 1) r (acc ++ qs ++ s)
          quotes fuel r acc
        | .error e => if e.final then .error e else .ok (acc, q)
  let (acc, p) ← quotes fuel p acc
  match quoteRun src '"' p (fun q => textAt src q "\"\"\"") with
  | some (qs, q) => .ok (acc ++ qs, q)
  | none => .ok (acc, p)

/-- A multi-line basic string, starting at its three quotation marks. A line break right after
them is not part of it. -/
def mlBasicString (src : Array Char) (pos : Nat) : Except Failure (String × Nat) :=
  let p := match newline src (pos + 3) with
    | .ok q => q
    | .error _ => pos + 3
  withNotes [.label "multiline basic string"] do
    let (s, q) ← mlBasicBody src p
    if textAt src q "\"\"\"" then .ok (s, q + 3) else .error (.stop q [])

/-- Whether a multi-line literal string may hold the character at a position, or a line break
starts there; gives the position after it. -/
def mlLiteralPiece (src : Array Char) (p : Nat) : Option Nat :=
  if holdsAt src isLiteralChar p then some (p + 1)
  else match newline src p with
    | .ok q => some q
    | .error _ => none

/-- Pieces of a multi-line literal string for as long as they read. -/
def mlLiteralPieces (src : Array Char) : Nat → Nat → Nat
  | 0, p => p
  | fuel + 1, p => match mlLiteralPiece src p with
    | some q => mlLiteralPieces src fuel q
    | none => p

/-- A multi-line literal string, starting at its three apostrophes. A line break right after
them is not part of it, and line breaks in it are line feeds. -/
def mlLiteralString (src : Array Char) (pos : Nat) : Except Failure (String × Nat) :=
  let p := match newline src (pos + 3) with
    | .ok q => q
    | .error _ => pos + 3
  let fuel := src.size + 1
  let rec quotes : Nat → Nat → Nat
    | 0, q => q
    | n + 1, q =>
      match quoteRun src '\'' q (holdsAt src (· != '\'')) with
      | some (_, r) =>
        match mlLiteralPiece src r with
        | some s => quotes n (mlLiteralPieces src fuel s)
        | none => q
      | none => q
  let e := quotes fuel (mlLiteralPieces src fuel p)
  let e := match quoteRun src '\'' e (fun q => textAt src q "'''") with
    | some (_, q) => q
    | none => e
  let text := "\n".intercalate ((slice src p e).splitOn "\r\n")
  if textAt src e "'''" then .ok (text, e + 3)
  else .error (.stop e [.label "multiline literal string"])

/-- A string in any of its forms, chosen by its opening quotes. -/
def stringValue (src : Array Char) (pos : Nat) : Except Failure (String × Nat) :=
  if textAt src pos "\"\"\"" then mlBasicString src pos
  else if src[pos]? == some '"' then basicString src pos
  else if textAt src pos "'''" then mlLiteralString src pos
  else if src[pos]? == some '\'' then literalString src pos
  else .error (.miss pos)

/-! ## Numbers -/

/-- Whether a character is a sign. -/
def isSign (c : Char) : Bool := c == '+' || c == '-'

/-- A decimal integer: an optional sign, then `0`, or a digit from 1 with more digits. -/
def decInt (src : Array Char) (pos : Nat) : Except Failure Nat :=
  withNotes [.label "integer"] <|
    let p := if holdsAt src isSign pos then pos + 1 else pos
    match src[p]? with
    | some c =>
      if '1' ≤ c && c ≤ '9' then digitTail src isDigitChar (p + 1)
      else if c == '0' then .ok (p + 1)
      else .error (.miss p)
    | none => .error (.miss p)

/-- Digits that may start with zero. -/
def zeroPrefixable (src : Array Char) (pos : Nat) : Except Failure Nat :=
  if holdsAt src isDigitChar pos then digitTail src isDigitChar (pos + 1) else .error (.miss pos)

/-- An exponent, starting at its `e`. -/
def exponentPart (src : Array Char) (pos : Nat) : Except Failure Nat :=
  let p := if holdsAt src isSign (pos + 1) then pos + 2 else pos + 1
  committed (zeroPrefixable src p)

/-- A fraction, starting at its point. -/
def fractionPart (src : Array Char) (pos : Nat) : Except Failure Nat :=
  withNotes [.expected "digit"] (committed (zeroPrefixable src (pos + 1)))

/-- The text of a finite float: an integer part, then an exponent, or a fraction and an
optional exponent. -/
def floatText (src : Array Char) (pos : Nat) : Except Failure Nat := do
  let e ← decInt src pos
  let isE := fun (c : Char) => c == 'e' || c == 'E'
  if holdsAt src isE e then exponentPart src e
  else if src[e]? == some '.' then
    let f ← fractionPart src e
    if holdsAt src isE f then exponentPart src f else .ok f
  else .error (.miss e)

/-- Positive infinity. -/
def infinity : Float := floatOfBits false 0x7FF0000000000000

/-- The not-a-number value with a sign. -/
def notANumber (negative : Bool) : Float := floatOfBits negative 0x7FF8000000000000

/-- `inf` or `nan` after an optional sign. -/
def specialFloat (src : Array Char) (pos : Nat) : Except Failure (Float × Nat) :=
  let negative := src[pos]? == some '-'
  let p := if holdsAt src isSign pos then pos + 1 else pos
  if textAt src p "inf" then .ok (if negative then -infinity else infinity, p + 3)
  else if textAt src p "nan" then .ok (notANumber negative, p + 3)
  else .error (.miss p)

/-- A float: a finite one that does not read as positive infinity, or a special one. -/
def floatValue (src : Array Char) (pos : Nat) : Except Failure (Float × Nat) :=
  withNotes [.label "floating-point number"] <|
    match floatText src pos with
    | .ok e =>
      let text := String.ofList ((slice src pos e).toList.filter (· != '_'))
      match parseFloat? text with
      | some f => if f == infinity then .error (.stop pos []) else .ok (f, e)
      | none => .error (.stop pos [])
    | .error f => if f.final then .error f else specialFloat src pos

/-- An integer in a radix after its two-character prefix. -/
def radixInt (src : Array Char) (pos radix : Nat) (isD : Char → Bool) (label : String) :
    Except Failure (Int × Nat) := do
  let body := pos + 2
  let e ← withNotes [.label label] <|
    if holdsAt src isD body then committed (digitTail src isD (body + 1))
    else .error (.stop body [])
  let v := digitsValue radix (slice src body e)
  if v ≤ maxSigned then .ok (v, e)
  else .error (Failure.because pos "number too large to fit in target type").commit

/-- An integer: hexadecimal, octal or binary after its prefix, or decimal. -/
def integerValue (src : Array Char) (pos : Nat) : Except Failure (Int × Nat) :=
  if textAt src pos "0x" then radixInt src pos 16 isHexChar "hexadecimal integer"
  else if textAt src pos "0o" then radixInt src pos 8 (fun c => '0' ≤ c && c ≤ '7') "octal integer"
  else if textAt src pos "0b" then radixInt src pos 2 (fun c => c == '0' || c == '1') "binary integer"
  else do
    let e ← decInt src pos
    match signedValue (slice src pos e) with
    | .ok i => .ok (i, e)
    | .error msg => .error (Failure.because pos msg).commit

/-! ## Date-times -/

/-- A number shown with at least two digits. -/
def pad2 (n : Nat) : String := if n < 10 then "0" ++ toString n else toString n

/-- A number shown with at least four digits. -/
def pad4 (n : Nat) : String :=
  let s := toString n
  String.ofList (List.replicate (4 - s.length) '0') ++ s

/-- A two-digit field within bounds. Without two digits it fails where it stands; out of its
bounds, it fails there with a cause. Neither failure is final. -/
def twoDigitField (src : Array Char) (pos lo hi : Nat) : Except Failure Nat :=
  if holdsAt src isDigitChar pos && holdsAt src isDigitChar (pos + 1) then
    let v := digitsValue 10 (slice src pos (pos + 2))
    if lo ≤ v && v ≤ hi then .ok v else .error (.because pos "value is out of range")
  else .error (.miss pos)

/-- Fails where a character is not the one required. -/
def expectAt (src : Array Char) (pos : Nat) (c : Char) : Except Failure Unit :=
  if src[pos]? == some c then .ok () else .error (.miss pos)

/-- The days of a month of a year. -/
def monthDays (year month : Nat) : Nat :=
  let leap := year % 4 == 0 && (year % 100 != 0 || year % 400 == 0)
  if month == 2 then (if leap then 29 else 28)
  else if month == 4 || month == 6 || month == 9 || month == 11 then 30
  else 31

/-- A fraction of a second in nanoseconds, from its digits: the first nine count. -/
def nanoseconds (digits : String) : Nat :=
  let ds := digits.toList.take 9
  digitsValue 10 (String.ofList ds) * Nat.pow 10 (9 - ds.length)

/-- Nanoseconds as shown after a point: nine digits without trailing zeros. -/
def nanosText (n : Nat) : String :=
  let s := toString n
  let padded := List.replicate (9 - s.length) '0' ++ s.toList
  String.ofList (padded.reverse.dropWhile (· == '0')).reverse

/-- A time of day: hours, minutes and seconds, and an optional fraction. After the first colon
the time is committed. -/
def partialTime (src : Array Char) (pos : Nat) : Except Failure (String × Nat) := do
  let h ← twoDigitField src pos 0 23
  expectAt src (pos + 2) ':'
  committed do
    let m ← twoDigitField src (pos + 3) 0 59
    expectAt src (pos + 5) ':'
    let s ← twoDigitField src (pos + 6) 0 60
    let (nanos, e) :=
      if src[pos + 8]? == some '.' && holdsAt src isDigitChar (pos + 9) then
        let e := skipWhile src isDigitChar (pos + 9)
        (nanoseconds (slice src (pos + 9) e), e)
      else (0, pos + 8)
    let frac := if nanos == 0 then "" else "." ++ nanosText nanos
    .ok (pad2 h ++ ":" ++ pad2 m ++ ":" ++ pad2 s ++ frac, e)

/-- An optional offset from UTC: `Z`, or a sign, hours and minutes. -/
def timeOffset (src : Array Char) (pos : Nat) : Except Failure (String × Nat) :=
  withNotes [.label "time offset"] <|
    match src[pos]? with
    | some 'Z' | some 'z' => .ok ("Z", pos + 1)
    | some c =>
      if isSign c then committed do
        let h ← twoDigitField src (pos + 1) 0 23
        expectAt src (pos + 3) ':'
        let m ← twoDigitField src (pos + 4) 0 59
        let minutes := h * 60 + m
        let sign := if c == '-' && minutes != 0 then "-" else "+"
        .ok (sign ++ pad2 (minutes / 60) ++ ":" ++ pad2 (minutes % 60), pos + 6)
      else .ok ("", pos)
    | none => .ok ("", pos)

/-- A date-time, a date, or a time of day, as the text it is shown with. -/
def dateTime (src : Array Char) (pos : Nat) : Except Failure (String × Nat) :=
  let dated : Except Failure (String × Nat) := withNotes [.label "date-time"] do
    if !(List.range 4).all (fun i => holdsAt src isDigitChar (pos + i)) then
      throw (Failure.miss pos)
    let year := digitsValue 10 (slice src pos (pos + 4))
    expectAt src (pos + 4) '-'
    let (month, day) ← committed do
      let month ← twoDigitField src (pos + 5) 1 12
      expectAt src (pos + 7) '-'
      let day ← twoDigitField src (pos + 8) 1 31
      if monthDays year month < day then throw (Failure.because (pos + 8) "value is out of range")
      pure (month, day)
    let date := pad4 year ++ "-" ++ pad2 month ++ "-" ++ pad2 day
    let q := pos + 10
    if holdsAt src (fun c => c == 'T' || c == 't' || c == ' ') q then
      match partialTime src (q + 1) with
      | .ok (t, r) => do
        let (off, e) ← timeOffset src r
        .ok (date ++ "T" ++ t ++ off, e)
      | .error f => if f.final then .error f else .ok (date, q)
    else .ok (date, q)
  match dated with
  | .error f => if f.final then .error f else withNotes [.label "time"] (partialTime src pos)
  | ok => ok

/-! ## Keys -/

/-- A simple key: a basic string, a literal string, or bare key characters. -/
def simpleKey (src : Array Char) (pos : Nat) : Except Failure (String × Nat) :=
  match src[pos]? with
  | some '"' => basicString src pos
  | some '\'' => literalString src pos
  | _ =>
    let e := skipWhile src isKeyChar pos
    if e == pos then .error (.miss pos) else .ok (slice src pos e, e)

/-- A simple key with the blanks around it. -/
def keyPart (src : Array Char) (pos : Nat) : Except Failure (String × Nat) := do
  let (k, e) ← simpleKey src (blanks src pos)
  .ok (k, blanks src e)

/-- The most simple keys a dotted key may have, plus one. -/
def keyDepthLimit : Nat := 80

/-- A dotted key: simple keys joined by dots. A dot not followed by a simple key is not
part of it. -/
def dottedKey (src : Array Char) (pos : Nat) : Except Failure ((List String) × Nat) := do
  let rec more : Nat → Nat → List String → Except Failure ((List String) × Nat)
    | 0, p, acc => .ok (acc, p)
    | fuel + 1, p, acc =>
      if src[p]? == some '.' then
        match keyPart src (p + 1) with
        | .ok (k, q) => more fuel q (acc ++ [k])
        | .error e => if e.final then .error e else .ok (acc, p)
      else .ok (acc, p)
  let (keys, e) ← withNotes [.label "key"] do
    let (k, e) ← keyPart src pos
    more (src.size + 1) e [k]
  if keyDepthLimit ≤ keys.length then .error (.because pos "recursion limit exceeded")
  else .ok (keys, e)

/-! ## Values -/

/-- Items separated by a character, after a first one: a separator and an item for as long as
both read. A final failure of an item fails. -/
def separatedItems {α : Type} (src : Array Char) (sep : Char) (item : Nat → Except Failure (α × Nat)) :
    Nat → Nat → List α → Except Failure (List α × Nat)
  | 0, p, acc => .ok (acc, p)
  | fuel + 1, p, acc =>
    if src[p]? == some sep then
      match item (p + 1) with
      | .ok (x, q) => separatedItems src sep item fuel q (acc ++ [x])
      | .error e => if e.final then .error e else .ok (acc, p)
    else .ok (acc, p)

/-- A failure for nesting too deep, at the bracket that opens one level too many. -/
def tooDeep (pos : Nat) : Failure := (Failure.because pos "recursion limit exceeded").commit

/-- An array, starting at its bracket, whose items are read by `item`. `room` is the nesting
left for its items; none left fails. Items are separated by commas, with an optional comma
after the last, and blanks, comments and line breaks around them. -/
def arrayValue (src : Array Char) (room : Nat) (item : Nat → Except Failure (Value × Nat)) (pos : Nat) :
    Except Failure (Value × Nat) := do
  let start := pos + 1
  if room == 0 then throw (tooDeep pos)
  let spaced := fun (p : Nat) => do
    let q ← spacing src p
    let (v, r) ← item q
    let s ← spacing src r
    Except.ok (v, s)
  let (items, q) ← match spaced start with
    | .ok (v, r) => do
      let (vs, q) ← separatedItems src ',' spaced (src.size + 1) r [v]
      .ok (vs, if src[q]? == some ',' then q + 1 else q)
    | .error e => if e.final then .error e else .ok ([], start)
  let q ← committed (spacing src q)
  if src[q]? == some ']' then .ok (.array items, q + 1)
  else .error (.stop q [.label "array", expectChar ']'])

/-- An inline table, starting at its brace, whose values are read by `item`. `room` is the
nesting left for its values. Pairs are separated by commas on one line; the keys are set as in
a table. -/
def inlineTableValue (src : Array Char) (room : Nat) (item : Nat → Except Failure (Value × Nat)) (pos : Nat) :
    Except Failure (Value × Nat) := do
  let start := pos + 1
  if room == 0 then throw (tooDeep pos)
  let pair := fun (p : Nat) => do
    let (keys, q) ← dottedKey src p
    if src[q]? != some '=' then throw (Failure.stop q [expectChar '.', expectChar '='])
    let (v, r) ← committed (item (blanks src (q + 1)))
    Except.ok ((keys, v), blanks src r)
  let (pairs, q) ← match pair start with
    | .ok (x, r) => separatedItems src ',' pair (src.size + 1) r [x]
    | .error e => if e.final then .error e else .ok ([], start)
  let q := blanks src q
  match inlineEntries pairs with
  | .error c => .error (Failure.because start c.text).commit
  | .ok entries =>
    if src[q]? == some '}' then .ok (.inline entries false false, q + 1)
    else .error (.stop q [.label "inline table", expectChar '}'])

/-- The notes of a value that is none of the known kinds: it is taken for an unquoted string. -/
def unquotedNotes : List Note := [.label "string", expectChar '"', expectChar '\'']

/-- A value, chosen by its first character. `depth` bounds the nesting of arrays and inline
tables below it. -/
def value (src : Array Char) : Nat → Nat → Except Failure (Value × Nat)
  | 0, pos => .error (tooDeep pos)
  | room + 1, pos =>
    let keyword := fun (word : String) (v : Value) =>
      if textAt src pos word then Except.ok (v, pos + word.length)
      else .error (Failure.stop pos unquotedNotes)
    match src[pos]? with
    | none => .error (.miss pos)
    | some c =>
      if c == '"' || c == '\'' then (stringValue src pos).map fun (s, e) => (.string s, e)
      else if c == '[' then arrayValue src room (value src room) pos
      else if c == '{' then inlineTableValue src room (value src room) pos
      else if isSign c || c.isDigit then
        match dateTime src pos with
        | .ok (t, e) => .ok (.datetime t, e)
        | .error f =>
          if f.final then .error f
          else match floatValue src pos with
            | .ok (x, e) => .ok (.float x, e)
            | .error f =>
              if f.final then .error f
              else (integerValue src pos).map fun (i, e) => (.integer i, e)
      else if c == '_' then
        withNotes [.expected "leading digit"] ((integerValue src pos).map fun (i, e) => (.integer i, e))
      else if c == '.' then
        withNotes [.expected "leading digit"] ((floatValue src pos).map fun (x, e) => (.float x, e))
      else if c == 't' then keyword "true" (.boolean true)
      else if c == 'f' then keyword "false" (.boolean false)
      else if c == 'i' then
        if textAt src pos "inf" then .ok (.float infinity, pos + 3)
        else .error ((Failure.miss pos).noted unquotedNotes)
      else if c == 'n' then
        if textAt src pos "nan" then .ok (.float (notANumber false), pos + 3)
        else .error ((Failure.miss pos).noted unquotedNotes)
      else .error ((Failure.miss pos).noted unquotedNotes)

/-- The nesting a value at the top of a key and value pair may have. -/
def valueDepth : Nat := 80

end StateMetrics.Toml
