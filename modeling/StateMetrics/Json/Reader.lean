import StateMetrics.Json.Basic

/-! # Reading JSON text

The grammar of RFC 8259 with these decisions: an integer numeral without point or exponent
that fits in 64 bits (from `-2^63` to `2^64 - 1`, zero written without a minus) is an integer,
every other numeral is a double computed with one rounded scaling by a power of ten (see
`numeralValue`), and a numeral beyond the doubles is refused;
nesting 128 or more arrays and objects deep is refused; of two equal keys in one object the
later wins. A failure names its cause and the line and column where it was found, the column
counting the bytes of the line's encoding up to the character in question. -/

namespace StateMetrics.Json

/-- Why a JSON text was refused: the cause, the number of characters left unread there, and the
number of bytes of the next character already taken (a refusal can stand inside a character,
after its first bytes). -/
structure ReadError where
  cause : String
  left : Nat
  extra : Nat
  deriving Repr, Inhabited

/-- The line and column after reading some characters, the column being the number of bytes
of the encoding since the last line break. -/
def advance (lc : Nat × Nat) (c : Char) : Nat × Nat :=
  if c = '\n' then (lc.1 + 1, 0) else (lc.1, lc.2 + c.utf8Size)

/-- The line and column of a refusal after `consumed` characters of `text` and `extra` bytes of
the next. -/
def position (text : List Char) (consumed extra : Nat) : Nat × Nat :=
  let lc := (text.take consumed).foldl advance (1, 0)
  (lc.1, lc.2 + extra)

/-- The message of a refusal of `text`: the cause, then where it was found. -/
def ReadError.message (e : ReadError) (text : String) : String :=
  let cs := text.toList
  let (line, col) := position cs (cs.length - e.left) e.extra
  e.cause ++ " at line " ++ toString line ++ " column " ++ toString col

/-- A refusal found at the next character, of which the first byte counts as read. -/
def refusalAt (cause : String) : List Char → ReadError
  | c :: rest => if c.utf8Size == 1 then ⟨cause, rest.length, 0⟩ else ⟨cause, rest.length + 1, 1⟩
  | [] => ⟨cause, 0, 0⟩

/-- A refusal found after a number of bytes of the characters ahead. -/
def refusalAfter (cause : String) : Nat → List Char → ReadError
  | n, c :: rest => if c.utf8Size ≤ n then refusalAfter cause (n - c.utf8Size) rest
    else ⟨cause, rest.length + 1, n⟩
  | _, [] => ⟨cause, 0, 0⟩

/-- The number of bytes of the encoding of some characters. -/
def byteCount (cs : List Char) : Nat := (cs.map Char.utf8Size).foldl (· + ·) 0

/-- A partial read: a result and the characters after it. -/
abbrev Reading (α : Type) := Except ReadError (α × List Char)

/-- Blanks between tokens. -/
def isBlank (c : Char) : Bool := c = ' ' ∨ c = '\n' ∨ c = '\t' ∨ c = '\r'

/-- A refusal found at the next character. -/
def failAt (cause : String) (cs : List Char) : Except ReadError α :=
  .error (refusalAt cause cs)

/-- A refusal found before the next character. -/
def failBefore (cause : String) (cs : List Char) : Except ReadError α :=
  .error ⟨cause, cs.length, 0⟩

/-- The value of a hexadecimal digit. -/
def hexValue (c : Char) : Option Nat :=
  if '0' ≤ c ∧ c ≤ '9' then some (c.toNat - '0'.toNat)
  else if 'a' ≤ c ∧ c ≤ 'f' then some (c.toNat - 'a'.toNat + 10)
  else if 'A' ≤ c ∧ c ≤ 'F' then some (c.toNat - 'A'.toNat + 10)
  else none

/-- Four hexadecimal digits of a `\u` escape. The four bytes are taken at once: with fewer
left the string ends early, and four that are not all digits are refused after them. -/
def readHex4 (cs : List Char) : Reading Nat :=
  match cs with
  | a :: b :: c :: d :: rest =>
    match hexValue a, hexValue b, hexValue c, hexValue d with
    | some a, some b, some c, some d => .ok (((a * 16 + b) * 16 + c) * 16 + d, rest)
    | _, _, _, _ => .error (refusalAfter "invalid escape" 4 cs)
  | _ =>
    if 4 ≤ byteCount cs then .error (refusalAfter "invalid escape" 4 cs)
    else failBefore "EOF while parsing a string" []

/-- The character of a `\u` escape, joining a surrogate pair. -/
def readUnicodeEscape (cs : List Char) : Reading Char :=
  match readHex4 cs with
  | .error e => .error e
  | .ok (n, rest) =>
    if 0xDC00 ≤ n ∧ n ≤ 0xDFFF then failBefore "lone leading surrogate in hex escape" rest
    else if 0xD800 ≤ n ∧ n ≤ 0xDBFF then
      match rest with
      | '\\' :: 'u' :: more =>
        match readHex4 more with
        | .error e => .error e
        | .ok (m, rest') =>
          if 0xDC00 ≤ m ∧ m ≤ 0xDFFF then
            .ok (Char.ofNat (0x10000 + (n - 0xD800) * 0x400 + (m - 0xDC00)), rest')
          else failBefore "lone leading surrogate in hex escape" rest'
      | '\\' :: r@(_ :: _) => failAt "unexpected end of hex escape" r
      | [] | ['\\'] => failBefore "EOF while parsing a string" []
      | _ => failAt "unexpected end of hex escape" rest
    else .ok (Char.ofNat n, rest)

/-- The body of a string after its opening quote, up to and without the closing quote.
Every step reads at least one character, so `fuel` above the input's length suffices. -/
def readStringBody (fuel : Nat) (acc : List Char) (cs : List Char) : Reading String :=
  match fuel, cs with
  | 0, _ => failBefore "EOF while parsing a string" []
  | _, [] => failBefore "EOF while parsing a string" []
  | _ + 1, '"' :: rest => .ok (String.ofList acc.reverse, rest)
  | fuel + 1, '\\' :: rest =>
    match rest with
    | [] => failBefore "EOF while parsing a string" []
    | c :: more =>
      let simple : Option Char := match c with
        | '"' => some '"' | '\\' => some '\\' | '/' => some '/' | 'b' => some '\x08'
        | 'f' => some '\x0c' | 'n' => some '\n' | 'r' => some '\r' | 't' => some '\t'
        | _ => none
      match simple with
      | some e => readStringBody fuel (e :: acc) more
      | none =>
        if c = 'u' then
          match readUnicodeEscape more with
          | .ok (ch, rest') => readStringBody fuel (ch :: acc) rest'
          | .error e => .error e
        else failAt "invalid escape" rest
  | fuel + 1, c :: rest =>
    if c.toNat < 0x20 then
      failAt "control character (\\u0000-\\u001F) found while parsing a string" (c :: rest)
    else readStringBody fuel (c :: acc) rest

/-- Drops the blanks at the front. -/
def skipBlanks (cs : List Char) : List Char := cs.dropWhile isBlank

/-- The largest unsigned 64-bit integer. -/
def maxUnsigned : Nat := Nat.pow 2 64 - 1

/-- The largest signed 32-bit integer, beyond which an exponent overflows. -/
def maxExponent : Nat := Nat.pow 2 31 - 1

/-- Takes digits into a significand while it stays within 64 bits: the significand and the
digits left, from the first that did not fit. -/
def takeDigits (sig : Nat) : List Char → Nat × List Char
  | [] => (sig, [])
  | d :: rest =>
    let v := sig * 10 + (d.toNat - 48)
    if v > maxUnsigned then (sig, d :: rest) else takeDigits v rest

/-- Ten to a power, as the nearest double. -/
def powerOfTen (k : Nat) : Float := Decimal.toFloat false ⟨1, k⟩

/-- Scales a double by a power of ten with one rounded multiplication or division by a power
from `1e0` to `1e308`. Beyond those powers a negative one first divides by `1e308` (three
divisions bring every significand to zero, which `fuel` allows for), and a positive one
overflows unless the double is zero. None when the result overflows. -/
def scaleFuel : Nat → Float → Int → Option Float
  | 0, f, _ => some f
  | fuel + 1, f, e =>
    if e.natAbs ≤ 308 then
      if e ≥ 0 then
        let g := f * powerOfTen e.natAbs
        if g.isInf then none else some g
      else some (f / powerOfTen e.natAbs)
    else if f == 0 then some f
    else if e ≥ 0 then none
    else scaleFuel fuel (f / powerOfTen 308) (e + 308)

/-- A significand scaled by a power of ten: the significand is first rounded to a double. -/
def scaled (sig : Nat) (e : Int) : Option Float :=
  scaleFuel 4 (Decimal.toFloat false ⟨sig, 0⟩) e

/-- Reads exponent digits within the signed 32-bit range: the value, or the digits after the
one that overflowed. -/
def exponentValue (acc : Nat) : List Char → Except (List Char) Nat
  | [] => .ok acc
  | d :: rest =>
    let v := acc * 10 + (d.toNat - 48)
    if v > maxExponent then .error rest else exponentValue v rest

/-- An exponent kept within the signed 32-bit range. -/
def saturate (e : Int) : Int :=
  max (-(Nat.pow 2 31 : Int)) (min (Nat.pow 2 31 - 1 : Int) e)

/-- The value of a numeral given by its digits before the point, after it and in the exponent,
as the reader computes it. The digits are taken into a 64-bit significand until one does not
fit: further digits before the point raise the power of ten, further digits after it are
dropped. The significand, rounded to a double, is then multiplied or divided once by the power
of ten, so the result may differ from the nearest double in the last place. An integer
without point or exponent that fits in 64 bits stays an integer (a negative zero is the double
`-0.0`). A numeral beyond the doubles is refused after its last digit; an exponent beyond 32
bits makes zero, or is refused at its last digit read when the significand is not zero and the
exponent is positive. `rest` is what follows the numeral. -/
def numeralValue (negative : Bool) (whole : List Char) (fraction : Option (List Char))
    (exponent : Option (Bool × List Char)) (rest : List Char) : Except ReadError JsonNumber :=
  let signed := fun (f : Float) => JsonNumber.float (if negative then -f else f)
  let (sig, skipped) := takeDigits 0 whole
  if fraction.isNone && exponent.isNone && skipped.isEmpty then
    if negative then
      if sig = 0 ∨ sig > Nat.pow 2 63 then .ok (signed (Decimal.toFloat false ⟨sig, 0⟩))
      else .ok (.int (-(sig : Int)))
    else .ok (.int sig)
  else
    let (sig, e) := match fraction with
      | none => (sig, (skipped.length : Int))
      | some f =>
        let (s, left) := takeDigits sig f
        (s, (skipped.length : Int) - (f.length - left.length : Nat))
    let e : Except ReadError (Option Int) := match exponent with
      | none => .ok (some e)
      | some (positive, ds) =>
        match exponentValue 0 ds with
        | .ok v => .ok (some (saturate (if positive then e + v else e - v)))
        | .error after =>
          if sig != 0 && positive then failBefore "number out of range" (after ++ rest)
          else .ok none
    match e with
    | .error err => .error err
    | .ok none => .ok (signed 0)
    | .ok (some e) =>
      match scaled sig e with
      | some f => .ok (signed f)
      | none => failBefore "number out of range" rest

/-- A numeral: an optional minus, `0` or digits not starting with `0`, an optional point
with digits, an optional exponent. -/
def readNumber (cs : List Char) : Reading JsonNumber :=
  let (negative, body) := match cs with
    | '-' :: r => (true, r)
    | r => (false, r)
  let whole := body.takeWhile Char.isDigit
  let rest := body.dropWhile Char.isDigit
  match whole with
  | [] => if rest.isEmpty then failBefore "EOF while parsing a value" [] else failAt "invalid number" rest
  | w :: ws =>
    if w = '0' ∧ ws ≠ [] then failAt "invalid number" ws
    else
      let fractionPart : Except ReadError (Option (List Char) × List Char) := match rest with
        | '.' :: r =>
          let f := r.takeWhile Char.isDigit
          if f.isEmpty then
            (if r.isEmpty then failBefore "EOF while parsing a value" [] else failAt "invalid number" r)
          else .ok (some f, r.dropWhile Char.isDigit)
        | r => .ok (none, r)
      match fractionPart with
      | .error e => .error e
      | .ok (fraction, rest) =>
        let exponentPart : Except ReadError (Option (Bool × List Char) × List Char) :=
          match rest with
          | e :: r =>
            if e = 'e' ∨ e = 'E' then
              let (eneg, r) := match r with
                | '-' :: r' => (true, r')
                | '+' :: r' => (false, r')
                | r' => (false, r')
              let ds := r.takeWhile Char.isDigit
              if ds.isEmpty then
                (if r.isEmpty then failBefore "EOF while parsing a value" [] else failAt "invalid number" r)
              else .ok (some (!eneg, ds), r.dropWhile Char.isDigit)
            else .ok (none, e :: r)
          | [] => .ok (none, [])
        match exponentPart with
        | .error e => .error e
        | .ok (exponent, rest) =>
          (numeralValue negative whole fraction exponent rest).map fun n => (n, rest)

/-- A keyword: `true`, `false` or `null`. -/
def readKeyword (word : List Char) (v : Json) (cs : List Char) : Reading Json :=
  if cs.take word.length = word then .ok (v, cs.drop word.length)
  else if word.take cs.length = cs then failBefore "EOF while parsing a value" []
  else failAt "expected ident" cs

/-- The number of arrays and objects that may be open around a value: one more is refused. -/
def maxDepth : Nat := 127

mutual

/-- A value after optional blanks. `fuel` bounds the calls, `depth` the nesting. -/
def readValue (fuel depth : Nat) (cs : List Char) : Reading Json :=
  match fuel with
  | 0 => failBefore "recursion limit exceeded" cs
  | fuel + 1 =>
    match skipBlanks cs with
    | [] => failBefore "EOF while parsing a value" []
    | '"' :: rest => (readStringBody (rest.length + 1) [] rest).map fun (s, r) => (.str s, r)
    | '[' :: rest =>
      if depth ≥ maxDepth then failAt "recursion limit exceeded" ('[' :: rest)
      else
        match skipBlanks rest with
        | ']' :: r => .ok (.arr [], r)
        | r => readItems fuel (depth + 1) [] r
    | '{' :: rest =>
      if depth ≥ maxDepth then failAt "recursion limit exceeded" ('{' :: rest)
      else
        match skipBlanks rest with
        | '}' :: r => .ok (.obj [], r)
        | r => readMembers fuel (depth + 1) [] r
    | 't' :: rest => readKeyword ['r', 'u', 'e'] (.bool true) rest
    | 'f' :: rest => readKeyword ['a', 'l', 's', 'e'] (.bool false) rest
    | 'n' :: rest => readKeyword ['u', 'l', 'l'] .null rest
    | c :: rest =>
      if c = '-' ∨ c.isDigit then (readNumber (c :: rest)).map fun (n, r) => (.num n, r)
      else failAt "expected value" (c :: rest)

/-- The items of an array after its first item's start, up to the closing bracket. -/
def readItems (fuel depth : Nat) (acc : List Json) (cs : List Char) : Reading Json :=
  match fuel with
  | 0 => failBefore "recursion limit exceeded" cs
  | fuel + 1 =>
    match readValue fuel depth cs with
    | .error e => .error e
    | .ok (v, rest) =>
      match skipBlanks rest with
      | ',' :: r =>
        match skipBlanks r with
        | ']' :: _ => failAt "trailing comma" (skipBlanks r)
        | r' => readItems fuel depth (v :: acc) r'
      | ']' :: r => .ok (.arr (v :: acc).reverse, r)
      | [] => failBefore "EOF while parsing a list" []
      | r => failAt "expected `,` or `]`" r

/-- The members of an object after its opening brace, up to the closing brace. -/
def readMembers (fuel depth : Nat) (acc : List (String × Json)) (cs : List Char) :
    Reading Json :=
  match fuel with
  | 0 => failBefore "recursion limit exceeded" cs
  | fuel + 1 =>
    match skipBlanks cs with
    | '"' :: rest =>
      match readStringBody (rest.length + 1) [] rest with
      | .error e => .error e
      | .ok (key, rest) =>
        match skipBlanks rest with
        | ':' :: r =>
          match readValue fuel depth r with
          | .error e => .error e
          | .ok (v, rest) =>
            let acc := insertMember key v acc
            match skipBlanks rest with
            | ',' :: r =>
              match skipBlanks r with
              | '}' :: _ => failAt "trailing comma" (skipBlanks r)
              | r' => readMembers fuel depth acc r'
            | '}' :: r => .ok (.obj acc, r)
            | [] => failBefore "EOF while parsing an object" []
            | r => failAt "expected `,` or `\x7d`" r
        | [] => failBefore "EOF while parsing an object" []
        | r => failAt "expected `:`" r
    | [] => failBefore "EOF while parsing an object" []
    | r => failAt "key must be a string" r

end

/-- Reads a whole JSON text: one value, with nothing but blanks after it. -/
def read (text : String) : Except String Json :=
  let cs := text.toList
  match readValue (cs.length + 2) 0 cs with
  | .error e => .error (e.message text)
  | .ok (v, rest) =>
    match skipBlanks rest with
    | [] => .ok v
    | r => .error ((refusalAt "trailing characters" r).message text)

end StateMetrics.Json
