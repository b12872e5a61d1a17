import StateMetrics.Decimal.Text

/-! # TOML: reading rules and failures

A TOML text is read by rules over its characters. A rule starts at a position and either gives
a result and the position after it, or fails. A failure knows where reading stopped, whether it
is final, and what the rules it passed through said about it: labels (the kind of thing being
read) and expectations (what would have been accepted), in the order the failure met them,
and possibly a cause.

A rule that has read enough to know what it is reading commits: its failures are final and no
alternative is tried. A failure that is not final lets an enclosing rule try something else
from the position it started at; where no rule does, the failure keeps the position it was
made at. The message of a failure is `invalid` and its first label, then `expected` and all its
expectations, then its cause, each on a line of its own.

This module holds the failures and the small rules that the grammar of keys and values
(`Toml.Values`) is made of: blanks, line ends, comments, digits. -/

namespace StateMetrics.Toml

/-- What a rule says about a failure that passes through it. -/
inductive Note where
  /-- The kind of thing the rule was reading. -/
  | label (what : String)
  /-- Something the rule would have accepted, as messages show it. -/
  | expected (what : String)
  deriving Repr, BEq, Inhabited

/-- A failed reading: where it stopped, whether it is final, the notes it met, and a cause. -/
structure Failure where
  pos : Nat
  final : Bool
  notes : List Note
  cause : Option String
  deriving Repr, Inhabited

namespace Failure

/-- A failure at a position that lets alternatives be tried. -/
def miss (pos : Nat) : Failure := ⟨pos, false, [], none⟩

/-- A failure at a position with a cause, letting alternatives be tried. -/
def because (pos : Nat) (cause : String) : Failure := ⟨pos, false, [], some cause⟩

/-- A final failure at a position with notes. -/
def stop (pos : Nat) (notes : List Note) : Failure := ⟨pos, true, notes, none⟩

/-- The failure made final. -/
def commit (f : Failure) : Failure := { f with final := true }

/-- The failure with notes added after those it has. -/
def noted (f : Failure) (ns : List Note) : Failure := { f with notes := f.notes ++ ns }

/-- The failure's message: its first label, its expectations, and its cause. -/
def message (f : Failure) : String :=
  let label := f.notes.findSome? fun
    | .label w => some w
    | .expected _ => none
  let expected := f.notes.filterMap fun
    | .expected w => some w
    | .label _ => none
  let parts := (label.map ("invalid " ++ ·)).toList ++
    (if expected.isEmpty then [] else ["expected " ++ ", ".intercalate expected]) ++ f.cause.toList
  "\n".intercalate parts

end Failure

/-- Makes the failures of a rule final. -/
def committed {α : Type} (o : Except Failure α) : Except Failure α := o.mapError Failure.commit

/-- Adds notes to the failures of a rule. -/
def withNotes {α : Type} (ns : List Note) (o : Except Failure α) : Except Failure α :=
  o.mapError (·.noted ns)

/-- An expected character as messages show it: a line feed is `newline`, anything else is
quoted with backticks. -/
def expectChar (c : Char) : Note :=
  .expected (if c == '\n' then "newline" else "\x60" ++ c.toString ++ "\x60")

/-- An expected text, quoted with backticks. -/
def expectText (s : String) : Note := .expected ("\x60" ++ s ++ "\x60")

/-- Whether a character is a blank: a space or a tab. -/
def isBlank (c : Char) : Bool := c == ' ' || c == '\t'

/-- Whether a character may stand in a comment: a tab, a printable ASCII character, or any
character beyond ASCII. -/
def isCommentChar (c : Char) : Bool :=
  c == '\t' || (0x20 ≤ c.toNat && c.toNat ≤ 0x7E) || 0x80 ≤ c.toNat

/-- Whether a character may stand unescaped in a basic string. -/
def isBasicChar (c : Char) : Bool :=
  isBlank c || c.toNat == 0x21 || (0x23 ≤ c.toNat && c.toNat ≤ 0x5B) ||
    (0x5D ≤ c.toNat && c.toNat ≤ 0x7E) || 0x80 ≤ c.toNat

/-- Whether a character may stand in a literal string. -/
def isLiteralChar (c : Char) : Bool :=
  c == '\t' || (0x20 ≤ c.toNat && c.toNat ≤ 0x26) || (0x28 ≤ c.toNat && c.toNat ≤ 0x7E) ||
    0x80 ≤ c.toNat

/-- Whether a character may stand in a bare key: an ASCII letter or digit, `-` or `_`. -/
def isKeyChar (c : Char) : Bool := c.isAlphanum || c == '-' || c == '_'

/-- Whether a character is a decimal digit. -/
def isDigitChar (c : Char) : Bool := c.isDigit

/-- Whether a character is a hexadecimal digit. -/
def isHexChar (c : Char) : Bool :=
  c.isDigit || ('a' ≤ c && c ≤ 'f') || ('A' ≤ c && c ≤ 'F')

/-- Whether the character at a position satisfies a test. -/
def holdsAt (src : Array Char) (p : Char → Bool) (pos : Nat) : Bool :=
  match src[pos]? with
  | some c => p c
  | none => false

/-- Whether a text stands at a position. -/
def textAt (src : Array Char) (pos : Nat) (s : String) : Bool :=
  (s.toList.zipIdx.all fun (c, i) => src[pos + i]? == some c)

/-- The position after the run of characters satisfying a test from a position. -/
def skipWhile (src : Array Char) (p : Char → Bool) (pos : Nat) : Nat :=
  go (src.size - pos) pos
where
  /-- Skips at most `fuel` characters. -/
  go : Nat → Nat → Nat
    | 0, i => i
    | fuel + 1, i => if holdsAt src p i then go fuel (i + 1) else i

/-- The position after the blanks from a position. -/
def blanks (src : Array Char) (pos : Nat) : Nat := skipWhile src isBlank pos

/-- The characters between two positions. -/
def slice (src : Array Char) (start stop : Nat) : String :=
  String.ofList ((src.toList.drop start).take (stop - start))

/-- A line break at a position: a line feed, or a carriage return and a line feed. A failure
lies after the character that could not be used. -/
def newline (src : Array Char) (pos : Nat) : Except Failure Nat :=
  match src[pos]? with
  | some '\n' => .ok (pos + 1)
  | some '\r' => if src[pos + 1]? == some '\n' then .ok (pos + 2) else .error (.miss (pos + 1))
  | some _ => .error (.miss (pos + 1))
  | none => .error (.miss pos)

/-- The position after a comment that starts at a position with `#`. -/
def comment (src : Array Char) (pos : Nat) : Nat := skipWhile src isCommentChar (pos + 1)

/-- The end of a line: a line break or the end of the text. -/
def lineEnding (src : Array Char) (pos : Nat) : Except Failure Nat :=
  match newline src pos with
  | .ok p => .ok p
  | .error _ => if src.size ≤ pos then .ok pos else .error (.miss pos)

/-- The rest of a line after a value or a header: blanks, an optional comment, and the line's
end. -/
def lineTrailing (src : Array Char) (pos : Nat) : Except Failure Nat :=
  let p := blanks src pos
  let p := if src[p]? == some '#' then comment src p else p
  lineEnding src p

/-- Blanks, comments and line breaks, as between the items of an array. A comment must end
with a line break. -/
def spacing (src : Array Char) (pos : Nat) : Except Failure Nat :=
  go (src.size + 1) pos
where
  /-- Reads at most `fuel` lines. -/
  go : Nat → Nat → Except Failure Nat
    | 0, p => .ok p
    | fuel + 1, p =>
      let q := blanks src p
      match src[q]? with
      | some '#' => do
        let r ← newline src (comment src q)
        go fuel r
      | some '\n' | some '\r' => do
        let r ← newline src q
        go fuel r
      | _ => .ok q

/-- Digits with single underscores between them, after a first digit: runs while a digit or
an underscore and a digit follow. An underscore without a digit after it is final. -/
def digitTail (src : Array Char) (isD : Char → Bool) (pos : Nat) : Except Failure Nat :=
  go (src.size + 1) pos
where
  /-- Reads at most `fuel` digits. -/
  go : Nat → Nat → Except Failure Nat
    | 0, p => .ok p
    | fuel + 1, p =>
      if holdsAt src isD p then go fuel (p + 1)
      else if src[p]? == some '_' then
        if holdsAt src isD (p + 1) then go fuel (p + 2)
        else .error (.stop (p + 1) [.expected "digit"])
      else .ok p

/-- The value of a run of digits of a radix, underscores left out. -/
def digitsValue (radix : Nat) (s : String) : Nat :=
  s.toList.foldl (fun acc c =>
    if c == '_' then acc
    else
      let d := if c.isDigit then c.toNat - '0'.toNat
        else if 'a' ≤ c && c ≤ 'f' then c.toNat - 'a'.toNat + 10
        else c.toNat - 'A'.toNat + 10
      acc * radix + d) 0

/-- The largest value of a signed 64-bit integer. -/
def maxSigned : Nat := Nat.pow 2 63 - 1

/-- Reads a signed integer text within 64 bits, underscores left out, with the messages of a
failed reading. -/
def signedValue (s : String) : Except String Int :=
  let (negative, body) := match s.toList with
    | '-' :: r => (true, r)
    | '+' :: r => (false, r)
    | r => (false, r)
  let n := digitsValue 10 (String.ofList body)
  if negative then
    if n ≤ maxSigned + 1 then .ok (-(n : Int)) else .error "number too small to fit in target type"
  else if n ≤ maxSigned then .ok n
  else .error "number too large to fit in target type"

end StateMetrics.Toml
