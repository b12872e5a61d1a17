/-! # Reading bytes as UTF-8 text

Bytes are read as text one character at a time. A character is one byte below `0x80`, or a
lead byte followed by continuation bytes (`0x80` to `0xBF`): a lead byte from `0xC2` to `0xDF`
takes one, from `0xE0` to `0xEF` two, and from `0xF0` to `0xF4` three. The byte after the lead
is narrowed for some leads, so that no character is written with more bytes than it needs, none
is a surrogate and none lies beyond U+10FFFF: after `E0` it is at least `A0`, after `ED` at most
`9F`, after `F0` at least `90` and after `F4` at most `8F`.

A fault tells how many bytes were valid before it and how long the invalid sequence is, unless
the bytes end inside a character. Reading leniently replaces each invalid sequence, or the
unfinished character at the end, with U+FFFD. -/

namespace StateMetrics.Text.Utf8

/-- Where bytes stop being UTF-8: the number of valid bytes before the fault, and the length of
the invalid sequence, or none when the bytes end inside a character. -/
structure Fault where
  validUpTo : Nat
  errorLength : Option Nat
  deriving Repr, BEq, DecidableEq, Inhabited

/-- The message of a fault. -/
def Fault.message (f : Fault) : String :=
  match f.errorLength with
  | some n =>
    "invalid utf-8 sequence of " ++ toString n ++ " bytes from index " ++ toString f.validUpTo
  | none => "incomplete utf-8 byte sequence from index " ++ toString f.validUpTo

/-- Whether a byte continues a character. -/
def isContinuation (b : UInt8) : Bool := 0x80 ≤ b && b ≤ 0xBF

/-- The number of bytes of the character a lead byte starts, and 0 when it starts none. -/
def width (lead : UInt8) : Nat :=
  if lead < 0x80 then 1
  else if 0xC2 ≤ lead && lead ≤ 0xDF then 2
  else if 0xE0 ≤ lead && lead ≤ 0xEF then 3
  else if 0xF0 ≤ lead && lead ≤ 0xF4 then 4
  else 0

/-- The bounds of the byte after a lead byte. -/
def secondBounds (lead : UInt8) : UInt8 × UInt8 :=
  if lead == 0xE0 then (0xA0, 0xBF)
  else if lead == 0xED then (0x80, 0x9F)
  else if lead == 0xF0 then (0x90, 0xBF)
  else if lead == 0xF4 then (0x80, 0x8F)
  else (0x80, 0xBF)

/-- Checks `k` more continuation bytes after `seen` good ones: the character's length, or the
length of the invalid sequence (none at the end of the bytes). -/
def continuation : Nat → Nat → List UInt8 → Except (Option Nat) Nat
  | 0, seen, _ => .ok seen
  | _ + 1, _, [] => .error none
  | k + 1, seen, b :: rest =>
    if isContinuation b then continuation k (seen + 1) rest else .error (some seen)

/-- The length of the character at the front of some bytes, or the length of the invalid
sequence there (none when the bytes end inside a character). -/
def charLength : List UInt8 → Except (Option Nat) Nat
  | [] => .error none
  | lead :: rest =>
    let w := width lead
    if w == 0 then .error (some 1)
    else if w == 1 then .ok 1
    else
      match rest with
      | [] => .error none
      | b :: more =>
        let (lo, hi) := secondBounds lead
        if lo ≤ b && b ≤ hi then continuation (w - 2) 2 more else .error (some 1)

/-- The code point of a well-formed character of `n` bytes. -/
def codePoint (n : Nat) : List UInt8 → Nat
  | [] => 0
  | lead :: rest =>
    let first := if n ≤ 1 then lead.toNat else lead.toNat % Nat.pow 2 (7 - n)
    (rest.take (n - 1)).foldl (fun acc b => acc * 64 + b.toNat % 64) first

/-- Reads bytes as text from an offset: the text, or the first fault. -/
def decodeFrom (offset : Nat) (bs : List UInt8) : Except Fault (List Char) :=
  match _h : bs with
  | [] => .ok []
  | _ :: _ =>
    match charLength bs with
    | .error len => .error ⟨offset, len⟩
    | .ok n =>
      match decodeFrom (offset + max n 1) (bs.drop (max n 1)) with
      | .ok cs => .ok (Char.ofNat (codePoint n bs) :: cs)
      | .error f => .error f
termination_by bs.length
decreasing_by all_goals subst _h; simp only [List.length_drop, List.length_cons]; omega

/-- Reads bytes as text, failing at the first fault. -/
def decode (bs : List UInt8) : Except Fault String :=
  (decodeFrom 0 bs).map String.ofList

/-- Reads bytes as text, replacing each invalid sequence with U+FFFD. -/
def lossyChars (bs : List UInt8) : List Char :=
  match _h : bs with
  | [] => []
  | _ :: _ =>
    match charLength bs with
    | .ok n => Char.ofNat (codePoint n bs) :: lossyChars (bs.drop (max n 1))
    | .error len => '�' :: lossyChars (bs.drop (max (len.getD bs.length) 1))
termination_by bs.length
decreasing_by all_goals subst _h; simp only [List.length_drop, List.length_cons]; omega

/-- Bytes as text, each invalid sequence replaced with U+FFFD. -/
def lossy (bs : List UInt8) : String := String.ofList (lossyChars bs)

/-- The UTF-8 bytes of a text. -/
def bytesOf (s : String) : List UInt8 := s.toUTF8.toList

end StateMetrics.Text.Utf8
