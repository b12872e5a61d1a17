/-! # Base64 with canonical padding

Decodes the standard alphabet (`A`–`Z`, `a`–`z`, `0`–`9`, `+`, `/`), four symbols for three
bytes, with `=` as padding. The text is read in blocks of eight symbols; the last block, which may
be shorter, is the only place padding may stand.

* A text whose length leaves one or five symbols over the last whole block cannot hold whole
  bytes. It is refused for its length, unless its last byte is neither a symbol nor padding: then
  that byte is named, since trailing white space is the usual cause.
* Every byte before the last block must be a symbol; the first that is not is named with its
  offset.
* In the last block, padding may not stand first or second in a group of four (it is named at
  the first padding byte of the block, if there was one before, and where it stands otherwise),
  and nothing but padding may follow padding (named at the first padding byte). A byte that is
  neither is named.
* Symbols and padding together must fill whole groups of four, and the bits of the last symbol
  that fall beyond the last whole byte must be zero. -/

namespace StateMetrics.Text.Base64

/-- Why a text is not base64. -/
inductive Fault where
  /-- A byte that may not stand where it does, with its offset. -/
  | invalidByte (offset : Nat) (byte : UInt8)
  /-- The length leaves six bits over. -/
  | invalidLength
  /-- The last symbol has bits set beyond the last whole byte. -/
  | invalidLastSymbol (offset : Nat) (byte : UInt8)
  /-- Symbols and padding do not fill whole groups of four. -/
  | invalidPadding
  deriving Repr, BEq, DecidableEq, Inhabited

/-- The message of a fault. -/
def Fault.message : Fault → String
  | .invalidByte i b => "Invalid byte " ++ toString b ++ ", offset " ++ toString i ++ "."
  | .invalidLength => "Encoded text cannot have a 6-bit remainder."
  | .invalidLastSymbol i b => "Invalid last symbol " ++ toString b ++ ", offset " ++ toString i ++ "."
  | .invalidPadding => "Invalid padding"

/-- The padding byte `=`. -/
def pad : UInt8 := 61

/-- The value of a symbol of the standard alphabet. -/
def symbolValue? (b : UInt8) : Option Nat :=
  if 65 ≤ b && b ≤ 90 then some (b.toNat - 65)
  else if 97 ≤ b && b ≤ 122 then some (b.toNat - 97 + 26)
  else if 48 ≤ b && b ≤ 57 then some (b.toNat - 48 + 52)
  else if b == 43 then some 62
  else if b == 47 then some 63
  else none

/-- The first byte that is not a symbol, with its offset. -/
def firstNonSymbol : Nat → List UInt8 → Option (Nat × UInt8)
  | _, [] => none
  | i, b :: rest => if (symbolValue? b).isSome then firstNonSymbol (i + 1) rest else some (i, b)

/-- The bytes that symbol values stand for: three for each four, and one or two for a last
group of two or three. -/
def bytesOf : List Nat → List UInt8
  | a :: b :: c :: d :: rest =>
    UInt8.ofNat (a * 4 + b / 16) :: UInt8.ofNat ((b % 16) * 16 + c / 4) ::
      UInt8.ofNat ((c % 4) * 64 + d) :: bytesOf rest
  | [a, b, c] => [UInt8.ofNat (a * 4 + b / 16), UInt8.ofNat ((b % 16) * 16 + c / 4)]
  | [a, b] => [UInt8.ofNat (a * 4 + b / 16)]
  | _ => []

/-- What has been read of the last block. -/
structure Tail where
  pads : Nat := 0
  firstPad : Nat := 0
  symbols : List Nat := []
  last : UInt8 := 0
  deriving Inhabited

/-- Reads one byte of the last block, which starts at offset `start`; `i` is the byte's place in
the block. -/
def tailStep (start : Nat) (t : Tail) (bi : UInt8 × Nat) : Except Fault Tail :=
  let (b, i) := bi
  if b == pad then
    if i % 4 < 2 then .error (.invalidByte (start + (if t.pads > 0 then t.firstPad else i)) b)
    else .ok { t with pads := t.pads + 1, firstPad := if t.pads == 0 then i else t.firstPad }
  else if t.pads > 0 then .error (.invalidByte (start + t.firstPad) pad)
  else
    match symbolValue? b with
    | none => .error (.invalidByte (start + i) b)
    | some v => .ok { t with symbols := t.symbols ++ [v], last := b }

/-- Decodes a base64 text. -/
def decode (input : List UInt8) : Except Fault (List UInt8) := do
  let n := input.length
  let r := n % 8
  if r == 1 || r == 5 then
    match input.getLast? with
    | some b =>
      if b != pad && (symbolValue? b).isNone then throw (.invalidByte (n - 1) b)
      else throw .invalidLength
    | none => throw .invalidLength
  let start := n - (if r == 0 then min 8 n else r)
  let body := input.take start
  match firstNonSymbol 0 body with
  | some (i, b) => throw (.invalidByte i b)
  | none => pure ()
  let tail ← ((input.drop start).zipIdx.foldlM (tailStep start) {} : Except Fault Tail)
  let m := tail.symbols.length
  if (tail.pads + m) % 4 != 0 then throw .invalidPadding
  match tail.symbols.getLast? with
  | some v =>
    if v % Nat.pow 2 ((6 * m) % 8) != 0 then throw (.invalidLastSymbol (start + m - 1) tail.last)
  | none => pure ()
  pure (bytesOf (body.filterMap symbolValue? ++ tail.symbols))

end StateMetrics.Text.Base64
