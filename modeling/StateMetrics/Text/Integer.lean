/-! # Integers as text

An integer numeral is an optional sign and decimal digits, nothing else: no blanks, no
separators, no other base. A minus sign is only for signed integers. Digits are read from the
left, and the first character that is not a digit, or the first digit that takes the value
beyond the width, decides the failure. -/

namespace StateMetrics.Text

/-- Why a text is not an integer of a given width. -/
inductive IntError where
  | empty
  | invalidDigit
  | tooLarge
  | tooSmall
  deriving Repr, BEq, DecidableEq, Inhabited

/-- The message of a refused integer numeral. -/
def IntError.message : IntError → String
  | .empty => "cannot parse integer from empty string"
  | .invalidDigit => "invalid digit found in string"
  | .tooLarge => "number too large to fit in target type"
  | .tooSmall => "number too small to fit in target type"

/-- Reads the digits of an integer numeral onto `acc`, failing once the magnitude passes
`limit`. -/
def readDigits (negative : Bool) (limit : Nat) (acc : Nat) : List Char → Except IntError Int
  | [] => .ok (if negative then -(acc : Int) else acc)
  | c :: rest =>
    if !c.isDigit then .error .invalidDigit
    else
      let acc := 10 * acc + (c.toNat - '0'.toNat)
      if acc > limit then .error (if negative then .tooSmall else .tooLarge)
      else readDigits negative limit acc rest

/-- Reads an integer numeral of `bits` bits, signed or unsigned. -/
def parseInteger (signed : Bool) (bits : Nat) (s : String) : Except IntError Int :=
  let top := if signed then Nat.pow 2 (bits - 1) - 1 else Nat.pow 2 bits - 1
  match s.toList with
  | [] => .error .empty
  | ['+'] | ['-'] => .error .invalidDigit
  | '+' :: rest => readDigits false top 0 rest
  | '-' :: rest => if signed then readDigits true (top + 1) 0 rest else .error .invalidDigit
  | cs => readDigits false top 0 cs

/-- Reads a signed 64-bit integer. -/
def parseI64 (s : String) : Except IntError Int := parseInteger true 64 s

/-- Reads an unsigned 64-bit integer. -/
def parseU64 (s : String) : Except IntError Nat := (parseInteger false 64 s).map Int.toNat

end StateMetrics.Text
