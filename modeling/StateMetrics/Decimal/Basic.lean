/-! # Decimals and binary doubles

A `Decimal` is an unsigned number `digits × 10 ^ exponent`, the form in which numbers are read
from text and written back. A double is taken apart into its sign and an exact binary value
`mantissa × 2 ^ exponent` (`Binary`), so that every conversion between the two forms is plain
arithmetic on natural numbers and can be reasoned about without the processor's float
operations. -/

namespace StateMetrics

/-- An unsigned decimal number `digits × 10 ^ exponent`. -/
structure Decimal where
  digits : Nat
  exponent : Int
  deriving Repr, BEq, DecidableEq, Inhabited

/-- An unsigned binary number `mantissa × 2 ^ exponent`. -/
structure Binary where
  mantissa : Nat
  exponent : Int
  deriving Repr, BEq, DecidableEq, Inhabited

/-- What a double holds: a finite signed binary value, a signed infinity, or not a number. -/
inductive FloatClass where
  | finite (negative : Bool) (value : Binary)
  | infinite (negative : Bool)
  | nan
  deriving Repr, BEq, Inhabited

namespace Decimal

/-- The number of decimal digits of `n`; zero has none. -/
def digitCount (n : Nat) : Nat :=
  if n = 0 then 0 else digitCount (n / 10) + 1
termination_by n
decreasing_by omega

/-- Compares `a × 10 ^ i` with `b × 2 ^ j` exactly, by clearing both denominators. -/
def compareScaled (a : Nat) (i : Int) (b : Nat) (j : Int) : Ordering :=
  compare (a * Nat.pow 10 i.toNat * Nat.pow 2 (-j).toNat) (b * Nat.pow 2 j.toNat * Nat.pow 10 (-i).toNat)

/-- Drops trailing zero digits into the exponent, so that equal values get one form. -/
def normalize (d : Decimal) : Decimal :=
  if h : d.digits ≠ 0 ∧ d.digits % 10 = 0 then
    normalize ⟨d.digits / 10, d.exponent + 1⟩
  else d
termination_by d.digits
decreasing_by exact Nat.div_lt_self (Nat.pos_of_ne_zero h.1) (by decide)

/-- The decimal digits of a natural number as text, most significant first. -/
def digitText (n : Nat) : String :=
  String.ofList (Nat.toDigits 10 n)

end Decimal

namespace Binary

/-- The bits of a double in the binary64 layout: sign, eleven exponent bits, fifty-two
fraction bits. -/
def classify (f : Float) : FloatClass :=
  let bits : Nat := f.toBits.toNat
  let negative : Bool := bits / Nat.pow 2 63 % 2 == 1
  let biased : Nat := bits / Nat.pow 2 52 % 2048
  let fraction : Nat := bits % Nat.pow 2 52
  if biased = 2047 then
    if fraction = 0 then .infinite negative else .nan
  else if biased = 0 then .finite negative ⟨fraction, -1074⟩
  else .finite negative ⟨fraction + Nat.pow 2 52, (biased : Int) - 1075⟩

/-- The bits of the double nearest to `num / den`, a half going to the even mantissa;
values beyond the largest finite double give infinity. Needs `0 < num` and `0 < den`. -/
def nearestBits (num den : Nat) : Nat :=
  let l0 : Int := (num.log2 : Int) - den.log2
  let below := if 0 ≤ l0 then num < den * Nat.pow 2 l0.toNat else num * Nat.pow 2 (-l0).toNat < den
  let l := if below then l0 - 1 else l0
  let s := max (l - 52) (-1074)
  let n := num * Nat.pow 2 (-s).toNat
  let d := den * Nat.pow 2 s.toNat
  let q := n / d
  let r := n % d
  let q := if 2 * r > d ∨ (2 * r = d ∧ q % 2 = 1) then q + 1 else q
  let (q, s) := if q = Nat.pow 2 53 then (Nat.pow 2 52, s + 1) else (q, s)
  if s + 52 > 1023 then 0x7FF0000000000000
  else if q < Nat.pow 2 52 then q
  else (s + 1075).toNat * Nat.pow 2 52 + (q - Nat.pow 2 52)

/-- A key that orders doubles totally: negative not-a-numbers, negative infinity, negative
numbers, negative zero, positive zero, positive numbers, positive infinity, positive
not-a-numbers. Negative doubles have their bits inverted, the others their sign bit set. -/
def totalKey (f : Float) : Nat :=
  let bits := f.toBits.toNat
  if bits ≥ Nat.pow 2 63 then Nat.pow 2 64 - 1 - bits else bits + Nat.pow 2 63

end Binary

/-- A double with the given sign and magnitude bits. -/
def floatOfBits (negative : Bool) (magnitude : Nat) : Float :=
  Float.ofBits (magnitude + if negative then Nat.pow 2 63 else 0).toUInt64

namespace Decimal

/-- The double nearest to a decimal: zero when it is below a tenth of the smallest
subnormal's order, infinity when its order is beyond the largest double's. -/
def toFloat (negative : Bool) (d : Decimal) : Float :=
  if d.digits = 0 then floatOfBits negative 0
  else
    let order : Int := (digitCount d.digits : Int) - 1 + d.exponent
    if order > 308 then floatOfBits negative 0x7FF0000000000000
    else if order < -325 then floatOfBits negative 0
    else
      let num := d.digits * Nat.pow 10 d.exponent.toNat
      let den := Nat.pow 10 (-d.exponent).toNat
      floatOfBits negative (Binary.nearestBits num den)

end Decimal

/-- The double nearest to an integer. -/
def floatOfInt (i : Int) : Float :=
  Decimal.toFloat (i < 0) ⟨i.natAbs, 0⟩

end StateMetrics
