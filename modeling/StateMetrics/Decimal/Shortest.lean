import StateMetrics.Decimal.Basic

/-! # Shortest decimal of a double

Every finite double stands for an interval of reals that round to it: halfway to each
neighbour, the ends included when the mantissa is even. The shortest decimal is found by
trying one, two, … seventeen significant digits; for each count only the two grid points
next to the value can lie in the interval, and the first count with a hit wins. Of two hits
the nearer is taken, and an exact tie goes to the even digit string. All comparisons are
exact, on natural numbers. -/

namespace StateMetrics.Binary

/-- The decimal order of a positive binary value: the `p` with `10 ^ p ≤ value < 10 ^ (p + 1)`. -/
def decimalOrder (b : Binary) : Int :=
  let l : Int := (b.mantissa.log2 : Int) + b.exponent
  let p := l * 78913 / 262144
  let p := if Decimal.compareScaled 1 (p + 1) b.mantissa b.exponent != .gt then p + 1 else p
  if Decimal.compareScaled 1 p b.mantissa b.exponent == .gt then p - 1 else p

/-- Whether `digits × 10 ^ k` lies in the rounding interval of `b`, whose ends are
`4m - g` and `4m + 2` in units of `2 ^ (e - 2)`. -/
def admits (b : Binary) (lowerGap : Nat) (inclusive : Bool) (digits : Nat) (k : Int) : Bool :=
  let lo := Decimal.compareScaled digits k (4 * b.mantissa - lowerGap) (b.exponent - 2)
  let hi := Decimal.compareScaled digits k (4 * b.mantissa + 2) (b.exponent - 2)
  (lo == .gt || (inclusive && lo == .eq)) && (hi == .lt || (inclusive && hi == .eq))

/-- The candidate with `n` significant digits: the grid point next to `b` on the grid of
step `10 ^ (p - n + 1)` that lies in its interval, the nearer one if both do. -/
def candidate (b : Binary) (p : Int) (n : Nat) : Option Decimal :=
  let k := p - n + 1
  let lowerGap := if b.mantissa = Nat.pow 2 52 ∧ b.exponent > -1074 then 1 else 2
  let inclusive := b.mantissa % 2 == 0
  let num := b.mantissa * Nat.pow 2 b.exponent.toNat * Nat.pow 10 (-k).toNat
  let den := Nat.pow 2 (-b.exponent).toNat * Nat.pow 10 k.toNat
  let down := num / den
  if num % den = 0 then some ⟨down, k⟩
  else
    let up := down + 1
    match admits b lowerGap inclusive down k, admits b lowerGap inclusive up k with
    | true, true =>
      match Decimal.compareScaled (2 * down + 1) k (8 * b.mantissa) (b.exponent - 2) with
      | .lt => some ⟨up, k⟩
      | .gt => some ⟨down, k⟩
      | .eq => some ⟨if down % 2 = 0 then down else up, k⟩
    | true, false => some ⟨down, k⟩
    | false, true => some ⟨up, k⟩
    | false, false => none

/-- The shortest decimal that rounds back to the positive binary value `b`, normalized. -/
def shortest (b : Binary) : Decimal :=
  let p := decimalOrder b
  let found := (List.range 17).findSome? fun i => candidate b p (i + 1)
  Decimal.normalize (found.getD ⟨b.mantissa * Nat.pow 2 b.exponent.toNat, 0⟩)

end StateMetrics.Binary
