import StateMetrics.Decimal.Shortest

/-! # Numerals as text

Reading: a numeral is an optional sign followed either by decimal digits with an optional
point and an optional exponent (`1.`, `.5`, `1e5`, `2.5E-3`), or by one of the words `inf`,
`infinity` and `nan` in any letter case. Nothing else may surround it. Its value is the
double nearest to the decimal.

Writing: a double is written by its shortest decimal, either in full positional notation
(`plain`, as in metric exposition) or in the notation of JSON documents (`json`), which
switches to an exponent outside `1e-5 ≤ |x| < 1e16` and always shows that the number is not
an integer. -/

namespace StateMetrics

/-- What a numeral denotes: a signed decimal, a signed infinity, or not a number. -/
inductive Numeral where
  | finite (negative : Bool) (value : Decimal)
  | infinite (negative : Bool)
  | nan
  deriving Repr, BEq, Inhabited

namespace Numeral

/-- The value of a run of decimal digits. -/
def digitsValue (cs : List Char) : Nat :=
  cs.foldl (fun n c => 10 * n + (c.toNat - '0'.toNat)) 0

/-- Reads an optional exponent part: nothing, or `e`/`E`, an optional sign and at least one
digit. Returns the exponent and the rest of the input. -/
def readExponent : List Char → Option (Int × List Char)
  | c :: rest =>
    if c = 'e' ∨ c = 'E' then
      let (negative, body) := match rest with
        | '-' :: r => (true, r)
        | '+' :: r => (false, r)
        | r => (false, r)
      let ds := body.takeWhile Char.isDigit
      if ds.isEmpty then none
      else
        let v : Int := digitsValue ds
        some (if negative then -v else v, body.dropWhile Char.isDigit)
    else some (0, c :: rest)
  | [] => some (0, [])

/-- Reads the unsigned decimal part: digits, an optional point with digits, an optional
exponent, and nothing after. At least one digit must stand before or after the point. -/
def readDecimal (cs : List Char) : Option Decimal :=
  let whole := cs.takeWhile Char.isDigit
  let rest := cs.dropWhile Char.isDigit
  let (fraction, rest) := match rest with
    | '.' :: r => (r.takeWhile Char.isDigit, r.dropWhile Char.isDigit)
    | r => ([], r)
  if whole.isEmpty ∧ fraction.isEmpty then none
  else match readExponent rest with
    | some (e, []) => some ⟨digitsValue (whole ++ fraction), e - fraction.length⟩
    | _ => none

/-- The words for infinity and not-a-number, compared without letter case. -/
def readWord (cs : List Char) : Option Numeral :=
  let w := String.ofList (cs.map Char.toLower)
  if w = "inf" ∨ w = "infinity" then some (.infinite false)
  else if w = "nan" then some .nan
  else none

/-- Reads a whole text as a numeral, or fails. -/
def read? (s : String) : Option Numeral :=
  let (negative, body) := match s.toList with
    | '-' :: r => (true, r)
    | '+' :: r => (false, r)
    | r => (false, r)
  if body.isEmpty then none
  else match readDecimal body with
    | some d => some (.finite negative d)
    | none => (readWord body).map fun
      | .infinite _ => .infinite negative
      | n => n

/-- The double a numeral denotes. -/
def toFloat : Numeral → Float
  | .finite negative d => d.toFloat negative
  | .infinite negative => floatOfBits negative 0x7FF0000000000000
  | .nan => floatOfBits false 0x7FF8000000000000

end Numeral

/-- Reads a numeral text as a double, if it is one. -/
def parseFloat? (s : String) : Option Float :=
  (Numeral.read? s).map Numeral.toFloat

namespace Decimal

/-- Positional notation of an unsigned decimal, without a point when it is an integer. -/
def plain (d : Decimal) : String :=
  let ds := Nat.toDigits 10 d.digits
  if 0 ≤ d.exponent then
    String.ofList (ds ++ List.replicate d.exponent.toNat '0')
  else
    let shift := (-d.exponent).toNat
    if shift < ds.length then
      String.ofList (ds.take (ds.length - shift) ++ '.' :: ds.drop (ds.length - shift))
    else
      String.ofList ('0' :: '.' :: List.replicate (shift - ds.length) '0' ++ ds)

/-- JSON notation of an unsigned decimal: positional for orders from -5 to 15 with at least
one fractional digit, otherwise one digit, the other digits after a point, and a signed
exponent (`1e+300`, `1.5e-7`). -/
def json (d : Decimal) : String :=
  let ds := Nat.toDigits 10 d.digits
  let order := (ds.length : Int) - 1 + d.exponent
  if -5 ≤ order ∧ order < 16 then
    if 0 ≤ d.exponent then plain d ++ ".0" else plain d
  else
    let mantissa := match ds with
      | [c] => String.ofList [c]
      | c :: rest => String.ofList (c :: '.' :: rest)
      | [] => "0"
    mantissa ++ (if order < 0 then "e-" else "e+") ++ toString order.natAbs

/-- Shortest notation of an unsigned decimal: as in JSON, but with the exponent's sign written
only when it is negative (`1e300`, `1.5e-7`). -/
def short (d : Decimal) : String :=
  let ds := Nat.toDigits 10 d.digits
  let order := (ds.length : Int) - 1 + d.exponent
  if -5 ≤ order ∧ order < 16 then d.json
  else
    let mantissa := match ds with
      | [c] => String.ofList [c]
      | c :: rest => String.ofList (c :: '.' :: rest)
      | [] => "0"
    mantissa ++ (if order < 0 then "e-" else "e") ++ toString order.natAbs

end Decimal

/-- Shortest text of a double in positional notation: `NaN`, `inf` and `-inf` for the
values without digits, and `-0` for negative zero. -/
def Float.plainText (f : Float) : String :=
  match Binary.classify f with
  | .nan => "NaN"
  | .infinite negative => if negative then "-inf" else "inf"
  | .finite negative b =>
    let body := if b.mantissa = 0 then "0" else (Binary.shortest b).plain
    if negative then "-" ++ body else body

/-- Shortest text of a finite double in JSON notation (`1.0`, `0.1`, `1e+300`, `-0.0`);
`none` for infinities and not-a-number, which JSON cannot write. -/
def Float.jsonText? (f : Float) : Option String :=
  match Binary.classify f with
  | .nan => none
  | .infinite _ => none
  | .finite negative b =>
    let body := if b.mantissa = 0 then "0.0" else (Binary.shortest b).json
    some (if negative then "-" ++ body else body)

/-- Shortest text of a double as YAML writes numbers: `1.0`, `0.1`, `1e300`, `-0.0`, and
`.inf`, `-.inf` and `.nan` for the values without digits. -/
def Float.shortText (f : Float) : String :=
  match Binary.classify f with
  | .nan => ".nan"
  | .infinite negative => if negative then "-.inf" else ".inf"
  | .finite negative b =>
    let body := if b.mantissa = 0 then "0.0" else (Binary.shortest b).short
    if negative then "-" ++ body else body

/-- Shortest positional text of a double that shows a point when it is finite (`1.0`,
`1000000000000000000000.0`, `-0.0`, `0.5`); `NaN`, `inf` and `-inf` as they are. -/
def Float.pointedText (f : Float) : String :=
  let t := Float.plainText f
  match Binary.classify f with
  | .finite .. => if t.contains '.' then t else t ++ ".0"
  | _ => t

end StateMetrics
