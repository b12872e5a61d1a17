import StateMetrics.Config.Value
import StateMetrics.Settings.Decode
import StateMetrics.Decimal.Text
import StateMetrics.Text.Integer
import StateMetrics.Text.Quoted

/-! # Decoding the configuration tree

The configuration tree as a settings document. Its scalars convert freely: any scalar is text
(`true`, `5`, `1.5`); a truth value may also be a number (nonzero is true) or one of the words
`1`, `true`, `on`, `yes`, `0`, `false`, `off`, `no` in any letter case; a natural number may
also be a truth value, a double rounded half away from zero (negative and not-a-number give
zero, the too large give the largest), or a numeral or one of those words. A number too large
for a narrower field is of the wrong type, and that failure names no origin.

A scalar that does not convert is of the wrong type, and the failure names the key it sits
under, joined with dots and subscripts, and the value's origin. A value the decoder itself
refuses (a map where a sequence belongs, say) fails with a plain message. -/

namespace StateMetrics.Config

open Settings

/-- How the tree's own conversions describe a value they refuse: floating point numbers as
written positionally, `inf`, `NaN`. -/
def unexpected : Value → String
  | .nil _ => "unit value"
  | .bool _ b => "boolean `" ++ toString b ++ "`"
  | .int _ i => "64-bit integer `" ++ toString i ++ "`"
  | .float _ f => "floating point `" ++ Float.plainText f ++ "`"
  | .text _ s => "string " ++ Text.quoted s
  | .array .. => "sequence"
  | .table .. => "map"

/-- How a decoder describes a value it refuses. -/
def describe : Value → String
  | .nil _ => "unit value"
  | .bool _ b => "boolean `" ++ toString b ++ "`"
  | .int _ i => "integer `" ++ toString i ++ "`"
  | .float _ f => "floating point `" ++ Float.pointedText f ++ "`"
  | .text _ s => "string " ++ Text.quoted s
  | .array .. => "sequence"
  | .table .. => "map"

/-- The failure of a conversion: a value of the wrong type, with its origin. -/
def wrongType (v : Value) (what expected : String) : DecodeError :=
  .mismatch what expected none v.origin

/-- A value as text. -/
def toText (v : Value) : Except DecodeError String :=
  match v with
  | .text _ s => .ok s
  | .bool _ b => .ok (toString b)
  | .int _ i => .ok (toString i)
  | .float _ f => .ok (Float.plainText f)
  | _ => .error (wrongType v (unexpected v) "a string")

/-- The lower-case form of a text. -/
def lower (s : String) : String := Text.Unicode.lowercase s

/-- Whether a double is zero. -/
def isZero (f : Float) : Bool :=
  match Binary.classify f with
  | .finite _ b => b.mantissa == 0
  | _ => false

/-- A value as a truth value. -/
def toTruth (v : Value) : Except DecodeError Bool :=
  match v with
  | .bool _ b => .ok b
  | .int _ i => .ok (i != 0)
  | .float _ f => .ok !(isZero f)
  | .text _ s =>
    let l := lower s
    if l == "1" || l == "true" || l == "on" || l == "yes" then .ok true
    else if l == "0" || l == "false" || l == "off" || l == "no" then .ok false
    else .error (wrongType v ("string " ++ Text.quoted l) "a boolean")
  | _ => .error (wrongType v (unexpected v) "a boolean")

/-- A double rounded half away from zero to an unsigned 64-bit integer, saturating. -/
def roundToNat (f : Float) : Nat := f.round.toUInt64.toNat

/-- A value as an unsigned 64-bit integer. -/
def toNatural (v : Value) : Except DecodeError Nat :=
  match v with
  | .int _ i =>
    if 0 ≤ i then .ok i.toNat
    else .error (wrongType v (unexpected v) "an unsigned 64 bit or less integer")
  | .bool _ b => .ok (if b then 1 else 0)
  | .float _ f => .ok (roundToNat f)
  | .text _ s =>
    let l := lower s
    if l == "true" || l == "on" || l == "yes" then .ok 1
    else if l == "false" || l == "off" || l == "no" then .ok 0
    else match Text.parseU64 s with
      | .ok n => .ok n
      | .error _ => .error (wrongType v ("string " ++ Text.quoted s) "an integer")
  | _ => .error (wrongType v (unexpected v) "an integer")

/-- Puts a segment in front of the key of a failure of the wrong type: with a dot before a name,
without one before a subscript or when there is no key yet. -/
def prependKey (segment : String) (dot : Bool) : DecodeError → DecodeError
  | .mismatch u e key o =>
    let k := key.getD ""
    let sep := if dot && !k.isEmpty && !k.startsWith "[" then "." else ""
    .mismatch u e (some (segment ++ sep ++ k)) o
  | e => e

/-- The shape of a value. -/
def shape : Value → Shape Value
  | .nil _ => .null
  | .array _ items => .seq items
  | .table _ ms => .map ms
  | _ => .scalar

/-- The configuration tree as a settings document. -/
def dialect : Dialect Value where
  shape := shape
  describe := describe
  text := toText
  truth := toTruth
  natural bound typeName v := do
    let n ← toNatural v
    if n < bound then .ok n
    else .error (.mismatch ("64-bit unsigned integer \x60" ++ toString n ++ "\x60")
      ("an unsigned " ++ String.ofList (typeName.toList.drop 1) ++ " bit integer") none none)
  atKey k e := prependKey k true e
  atIndex i e := prependKey ("[" ++ toString i ++ "]") false e
  refusesExtraItems := false

end StateMetrics.Config
