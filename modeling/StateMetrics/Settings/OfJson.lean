import StateMetrics.Settings.Decode
import StateMetrics.Text.Quoted

/-! # Settings from JSON values

JSON values as a settings document. Scalars are taken as they are: only a string is text, only
a boolean is a truth value, only an integer in range is a number. A refused value is described
by its JSON type: `null`, ``boolean `true` ``, ``integer `5` ``, ``floating point `1.5` ``
(a double written as JSON writes it),
`string "x"`, `sequence`, `map`. A number out of range is an invalid value rather than one of
the wrong type. Failures carry no key: the message alone says what was wrong. -/

namespace StateMetrics.Settings

/-- How a JSON value is described when a decoder refuses it. -/
def describeJson : Json → String
  | .null => "null"
  | .bool b => "boolean `" ++ toString b ++ "`"
  | .num (.int i) => "integer `" ++ toString i ++ "`"
  | .num (.float f) => "floating point `" ++ (Float.jsonText? f).getD "NaN" ++ "`"
  | .str s => "string " ++ Text.quoted s
  | .arr _ => "sequence"
  | .obj _ => "map"

/-- The shape of a JSON value. -/
def jsonShape : Json → Shape Json
  | .null => .null
  | .arr xs => .seq xs
  | .obj ms => .map ms
  | _ => .scalar

/-- The failure for a JSON value of the wrong type. -/
def refuseJson (v : Json) (expected : String) : DecodeError :=
  .message ("invalid type: " ++ describeJson v ++ ", expected " ++ expected)

/-- JSON values as a settings document. -/
def jsonDialect : Dialect Json where
  shape := jsonShape
  describe := describeJson
  text
    | .str s => .ok s
    | v => .error (refuseJson v "a string")
  truth
    | .bool b => .ok b
    | v => .error (refuseJson v "a boolean")
  natural bound typeName
    | .num (.int i) =>
      if 0 ≤ i ∧ i < bound then .ok i.toNat
      else .error (.message ("invalid value: integer `" ++ toString i ++ "`, expected " ++ typeName))
    | v => .error (refuseJson v typeName)
  atKey _ e := e
  atIndex _ e := e
  refusesExtraItems := true

end StateMetrics.Settings
