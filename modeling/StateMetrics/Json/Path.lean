import StateMetrics.Json.Basic

/-! # Dotted paths into JSON values

A path such as `status.phase` names a value inside nested objects: it is cut at every dot,
and each segment, the empty one included, is a key of the object reached so far. The empty
path names nothing. Reading through anything but an object fails softly, as a missing value.

The readers built on it give the value a metric needs: the text of a string (else empty), a
number (`toFloat`: numbers as doubles, `true` and `false` as one and zero, numeral strings by
their value, anything else zero), the members of an object, or the items of an array. -/

namespace StateMetrics.Json

/-- The segments of a dotted path: the text between dots, empty segments included. -/
def splitDots : List Char → List (List Char)
  | [] => [[]]
  | c :: rest =>
    if c = '.' then [] :: splitDots rest
    else match splitDots rest with
      | s :: ss => (c :: s) :: ss
      | [] => [[c]]

/-- The keys that a dotted path names, in order. -/
def segments (path : String) : List String :=
  (splitDots path.toList).map String.ofList

/-- The value reached by following keys from a value, each step through an object. -/
def follow (v : Json) (keys : List String) : Option Json :=
  keys.foldlM (fun cur key => cur.get? key) v

/-- The value at a dotted path; the empty path names nothing. -/
def lookup (v : Json) (path : String) : Option Json :=
  if path.isEmpty then none else follow v (segments path)

/-- The value as a double: numbers by value, booleans as one and zero, strings that are
numerals by their value, everything else zero. -/
def toFloat : Json → Float
  | .num n => n.toFloat
  | .bool b => if b then 1.0 else 0.0
  | .str s => (parseFloat? s).getD 0.0
  | _ => 0.0

/-- The string at a path, or the empty string. -/
def extractString (v : Json) (path : String) : String :=
  ((lookup v path).bind asString?).getD ""

/-- The number at a path, or zero. -/
def extractFloat (v : Json) (path : String) : Float :=
  ((lookup v path).map toFloat).getD 0.0

/-- The members of the object at a path. -/
def extractMap (v : Json) (path : String) : Option (List (String × Json)) :=
  (lookup v path).bind asObject?

/-- The items of the array at a path, or none. -/
def extractSlice (v : Json) (path : String) : List Json :=
  ((lookup v path).bind asArray?).getD []

end StateMetrics.Json
