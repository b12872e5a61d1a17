import StateMetrics.Decimal.Text

/-! # JSON values

A JSON value as the exporter reads and keeps it. Numbers keep the distinction that the
reader makes: an integer that fits in 64 bits (signed or unsigned) stays an integer, every
other numeral is a double. An object is a list of members kept in ascending key order with
no key twice, so that iterating an object visits keys in byte order (the UTF-8 byte order of
two strings is the order of their code points). -/

namespace StateMetrics

/-- A JSON number: an integer within the 64-bit range, or a double. -/
inductive JsonNumber where
  | int (i : Int)
  | float (f : Float)
  deriving Inhabited

/-- A JSON value; the members of an object are in ascending key order, each key once. -/
inductive Json where
  | null
  | bool (b : Bool)
  | num (n : JsonNumber)
  | str (s : String)
  | arr (items : List Json)
  | obj (members : List (String × Json))
  deriving Inhabited

namespace JsonNumber

/-- The number as a double: integers are rounded to the nearest double. -/
def toFloat : JsonNumber → Float
  | .int i => floatOfInt i
  | .float f => f

end JsonNumber

namespace Json

/-- An integer value. -/
def ofInt (i : Int) : Json := .num (.int i)

/-- A natural number value. -/
def ofNat (n : Nat) : Json := .num (.int n)

/-- A double value. -/
def ofFloat (f : Float) : Json := .num (.float f)

/-- The value at a key of an object's member list. -/
def lookupMember (key : String) : List (String × Json) → Option Json
  | [] => none
  | (k, v) :: rest => if k = key then some v else lookupMember key rest

/-- Puts a member into a member list sorted by key, replacing the value of an equal key. -/
def insertMember (key : String) (v : Json) : List (String × Json) → List (String × Json)
  | [] => [(key, v)]
  | (k, w) :: rest =>
    if key < k then (key, v) :: (k, w) :: rest
    else if key = k then (key, v) :: rest
    else (k, w) :: insertMember key v rest

/-- An object from members in any order; of two equal keys the later wins. -/
def object (members : List (String × Json)) : Json :=
  .obj (members.foldl (fun acc (k, v) => insertMember k v acc) [])

/-- The member of an object at a key; nothing for other values. -/
def get? : Json → String → Option Json
  | .obj members, key => lookupMember key members
  | _, _ => none

/-- The text of a string value. -/
def asString? : Json → Option String
  | .str s => some s
  | _ => none

/-- The items of an array. -/
def asArray? : Json → Option (List Json)
  | .arr items => some items
  | _ => none

/-- The members of an object. -/
def asObject? : Json → Option (List (String × Json))
  | .obj members => some members
  | _ => none

/-- The value of a boolean. -/
def asBool? : Json → Option Bool
  | .bool b => some b
  | _ => none

/-- The integer of an integer number. -/
def asInt? : Json → Option Int
  | .num (.int i) => some i
  | _ => none

/-- Whether a value is `null`. -/
def isNull : Json → Bool
  | .null => true
  | _ => false

/-- Whether a value is an object. -/
def isObject : Json → Bool
  | .obj _ => true
  | _ => false

end Json

end StateMetrics
