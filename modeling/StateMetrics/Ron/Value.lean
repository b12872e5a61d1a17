/-! # RON values

A RON document holds one value: a unit, a boolean, a character, a string, an integer, a
float, an optional value, a sequence, or a map. Structs read as maps from their field names,
tuples as sequences, and a named unit as the unit.

A map keeps its entries sorted by key and holds each key once, the value given last winning.
Keys are ordered first by their kind (booleans, characters, maps, numbers, options, strings,
sequences, units), then booleans, characters, numbers and strings by value, an integer before
any float and a float that is not a number before all other floats; keys of the other kinds
compare by kind alone. -/

namespace StateMetrics.Ron

/-- A RON value. -/
inductive Value where
  | unit
  | bool (b : Bool)
  | char (c : Char)
  | string (s : String)
  | integer (i : Int)
  | float (f : Float)
  | option (v : Option Value)
  | seq (items : List Value)
  | map (entries : List (Value × Value))
  deriving Inhabited

namespace Value

/-- The rank of a key's kind. -/
def rank : Value → Nat
  | .bool _ => 0
  | .char _ => 1
  | .map _ => 2
  | .integer _ | .float _ => 3
  | .option _ => 4
  | .string _ => 5
  | .seq _ => 6
  | .unit => 7

/-- Compares floats, a float that is not a number coming first. -/
def floatOrder (x y : Float) : Ordering :=
  if x.isNaN then (if y.isNaN then .eq else .lt)
  else if y.isNaN then .gt
  else if x < y then .lt
  else if y < x then .gt
  else .eq

/-- Compares two map keys. -/
def compareKey : Value → Value → Ordering
  | .bool x, .bool y => compare x.toNat y.toNat
  | .char x, .char y => compare x.toNat y.toNat
  | .integer x, .integer y => compare x y
  | .integer _, .float _ => .lt
  | .float _, .integer _ => .gt
  | .float x, .float y => floatOrder x y
  | .string x, .string y => compare x y
  | a, b => compare a.rank b.rank

end Value

/-- Puts an entry into a map sorted by key, replacing the value of an equal key. -/
def putEntry (k v : Value) : List (Value × Value) → List (Value × Value)
  | [] => [(k, v)]
  | (k', v') :: rest =>
    match Value.compareKey k k' with
    | .lt => (k, v) :: (k', v') :: rest
    | .eq => (k', v) :: rest
    | .gt => (k', v') :: putEntry k v rest

end StateMetrics.Ron
