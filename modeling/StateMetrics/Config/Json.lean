import StateMetrics.Config.Decode
import StateMetrics.Json.Reader

/-! # Configuration files in JSON

A JSON document becomes a configuration tree value by value: integers within 64 signed bits
stay integers and larger ones become doubles, and every value comes from the file. The document
must be an object, whose members are the file's entries. -/

namespace StateMetrics.Config

mutual

/-- The configuration value of a JSON value from a file. -/
def ofJson (origin : Option String) : Json → Value
  | .null => .nil origin
  | .bool b => .bool origin b
  | .num (.int i) => if i < Nat.pow 2 63 then .int origin i else .float origin (floatOfInt i)
  | .num (.float f) => .float origin f
  | .str s => .text origin s
  | .arr xs => .array origin (ofJsonItems origin xs)
  | .obj ms => .table origin (ofJsonMembers origin ms)

/-- The configuration values of JSON items. -/
def ofJsonItems (origin : Option String) : List Json → List Value
  | [] => []
  | x :: rest => ofJson origin x :: ofJsonItems origin rest

/-- The configuration members of JSON members. -/
def ofJsonMembers (origin : Option String) : List (String × Json) → List (String × Value)
  | [] => []
  | (k, x) :: rest => (k, ofJson origin x) :: ofJsonMembers origin rest

end

/-- The entries of a file whose document is the value: it must be a table. -/
def rootEntries (uri : String) (v : Value) : Except String (List (String × Value)) :=
  match v with
  | .table _ ms => .ok ms
  | _ => .error ("invalid type: " ++ unexpected v ++ ", expected a map in " ++ uri)

/-- Reads the entries of a JSON configuration file. -/
def parseJsonFile (uri text : String) : Except String (List (String × Value)) :=
  match Json.read text with
  | .error msg => .error msg
  | .ok v => rootEntries uri (ofJson (some uri) v)

end StateMetrics.Config
