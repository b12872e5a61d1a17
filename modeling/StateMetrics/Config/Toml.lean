import StateMetrics.Config.Value
import StateMetrics.Toml.Document

/-! # Configuration files in TOML

A TOML file is a table. Its entries become configuration values one for one: strings,
integers, floats and booleans as they are, date-times as the text they are shown with, arrays
as arrays, and tables, inline tables and arrays of tables as tables and arrays of tables. A
file that does not read fails with the reader's message. -/

namespace StateMetrics.Config

mutual

/-- The configuration value of a TOML value from a file. -/
def ofTomlValue (origin : Option String) : Toml.Value → Value
  | .string s => .text origin s
  | .integer i => .int origin i
  | .float f => .float origin f
  | .boolean b => .bool origin b
  | .datetime t => .text origin t
  | .array items => .array origin (ofTomlValues origin items)
  | .inline entries _ _ => .table origin (ofTomlEntries origin entries)

/-- The configuration values of TOML values. -/
def ofTomlValues (origin : Option String) : List Toml.Value → List Value
  | [] => []
  | v :: rest => ofTomlValue origin v :: ofTomlValues origin rest

/-- The members of an inline table. -/
def ofTomlEntries (origin : Option String) : List (String × Toml.Value) → List (String × Value)
  | [] => []
  | (k, v) :: rest => Value.putMember k (ofTomlValue origin v) (ofTomlEntries origin rest)

end

mutual

/-- The configuration value of an entry of a TOML table. -/
def ofTomlItem (origin : Option String) : Toml.Item → Value
  | .value v => ofTomlValue origin v
  | .table entries _ _ => .table origin (ofTomlItems origin entries)
  | .tables list => .array origin (ofTomlTables origin list)

/-- The members of a TOML table. -/
def ofTomlItems (origin : Option String) : List (String × Toml.Item) → List (String × Value)
  | [] => []
  | (k, i) :: rest => Value.putMember k (ofTomlItem origin i) (ofTomlItems origin rest)

/-- The tables of an array of tables. -/
def ofTomlTables (origin : Option String) : List (List (String × Toml.Item)) → List Value
  | [] => []
  | t :: rest => .table origin (ofTomlItems origin t) :: ofTomlTables origin rest

end

/-- Reads the entries of a TOML configuration file. -/
def parseTomlFile (uri text : String) : Except String (List (String × Value)) :=
  (Toml.parseDocument text).map (ofTomlItems (some uri))

end StateMetrics.Config
