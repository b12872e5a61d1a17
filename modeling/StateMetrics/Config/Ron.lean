import StateMetrics.Config.Json
import StateMetrics.Ron.Reader

/-! # Configuration files in RON

A RON document becomes a configuration tree value by value: units and absent options are
empty, a present option is its value, characters are strings, integers and floats stay as they
are, sequences are arrays, and maps (structs among them) are tables. The keys of a map must be
strings or characters; any other key fails with the kind of value it is. Entries are taken in
the order of their keys, so of a character key and a string key that read alike, the string's
value wins. The document must be a map, whose entries are the file's. -/

namespace StateMetrics.Config

/-- The name a map key gives a table member, or why it cannot be one. -/
def ronKeyText : Ron.Value → Except String String
  | .string s => .ok s
  | .char c => .ok (String.singleton c)
  | .bool b => .error ("invalid type: boolean `" ++ toString b ++ "`, expected a string")
  | .integer i => .error ("invalid type: integer `" ++ toString i ++ "`, expected a string")
  | .float f => .error ("invalid type: floating point `" ++ Float.pointedText f ++ "`, expected a string")
  | .option _ => .error "invalid type: option, expected a string"
  | .seq _ => .error "invalid type: sequence, expected a string"
  | .map _ => .error "invalid type: map, expected a string"
  | .unit => .error "invalid type: unit value, expected a string"

mutual

/-- The configuration value of a RON value from a file. -/
def ofRon (origin : Option String) : Ron.Value → Except String Value
  | .unit => .ok (.nil origin)
  | .bool b => .ok (.bool origin b)
  | .char c => .ok (.text origin (String.singleton c))
  | .string s => .ok (.text origin s)
  | .integer i => .ok (.int origin i)
  | .float f => .ok (.float origin f)
  | .option none => .ok (.nil origin)
  | .option (some v) => ofRon origin v
  | .seq items => (ofRonItems origin items).map (.array origin)
  | .map entries => (ofRonEntries origin [] entries).map (.table origin)

/-- The configuration values of RON items. -/
def ofRonItems (origin : Option String) : List Ron.Value → Except String (List Value)
  | [] => .ok []
  | v :: rest => do
    let x ← ofRon origin v
    let xs ← ofRonItems origin rest
    pure (x :: xs)

/-- Adds the entries of a RON map, in order, to the members gathered so far. -/
def ofRonEntries (origin : Option String) (acc : List (String × Value)) :
    List (Ron.Value × Ron.Value) → Except String (List (String × Value))
  | [] => .ok acc
  | (k, v) :: rest => do
    let name ← ronKeyText k
    let x ← ofRon origin v
    ofRonEntries origin (Value.putMember name x acc) rest

end

/-- Reads the entries of a RON configuration file. -/
def parseRonFile (uri text : String) : Except String (List (String × Value)) :=
  match Ron.read text with
  | .error e => .error e.text
  | .ok v => ofRon (some uri) v >>= rootEntries uri

end StateMetrics.Config
