import StateMetrics.Config.Value
import StateMetrics.Ini.Document

/-! # Configuration files in INI

Every value of an INI file is a string. The properties of the general section are the file's
entries one for one, their keys read as paths like any entry's; every other section is an entry
named by the section, a table of its properties. Later entries of one name replace earlier
ones, so a section that comes twice keeps only its last properties. -/

namespace StateMetrics.Config

/-- Sets an entry, replacing one of the same name. -/
def putEntry (key : String) (v : Value) : List (String × Value) → List (String × Value)
  | [] => [(key, v)]
  | (k, w) :: rest => if k == key then (key, v) :: rest else (k, w) :: putEntry key v rest

/-- The entries of the sections of an INI document. -/
def ofIniSections (origin : Option String) (doc : Ini.Document) : List (String × Value) :=
  doc.foldl (fun acc (name, props) =>
    match name with
    | none => props.foldl (fun acc (k, v) => putEntry k (.text origin v) acc) acc
    | some s =>
      putEntry s (.table origin (props.foldl (fun ms (k, v) => Value.putMember k (.text origin v) ms) []))
        acc) []

/-- Reads the entries of an INI configuration file. -/
def parseIniFile (uri text : String) : Except String (List (String × Value)) :=
  match Ini.parse text with
  | .ok doc => .ok (ofIniSections (some uri) doc)
  | .error e => .error e.text

end StateMetrics.Config
