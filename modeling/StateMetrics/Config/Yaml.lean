import StateMetrics.Config.Json
import StateMetrics.Yaml.Node

/-! # Configuration files in YAML

A YAML file holds at most one document; no document at all reads as an empty table. The
document becomes a configuration tree node by node: strings, integers and booleans as they are,
reals read as doubles, mappings as tables whose keys are strings or integers written in
decimal, sequences as arrays, and anything else as nil. A mapping key of any other kind cannot
be a configuration key at all; the reader stops on it. -/

namespace StateMetrics.Config

open Yaml

/-- Why a YAML file gives no configuration. -/
inductive YamlError where
  /-- The file's own words for why it could not be read. -/
  | invalid (text : String)
  /-- A mapping has a key that is neither a string nor an integer. -/
  | unsupportedKey
  deriving Repr, Inhabited

mutual

/-- The configuration value of a YAML node from a file. -/
def ofNode (origin : Option String) : Node → Except YamlError Value
  | .string s => .ok (.text origin s)
  | .real t => match parseFloat? t with
    | some f => .ok (.float origin f)
    | none => .error (.invalid ("Parsing " ++ t ++ " as floating point number failed"))
  | .integer i => .ok (.int origin i)
  | .boolean b => .ok (.bool origin b)
  | .hash entries => do
    let ms ← ofEntries origin entries
    .ok (.table origin ms)
  | .array items => do
    let vs ← ofItems origin items
    .ok (.array origin vs)
  | .null | .badValue => .ok (.nil origin)

/-- The configuration values of YAML items. -/
def ofItems (origin : Option String) : List Node → Except YamlError (List Value)
  | [] => .ok []
  | n :: rest => do
    let v ← ofNode origin n
    let vs ← ofItems origin rest
    .ok (v :: vs)

/-- The members of a YAML mapping, in key order, a later equal key replacing the value. -/
def ofEntries (origin : Option String) : List (Node × Node) → Except YamlError (List (String × Value))
  | [] => .ok []
  | (k, n) :: rest => do
    let key ← match k with
      | .string s => .ok s
      | .integer i => .ok (toString i)
      | _ => .error .unsupportedKey
    let v ← ofNode origin n
    let ms ← ofEntries origin rest
    .ok (if ms.any (·.1 == key) then ms else Value.putMember key v ms)

end

/-- Reads the entries of a YAML configuration file. -/
def parseYamlFile (uri text : String) : Except YamlError (List (String × Value)) :=
  match loadDocuments text with
  | .error f => .error (.invalid f.modernText)
  | .ok [] => .ok []
  | .ok [doc] => do
    let v ← ofNode (some uri) doc
    match rootEntries uri v with
    | .ok ms => .ok ms
    | .error e => .error (.invalid e)
  | .ok docs => .error (.invalid ("Got " ++ toString docs.length ++ " YAML documents, expected 1"))

end StateMetrics.Config
