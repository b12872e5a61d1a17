import StateMetrics.Yaml.Parser
import StateMetrics.Text.Integer
import StateMetrics.Decimal.Text
import StateMetrics.Text.Quoted

/-! # YAML documents as trees

The configuration reader composes each document into a tree. An untagged plain scalar is
resolved by its text: `~` and `null` are null, `true` and `false` booleans, a decimal, `0x`
hexadecimal or `0o` octal integer within 64 signed bits an integer, a number (also `.inf`,
`-.inf` and `.nan` in the spellings the schema lists, except that `.NaN` is not among them) a
real kept as its text, and anything else a string. Quoted and block scalars
are always strings. A scalar tagged with the core schema follows the tag; a value that does not
fit its tag is a bad value. An alias is a copy of what its anchor's node was when complete. A
mapping may not hold two equal keys: the second one's value completing is a fault, reported
with the key as the tree writes it and the position of the event that completed the value. The
first such fault is kept while the rest of the text is still read, so that a fault of the text
itself, found later, is the one reported. -/

namespace StateMetrics.Yaml

/-- A node of a composed document. -/
inductive Node where
  | real (text : String)
  | integer (value : Int)
  | string (text : String)
  | boolean (value : Bool)
  | array (items : List Node)
  | hash (entries : List (Node × Node))
  | null
  | badValue
  deriving Repr, Inhabited

mutual

/-- A text that identifies a node: equal nodes, and only they, have equal texts. -/
def Node.canon : Node → String
  | .real t => "r" ++ toString t.length ++ ":" ++ t
  | .integer i => "i" ++ toString i ++ ";"
  | .string t => "s" ++ toString t.length ++ ":" ++ t
  | .boolean b => if b then "t" else "f"
  | .array items => "[" ++ canonItems items ++ "]"
  | .hash entries => "\x7b" ++ canonEntries entries ++ "\x7d"
  | .null => "n"
  | .badValue => "b"

/-- The identifying texts of items, each followed by a comma. -/
def canonItems : List Node → String
  | [] => ""
  | n :: rest => n.canon ++ "," ++ canonItems rest

/-- The identifying texts of entries. -/
def canonEntries : List (Node × Node) → String
  | [] => ""
  | (k, v) :: rest => k.canon ++ "=" ++ v.canon ++ "," ++ canonEntries rest

end

mutual

/-- A node as the tree writes it for a reader: its kind, then its contents in brackets. -/
def Node.debugText : Node → String
  | .real t => "Real(" ++ Text.quoted t ++ ")"
  | .integer i => "Integer(" ++ toString i ++ ")"
  | .string t => "String(" ++ Text.quoted t ++ ")"
  | .boolean b => "Boolean(" ++ toString b ++ ")"
  | .array items => "Array([" ++ debugItems items ++ "])"
  | .hash entries => "Hash(\x7b" ++ debugEntries entries ++ "\x7d)"
  | .null => "Null"
  | .badValue => "BadValue"

/-- Items as the tree writes them, separated by commas. -/
def debugItems : List Node → String
  | [] => ""
  | [n] => n.debugText
  | n :: rest => n.debugText ++ ", " ++ debugItems rest

/-- Entries as the tree writes them, a colon between key and value. -/
def debugEntries : List (Node × Node) → String
  | [] => ""
  | [(k, v)] => k.debugText ++ ": " ++ v.debugText
  | (k, v) :: rest => k.debugText ++ ": " ++ v.debugText ++ ", " ++ debugEntries rest

end

/-- Whether a node is the bad value. -/
def Node.isBad : Node → Bool
  | .badValue => true
  | _ => false

/-- Sets the value of a key, in the key's place when it is there already. -/
def hashInsert (k v : Node) : List (Node × Node) → List (Node × Node)
  | [] => [(k, v)]
  | (k', v') :: rest => if k'.canon == k.canon then (k', v) :: rest else (k', v') :: hashInsert k v rest

/-- Reads an integer in a radix with an optional sign, within 64 signed bits. -/
def parseRadixI64 (radix : Nat) (s : String) : Option Int :=
  let (negative, digits) := match s.toList with
    | '-' :: r => (true, r)
    | '+' :: r => (false, r)
    | r => (false, r)
  let value := fun (c : Char) =>
    if isDigit c then some (c.toNat - '0'.toNat)
    else if 'a' ≤ c && c ≤ 'z' then some (c.toNat - 'a'.toNat + 10)
    else if 'A' ≤ c && c ≤ 'Z' then some (c.toNat - 'A'.toNat + 10)
    else none
  if digits.isEmpty then none
  else
    let n := digits.foldl (fun acc c => acc.bind fun a =>
      (value c).bind fun d => if d < radix then some (a * radix + d) else none) (some 0)
    n.bind fun n =>
      let i : Int := if negative then -(n : Int) else n
      if -(Nat.pow 2 63 : Int) ≤ i && i < Nat.pow 2 63 then some i else none

/-- Whether a text is a real number of the core schema. -/
def isReal (v : String) : Bool :=
  [".inf", ".Inf", ".INF", "+.inf", "+.Inf", "+.INF", "-.inf", "-.Inf", "-.INF", ".nan", "NaN", ".NAN"].contains v ||
    (parseFloat? v).isSome

/-- Resolves an untagged plain scalar. -/
def resolvePlain (v : String) : Node :=
  let radix := if v.startsWith "0x" then some (16, v.drop 2)
    else if v.startsWith "0o" then some (8, v.drop 2)
    else if v.startsWith "+" then some (10, v.drop 1)
    else none
  let early := radix.bind fun (r, rest) => parseRadixI64 r rest.toString
  match early with
  | some i => .integer i
  | none =>
    if v == "~" || v == "null" then .null
    else if v == "true" then .boolean true
    else if v == "false" then .boolean false
    else match Text.parseI64 v with
      | .ok i => .integer i
      | .error _ => if isReal v then .real v else .string v

/-- Resolves a scalar by its style and tag. -/
def resolveScalar (v : String) (style : ScalarStyle) (tag : Option Tag) : Node :=
  if style != .plain then .string v
  else match tag with
    | none => resolvePlain v
    | some t =>
      if t.handle != "tag:yaml.org,2002:" then .string v
      else match t.suffix with
        | "bool" => if v == "true" then .boolean true else if v == "false" then .boolean false else .badValue
        | "int" => match Text.parseI64 v with
          | .ok i => .integer i
          | .error _ => .badValue
        | "float" => if isReal v then .real v else .badValue
        | "null" => if v == "~" || v == "null" then .null else .badValue
        | _ => .string v

/-- The composer's state: finished documents, open collections with their anchors, the
pending key of each open mapping, the anchored nodes, and the first duplicated key met. -/
structure Composer where
  docs : List Node := []
  stack : List (Node × Nat) := []
  keys : List Node := []
  anchors : List (Nat × Node) := []
  fault : Option Fault := none
  deriving Inhabited

namespace Composer

/-- Puts a finished node, completed by an event at a position, into its parent: appended to a
sequence, or as a mapping's pending key or the value of that key; a key the mapping holds
already is a fault. A node without a parent is a document's root. -/
def insert (c : Composer) (node : Node) (anchor : Nat) (mark : Mark) : Composer :=
  let c := if anchor > 0 then { c with anchors := (anchor, node) :: c.anchors } else c
  match c.stack with
  | [] => { c with stack := [(node, anchor)] }
  | (.array items, a) :: rest => { c with stack := (.array (items ++ [node]), a) :: rest }
  | (.hash entries, a) :: rest =>
    match c.keys with
    | k :: ks =>
      if k.isBad then { c with keys := node :: ks }
      else if entries.any (·.1.canon == k.canon) then
        { c with fault := some (.plain mark (k.debugText ++ ": duplicated key in mapping")) }
      else { c with stack := (.hash (hashInsert k node entries), a) :: rest, keys := .badValue :: ks }
    | [] => c
  | _ => c

/-- Takes one event at its position. -/
def take (c : Composer) (mark : Mark) : Event → Composer
  | .documentEnd =>
    match c.stack with
    | [] => { c with docs := c.docs ++ [.badValue] }
    | (n, _) :: _ => { c with docs := c.docs ++ [n], stack := [] }
  | .sequenceStart a _ => { c with stack := (.array [], a) :: c.stack }
  | .mappingStart a _ => { c with stack := (.hash [], a) :: c.stack, keys := .badValue :: c.keys }
  | .sequenceEnd =>
    match c.stack with
    | (n, a) :: rest => { c with stack := rest }.insert n a mark
    | [] => c
  | .mappingEnd =>
    match c.stack with
    | (n, a) :: rest => { c with stack := rest, keys := c.keys.drop 1 }.insert n a mark
    | [] => c
  | .scalar v style a tag => c.insert (resolveScalar v style tag) a mark
  | .aliasOf id => c.insert ((c.anchors.lookup id).getD .badValue) 0 mark
  | _ => c

/-- Takes one event at its position; after a fault nothing more is composed. -/
def step (c : Composer) (ev : Event) (mark : Mark) : Composer :=
  if c.fault.isSome then c else c.take mark ev

end Composer

/-- The documents of a text as the configuration reader composes them, or its first fault. -/
def loadDocuments (text : String) : Except Fault (List Node) :=
  match events .modern text with
  | (_, some f) => .error f
  | (evs, none) =>
    let c := evs.foldl (fun (c : Composer) (e, m) => c.step e m) {}
    match c.fault with
    | some f => .error f
    | none => .ok c.docs

end StateMetrics.Yaml
