import StateMetrics.Yaml.Parser
import StateMetrics.Decimal.Text
import StateMetrics.Text.Quoted

/-! # YAML documents as data

The kubeconfig reader composes each document into a datum. A plain scalar is null when empty
or `~`, `null`, `Null` or `NULL`; a boolean when `true`, `True`, `TRUE` or the same for false;
an integer in decimal, `0x`, `0o` or `0b` form that fits 64 bits (unsigned, or signed when
negative), but not with a leading zero; a finite double, or `.inf`, `-.inf` or `.nan`; and a
string otherwise. An integer that needs 128 bits is refused, since a datum holds none that
wide. Quoted and block scalars are strings. An alias is a copy of its anchor's node.

A scalar tagged with the core schema's `bool`, `int`, `float` or `null` must read as one, and
one with any other resolved tag is a string. A node with a local tag (`!name`) is kept as a
tagged datum: the kubeconfig's typed members read the value under the tag, while a free-form
member refuses it.

A mapping may not repeat a key: that fails with the key, the mapping's position and its path in
the document. A scalar that is refused fails with its own position and path. -/

namespace StateMetrics.Yaml

open Text

/-- A composed datum. -/
inductive Datum where
  | null
  | bool (b : Bool)
  | unsigned (n : Nat)
  | signed (i : Int)
  | float (f : Float)
  | string (s : String)
  | seq (items : List Datum)
  | map (entries : List (Datum × Datum))
  | tagged (tag : String) (value : Datum)
  deriving Repr, Inhabited

mutual

/-- A text that identifies a datum: equal data, and only they, have equal texts. -/
def Datum.canon : Datum → String
  | .null => "n"
  | .bool b => if b then "t" else "f"
  | .unsigned n => "u" ++ toString n ++ ";"
  | .signed i => "i" ++ toString i ++ ";"
  | .float f => if f.isNaN then "nan" else if f == 0 then "d0;" else "d" ++ toString f.toBits ++ ";"
  | .string s => "s" ++ toString s.length ++ ":" ++ s
  | .seq items => "[" ++ datumItems items ++ "]"
  | .map entries => "\x7b" ++ datumEntries entries ++ "\x7d"
  | .tagged tag value => "<" ++ toString tag.length ++ ":" ++ tag ++ ">" ++ value.canon

/-- The identifying texts of items. -/
def datumItems : List Datum → String
  | [] => ""
  | d :: rest => d.canon ++ "," ++ datumItems rest

/-- The identifying texts of entries. -/
def datumEntries : List (Datum × Datum) → String
  | [] => ""
  | (k, v) :: rest => k.canon ++ "=" ++ v.canon ++ "," ++ datumEntries rest

end

/-- The datum under its tags. -/
def Datum.untag : Datum → Datum
  | .tagged _ v => v.untag
  | d => d

mutual

/-- The datum with every tag inside it dropped. -/
def Datum.untagAll : Datum → Datum
  | .tagged _ v => v.untagAll
  | .seq items => .seq (untagItems items)
  | .map entries => .map (untagEntries entries)
  | d => d

/-- Items with their tags dropped. -/
def untagItems : List Datum → List Datum
  | [] => []
  | d :: rest => d.untagAll :: untagItems rest

/-- Entries with their tags dropped. -/
def untagEntries : List (Datum × Datum) → List (Datum × Datum)
  | [] => []
  | (k, v) :: rest => (k.untagAll, v.untagAll) :: untagEntries rest

end

mutual

/-- Whether a tag stands anywhere in a datum. -/
def Datum.hasTag : Datum → Bool
  | .tagged _ _ => true
  | .seq items => anyTagged items
  | .map entries => anyTaggedEntry entries
  | _ => false

/-- Whether a tag stands anywhere in some items. -/
def anyTagged : List Datum → Bool
  | [] => false
  | d :: rest => d.hasTag || anyTagged rest

/-- Whether a tag stands anywhere in some entries. -/
def anyTaggedEntry : List (Datum × Datum) → Bool
  | [] => false
  | (k, v) :: rest => k.hasTag || v.hasTag || anyTaggedEntry rest

end

/-- Whether a text has a sign, then a zero and more digits: such a text is not a number. -/
def digitsButNotNumber (s : String) : Bool :=
  let body := match s.toList with
    | '-' :: r | '+' :: r => r
    | r => r
  body.length > 1 && body.head? == some '0' && (body.drop 1).all isDigit

/-- A text without its first `n` characters. -/
def dropChars (s : String) (n : Nat) : String := String.ofList (s.toList.drop n)

/-- Reads digits of a radix, below a bound. -/
def radixNat (bound radix : Nat) (t : String) : Option Nat :=
  let digits := t.toList
  if digits.isEmpty then none
  else
    let v := digits.foldl (fun acc c => acc.bind fun a =>
      let d := if isDigit c then c.toNat - '0'.toNat
        else if 'a' ≤ c && c ≤ 'z' then c.toNat - 'a'.toNat + 10
        else if 'A' ≤ c && c ≤ 'Z' then c.toNat - 'A'.toNat + 10 else 99
      if d < radix then some (a * radix + d) else none) (some 0)
    v.bind fun n => if n < bound then some n else none

/-- Reads digits of a radix after an optional plus sign, below a bound. -/
def signedRadixNat (bound radix : Nat) (t : String) : Option Nat :=
  radixNat bound radix (if t.startsWith "+" then dropChars t 1 else t)

/-- Whether a text starts with a sign. -/
def signed? (t : String) : Bool := t.startsWith "+" || t.startsWith "-"

/-- Reads an unsigned integer of `bits` bits in one of the radix forms, or in decimal. -/
def readUnsigned (bits : Nat) (s : String) : Option Nat :=
  let bound := Nat.pow 2 bits
  let body := if s.startsWith "+" then dropChars s 1 else s
  let radixed := fun (tag : String) (radix : Nat) =>
    if body.startsWith tag then
      let rest := dropChars body tag.length
      if signed? rest then some none
      else (signedRadixNat bound radix rest).map some
    else none
  match radixed "0x" 16 with
  | some r => r
  | none => match radixed "0o" 8 with
    | some r => r
    | none => match radixed "0b" 2 with
      | some r => r
      | none =>
        if signed? body || digitsButNotNumber s then none
        else signedRadixNat bound 10 body

/-- Reads a negative integer of `bits` bits in one of the radix forms, or a signed integer in
decimal. -/
def readNegative (bits : Nat) (s : String) : Option Int :=
  let half := Nat.pow 2 (bits - 1)
  let negated := fun (radix : Nat) (t : String) =>
    (radixNat (half + 1) radix t).map fun n => -(n : Int)
  let radixed := fun (tag : String) (radix : Nat) =>
    if s.startsWith tag then negated radix (dropChars s tag.length) else none
  match radixed "-0x" 16 with
  | some i => some i
  | none => match radixed "-0o" 8 with
    | some i => some i
    | none => match radixed "-0b" 2 with
      | some i => some i
      | none =>
        if digitsButNotNumber s then none
        else if s.startsWith "-" then
          let rest := dropChars s 1
          if signed? rest then none else negated 10 rest
        else (signedRadixNat half 10 s).map fun n => (n : Int)

/-- Reads a double of the core schema: a finite number, or one of the infinity and
not-a-number words. -/
def readDouble (s : String) : Option Float :=
  let unsigned := if s.startsWith "+" then dropChars s 1 else s
  if s.startsWith "+" && signed? unsigned then none
  else if [".inf", ".Inf", ".INF"].contains unsigned then some (floatOfBits false 0x7FF0000000000000)
  else if ["-.inf", "-.Inf", "-.INF"].contains s then some (floatOfBits true 0x7FF0000000000000)
  else if [".nan", ".NaN", ".NAN"].contains s then some (floatOfBits false 0x7FF8000000000000)
  else match parseFloat? unsigned with
    | some f => if f.isFinite then some f else none
    | none => none

/-- Reads an integer: an unsigned then a negative one of 64 bits; an integer that needs 128
bits is refused with how it was read. `none` when the text is no integer. -/
def readInteger (v : String) : Option (Except String Datum) :=
  match readUnsigned 64 v with
  | some n => some (.ok (.unsigned n))
  | none => match readNegative 64 v with
    | some i => some (.ok (if i < 0 then .signed i else .unsigned i.toNat))
    | none => match readUnsigned 128 v with
      | some n => some (.error ("invalid type: integer \x60" ++ toString n ++
          "\x60 as u128, expected any YAML value"))
      | none => (readNegative 128 v).map fun i =>
          .error ("invalid type: integer \x60" ++ toString i ++ "\x60 as i128, expected any YAML value")

/-- Whether a text is a null of the core schema. -/
def isNullWord (v : String) : Bool := ["~", "null", "Null", "NULL"].contains v

/-- Reads a boolean of the core schema. -/
def readBool (v : String) : Option Bool :=
  if ["true", "True", "TRUE"].contains v then some true
  else if ["false", "False", "FALSE"].contains v then some false
  else none

/-- Resolves an untagged plain scalar. -/
def resolvePlainDatum (v : String) : Except String Datum :=
  if v.isEmpty || isNullWord v then .ok .null
  else match readBool v with
    | some b => .ok (.bool b)
    | none => match readInteger v with
      | some r => r
      | none =>
        match (if digitsButNotNumber v then none else readDouble v) with
        | some f => .ok (.float f)
        | none => .ok (.string v)

/-- The prefix of the core schema's tags. -/
def corePrefix : String := "tag:yaml.org,2002:"

/-- The refusal of a scalar that does not read as its tag says it should. -/
def notA (v what : String) : Except String Datum :=
  .error ("invalid value: string " ++ quoted v ++ ", expected " ++ what)

/-- Resolves a scalar by its style and its resolved tag, if any. -/
def resolveDatum (v : String) (style : ScalarStyle) (tag : Option String) : Except String Datum :=
  match tag with
  | some t =>
    if t == corePrefix ++ "bool" then
      match readBool v with
      | some b => .ok (.bool b)
      | none => notA v "a boolean"
    else if t == corePrefix ++ "int" then
      match readInteger v with
      | some r => r
      | none => notA v "an integer"
    else if t == corePrefix ++ "float" then
      match readDouble v with
      | some f => .ok (.float f)
      | none => notA v "a float"
    else if t == corePrefix ++ "null" then
      if isNullWord v then .ok .null else notA v "null"
    else .ok (.string v)
  | none => if style != .plain then .ok (.string v) else resolvePlainDatum v

/-- The name a local tag gives a node: the tag without its `!`, or the tag itself when that is
all it is; none for a tag that is not local. -/
def localTag? (tag : Option String) : Option String :=
  match tag with
  | some t =>
    if t.startsWith "!" then some (if t.length > 1 then dropChars t 1 else t) else none
  | none => none

/-- The full text of a resolved tag. -/
def Tag.text (t : Tag) : String := t.handle ++ t.suffix

/-- A step of the path to a node: a mapping key, or a sequence index. -/
inductive PathStep where
  | key (name : String)
  | index (i : Nat)
  deriving Repr, Inhabited

/-- The path to a node as messages write it: `.` for the root, keys joined by dots, indices
in brackets. -/
def pathText (steps : List PathStep) : String :=
  steps.foldl (fun acc s => match s with
    | .key k => if acc == "." then k else acc ++ "." ++ k
    | .index i => acc ++ "[" ++ toString i ++ "]") "."

/-- How a repeated key is named in the message; a real number is written in its shortest
form, with `.inf`, `-.inf` and `.nan` for the values without digits. -/
def duplicateText : Datum → String
  | .null => "duplicate entry with null key"
  | .bool b => "duplicate entry with key \x60" ++ (if b then "true" else "false") ++ "\x60"
  | .unsigned n => "duplicate entry with key " ++ toString n
  | .signed i => "duplicate entry with key " ++ toString i
  | .float f => "duplicate entry with key " ++ Float.shortText f
  | .string s => "duplicate entry with key " ++ quoted s
  | _ => "duplicate entry in YAML map"

/-- A refusal at a node: its path (unless it is the root), the message, and the node's
position (unless it is the very start of the text). -/
def refusalAt (path : List PathStep) (mark : Mark) (msg : String) : String :=
  let p := pathText path
  (if p == "." then "" else p ++ ": ") ++ msg ++ (if mark.advanced then " at " ++ mark.classicText else "")

/-- Why a document gives no datum: a fault of the text, or a message of the composition. -/
inductive DatumError where
  | fault (f : Fault)
  | message (text : String)
  deriving Inhabited

/-- Composes the node whose first event is next, given the anchored data. Running out of
events means the text broke off, and fails with its fault. -/
def composeNode (fault : Fault) (anchors : List (Nat × Datum)) (path : List PathStep) :
    Nat → List (Event × Mark) → Except DatumError (Datum × List (Event × Mark) × List (Nat × Datum))
  | 0, _ => .error (.fault fault)
  | _ + 1, [] => .error (.fault fault)
  | fuel + 1, (ev, mark) :: rest =>
    let anchored := fun (a : Nat) (d : Datum) (anchors : List (Nat × Datum)) =>
      if a > 0 then (a, d) :: anchors else anchors
    let tagged := fun (tag : Option Tag) (d : Datum) =>
      match localTag? (tag.map Tag.text) with
      | some name => Datum.tagged name d
      | none => d
    match ev with
    | .scalar v style a tag =>
      let full := tag.map Tag.text
      match localTag? full with
      | some name =>
        match (if style == .plain then resolvePlainDatum v else .ok (.string v)) with
        | .ok inner =>
          let d := Datum.tagged name inner
          .ok (d, rest, anchored a d anchors)
        | .error msg => .error (.message (refusalAt path mark msg))
      | none =>
        match resolveDatum v style full with
        | .ok d => .ok (d, rest, anchored a d anchors)
        | .error msg => .error (.message (refusalAt path mark msg))
    | .aliasOf id => .ok ((anchors.lookup id).getD .null, rest, anchors)
    | .sequenceStart a tag =>
      let rec items : Nat → Nat → List Datum → List (Event × Mark) → List (Nat × Datum) →
          Except DatumError (List Datum × List (Event × Mark) × List (Nat × Datum))
        | 0, _, _, _, _ => .error (.fault fault)
        | _ + 1, _, acc, (.sequenceEnd, _) :: rest, anchors => .ok (acc.reverse, rest, anchors)
        | _ + 1, _, _, [], _ => .error (.fault fault)
        | f + 1, i, acc, evs, anchors => do
          let (d, evs, anchors) ← composeNode fault anchors (path ++ [.index i]) f evs
          items f (i + 1) (d :: acc) evs anchors
      match items fuel 0 [] rest anchors with
      | .ok (ds, rest, anchors) =>
        let d := tagged tag (.seq ds)
        .ok (d, rest, anchored a d anchors)
      | .error e => .error e
    | .mappingStart a tag =>
      let rec entries : Nat → List (Datum × Datum) → List (Event × Mark) → List (Nat × Datum) →
          Except DatumError (List (Datum × Datum) × List (Event × Mark) × List (Nat × Datum))
        | 0, _, _, _ => .error (.fault fault)
        | _ + 1, acc, (.mappingEnd, _) :: rest, anchors => .ok (acc.reverse, rest, anchors)
        | _ + 1, _, [], _ => .error (.fault fault)
        | f + 1, acc, evs, anchors => do
          let step : PathStep := match evs with
            | (.scalar v _ _ _, _) :: _ => .key v
            | _ => .key "?"
          let (k, evs, anchors) ← composeNode fault anchors path f evs
          if acc.any (·.1.canon == k.canon) then
            .error (.message (refusalAt path mark (duplicateText k)))
          let (v, evs, anchors) ← composeNode fault anchors (path ++ [step]) f evs
          entries f ((k, v) :: acc) evs anchors
      match entries fuel [] rest anchors with
      | .ok (es, rest, anchors) =>
        let d := tagged tag (.map es)
        .ok (d, rest, anchored a d anchors)
      | .error e => .error e
    | _ => .error (.fault fault)

/-- The data of a text's documents as the kubeconfig reader composes them. A text without any
document reads as one null document. The first problem fails: a repeated key, or the text's
fault once the events before it run out. -/
def loadData (text : String) : Except DatumError (List Datum) :=
  let (evs, fault?) := events .classic text
  let fault := fault?.getD (.plain ⟨0, 1, 0⟩ "unexpected end of stream")
  let evs := evs.filter fun (e, _) => !(e matches .streamStart)
  let fuel := 2 * evs.length + 4
  let rec docs : Nat → List (Event × Mark) → List Datum → Except DatumError (List Datum)
    | 0, _, acc => .ok acc.reverse
    | _ + 1, [], acc => if fault?.isSome then .error (.fault fault) else .ok acc.reverse
    | _ + 1, (.streamEnd, _) :: _, acc => .ok (if acc.isEmpty then [.null] else acc.reverse)
    | f + 1, (.documentStart, _) :: rest, acc => do
      let (d, rest, _) ← composeNode fault [] [] fuel rest
      match rest with
      | (.documentEnd, _) :: rest => docs f rest (d :: acc)
      | _ => .error (.fault fault)
    | f + 1, _ :: rest, acc => docs f rest acc
  docs fuel evs []

end StateMetrics.Yaml
