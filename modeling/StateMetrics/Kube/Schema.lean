import StateMetrics.Settings.OfJson
import StateMetrics.Kube.Timestamp

/-! # Schemas of cluster API objects

Objects of the cluster API are checked against a schema before they are used. The rules are
lenient in one way and strict in another: every field of an object may be absent or `null`,
and unknown fields are ignored, but a field that is present must have its type. Fields are
checked in the object's key order and the first failure is reported, with the wording of a
refused value: ``invalid type: integer `5`, expected a string``, or for a number out of range
``invalid value: integer `3000000000`, expected i32``.

An object is written back with its known members only: `null` members are left out, and a
required member that is absent takes its default. -/

namespace StateMetrics.Kube

/-- The type a field of a cluster API object must have. -/
inductive Schema where
  /-- A string. -/
  | text
  /-- A signed integer of the given width in bits. -/
  | integer (bits : Nat)
  /-- A truth value. -/
  | truth
  /-- A number. -/
  | number
  /-- A timestamp string. -/
  | time
  /-- A port or a similar value given either as a 32-bit integer or as a string. -/
  | intOrString
  /-- A map from names to strings. -/
  | textMap
  /-- A list of values of one schema. -/
  | list (item : Schema)
  /-- An object of a named type with typed fields. -/
  | record (name : String) (fields : List (String × Schema))
  /-- Any value. -/
  | any
  /-- A member that an object always has: absent or `null`, it takes its default. -/
  | required (s : Schema)

open Settings

/-- The schema a member's value follows, once its being required is set aside. -/
def Schema.inner : Schema → Schema
  | .required s => s
  | s => s

/-- The value a required member takes when it is absent. -/
def Schema.defaultValue : Schema → Json
  | .text => .str ""
  | .integer _ => .num (.int 0)
  | .truth => .bool false
  | .number => .num (.float 0)
  | .textMap => .obj []
  | .list _ => .arr []
  | .record _ _ => .obj []
  | _ => .null

/-- The failure for a value of the wrong type. -/
def mismatch (v : Json) (expected : String) : Except String Unit :=
  .error ("invalid type: " ++ describeJson v ++ ", expected " ++ expected)

mutual

/-- Checks a value against a schema. -/
def check (s : Schema) (v : Json) : Except String Unit :=
  match s.inner, v with
  | .text, .str _ => .ok ()
  | .text, v => mismatch v "a string"
  | .integer bits, .num (.int i) =>
    if -(Nat.pow 2 (bits - 1) : Int) ≤ i ∧ i < Nat.pow 2 (bits - 1) then .ok ()
    else .error ("invalid value: integer `" ++ toString i ++ "`, expected i" ++ toString bits)
  | .integer bits, v => mismatch v ("i" ++ toString bits)
  | .truth, .bool _ => .ok ()
  | .truth, v => mismatch v "a boolean"
  | .number, .num _ => .ok ()
  | .number, v => mismatch v "f64"
  | .time, .str s => checkTimestamp s
  | .time, v => mismatch v "an RFC 3339 formatted date and time string"
  | .intOrString, .str _ => .ok ()
  | .intOrString, .num (.int i) =>
    if -(Nat.pow 2 31 : Int) ≤ i ∧ i < Nat.pow 2 31 then .ok ()
    else .error ("invalid value: integer \x60" ++ toString i ++ "\x60, expected IntOrString")
  | .intOrString, v => mismatch v "IntOrString"
  | .textMap, .obj members => checkTexts members
  | .textMap, v => mismatch v "a map"
  | .list item, .arr items => checkItems item items
  | .list _, v => mismatch v "a sequence"
  | .record _ fields, .obj members => checkFields fields members
  | .record name _, v => mismatch v name
  | _, _ => .ok ()

/-- Checks the values of a map of strings. -/
def checkTexts : List (String × Json) → Except String Unit
  | [] => .ok ()
  | (_, .str _) :: rest => checkTexts rest
  | (_, v) :: _ => mismatch v "a string"

/-- Checks the items of a list. -/
def checkItems (item : Schema) : List Json → Except String Unit
  | [] => .ok ()
  | v :: rest => do check item v; checkItems item rest

/-- Checks the members of an object against its fields: absent and `null` members pass, and
unknown members are ignored. -/
def checkFields (fields : List (String × Schema)) : List (String × Json) → Except String Unit
  | [] => .ok ()
  | (_, .null) :: rest => checkFields fields rest
  | (k, v) :: rest =>
    match fieldSchema k fields with
    | some s => do check s v; checkFields fields rest
    | none => checkFields fields rest

/-- The schema of a named field. -/
def fieldSchema (k : String) : List (String × Schema) → Option Schema
  | [] => none
  | (name, s) :: rest => if name = k then some s else fieldSchema k rest

end

mutual

/-- The value as objects write it back: records keep their known members that are not `null`
and gain their absent required members, and timestamps are written in universal time. The
value is taken to satisfy the schema. -/
def reshape (s : Schema) (v : Json) : Json :=
  match s.inner, v with
  | .time, .str t =>
    match Timestamp.parse t with
    | .ok ts => .str ts.utcText
    | .error _ => .str t
  | .list item, .arr items => .arr (reshapeItems item items)
  | .record _ fields, .obj members =>
    let kept := reshapeMembers fields members
    .object (kept ++ (fields.filter fun (k, f) =>
      f matches .required _ && !kept.any (·.1 == k)).map fun (k, f) => (k, f.inner.defaultValue))
  | _, v => v

/-- Reshapes the items of a list. -/
def reshapeItems (item : Schema) : List Json → List Json
  | [] => []
  | v :: rest => reshape item v :: reshapeItems item rest

/-- Reshapes the known members of an object that are not `null`. -/
def reshapeMembers (fields : List (String × Schema)) : List (String × Json) → List (String × Json)
  | [] => []
  | (_, .null) :: rest => reshapeMembers fields rest
  | (k, v) :: rest =>
    match fieldSchema k fields with
    | some s => (k, reshape s v) :: reshapeMembers fields rest
    | none => reshapeMembers fields rest

end

/-- The members of an owner reference. -/
def ownerReference : Schema :=
  .record "OwnerReference" [("apiVersion", .required .text), ("blockOwnerDeletion", .truth),
    ("controller", .truth), ("kind", .required .text), ("name", .required .text),
    ("uid", .required .text)]

/-- The members of a managed fields entry. -/
def managedFieldsEntry : Schema :=
  .record "ManagedFieldsEntry" [("apiVersion", .text), ("fieldsType", .text),
    ("fieldsV1", .any), ("manager", .text), ("operation", .text), ("subresource", .text),
    ("time", .time)]

/-- The metadata every object carries. -/
def objectMeta : Schema :=
  .record "ObjectMeta" [("annotations", .textMap), ("creationTimestamp", .time),
    ("deletionGracePeriodSeconds", .integer 64), ("deletionTimestamp", .time),
    ("finalizers", .list .text), ("generateName", .text), ("generation", .integer 64),
    ("labels", .textMap), ("managedFields", .list managedFieldsEntry), ("name", .text),
    ("namespace", .text), ("ownerReferences", .list ownerReference),
    ("resourceVersion", .text), ("selfLink", .text), ("uid", .text)]

/-- A reference to another object. -/
def objectReference : Schema :=
  .record "ObjectReference" [("apiVersion", .text), ("fieldPath", .text), ("kind", .text),
    ("name", .text), ("namespace", .text), ("resourceVersion", .text), ("uid", .text)]

/-- Checks an object of a top-level kind: it must be an object; a present `apiVersion` and
`kind` must be strings with the kind's values; the other fields follow the schema. -/
def checkResource (kind apiVersion : String) (fields : List (String × Schema)) (v : Json) :
    Except String Unit :=
  match v with
  | .obj members =>
    members.forM fun (k, x) =>
      if k = "apiVersion" ∨ k = "kind" then
        let want := if k = "kind" then kind else apiVersion
        match x with
        | .str s =>
          if s = want then .ok ()
          else .error ("invalid value: string " ++ Text.quoted s ++ ", expected " ++ want)
        | _ => mismatch x "a string"
      else if x.isNull then .ok ()
      else match fieldSchema k fields with
        | some s => check s x
        | none => .ok ()
  | _ => mismatch v kind

end StateMetrics.Kube
