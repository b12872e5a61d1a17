import StateMetrics.Json.Basic

/-! # Decoding settings from a document

Settings arrive as documents of nested maps, sequences and scalars: JSON values, or the
merged tree of configuration files and environment variables. A `Dialect` says how one kind
of document looks to a decoder: the shape of a value, how a scalar becomes text, a truth value
or a bounded natural number, how a refused value is described, and how a failure deep inside
is annotated with the key or index it was found under.

A structure is decoded from a map, whose unknown keys are ignored, or from a sequence, whose
items fill the fields in their order. Absent fields keep their defaults. Entries are decoded in
the order the document holds them and the first failure wins. -/

namespace StateMetrics.Settings

/-- Why a settings document does not decode: a plain message, or a value of the wrong type
with the key it sits under and the document it came from, when known. -/
inductive DecodeError where
  | message (text : String)
  | mismatch (unexpected expected : String) (key : Option String) (origin : Option String)
  deriving Repr, BEq, Inhabited

namespace DecodeError

/-- The message of a failure. -/
def text : DecodeError → String
  | .message t => t
  | .mismatch unexpected expected key origin =>
    "invalid type: " ++ unexpected ++ ", expected " ++ expected ++
      (match key with | some k => " for key `" ++ k ++ "`" | none => "") ++
      (match origin with | some o => " in " ++ o | none => "")

end DecodeError

/-- The shape of a document value. -/
inductive Shape (V : Type) where
  | null
  | seq (items : List V)
  | map (members : List (String × V))
  | scalar

/-- How a kind of document looks to a decoder. -/
structure Dialect (V : Type) where
  /-- The shape of a value. -/
  shape : V → Shape V
  /-- How a value is described when a decoder refuses it. -/
  describe : V → String
  /-- A value read as text. -/
  text : V → Except DecodeError String
  /-- A value read as a truth value. -/
  truth : V → Except DecodeError Bool
  /-- A value read as a natural number below `bound`, named `typeName` in messages. -/
  natural (bound : Nat) (typeName : String) : V → Except DecodeError Nat
  /-- Annotates a failure found under a key. -/
  atKey : String → DecodeError → DecodeError
  /-- Annotates a failure found at an index of a sequence. -/
  atIndex : Nat → DecodeError → DecodeError
  /-- Whether a structure read from a sequence refuses items beyond its fields. -/
  refusesExtraItems : Bool

variable {V α σ : Type}

namespace Dialect

/-- The failure for a value that is not of the expected type. -/
def refuse (d : Dialect V) (v : V) (expected : String) : DecodeError :=
  .message ("invalid type: " ++ d.describe v ++ ", expected " ++ expected)

/-- Decodes items with their index, annotating a failure with it. -/
def items (d : Dialect V) (elem : V → Except DecodeError α) :
    Nat → List V → Except DecodeError (List α)
  | _, [] => .ok []
  | i, x :: rest =>
    match elem x with
    | .error e => .error (d.atIndex i e)
    | .ok a => (items d elem (i + 1) rest).map (a :: ·)

/-- A sequence of values. -/
def list (d : Dialect V) (elem : V → Except DecodeError α) (v : V) :
    Except DecodeError (List α) :=
  match d.shape v with
  | .seq xs => d.items elem 0 xs
  | _ => .error (d.refuse v "a sequence")

/-- Puts a pair into a list sorted by key, replacing an equal key's value. -/
def insertPair (key value : String) : List (String × String) → List (String × String)
  | [] => [(key, value)]
  | (k, w) :: rest =>
    if key < k then (key, value) :: (k, w) :: rest
    else if key = k then (key, value) :: rest
    else (k, w) :: insertPair key value rest

/-- A map from names to texts, kept sorted by name. -/
def textMap (d : Dialect V) (v : V) : Except DecodeError (List (String × String)) :=
  match d.shape v with
  | .map members =>
    members.foldlM (fun acc (k, x) =>
      match d.text x with
      | .error e => .error (d.atKey k e)
      | .ok s => .ok (insertPair k s acc)) []
  | _ => .error (d.refuse v "a map")

/-- An optional value: `null` is absent. -/
def optional (d : Dialect V) (inner : V → Except DecodeError α) (v : V) :
    Except DecodeError (Option α) :=
  match d.shape v with
  | .null => .ok none
  | _ => (inner v).map some

/-- A structure named `typeName` with the given field names. Starting from the defaults in
`init`, each entry of the document that names a field is decoded by `set` with the field's
index, in the document's order. -/
def record (d : Dialect V) (typeName : String) (fields : List String) (init : σ)
    (set : Nat → V → σ → Except DecodeError σ) (v : V) : Except DecodeError σ :=
  match d.shape v with
  | .map members =>
    members.foldlM (fun acc (k, x) =>
      match fields.idxOf? k with
      | some i =>
        match set i x acc with
        | .error e => .error (d.atKey k e)
        | .ok s => .ok s
      | none => .ok acc) init
  | .seq xs =>
    let r : Except DecodeError σ := (xs.zip (List.range xs.length)).foldlM (fun acc (x, i) =>
      if i < fields.length then
        match set i x acc with
        | .error e => .error (d.atIndex i e)
        | .ok s => .ok s
      else .ok acc) init
    match r with
    | .error e => .error e
    | .ok s =>
      if d.refusesExtraItems ∧ xs.length > fields.length then
        .error (.message ("invalid length " ++ toString xs.length ++
          ", expected fewer elements in array"))
      else .ok s
  | _ => .error (d.refuse v ("struct " ++ typeName))

end Dialect

end StateMetrics.Settings
