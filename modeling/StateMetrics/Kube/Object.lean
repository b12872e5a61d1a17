import StateMetrics.Kube.Schema

/-! # Objects of any kind

A watched resource may be of any kind, so the client reads it as a dynamic object: an optional
type, the metadata every object carries, and all other members as they are. The metadata must
be present and follow its schema; its unknown members are dropped when the object is written
back, while the other members stay untouched.

The type is read from the members other than the metadata, in their order: each `apiVersion` or
`kind` member is taken as it is met, and reading stops at the first that is not a string (or
repeats one already read). The type is kept only when both were read; the members taken on the
way are gone either way, and the rest stay with the object. -/

namespace StateMetrics.Kube

/-- Takes an object's type from its members: the API version and kind, if both were read, and
the members that were not taken. `apiVersion` and `kind` hold what has been read so far, and
`kept` the members passed over, most recent first. -/
def takeType : List (String × Json) → Option String → Option String → List (String × Json) →
    Option (String × String) × List (String × Json)
  | [], apiVersion, kind, kept =>
    (match apiVersion, kind with
      | some a, some k => some (a, k)
      | _, _ => none, kept.reverse)
  | (key, v) :: rest, apiVersion, kind, kept =>
    if key == "apiVersion" || key == "kind" then
      let seen := if key == "apiVersion" then apiVersion.isSome else kind.isSome
      match v with
      | .str s =>
        if seen then (none, kept.reverse ++ rest)
        else if key == "apiVersion" then takeType rest (some s) kind kept
        else takeType rest apiVersion (some s) kept
      | _ => (none, kept.reverse ++ rest)
    else takeType rest apiVersion kind ((key, v) :: kept)

/-- Reads a value as a dynamic object and gives it back as the client writes it. -/
def dynamicObject (v : Json) : Except String Json :=
  match v with
  | .obj members =>
    match Json.lookupMember "metadata" members with
    | none => .error "missing field \x60metadata\x60"
    | some m => do
      check objectMeta m
      let (type, rest) := takeType (members.filter (·.1 != "metadata")) none none []
      let typeMembers := match type with
        | some (a, k) => [("apiVersion", Json.str a), ("kind", .str k)]
        | none => []
      pure (Json.object (typeMembers ++ ("metadata", reshape objectMeta m) :: rest))
  | _ => .error ("invalid type: " ++ Settings.describeJson v ++ ", expected DynamicObject")

/-- The resource version an object's metadata carries. -/
def resourceVersion? (obj : Json) : Option String :=
  match (obj.get? "metadata").bind (·.get? "resourceVersion") with
  | some (.str s) => some s
  | _ => none

end StateMetrics.Kube
