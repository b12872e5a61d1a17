import StateMetrics.Crd.Descriptor
import StateMetrics.Json.Path

/-! # Samples of custom resource metrics

How each kind of metric reads one resource (`resourceSamples`); every sample starts with the
values of the common labels, the strings at their paths in ascending label-name order:

* info: one sample of value one, with the strings at the metric's own label paths;
* gauge: one sample, the number at the metric's path;
* map_state: for each entry of the map at the path, in ascending key order, whose value is
  an object with a non-empty string at the value path: one sample of value one labelled with
  the key and that string;
* map_gauge: for each object entry of the map: one sample labelled with the key, the number
  at the value path;
* conditions: for each object in the array at the path, in order, whose type field (a direct
  member, not a path) is a non-empty string: one sample labelled with type, status and reason,
  of value one when the status is `true` in any letter case and zero otherwise.

A count metric gives nothing per resource. Over many resources it counts, for each distinct
non-empty string at its path, the resources that hold it (`countSamples`), in ascending order
of the string. -/

namespace StateMetrics

open StateMetrics.Metric

/-- The values of the common labels of a resource. -/
def commonValues (paths : List String) (obj : Json) : List String :=
  paths.map (Json.extractString obj)

/-- A string member of an object, or the empty string. -/
def memberString (entry : Json) (field : String) : String :=
  ((entry.get? field).bind Json.asString?).getD ""

/-- Whether a status reads `true` in any letter case. -/
def isTrueStatus (s : String) : Bool :=
  s.toList.map Char.toLower == "true".toList

namespace Descriptor

/-- The map-state samples of the members of a map. -/
def mapStateSamples (valuePath : String) (common : List String) :
    List (String × Json) → List Sample
  | [] => []
  | (key, entry) :: rest =>
    let state := Json.extractString entry valuePath
    if entry.isObject ∧ !state.isEmpty then
      ⟨common ++ [key, state], 1.0⟩ :: mapStateSamples valuePath common rest
    else mapStateSamples valuePath common rest

/-- The map-gauge samples of the members of a map. -/
def mapGaugeSamples (valuePath : String) (common : List String) :
    List (String × Json) → List Sample
  | [] => []
  | (key, entry) :: rest =>
    if entry.isObject then
      ⟨common ++ [key], Json.extractFloat entry valuePath⟩ :: mapGaugeSamples valuePath common rest
    else mapGaugeSamples valuePath common rest

/-- The condition samples of the items of an array. -/
def conditionSamples (names : ConditionNames) (common : List String) : List Json → List Sample
  | [] => []
  | entry :: rest =>
    let type := memberString entry names.typeField
    if entry.isObject ∧ !type.isEmpty then
      let status := memberString entry names.statusField
      let reason := memberString entry names.reasonField
      ⟨common ++ [type, status, reason], if isTrueStatus status then 1.0 else 0.0⟩ ::
        conditionSamples names common rest
    else conditionSamples names common rest

/-- The samples that one resource gives for a descriptor, after the common label values. -/
def resourceSamples (d : Descriptor) (obj : Json) (common : List String) : List Sample :=
  let m := d.spec
  match d.kind with
  | .info => [⟨common ++ m.labels.map (fun (_, path) => Json.extractString obj path), 1.0⟩]
  | .gauge => [⟨common, Json.extractFloat obj m.path⟩]
  | .mapState => mapStateSamples m.valuePath common ((Json.extractMap obj m.path).getD [])
  | .mapGauge => mapGaugeSamples m.valuePath common ((Json.extractMap obj m.path).getD [])
  | .conditions => conditionSamples m.conditionNames common (Json.extractSlice obj m.path)
  | .count => []

/-- Adds one occurrence of a value to counts kept in ascending value order. -/
def bump (v : String) : List (String × Nat) → List (String × Nat)
  | [] => [(v, 1)]
  | (w, n) :: rest =>
    if v < w then (v, 1) :: (w, n) :: rest
    else if v = w then (w, n + 1) :: rest
    else (w, n) :: bump v rest

/-- How many resources hold each distinct non-empty string at a path, in ascending order. -/
def countValues (path : String) (objs : List Json) : List (String × Nat) :=
  objs.foldl (fun acc obj =>
    let v := Json.extractString obj path
    if v.isEmpty then acc else bump v acc) []

/-- The samples of a count descriptor over resources. -/
def countSamples (d : Descriptor) (objs : List Json) : List Sample :=
  (countValues d.spec.path objs).map fun (v, n) => ⟨[v], floatOfInt n⟩

end Descriptor

end StateMetrics
