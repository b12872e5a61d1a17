import StateMetrics.Kube.PodSchema
import StateMetrics.Json.Path

/-! # Pods

The part of a pod that the exporter reads: namespace, name, phase and conditions. A pod is
read only from an object that passes the pod schema (`decode`, `Kube.PodSchema`); absent fields
are empty.

A pod is abnormal when it has a status and its phase is `Failed` or `Unknown`, when it is
`Pending` with a `PodScheduled` condition whose status is `False`, or when it is `Running`
with a `Ready` condition whose status is `False`. Phase, types and statuses are compared
exactly. -/

namespace StateMetrics.Kube

/-- A condition of a pod. -/
structure PodCondition where
  type : String
  status : String
  deriving Repr, BEq, DecidableEq, Inhabited

/-- The status of a pod: its phase, if known, and its conditions. -/
structure PodStatus where
  phase : Option String
  conditions : List PodCondition
  deriving Repr, BEq, DecidableEq, Inhabited

/-- A pod as the exporter sees it. -/
structure Pod where
  namespaceName : String
  name : String
  status : Option PodStatus
  deriving Repr, BEq, DecidableEq, Inhabited

/-- A string member, or the empty string when it is absent or `null`. -/
def textAt (v : Json) (key : String) : String :=
  ((v.get? key).bind Json.asString?).getD ""

/-- A member that is present and not `null`. -/
def present (v : Json) (key : String) : Option Json :=
  match v.get? key with
  | some .null | none => none
  | some x => some x

namespace Pod

/-- The pod in an object, or why the object is not a pod. -/
def decode (v : Json) : Except String Pod :=
  match checkResource "Pod" "v1" podFields v with
  | .error e => .error e
  | .ok () =>
    let metadata := (present v "metadata").getD (.obj [])
    let status := (present v "status").map fun s =>
      { phase := (present s "phase").bind Json.asString?
        conditions := ((present s "conditions").bind Json.asArray?).getD [] |>.map fun c =>
          ⟨textAt c "type", textAt c "status"⟩ : PodStatus }
    .ok ⟨textAt metadata "namespace", textAt metadata "name", status⟩

/-- Whether a condition of the given type has status `False`. -/
def conditionFalse (s : PodStatus) (type : String) : Bool :=
  s.conditions.any fun c => c.type == type && c.status == "False"

/-- Whether a pod is abnormal. -/
def isAbnormal (p : Pod) : Bool :=
  match p.status with
  | none => false
  | some s =>
    match s.phase with
    | some "Failed" | some "Unknown" => true
    | some "Pending" => conditionFalse s "PodScheduled"
    | some "Running" => conditionFalse s "Ready"
    | _ => false

/-- The pod's phase, or the empty string. -/
def phase (p : Pod) : String := (p.status.bind (·.phase)).getD ""

/-- The key of the pod's bucket: `<namespace>/<phase>`. -/
def bucketKey (p : Pod) : String := p.namespaceName ++ "/" ++ p.phase

/-- The key of the pod itself: `<namespace>/<name>`. -/
def identity (p : Pod) : String := p.namespaceName ++ "/" ++ p.name

end Pod

end StateMetrics.Kube
