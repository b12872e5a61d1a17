import StateMetrics.Error

/-! # Custom resource metric specifications

A custom resource is watched through its group, version and resource (`Gvr`). For each kind
of custom resource the configuration says which labels every metric shares (`commonLabels`,
label name to dotted path) and which metrics to derive (`MetricSpec`). A metric's kind is
kept as the configured word and read as a `MetricKind` only when descriptors are built, so
that an unknown word is reported there, with the names of its resource and metric.

Label maps are lists of pairs in ascending key order, each key once. -/

namespace StateMetrics

/-- A resource type of the cluster API: group, version, plural resource name and kind. -/
structure Gvr where
  group : String := ""
  version : String := ""
  resource : String := ""
  kind : String := ""
  deriving Repr, BEq, DecidableEq, Inhabited

namespace Gvr

/-- The API version: `version` for the core group, `group/version` otherwise. -/
def apiVersion (g : Gvr) : String :=
  if g.group.isEmpty then g.version else g.group ++ "/" ++ g.version

/-- The resource's display name: `apiVersion/resource`. -/
def display (g : Gvr) : String :=
  g.apiVersion ++ "/" ++ g.resource

end Gvr

/-- Where a conditions metric finds the type, status and reason of each condition; an empty
field means the usual one. -/
structure ConditionFields where
  typeField : String := ""
  statusField : String := ""
  reasonField : String := ""
  deriving Repr, BEq, DecidableEq, Inhabited

/-- How one metric is derived from a custom resource. -/
structure MetricSpec where
  kind : String := ""
  name : String := ""
  help : String := ""
  path : String := ""
  valuePath : String := ""
  keyLabel : String := ""
  valueLabel : String := ""
  labels : List (String × String) := []
  condition : Option ConditionFields := none
  deriving Repr, BEq, DecidableEq, Inhabited

/-- The metrics of one kind of custom resource. -/
structure CrdSpec where
  name : String := ""
  gvr : Gvr := {}
  namespaces : List String := []
  commonLabels : List (String × String) := []
  metrics : List MetricSpec := []
  deriving Repr, BEq, DecidableEq, Inhabited

/-- The field names a conditions metric reads: the configured ones, each defaulting to
`type`, `status` and `reason` when absent or empty. -/
structure ConditionNames where
  typeField : String
  statusField : String
  reasonField : String
  deriving Repr, BEq, DecidableEq, Inhabited

namespace MetricSpec

/-- The configured field, or the default when the field is absent or empty. -/
def fieldOr (configured : Option String) (default : String) : String :=
  match configured with
  | some f => if f.isEmpty then default else f
  | none => default

/-- The condition field names of a metric, with defaults filled in. -/
def conditionNames (m : MetricSpec) : ConditionNames :=
  { typeField := fieldOr (m.condition.map (·.typeField)) "type"
    statusField := fieldOr (m.condition.map (·.statusField)) "status"
    reasonField := fieldOr (m.condition.map (·.reasonField)) "reason" }

end MetricSpec

/-- How a metric turns a resource into samples. -/
inductive MetricKind where
  | info
  | count
  | gauge
  | mapState
  | mapGauge
  | conditions
  deriving Repr, BEq, DecidableEq, Inhabited

namespace MetricKind

/-- The configured word of a kind. -/
def word : MetricKind → String
  | .info => "info"
  | .count => "count"
  | .gauge => "gauge"
  | .mapState => "map_state"
  | .mapGauge => "map_gauge"
  | .conditions => "conditions"

/-- All kinds. -/
def all : List MetricKind := [.info, .count, .gauge, .mapState, .mapGauge, .conditions]

/-- The kind a word names, matched exactly. -/
def ofWord? (w : String) : Option MetricKind :=
  all.find? (·.word == w)

/-- A count metric aggregates over all resources; every other kind gives samples per
resource. -/
def isAggregate : MetricKind → Bool
  | .count => true
  | _ => false

end MetricKind

namespace CrdSpec

/-- A specification needs a name and a resource to watch. A missing name is reported under
the resource's display name. -/
def validate (c : CrdSpec) : Except ExporterError Unit :=
  if c.name.isEmpty then .error (.invalidCrd c.gvr.display "name must not be empty")
  else if c.gvr.resource.isEmpty then .error (.invalidCrd c.name "gvr.resource must not be empty")
  else .ok ()

/-- A specification without namespaces watches the whole cluster. -/
def watchesAllNamespaces (c : CrdSpec) : Bool :=
  c.namespaces.isEmpty

end CrdSpec

end StateMetrics
