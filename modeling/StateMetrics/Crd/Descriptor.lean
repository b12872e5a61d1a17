import StateMetrics.Crd.Spec
import StateMetrics.Metric.Name
import StateMetrics.Metric.Family

/-! # Descriptors of custom resource metrics

A descriptor is a metric specification made ready to collect: its kind read, its full name
built, its help text filled in (`<metric> <kind> of <resource>` when none is configured), and
its label names laid out by kind:

* count: the value label (`value` by default) alone, since counts aggregate over resources;
* info: the common labels, then the metric's own labels;
* gauge: the common labels;
* map_state: the common labels, the key label (`key` by default) and `state`;
* map_gauge: the common labels and the key label;
* conditions: the common labels, `type`, `status` and `reason`.

Common labels come in ascending name order. The specifications are taken in order and the
first failure is reported: an unknown kind, a description the registry refuses, or a full
name that an earlier metric of the same resource already has. -/

namespace StateMetrics

open StateMetrics.Metric

/-- A metric of a custom resource, ready to collect. -/
structure Descriptor where
  name : String
  help : String
  kind : MetricKind
  labelNames : List String
  spec : MetricSpec
  deriving Repr, BEq, Inhabited

namespace Descriptor

/-- The descriptor's metric description. -/
def desc (d : Descriptor) : Desc := ⟨d.name, d.help, d.labelNames⟩

/-- The label to use, or the default when none is configured. -/
def labelOr (configured default : String) : String :=
  if configured.isEmpty then default else configured

/-- The label names of a metric of the given kind over the common label names. -/
def labelNamesFor (kind : MetricKind) (common : List String) (m : MetricSpec) : List String :=
  match kind with
  | .count => [labelOr m.valueLabel "value"]
  | .info => common ++ m.labels.map (·.1)
  | .gauge => common
  | .mapState => common ++ [labelOr m.keyLabel "key", "state"]
  | .mapGauge => common ++ [labelOr m.keyLabel "key"]
  | .conditions => common ++ ["type", "status", "reason"]

/-- The descriptor of one metric of a resource, or why it cannot be built. -/
def build (crd : CrdSpec) (stem : String) (m : MetricSpec) : Except ExporterError Descriptor :=
  match MetricKind.ofWord? m.kind with
  | none => .error (.unknownMetricType crd.name m.name m.kind)
  | some kind =>
    let labels := labelNamesFor kind (crd.commonLabels.map (·.1)) m
    let name := fullName stem crd.name m.name
    let help := if m.help.isEmpty then m.name ++ " " ++ kind.word ++ " of " ++ crd.name else m.help
    match Desc.make name help labels with
    | .error e => .error (.invalidDescriptor crd.name m.name e)
    | .ok _ => .ok { name, help, kind, labelNames := labels, spec := m }

/-- Builds the remaining descriptors, refusing a full name already taken. -/
def buildAll (crd : CrdSpec) (stem : String) (taken : List String) :
    List MetricSpec → Except ExporterError (List Descriptor)
  | [] => .ok []
  | m :: rest =>
    match build crd stem m with
    | .error e => .error e
    | .ok d =>
      if taken.contains d.name then
        .error (.invalidCrd crd.name
          ("metric " ++ Text.quoted m.name ++ " duplicates metric name " ++ d.name))
      else (buildAll crd stem (d.name :: taken) rest).map (d :: ·)

end Descriptor

/-- The descriptors of all metrics of a resource, in configuration order. -/
def CrdSpec.descriptors (crd : CrdSpec) (stem : String) : Except ExporterError (List Descriptor) :=
  Descriptor.buildAll crd stem [] crd.metrics

end StateMetrics
