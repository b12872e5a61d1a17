import StateMetrics.Settings.Decode
import StateMetrics.Crd.Spec

/-! # Collector settings

The settings of the three built-in collectors: the custom resource collector (a list of
`CrdSpec`), the pod collector with its aggregator, and the event collector. Every field has
a default, so an empty document gives the defaults: pods and events enabled in all
namespaces, a window of 300 seconds, and at most 1000 event buckets.

Decoders are written once for every dialect of document; `toJson` writes settings back with
every default filled in, under the documents' field names. -/

namespace StateMetrics

/-- Settings of the pod aggregator. -/
structure AggregatorSettings where
  enabled : Bool := true
  windowSecs : Nat := 300
  deriving Repr, BEq, DecidableEq, Inhabited

/-- Settings of the pod collector. -/
structure PodSettings where
  enabled : Bool := true
  namespaces : List String := []
  aggregator : AggregatorSettings := {}
  deriving Repr, BEq, DecidableEq, Inhabited

/-- Settings of the event collector. -/
structure EventSettings where
  enabled : Bool := true
  namespaces : List String := []
  windowSecs : Nat := 300
  maxEvents : Nat := 1000
  deriving Repr, BEq, DecidableEq, Inhabited

/-- Settings of the custom resource collector. -/
structure CrdSettings where
  crds : List CrdSpec := []
  deriving Repr, BEq, DecidableEq, Inhabited

/-- Settings of all built-in collectors. -/
structure CollectorSettings where
  crd : CrdSettings := {}
  pod : PodSettings := {}
  event : EventSettings := {}
  deriving Repr, BEq, DecidableEq, Inhabited

namespace Settings

variable {V : Type}

/-- The largest 64-bit unsigned number plus one. -/
def wordBound : Nat := Nat.pow 2 64

/-- Decodes the fields of a resource type. -/
def decodeGvr (d : Dialect V) : V → Except DecodeError Gvr :=
  d.record "GvrConfig" ["group", "version", "resource", "kind"] {} fun i x g =>
    match i with
    | 0 => (d.text x).map fun s => { g with group := s }
    | 1 => (d.text x).map fun s => { g with version := s }
    | 2 => (d.text x).map fun s => { g with resource := s }
    | _ => (d.text x).map fun s => { g with kind := s }

/-- Decodes the condition fields of a conditions metric. -/
def decodeConditionFields (d : Dialect V) : V → Except DecodeError ConditionFields :=
  d.record "ConditionConfig" ["type_field", "status_field", "reason_field"] {} fun i x c =>
    match i with
    | 0 => (d.text x).map fun s => { c with typeField := s }
    | 1 => (d.text x).map fun s => { c with statusField := s }
    | _ => (d.text x).map fun s => { c with reasonField := s }

/-- Decodes a metric specification. -/
def decodeMetricSpec (d : Dialect V) : V → Except DecodeError MetricSpec :=
  d.record "MetricConfig" ["type", "name", "help", "path", "value_path", "key_label",
      "value_label", "labels", "condition"] {} fun i x m =>
    match i with
    | 0 => (d.text x).map fun s => { m with kind := s }
    | 1 => (d.text x).map fun s => { m with name := s }
    | 2 => (d.text x).map fun s => { m with help := s }
    | 3 => (d.text x).map fun s => { m with path := s }
    | 4 => (d.text x).map fun s => { m with valuePath := s }
    | 5 => (d.text x).map fun s => { m with keyLabel := s }
    | 6 => (d.text x).map fun s => { m with valueLabel := s }
    | 7 => (d.textMap x).map fun l => { m with labels := l }
    | _ => (d.optional (decodeConditionFields d) x).map fun c => { m with condition := c }

/-- Decodes a custom resource specification. -/
def decodeCrdSpec (d : Dialect V) : V → Except DecodeError CrdSpec :=
  d.record "CrdConfig" ["name", "gvr", "namespaces", "common_labels", "metrics"] {}
    fun i x c =>
    match i with
    | 0 => (d.text x).map fun s => { c with name := s }
    | 1 => (decodeGvr d x).map fun g => { c with gvr := g }
    | 2 => (d.list d.text x).map fun l => { c with namespaces := l }
    | 3 => (d.textMap x).map fun l => { c with commonLabels := l }
    | _ => (d.list (decodeMetricSpec d) x).map fun l => { c with metrics := l }

/-- Decodes the custom resource collector's settings. -/
def decodeCrdSettings (d : Dialect V) : V → Except DecodeError CrdSettings :=
  d.record "CrdCollectorConfig" ["crds"] {} fun _ x c =>
    (d.list (decodeCrdSpec d) x).map fun l => { c with crds := l }

/-- Decodes the pod aggregator's settings. -/
def decodeAggregatorSettings (d : Dialect V) : V → Except DecodeError AggregatorSettings :=
  d.record "PodAggregatorConfig" ["enabled", "window_secs"] {} fun i x a =>
    match i with
    | 0 => (d.truth x).map fun b => { a with enabled := b }
    | _ => (d.natural wordBound "u64" x).map fun n => { a with windowSecs := n }

/-- Decodes the pod collector's settings. -/
def decodePodSettings (d : Dialect V) : V → Except DecodeError PodSettings :=
  d.record "PodCollectorConfig" ["enabled", "namespaces", "aggregator"] {} fun i x p =>
    match i with
    | 0 => (d.truth x).map fun b => { p with enabled := b }
    | 1 => (d.list d.text x).map fun l => { p with namespaces := l }
    | _ => (decodeAggregatorSettings d x).map fun a => { p with aggregator := a }

/-- Decodes the event collector's settings. -/
def decodeEventSettings (d : Dialect V) : V → Except DecodeError EventSettings :=
  d.record "EventCollectorConfig" ["enabled", "namespaces", "window_secs", "max_events"] {}
    fun i x e =>
    match i with
    | 0 => (d.truth x).map fun b => { e with enabled := b }
    | 1 => (d.list d.text x).map fun l => { e with namespaces := l }
    | 2 => (d.natural wordBound "u64" x).map fun n => { e with windowSecs := n }
    | _ => (d.natural wordBound "usize" x).map fun n => { e with maxEvents := n }

/-- Decodes the settings of all built-in collectors. -/
def decodeCollectorSettings (d : Dialect V) : V → Except DecodeError CollectorSettings :=
  d.record "CollectorsConfig" ["crd", "pod", "event"] {} fun i x c =>
    match i with
    | 0 => (decodeCrdSettings d x).map fun s => { c with crd := s }
    | 1 => (decodePodSettings d x).map fun s => { c with pod := s }
    | _ => (decodeEventSettings d x).map fun s => { c with event := s }

end Settings

namespace Json

/-- A list of texts. -/
def ofStrings (l : List String) : Json := .arr (l.map .str)

/-- A sorted map of texts. -/
def ofTextMap (l : List (String × String)) : Json := .obj (l.map fun (k, v) => (k, .str v))

end Json

/-- The resource type as a document. -/
def Gvr.toJson (g : Gvr) : Json :=
  .object [("group", .str g.group), ("version", .str g.version),
    ("resource", .str g.resource), ("kind", .str g.kind)]

/-- The condition fields as a document. -/
def ConditionFields.toJson (c : ConditionFields) : Json :=
  .object [("type_field", .str c.typeField), ("status_field", .str c.statusField),
    ("reason_field", .str c.reasonField)]

/-- The metric specification as a document. -/
def MetricSpec.toJson (m : MetricSpec) : Json :=
  .object [("type", .str m.kind), ("name", .str m.name), ("help", .str m.help),
    ("path", .str m.path), ("value_path", .str m.valuePath), ("key_label", .str m.keyLabel),
    ("value_label", .str m.valueLabel), ("labels", Json.ofTextMap m.labels),
    ("condition", match m.condition with | some c => c.toJson | none => .null)]

/-- The custom resource specification as a document. -/
def CrdSpec.toJson (c : CrdSpec) : Json :=
  .object [("name", .str c.name), ("gvr", c.gvr.toJson),
    ("namespaces", Json.ofStrings c.namespaces), ("common_labels", Json.ofTextMap c.commonLabels),
    ("metrics", .arr (c.metrics.map MetricSpec.toJson))]

/-- The collector settings as a document, defaults filled in. -/
def CollectorSettings.toJson (s : CollectorSettings) : Json :=
  .object [
    ("crd", .object [("crds", .arr (s.crd.crds.map CrdSpec.toJson))]),
    ("pod", .object [("enabled", .bool s.pod.enabled),
      ("namespaces", Json.ofStrings s.pod.namespaces),
      ("aggregator", .object [("enabled", .bool s.pod.aggregator.enabled),
        ("window_secs", Json.ofNat s.pod.aggregator.windowSecs)])]),
    ("event", .object [("enabled", .bool s.event.enabled),
      ("namespaces", Json.ofStrings s.event.namespaces),
      ("window_secs", Json.ofNat s.event.windowSecs),
      ("max_events", Json.ofNat s.event.maxEvents)])]

end StateMetrics
