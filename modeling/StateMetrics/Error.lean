import StateMetrics.Text.Quoted

/-! # Errors of the exporter

Two families of failure. `MetricsError` is what the metrics registry refuses: a description
whose help, metric name or label names break the exposition format's rules, or a second
registration of the same metrics. `ExporterError` is what the exporter itself refuses while
it reads its configuration, builds its collectors or waits for their caches.

Each error has a one-line `message` for people, a structural `debug` form that shows every
field with quoted strings, and the chain of underlying causes in `sources`. -/

namespace StateMetrics

open Text

/-- Why the metrics registry refuses a description or a registration. -/
inductive MetricsError where
  | emptyHelp
  | invalidMetricName (name : String)
  | invalidLabelName (name : String)
  | duplicateLabelName (name : String)
  | alreadyRegistered
  /-- Any other refusal, in the registry's words. -/
  | other (text : String)
  deriving Repr, BEq, DecidableEq, Inhabited

namespace MetricsError

/-- The registry's own wording of a refused description. -/
def text : MetricsError → String
  | .emptyHelp => "empty help string"
  | .invalidMetricName n => "'" ++ n ++ "' is not a valid metric name"
  | .invalidLabelName n => "'" ++ n ++ "' is not a valid label name"
  | .duplicateLabelName n => "duplicate variable label name " ++ n
  | .alreadyRegistered => "Duplicate metrics collector registration attempted"
  | .other t => t

/-- The message: a refused description is prefixed with `Error: `. -/
def message : MetricsError → String
  | .alreadyRegistered => text .alreadyRegistered
  | e => "Error: " ++ e.text

/-- The structural form. -/
def debug : MetricsError → String
  | .alreadyRegistered => "AlreadyReg"
  | e => "Msg(" ++ quoted e.text ++ ")"

end MetricsError

/-- Why the exporter refuses a configuration, a collector or a wait. -/
inductive ExporterError where
  | invalidCrd (crd reason : String)
  | unknownMetricType (crd metric kind : String)
  | invalidDescriptor (crd metric : String) (source : MetricsError)
  | duplicateCollector (name : String)
  | unknownCollector (name : String)
  | collectorDisabled (reason : String)
  | cacheSyncTimeout (collectors : List String) (timeoutSecs : Nat)
  | metrics (e : MetricsError)
  deriving Repr, BEq, DecidableEq, Inhabited

namespace ExporterError

/-- The name of the kind of failure. -/
def kindName : ExporterError → String
  | .invalidCrd .. => "InvalidCrd"
  | .unknownMetricType .. => "UnknownMetricType"
  | .invalidDescriptor .. => "InvalidDescriptor"
  | .duplicateCollector .. => "DuplicateCollector"
  | .unknownCollector .. => "UnknownCollector"
  | .collectorDisabled .. => "CollectorDisabled"
  | .cacheSyncTimeout .. => "CacheSyncTimeout"
  | .metrics .. => "Prometheus"

/-- The one-line message. A metrics error speaks for itself. -/
def message : ExporterError → String
  | .invalidCrd crd reason => "invalid CRD definition " ++ quoted crd ++ ": " ++ reason
  | .unknownMetricType crd metric kind =>
    "CRD " ++ quoted crd ++ ": metric " ++ quoted metric ++ " has unknown type " ++ quoted kind
  | .invalidDescriptor crd metric source =>
    "CRD " ++ quoted crd ++ ": metric " ++ quoted metric ++ " has an invalid descriptor: " ++
      source.message
  | .duplicateCollector name => "collector " ++ quoted name ++ " is already registered"
  | .unknownCollector name => "collector " ++ quoted name ++ " is not registered"
  | .collectorDisabled reason => "collector disabled by configuration: " ++ reason
  | .cacheSyncTimeout names secs =>
    "caches for " ++ quotedList names ++ " did not sync within " ++ toString secs ++ "s"
  | .metrics e => e.message

/-- Named fields between braces after a kind name. -/
def record (name : String) (fields : List (String × String)) : String :=
  name ++ " \x7b " ++ ", ".intercalate (fields.map fun (k, v) => k ++ ": " ++ v) ++ " \x7d"

/-- The structural form: the kind name with its fields. -/
def debug : ExporterError → String
  | .invalidCrd crd reason => record "InvalidCrd" [("crd", quoted crd), ("reason", quoted reason)]
  | .unknownMetricType crd metric kind =>
    record "UnknownMetricType" [("crd", quoted crd), ("metric", quoted metric), ("kind", quoted kind)]
  | .invalidDescriptor crd metric source =>
    record "InvalidDescriptor" [("crd", quoted crd), ("metric", quoted metric), ("source", source.debug)]
  | .duplicateCollector name => "DuplicateCollector(" ++ quoted name ++ ")"
  | .unknownCollector name => "UnknownCollector(" ++ quoted name ++ ")"
  | .collectorDisabled reason => "CollectorDisabled(" ++ quoted reason ++ ")"
  | .cacheSyncTimeout names secs =>
    record "CacheSyncTimeout" [("collectors", quotedList names), ("timeout_secs", toString secs)]
  | .metrics e => "Prometheus(" ++ e.debug ++ ")"

/-- The messages of the underlying causes, nearest first. -/
def sources : ExporterError → List String
  | .invalidDescriptor _ _ source => [source.message]
  | _ => []

end ExporterError

end StateMetrics
