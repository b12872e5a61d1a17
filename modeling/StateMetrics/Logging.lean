import StateMetrics.Text.Quoted

/-! # Structured log events

The exporter logs its milestones as structured events: a level, a message, and named fields.
Every event names the exporter instance and the kind of milestone in its `event` field. Texts
are logged as given, counts as numbers, and a list of collector names in its quoted form. -/

namespace StateMetrics

open Text

/-- The severity of a log event. -/
inductive LogLevel where
  | trace
  | debug
  | info
  | warn
  | error
  deriving Repr, BEq, DecidableEq, Inhabited

/-- The level's name as logs print it. -/
def LogLevel.word : LogLevel → String
  | .trace => "TRACE"
  | .debug => "DEBUG"
  | .info => "INFO"
  | .warn => "WARN"
  | .error => "ERROR"

/-- A field value: a text or a count. -/
inductive LogValue where
  | text (s : String)
  | count (n : Nat)
  deriving Repr, BEq, DecidableEq, Inhabited

/-- One log event: its level and its fields, the message among them. -/
structure LogEvent where
  level : LogLevel
  fields : List (String × LogValue)
  deriving Repr, BEq, DecidableEq, Inhabited

/-- A logger that stamps every event with the exporter instance's name. -/
structure StructuredLogger where
  instanceName : String
  deriving Repr, BEq, DecidableEq, Inhabited

namespace StructuredLogger

/-- An event of a milestone kind with a message and further fields. -/
def emit (l : StructuredLogger) (level : LogLevel) (kind message : String)
    (fields : List (String × LogValue)) : LogEvent :=
  ⟨level, ("event", .text kind) :: ("instance", .text l.instanceName) :: fields ++
    [("message", .text message)]⟩

/-- The exporter started with a version and its collectors. -/
def startup (l : StructuredLogger) (version : String) (collectors : List String) : LogEvent :=
  l.emit .info "exporter_started" "State metrics exporter started"
    [("version", .text version), ("collectors", .text (quotedList collectors))]

/-- The exporter is shutting down for a reason. -/
def shutdown (l : StructuredLogger) (reason : String) : LogEvent :=
  l.emit .info "exporter_shutdown" "State metrics exporter shutting down"
    [("reason", .text reason)]

/-- A collector started with a number of watches. -/
def collectorStarted (l : StructuredLogger) (collector : String) (watches : Nat) : LogEvent :=
  l.emit .info "collector_started" "Collector started"
    [("collector", .text collector), ("watches", .count watches)]

/-- A collector's caches synced after some milliseconds. -/
def cacheSynced (l : StructuredLogger) (collector : String) (elapsedMs : Nat) : LogEvent :=
  l.emit .info "cache_synced" "Collector cache synced"
    [("collector", .text collector), ("elapsed_ms", .count elapsedMs)]

/-- A watch stream failed and will be retried. -/
def watchError (l : StructuredLogger) (collector resource error : String) : LogEvent :=
  l.emit .warn "watch_error" "Watch stream error, retrying with backoff"
    [("collector", .text collector), ("resource", .text resource), ("error", .text error)]

/-- A full aggregator evicted its least recently updated bucket. -/
def capacityEviction (l : StructuredLogger) (aggregator key : String) (capacity : Nat) :
    LogEvent :=
  l.emit .debug "capacity_eviction" "Evicted least recently updated bucket"
    [("aggregator", .text aggregator), ("key", .text key), ("capacity", .count capacity)]

end StructuredLogger

end StateMetrics
