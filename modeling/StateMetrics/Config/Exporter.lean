import StateMetrics.Settings.Collectors
import StateMetrics.Flags.Parse

/-! # The exporter's settings

The exporter serves its metrics on a port, names them under a stem, runs the enabled
collectors, waits a while for their caches, logs at a level, and reaches the cluster through
an optional kubeconfig file. Every setting has a default, and a flag given on the command line
overrides the setting it names. -/

namespace StateMetrics

/-- The exporter's settings. -/
structure ExporterSettings where
  port : Nat := 9090
  metricsNamespace : String := "state_metrics"
  enabledCollectors : List String := ["crd", "pod", "event"]
  syncTimeoutSecs : Nat := 120
  logLevel : String := "info"
  kubeconfig : Option String := none
  collectors : CollectorSettings := {}
  deriving Inhabited

namespace Settings

variable {V : Type}

/-- Decodes the server's settings, the port. -/
def decodeServer (d : Dialect V) : V → Except DecodeError Nat :=
  d.record "ServerConfig" ["port"] 9090 fun _ x _ => d.natural 65536 "u16" x

/-- Decodes the exporter's settings. -/
def decodeExporterSettings (d : Dialect V) : V → Except DecodeError ExporterSettings :=
  d.record "ExporterConfig" ["server", "metrics_namespace", "enabled_collectors",
      "sync_timeout_secs", "log_level", "kubeconfig", "collectors"] {} fun i x s =>
    match i with
    | 0 => (decodeServer d x).map fun p => { s with port := p }
    | 1 => (d.text x).map fun t => { s with metricsNamespace := t }
    | 2 => (d.list d.text x).map fun l => { s with enabledCollectors := l }
    | 3 => (d.natural wordBound "u64" x).map fun n => { s with syncTimeoutSecs := n }
    | 4 => (d.text x).map fun t => { s with logLevel := t }
    | 5 => (d.optional d.text x).map fun k => { s with kubeconfig := k }
    | _ => (decodeCollectorSettings d x).map fun c => { s with collectors := c }

end Settings

namespace ExporterSettings

/-- Overrides the settings named by the flags given. -/
def applyFlags (f : Flags.Cli) (s : ExporterSettings) : ExporterSettings :=
  { s with
    port := f.port.getD s.port
    kubeconfig := match f.kubeconfig with
      | some k => some k
      | none => s.kubeconfig
    enabledCollectors := f.collectors.getD s.enabledCollectors
    logLevel := f.logLevel.getD s.logLevel
    metricsNamespace := f.metricsNamespace.getD s.metricsNamespace }

/-- The settings as a document. -/
def toJson (s : ExporterSettings) : Json :=
  Json.object [("server", Json.object [("port", Json.ofNat s.port)]),
    ("metrics_namespace", .str s.metricsNamespace),
    ("enabled_collectors", Json.ofStrings s.enabledCollectors),
    ("sync_timeout_secs", Json.ofNat s.syncTimeoutSecs), ("log_level", .str s.logLevel),
    ("kubeconfig", match s.kubeconfig with
      | some k => .str k
      | none => .null),
    ("collectors", s.collectors.toJson)]

end ExporterSettings

end StateMetrics
