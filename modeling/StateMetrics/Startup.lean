import StateMetrics.Flags.Parse
import StateMetrics.Config.Load
import StateMetrics.Publication
import StateMetrics.Kube.Connect
import StateMetrics.Report

/-! # Starting the exporter

A run reads its flags, then its settings (defaults, the configuration file, the environment,
then the flags), builds the enabled collectors, registers their metrics, makes the cluster
client, and waits for the collectors' caches. The first step that fails ends the run with a
report on standard error and exit code 1. Flags that cannot be read end it with the flag
parser's text and exit code 2; `--help` and `--version` end it with exit code 0, their text
going to standard output.

A run that passes every step serves until it is stopped. Nothing can sync while the cluster is
out of reach, so with a wait of zero seconds a run ends at the wait unless no collector has
anything to watch. -/

namespace StateMetrics

/-- How a run ends. -/
inductive Outcome where
  /-- The run ended with an exit code and what it wrote on standard error. -/
  | exited (code : Nat) (stderr : String)
  /-- The run passed every step and serves until stopped. -/
  | serving
  deriving Repr, BEq, Inhabited

/-- A failure reported with its chain of messages. -/
def Outcome.failed (chain : List String) : Outcome := .exited 1 (errorReport chain)

/-- The report of the program stopping at a place of its code, with a message. -/
def haltReport (location message : String) : String :=
  "\nthread 'main' panicked at " ++ location ++ ":\n" ++ message ++ "\n" ++
    "note: run with \x60RUST_BACKTRACE=1\x60 environment variable to display a backtrace\n"

/-- The exporter's own metrics: events applied, cached objects, collect latency, evictions and
live buckets. Building any collector registers them in the default registry, each as a collector
of its own. -/
def selfMetricDescs : List Metric.Desc :=
  [⟨"state_metrics_events_total", "Watch events applied to collector state",
      ["collector", "event"]⟩,
    ⟨"state_metrics_cached_objects", "Objects currently held in a collector cache", ["collector"]⟩,
    ⟨"state_metrics_collect_duration_seconds", "Time spent producing metrics for one scrape",
      ["collector"]⟩,
    ⟨"state_metrics_aggregator_evictions_total",
      "Buckets dropped by capacity eviction or window cleanup", ["aggregator", "reason"]⟩,
    ⟨"state_metrics_aggregator_buckets", "Live buckets per windowed aggregator", ["aggregator"]⟩]

/-- The default registry as the collectors find it: holding the exporter's own metrics. -/
def defaultRegistry : Metric.MetricsRegistry :=
  selfMetricDescs.foldl (fun r d => (r.register [d]).1) {}

/-- Registers the metrics of every collector in order in the default registry; the first
refusal names its collector. A registry without collectors gets nothing, so it does not matter
that the exporter's own metrics are there only once a collector is built. -/
def registerCollectors (cs : List Collector) : Option (String × MetricsError) :=
  let step := fun (st : Metric.MetricsRegistry × Option (String × MetricsError)) (c : Collector) =>
    match st with
    | (_, some e) => (st.1, some e)
    | (r, none) =>
      c.descGroups.foldl (fun (r, e) descs => match e with
        | some _ => (r, e)
        | none => match r.register descs with
          | (r, .ok ()) => (r, none)
          | (r, .error err) => (r, some (c.name, err))) (r, none)
  (cs.foldl step (defaultRegistry, none)).2

/-- Runs the exporter's start with its arguments, environment and files. -/
def startup (args : List String) (env : List (String × String)) (files : Config.Files) : Outcome :=
  match Flags.parse args (env.lookup "STATE_METRICS_CONFIG") with
  | .error e => .exited e.exitCode (if e.exitCode == 0 then "" else e.message)
  | .ok flags =>
    match Config.loadSettings files env flags.config with
    | .error (.halted location message) => .exited 101 (haltReport location message)
    | .error e => .failed e.chain
    | .ok loaded =>
      let s := loaded.applyFlags flags
      match CollectorRegistry.builtin.build s.enabledCollectors s.collectors s.metricsNamespace with
      | .error e => .failed (e.message :: e.sources)
      | .ok cs =>
        match registerCollectors cs with
        | some (name, e) => .failed ["failed to register " ++ name ++ " metrics", e.message]
        | none =>
          match Kube.makeClient files env s.kubeconfig with
          | .error e => .failed e.chain
          | .ok () =>
            match Collectors.waitForSync cs (s.syncTimeoutSecs * 1000) with
            | .error e => .failed (e.message :: e.sources)
            | .ok () => .serving

end StateMetrics
