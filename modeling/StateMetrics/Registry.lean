import StateMetrics.Crd.Collector
import StateMetrics.Aggregate.Pod
import StateMetrics.Aggregate.Event

/-! # The collector registry

The exporter knows its collectors by name. A registry maps each name to a factory, and building
the names a configuration enables yields the collectors in the order they were enabled: a name
enabled twice is built once, an unknown name fails the whole build, and a collector that its
settings disable is left out.

A built collector brings its watch targets. Their sync flags are numbered across all built
collectors in build order, so that one index names one target. Waiting for the caches to sync
succeeds at once when every collector has synced; nothing syncs while waiting, so otherwise it
times out and names the collectors still pending. -/

namespace StateMetrics

/-- How a registered name builds its collector: one of the three built-in kinds, or a factory
that always declines with a reason. -/
inductive Factory where
  | crd
  | pod
  | event
  | disabled (reason : String)
  deriving Repr, BEq, DecidableEq, Inhabited

/-- A built collector. -/
inductive Collector where
  | crd (set : CrdCollectorSet)
  | pod (c : PodCollector)
  | event (c : EventCollector)
  deriving Inhabited

namespace Collector

/-- The name the collector is registered under. -/
def name : Collector → String
  | .crd _ => "crd"
  | .pod _ => "pod"
  | .event _ => "event"

/-- The watch targets, their sync flags numbered from `firstSync`. -/
def targets (c : Collector) (firstSync : Nat := 0) : List WatchTarget :=
  match c with
  | .crd s => s.targets.map fun t => { t with syncIndex := firstSync + t.syncIndex }
  | .pod p => p.targets firstSync
  | .event e => e.targets firstSync

/-- The number of sync flags, one per watch target. -/
def syncCount : Collector → Nat
  | .crd s => s.collectors.foldl (fun n c => n + c.sync.flags.length) 0
  | .pod p => p.sync.flags.length
  | .event e => e.sync.flags.length

/-- Sets the sync flag with a local index. -/
def markSynced (c : Collector) (i : Nat) : Collector :=
  match c with
  | .crd s => .crd (s.markSynced i)
  | .pod p => .pod { p with sync := p.sync.mark i }
  | .event e => .event { e with sync := e.sync.mark i }

/-- Whether every watch target has synced. -/
def hasSynced : Collector → Bool
  | .crd s => s.hasSynced
  | .pod p => p.sync.hasSynced
  | .event e => e.sync.hasSynced

/-- The descriptions of each metrics collector it contributes; a custom resource without metrics
contributes none. -/
def descGroups : Collector → List (List Metric.Desc)
  | .crd s => s.metricCollectors.map (·.descs)
  | .pod p => [[p.countDesc, p.abnormalDesc]]
  | .event e => [[e.countDesc, e.uniqueDesc]]

/-- Delivers a change through the watch target with a local index. -/
def deliverAt (c : Collector) (i : Nat) (gateOpen : Bool) (now : Instant) (e : ResourceEvent) :
    Collector :=
  match c with
  | .crd s => .crd (s.deliverAt i gateOpen e)
  | .pod p => .pod (p.deliver gateOpen now e)
  | .event ev => .event (ev.deliver gateOpen now e)

/-- The families the metrics collector with an index currently reports. -/
def collectGroup (c : Collector) (j : Nat) (gateOpen : Bool) (now : Instant) : List Metric.Family :=
  match c with
  | .crd s => match s.metricCollectors[j]? with
    | some cc => cc.collect gateOpen
    | none => []
  | .pod p => p.collect gateOpen now
  | .event e => e.collect gateOpen

/-- The number of background tasks it runs: the aggregators each run a cleanup loop. -/
def backgroundTasks : Collector → Nat
  | .crd _ => 0
  | .pod _ => 1
  | .event _ => 1

/-- Builds the collector a factory makes from the settings, with metric names under a stem. -/
def build (f : Factory) (settings : CollectorSettings) (stem : String) :
    Except ExporterError Collector :=
  match f with
  | .crd => (CrdCollectorSet.new settings.crd.crds stem).map .crd
  | .pod => (PodCollector.ofSettings settings.pod stem).map .pod
  | .event => (EventCollector.ofSettings settings.event stem).map .event
  | .disabled reason => .error (.collectorDisabled reason)

end Collector

/-- Factories by name, in ascending name order. -/
structure CollectorRegistry where
  factories : List (String × Factory) := []
  deriving Inhabited

namespace CollectorRegistry

/-- The registry without any factory. -/
def empty : CollectorRegistry := {}

/-- Whether a name is registered. -/
def contains (r : CollectorRegistry) (name : String) : Bool :=
  r.factories.any (·.1 == name)

/-- The registered names in ascending order. -/
def names (r : CollectorRegistry) : List String := r.factories.map (·.1)

/-- Registers a factory under a new name; a name cannot be registered twice. -/
def register (r : CollectorRegistry) (name : String) (f : Factory) :
    Except ExporterError CollectorRegistry :=
  if r.contains name then .error (.duplicateCollector name)
  else .ok ⟨insertSorted name f r.factories⟩

/-- The registry with the three built-in collectors. -/
def builtin : CollectorRegistry :=
  ⟨[("crd", .crd), ("event", .event), ("pod", .pod)]⟩

/-- Builds the remaining enabled names after those already `seen`, appending to `built`. -/
def buildFrom (r : CollectorRegistry) (settings : CollectorSettings) (stem : String) :
    List String → List String → List Collector → Except ExporterError (List Collector)
  | [], _, built => .ok built
  | name :: rest, seen, built =>
    if seen.contains name then r.buildFrom settings stem rest seen built
    else match findKey? name r.factories with
      | none => .error (.unknownCollector name)
      | some f => match Collector.build f settings stem with
        | .ok c => r.buildFrom settings stem rest (name :: seen) (built ++ [c])
        | .error (.collectorDisabled _) => r.buildFrom settings stem rest (name :: seen) built
        | .error e => .error e

/-- Builds the enabled collectors in order: repeats are ignored, an unknown name or a failing
factory fails the build, and disabled collectors are left out. -/
def build (r : CollectorRegistry) (enabled : List String) (settings : CollectorSettings)
    (stem : String) : Except ExporterError (List Collector) :=
  r.buildFrom settings stem enabled [] []

end CollectorRegistry

namespace Collectors

/-- All watch targets of the collectors, their sync flags numbered across the list. -/
def targets (cs : List Collector) : List WatchTarget :=
  (cs.foldl (fun (acc, n) c => (acc ++ c.targets n, n + c.syncCount)) ([], 0)).1

/-- The number of sync flags across the list. -/
def syncCount (cs : List Collector) : Nat := cs.foldl (fun n c => n + c.syncCount) 0

/-- Sets the sync flag with a global index; an index beyond the last flag changes nothing. -/
def markSynced (cs : List Collector) (i : Nat) : List Collector :=
  let step := fun (acc : List Collector × Nat) (c : Collector) =>
    let n := c.syncCount
    let c := if acc.2 ≤ i ∧ i < acc.2 + n then c.markSynced (i - acc.2) else c
    (acc.1 ++ [c], acc.2 + n)
  (cs.foldl step ([], 0)).1

/-- Sets every sync flag. -/
def markAllSynced (cs : List Collector) : List Collector :=
  (List.range (syncCount cs)).foldl markSynced cs

/-- Delivers a change through the watch target with a global index; an index beyond the last
target changes nothing. -/
def deliverAt (cs : List Collector) (i : Nat) (gateOpen : Bool) (now : Instant) (e : ResourceEvent) :
    List Collector :=
  let step := fun (acc : List Collector × Nat) (c : Collector) =>
    let n := c.syncCount
    let c := if acc.2 ≤ i ∧ i < acc.2 + n then c.deliverAt (i - acc.2) gateOpen now e else c
    (acc.1 ++ [c], acc.2 + n)
  (cs.foldl step ([], 0)).1

/-- Waits for every collector's caches: at once when all have synced, otherwise a timeout in
whole seconds naming the pending collectors in order. -/
def waitForSync (cs : List Collector) (timeoutMs : Nat) : Except ExporterError Unit :=
  let pending := (cs.filter fun c => !c.hasSynced).map (·.name)
  if pending.isEmpty then .ok () else .error (.cacheSyncTimeout pending (timeoutMs / 1000))

end Collectors

end StateMetrics
