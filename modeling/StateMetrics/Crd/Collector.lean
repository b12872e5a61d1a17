import StateMetrics.Crd.Samples
import StateMetrics.Resource.Cache
import StateMetrics.Watch.Target

/-! # Custom resource collectors

A collector for one kind of custom resource: its validated specification, its descriptors,
a cache of the latest version of every watched resource, and one sync flag per watch target.
Changes update the cache (an update stores the new version under its own key and ignores the
old one). Gathering reads every cached resource through every descriptor; collecting gives the
gauge families of the descriptors that have samples, and nothing until the lifecycle gate is
open and every watch has synced. -/

namespace StateMetrics

open StateMetrics.Metric

/-- A collector for one kind of custom resource. -/
structure CrdCollector where
  spec : CrdSpec
  descriptors : List Descriptor
  cache : ResourceCache := {}
  sync : SyncFlags
  deriving Inhabited

namespace CrdCollector

/-- A collector for a specification under a metric name stem, or why it cannot be built: the
specification is validated first, then its descriptors are built. -/
def new (spec : CrdSpec) (stem : String) : Except ExporterError CrdCollector :=
  match spec.validate with
  | .error e => .error e
  | .ok () =>
    match spec.descriptors stem with
    | .error e => .error e
    | .ok descriptors =>
      .ok { spec, descriptors, sync := SyncFlags.unset (max spec.namespaces.length 1) }

/-- The collector's name in logs and watch targets: `crd/<name>`. -/
def label (c : CrdCollector) : String := "crd/" ++ c.spec.name

/-- Applies a change to the cache directly. -/
def apply (c : CrdCollector) : ResourceEvent → CrdCollector
  | .added obj => { c with cache := (c.cache.upsert obj).1 }
  | .updated _ new => { c with cache := (c.cache.upsert new).1 }
  | .deleted obj => { c with cache := (c.cache.remove obj).1 }

/-- The collector's callbacks, one for each kind of change, each applying its change. -/
def handler : EventHandlerFuncs CrdCollector where
  add := some fun obj c => c.apply (.added obj)
  update := some fun old new c => c.apply (.updated old new)
  delete := some fun obj c => c.apply (.deleted obj)

/-- Delivers a change through the collector's callbacks behind the gate. -/
def deliver (c : CrdCollector) (gateOpen : Bool) (e : ResourceEvent) : CrdCollector :=
  (handler.gated gateOpen).handle e c

theorem deliver_closed (c : CrdCollector) (e : ResourceEvent) : c.deliver false e = c :=
  handler.handle_gated_closed e c

theorem deliver_open (c : CrdCollector) (e : ResourceEvent) : c.deliver true e = c.apply e := by
  cases e <;> rfl

/-- The targets show a callback for every kind of change. -/
theorem kinds_handler : handler.kinds = Handlers.all := rfl

/-- The watch targets: one per namespace, or one for the whole cluster. -/
def targets (c : CrdCollector) (firstSync : Nat := 0) : List WatchTarget :=
  WatchTarget.forNamespaces c.label c.spec.gvr c.spec.namespaces Handlers.all firstSync

/-- Whether every watch has synced. -/
def hasSynced (c : CrdCollector) : Bool := c.sync.hasSynced

/-- Whether the collector gives metrics: the gate is open and every watch has synced. -/
def isReady (c : CrdCollector) (gateOpen : Bool) : Bool := gateOpen && c.hasSynced

/-- The paths of the common labels, in ascending label-name order. -/
def commonPaths (c : CrdCollector) : List String := c.spec.commonLabels.map (·.2)

/-- The samples of every descriptor, in configuration order, from the resources in the order
given, in two passes over one buffer per descriptor: the first goes through the resources and
appends each one's samples to the buffer of every per-resource descriptor, with the values of
the common labels at `paths`; the second fills the buffer of every count descriptor with the
counts over all the resources. -/
def gatherSamples (descriptors : List Descriptor) (paths : List String) (objs : List Json) :
    List (Descriptor × List Sample) :=
  let perResource := objs.foldl (fun buffers obj =>
      let common := commonValues paths obj
      (descriptors.zip buffers).map fun (d, out) =>
        if d.kind.isAggregate then out else out ++ d.resourceSamples obj common)
    (descriptors.map fun _ => [])
  descriptors.zip ((descriptors.zip perResource).map fun (d, out) =>
    if d.kind.isAggregate then d.countSamples objs else out)

/-- The samples of every descriptor, in configuration order, over the cached resources in key
order. -/
def gather (c : CrdCollector) : List (Descriptor × List Sample) :=
  gatherSamples c.descriptors c.commonPaths c.cache.objects

/-- The gauge families of the descriptors with samples; none unless the collector is ready. -/
def collect (c : CrdCollector) (gateOpen : Bool) : List Family :=
  if c.isReady gateOpen then
    (c.gather.filter fun (_, s) => !s.isEmpty).map fun (d, s) => d.desc.family s
  else []

/-- The metric descriptions. -/
def descs (c : CrdCollector) : List Desc := c.descriptors.map (·.desc)

end CrdCollector

/-- The custom resource collectors of all configured specifications. -/
structure CrdCollectorSet where
  collectors : List CrdCollector
  deriving Inhabited

namespace CrdCollectorSet

/-- Collectors for every specification in order; the first that cannot be built fails the
whole set. -/
def new (specs : List CrdSpec) (stem : String) : Except ExporterError CrdCollectorSet :=
  (specs.mapM fun s => CrdCollector.new s stem).map CrdCollectorSet.mk

/-- The watch targets of all collectors in order, their sync flags numbered across the set. -/
def targets (s : CrdCollectorSet) : List WatchTarget :=
  (s.collectors.foldl (fun (acc, n) c =>
    let ts := c.targets n
    (acc ++ ts, n + ts.length)) ([], 0)).1

/-- Whether every collector has synced. -/
def hasSynced (s : CrdCollectorSet) : Bool := s.collectors.all (·.hasSynced)

/-- Sets the sync flag of the target with a global index. -/
def markSynced (s : CrdCollectorSet) (i : Nat) : CrdCollectorSet :=
  let step := fun (acc : List CrdCollector × Nat) (c : CrdCollector) =>
    let n := c.sync.flags.length
    let c := if acc.2 ≤ i ∧ i < acc.2 + n then { c with sync := c.sync.mark (i - acc.2) } else c
    (acc.1 ++ [c], acc.2 + n)
  ⟨(s.collectors.foldl step ([], 0)).1⟩

/-- Delivers a change to the collector that owns the target with a global index. -/
def deliverAt (s : CrdCollectorSet) (i : Nat) (gateOpen : Bool) (e : ResourceEvent) :
    CrdCollectorSet :=
  let step := fun (acc : List CrdCollector × Nat) (c : CrdCollector) =>
    let n := c.sync.flags.length
    let c := if acc.2 ≤ i ∧ i < acc.2 + n then c.deliver gateOpen e else c
    (acc.1 ++ [c], acc.2 + n)
  ⟨(s.collectors.foldl step ([], 0)).1⟩

/-- The collectors that describe at least one metric. -/
def metricCollectors (s : CrdCollectorSet) : List CrdCollector :=
  s.collectors.filter fun c => !c.descriptors.isEmpty

end CrdCollectorSet

end StateMetrics
