import StateMetrics.Kube.Pod
import StateMetrics.Window.BucketMap
import StateMetrics.Watch.Target
import StateMetrics.Metric.Name
import StateMetrics.Metric.Family
import StateMetrics.Settings.Collectors
import StateMetrics.Text.Order
import StateMetrics.Health

/-! # Pod aggregation

Pods are counted per namespace and phase within a sliding window: a bucket per
`<namespace>/<phase>` whose members are pod names. When a pod changes phase it leaves its old
bucket; a bucket without pods disappears. Buckets idle longer than the retention of the
window (twice the window) are cleaned up.

Abnormal pods are tracked by `<namespace>/<name>` from the first time they are seen abnormal;
seeing the pod normal again, or deleting it, stops the tracking. The time a pod has been
abnormal is measured from then, and is zero when the clock stands before that instant.

The pod collector puts the aggregation behind the lifecycle gate and the watches' sync
flags, and reports two gauge families: the pod count of every bucket, and the seconds every
abnormal pod has been abnormal. -/

namespace StateMetrics

open Kube StateMetrics.Metric

/-- What a pod bucket stands for. -/
structure PodDims where
  namespaceName : String
  phase : String
  deriving Repr, BEq, DecidableEq, Inhabited

/-- A pod tracked as abnormal since an instant. -/
structure AbnormalEntry where
  namespaceName : String
  name : String
  since : Instant
  deriving Repr, BEq, DecidableEq, Inhabited

/-- One bucket of pods, as reported. -/
structure PodBucketView where
  namespaceName : String
  phase : String
  count : Nat
  pods : List String
  firstSeen : Instant
  lastSeen : Instant
  deriving Repr, BEq, DecidableEq, Inhabited

/-- Pod buckets and abnormal pods within a window. -/
structure PodAggregator where
  windowSecs : Nat
  buckets : BucketMap PodDims := {}
  abnormal : List (String × AbnormalEntry) := []
  deriving Inhabited

/-- Milliseconds from one instant to a later one; zero when the second is earlier. -/
def elapsedMs (since now : Instant) : Nat := (now.ms - since.ms).toNat

/-- A duration in milliseconds as seconds: whole seconds plus the nanoseconds of the rest. -/
def secondsOfMs (ms : Nat) : Float :=
  floatOfInt (ms / 1000) + floatOfInt (ms % 1000 * 1000000) / 1000000000.0

namespace PodAggregator

/-- Records a pod as seen now: it joins its bucket, and its abnormal tracking starts or stops. -/
def observe (a : PodAggregator) (p : Pod) (now : Instant) : PodAggregator :=
  let buckets := (a.buckets.addMember p.bucketKey ⟨p.namespaceName, p.phase⟩ p.name now).1
  let key := p.identity
  let abnormal :=
    if p.isAbnormal then
      if (findKey? key a.abnormal).isSome then a.abnormal
      else insertSorted key ⟨p.namespaceName, p.name, now⟩ a.abnormal
    else a.abnormal.filter (·.1 != key)
  { a with buckets, abnormal }

/-- A pod was added. -/
def add (a : PodAggregator) (p : Pod) (now : Instant) : PodAggregator := a.observe p now

/-- A pod changed: it leaves its old bucket when the bucket key changed, then is seen anew. -/
def update (a : PodAggregator) (old new : Pod) (now : Instant) : PodAggregator :=
  let a := if old.bucketKey != new.bucketKey then
      { a with buckets := (a.buckets.removeMember old.bucketKey old.name).1 }
    else a
  a.observe new now

/-- A pod was deleted: it leaves its bucket and is no longer tracked. -/
def remove (a : PodAggregator) (p : Pod) : PodAggregator :=
  { a with buckets := (a.buckets.removeMember p.bucketKey p.name).1
           abnormal := a.abnormal.filter (·.1 != p.identity) }

/-- How long a pod has been abnormal, in milliseconds; zero when it is not tracked. -/
def abnormalDurationMs (a : PodAggregator) (now : Instant) (ns name : String) : Nat :=
  match findKey? (ns ++ "/" ++ name) a.abnormal with
  | some e => elapsedMs e.since now
  | none => 0

/-- Whether a pod is tracked as abnormal. -/
def isTrackedAbnormal (a : PodAggregator) (ns name : String) : Bool :=
  (findKey? (ns ++ "/" ++ name) a.abnormal).isSome

/-- The abnormal pods with their durations in milliseconds, by namespace and name. -/
def abnormalPods (a : PodAggregator) (now : Instant) : List (String × String × Nat) :=
  (Text.sortByTexts (fun (e : AbnormalEntry) => [e.namespaceName, e.name]) (a.abnormal.map (·.2))).map
    fun e => (e.namespaceName, e.name, elapsedMs e.since now)

/-- The buckets, by namespace and phase. -/
def aggregated (a : PodAggregator) : List PodBucketView :=
  Text.sortByTexts (fun (b : PodBucketView) => [b.namespaceName, b.phase])
    (a.buckets.buckets.map fun (_, b) =>
      ⟨b.dims.namespaceName, b.dims.phase, b.count, b.members, b.firstSeen, b.lastSeen⟩)

/-- The bucket of a namespace and phase. -/
def get? (a : PodAggregator) (ns phase : String) : Option PodBucketView :=
  a.aggregated.find? fun b => b.namespaceName == ns && b.phase == phase

/-- The number of buckets. -/
def size (a : PodAggregator) : Nat := a.buckets.size

/-- Removes the buckets idle longer than the retention of the window; returns how many. -/
def cleanup (a : PodAggregator) (now : Instant) : Except TimeOverflow (PodAggregator × Nat) :=
  match a.buckets.cleanup now (retentionSecs a.windowSecs * 1000) with
  | .error e => .error e
  | .ok (buckets, expired) => .ok ({ a with buckets }, expired.length)

end PodAggregator

/-- The resource type of pods. -/
def podGvr : Gvr := ⟨"", "v1", "pods", "Pod"⟩

/-- Pod aggregation behind the gate, with its watches and metric descriptions. -/
structure PodCollector where
  namespaces : List String
  aggregator : PodAggregator
  sync : SyncFlags
  countDesc : Desc
  abnormalDesc : Desc
  deriving Inhabited

namespace PodCollector

/-- A collector over an aggregator, with metric names under a stem. -/
def new (namespaces : List String) (aggregator : PodAggregator) (stem : String) :
    Except ExporterError PodCollector :=
  match Desc.make (fullName stem "pod" "aggregated_count") "Number of pods per namespace and phase"
      ["namespace", "phase"],
    Desc.make (fullName stem "pod" "abnormal_duration_seconds")
      "Seconds since the pod was first observed in an abnormal state" ["namespace", "pod"] with
  | .error e, _ => .error (.metrics e)
  | _, .error e => .error (.metrics e)
  | .ok countDesc, .ok abnormalDesc =>
    .ok { namespaces, aggregator, sync := SyncFlags.unset (max namespaces.length 1), countDesc,
          abnormalDesc }

/-- The collector of the pod settings; disabled pods or a disabled aggregator refuse. -/
def ofSettings (s : PodSettings) (stem : String) : Except ExporterError PodCollector :=
  if !s.enabled then .error (.collectorDisabled "pod collector disabled")
  else if !s.aggregator.enabled then .error (.collectorDisabled "pod aggregator disabled")
  else new s.namespaces { windowSecs := s.aggregator.windowSecs } stem

/-- The collector's callbacks at a time: each decodes the pod, an update both versions, and
ignores an object that does not decode. -/
def handler (now : Instant) : EventHandlerFuncs PodCollector where
  add := some fun obj c => match Pod.decode obj with
    | .ok p => { c with aggregator := c.aggregator.add p now }
    | .error _ => c
  update := some fun old new c => match Pod.decode old, Pod.decode new with
    | .ok o, .ok n => { c with aggregator := c.aggregator.update o n now }
    | _, _ => c
  delete := some fun obj c => match Pod.decode obj with
    | .ok p => { c with aggregator := c.aggregator.remove p }
    | .error _ => c

/-- Delivers a change through the collector's callbacks behind the gate. -/
def deliver (c : PodCollector) (gateOpen : Bool) (now : Instant) (e : ResourceEvent) : PodCollector :=
  ((handler now).gated gateOpen).handle e c

theorem deliver_closed (c : PodCollector) (now : Instant) (e : ResourceEvent) :
    c.deliver false now e = c :=
  (handler now).handle_gated_closed e c

theorem deliver_open (c : PodCollector) (now : Instant) (e : ResourceEvent) :
    c.deliver true now e = (handler now).handle e c :=
  (handler now).handle_gated_open e c

/-- The targets show a callback for every kind of change. -/
theorem kinds_handler (now : Instant) : (handler now).kinds = Handlers.all := rfl

/-- The watch targets. -/
def targets (c : PodCollector) (firstSync : Nat := 0) : List WatchTarget :=
  WatchTarget.forNamespaces "pod" podGvr c.namespaces Handlers.all firstSync

/-- Whether the collector gives metrics. -/
def isReady (c : PodCollector) (gateOpen : Bool) : Bool := gateOpen && c.sync.hasSynced

/-- The families: pod counts and abnormal durations, each left out when empty. -/
def collect (c : PodCollector) (gateOpen : Bool) (now : Instant) : List Family :=
  if !c.isReady gateOpen then []
  else
    let counts := c.aggregator.aggregated.map fun b =>
      (⟨[b.namespaceName, b.phase], floatOfInt b.count⟩ : Sample)
    let durations := (c.aggregator.abnormalPods now).map fun (ns, name, ms) =>
      (⟨[ns, name], secondsOfMs ms⟩ : Sample)
    (if counts.isEmpty then [] else [c.countDesc.family counts]) ++
      (if durations.isEmpty then [] else [c.abnormalDesc.family durations])

end PodCollector

end StateMetrics
