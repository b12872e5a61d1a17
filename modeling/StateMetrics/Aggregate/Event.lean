import StateMetrics.Kube.Event
import StateMetrics.Aggregate.Pod

/-! # Event aggregation

Events are counted per namespace, reason and involved kind within a sliding window: a bucket per
`<namespace>/<reason>/<kind>`, counting occurrences, whose members are the names of the
involved objects. The map holds at most `maxEvents` buckets (and at least one); a new bucket
in a full map evicts the oldest.

A new event adds its occurrences. An updated event adds only the growth of its count when it
stays in its bucket, or all its occurrences when it moves; an update that adds nothing still
refreshes its bucket. Deleting an event changes nothing: its occurrences happened. -/

namespace StateMetrics

open Kube StateMetrics.Metric

/-- What an event bucket stands for; the type is the first event's. -/
structure EventDims where
  namespaceName : String
  reason : String
  kind : String
  type : String
  deriving Repr, BEq, DecidableEq, Inhabited

/-- One bucket of events, as reported. -/
structure EventBucketView where
  dims : EventDims
  count : Nat
  uniqueObjects : Nat
  firstSeen : Instant
  lastSeen : Instant
  deriving Repr, BEq, DecidableEq, Inhabited

/-- Event buckets within a window. -/
structure EventAggregator where
  windowSecs : Nat
  buckets : BucketMap EventDims
  deriving Inhabited

namespace EventAggregator

/-- An empty aggregator for a window and a bucket limit. -/
def new (windowSecs maxEvents : Nat) : EventAggregator :=
  ⟨windowSecs, BucketMap.withCapacity maxEvents⟩

/-- The dimensions of an event's bucket. -/
def dimsOf (e : Event) : EventDims := ⟨e.namespaceName, e.reason, e.involvedKind, e.type⟩

/-- Adds occurrences of an event to its bucket. -/
def contribute (a : EventAggregator) (e : Event) (delta : Nat) (now : Instant) : EventAggregator :=
  { a with buckets := (a.buckets.addOccurrences e.bucketKey (dimsOf e) e.involvedName delta now).1 }

/-- A new event. -/
def add (a : EventAggregator) (e : Event) (now : Instant) : EventAggregator :=
  a.contribute e e.occurrences now

/-- An updated event: the growth of its count in the same bucket, or all of it in a new one. -/
def update (a : EventAggregator) (old new : Event) (now : Instant) : EventAggregator :=
  let delta := if old.bucketKey == new.bucketKey then new.occurrences - old.occurrences
    else new.occurrences
  if delta = 0 then { a with buckets := (a.buckets.refresh new.bucketKey new.involvedName now).1 }
  else a.contribute new delta now

/-- The buckets, by namespace, reason and kind. -/
def aggregated (a : EventAggregator) : List EventBucketView :=
  Text.sortByTexts (fun (b : EventBucketView) => [b.dims.namespaceName, b.dims.reason, b.dims.kind])
    (a.buckets.buckets.map fun (_, b) =>
      ⟨b.dims, b.count, b.members.length, b.firstSeen, b.lastSeen⟩)

/-- The bucket of a namespace, reason and kind. -/
def get? (a : EventAggregator) (ns reason kind : String) : Option EventBucketView :=
  a.aggregated.find? fun b => b.dims.namespaceName == ns && b.dims.reason == reason && b.dims.kind == kind

/-- The number of buckets. -/
def size (a : EventAggregator) : Nat := a.buckets.size

/-- Removes the buckets idle longer than the retention of the window; returns how many. -/
def cleanup (a : EventAggregator) (now : Instant) : Except TimeOverflow (EventAggregator × Nat) :=
  match a.buckets.cleanup now (retentionSecs a.windowSecs * 1000) with
  | .error e => .error e
  | .ok (buckets, expired) => .ok ({ a with buckets }, expired.length)

end EventAggregator

/-- The resource type of events. -/
def eventGvr : Gvr := ⟨"", "v1", "events", "Event"⟩

/-- The label names of both event families. -/
def eventLabels : List String := ["namespace", "reason", "kind", "type"]

/-- Event aggregation behind the gate, with its watches and metric descriptions. -/
structure EventCollector where
  namespaces : List String
  aggregator : EventAggregator
  sync : SyncFlags
  countDesc : Desc
  uniqueDesc : Desc
  deriving Inhabited

namespace EventCollector

/-- A collector over an aggregator, with metric names under a stem. -/
def new (namespaces : List String) (aggregator : EventAggregator) (stem : String) :
    Except ExporterError EventCollector :=
  match Desc.make (fullName stem "event" "aggregated_count")
      "Event occurrences per namespace, reason and involved kind" eventLabels,
    Desc.make (fullName stem "event" "unique_objects")
      "Distinct involved objects per namespace, reason and involved kind" eventLabels with
  | .error e, _ => .error (.metrics e)
  | _, .error e => .error (.metrics e)
  | .ok countDesc, .ok uniqueDesc =>
    .ok { namespaces, aggregator, sync := SyncFlags.unset (max namespaces.length 1), countDesc,
          uniqueDesc }

/-- The collector of the event settings; disabled events refuse. -/
def ofSettings (s : EventSettings) (stem : String) : Except ExporterError EventCollector :=
  if !s.enabled then .error (.collectorDisabled "event collector disabled")
  else new s.namespaces (EventAggregator.new s.windowSecs s.maxEvents) stem

/-- The collector's handlers take additions and updates only. -/
def handlers : Handlers := ⟨true, true, false⟩

/-- The collector's callbacks at a time, for additions and updates only: each decodes the
event, an update both versions, and ignores an object that does not decode. -/
def handler (now : Instant) : EventHandlerFuncs EventCollector where
  add := some fun obj c => match Event.decode obj with
    | .ok ev => { c with aggregator := c.aggregator.add ev now }
    | .error _ => c
  update := some fun old new c => match Event.decode old, Event.decode new with
    | .ok o, .ok n => { c with aggregator := c.aggregator.update o n now }
    | _, _ => c

/-- Delivers a change through the collector's callbacks behind the gate. -/
def deliver (c : EventCollector) (gateOpen : Bool) (now : Instant) (e : ResourceEvent) :
    EventCollector :=
  ((handler now).gated gateOpen).handle e c

theorem deliver_closed (c : EventCollector) (now : Instant) (e : ResourceEvent) :
    c.deliver false now e = c :=
  (handler now).handle_gated_closed e c

theorem deliver_open (c : EventCollector) (now : Instant) (e : ResourceEvent) :
    c.deliver true now e = (handler now).handle e c :=
  (handler now).handle_gated_open e c

/-- The targets show the callbacks the collector sets: additions and updates. -/
theorem kinds_handler (now : Instant) : (handler now).kinds = handlers := rfl

/-- The watch targets. -/
def targets (c : EventCollector) (firstSync : Nat := 0) : List WatchTarget :=
  WatchTarget.forNamespaces "event" eventGvr c.namespaces handlers firstSync

/-- Whether the collector gives metrics. -/
def isReady (c : EventCollector) (gateOpen : Bool) : Bool := gateOpen && c.sync.hasSynced

/-- The families: occurrences and distinct objects per bucket; none without buckets. -/
def collect (c : EventCollector) (gateOpen : Bool) : List Family :=
  let buckets := c.aggregator.aggregated
  if !c.isReady gateOpen || buckets.isEmpty then []
  else
    let labels (b : EventBucketView) := [b.dims.namespaceName, b.dims.reason, b.dims.kind, b.dims.type]
    [c.countDesc.family (buckets.map fun b => ⟨labels b, floatOfInt b.count⟩),
     c.uniqueDesc.family (buckets.map fun b => ⟨labels b, floatOfInt b.uniqueObjects⟩)]

end EventCollector

end StateMetrics
