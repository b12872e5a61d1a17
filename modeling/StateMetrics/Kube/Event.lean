import StateMetrics.Kube.Pod

/-! # Events

The part of a cluster event that the exporter reads: namespace, reason, type, the kind and
name of the involved object, and how many times it occurred. An event is read only from an
object that passes the event schema (`decode`); its count must fit in 32 bits. An event stands
for at least one occurrence: a missing, zero or negative count counts once. -/

namespace StateMetrics.Kube

/-- An event as the exporter sees it. -/
structure Event where
  namespaceName : String
  reason : String
  type : String
  involvedKind : String
  involvedName : String
  count : Option Int
  deriving Repr, BEq, DecidableEq, Inhabited

/-- The schema of the series of an event. -/
def eventSeriesSchema : Schema :=
  .record "EventSeries" [("count", .integer 32), ("lastObservedTime", .time)]

/-- The schema of an event's source. -/
def eventSourceSchema : Schema :=
  .record "EventSource" [("component", .text), ("host", .text)]

/-- The fields of an event. -/
def eventFields : List (String × Schema) :=
  [("action", .text), ("count", .integer 32), ("eventTime", .time), ("firstTimestamp", .time),
    ("involvedObject", objectReference), ("lastTimestamp", .time), ("message", .text),
    ("metadata", objectMeta), ("reason", .text), ("related", objectReference),
    ("reportingComponent", .text), ("reportingInstance", .text), ("series", eventSeriesSchema),
    ("source", eventSourceSchema), ("type", .text)]

namespace Event

/-- The event in an object, or why the object is not an event. -/
def decode (v : Json) : Except String Event :=
  match checkResource "Event" "v1" eventFields v with
  | .error e => .error e
  | .ok () =>
    let metadata := (present v "metadata").getD (.obj [])
    let involved := (present v "involvedObject").getD (.obj [])
    .ok { namespaceName := textAt metadata "namespace", reason := textAt v "reason",
          type := textAt v "type", involvedKind := textAt involved "kind",
          involvedName := textAt involved "name", count := (present v "count").bind Json.asInt? }

/-- How many occurrences the event stands for: its count, and at least one. -/
def occurrences (e : Event) : Nat := (max (e.count.getD 1) 1).toNat

theorem occurrences_pos (e : Event) : 0 < e.occurrences := by
  unfold occurrences
  omega

/-- The key of the event's bucket: `<namespace>/<reason>/<involved kind>`. -/
def bucketKey (e : Event) : String :=
  e.namespaceName ++ "/" ++ e.reason ++ "/" ++ e.involvedKind

end Event

end StateMetrics.Kube
