import StateMetrics.Entries

/-! # Health of the exporter's components

Each component (a collector, a watch) is healthy, degraded or unhealthy, with an optional
message. A component may be degraded by several sources at once, such as the watches of one
collector: it stays degraded, with the message of the first remaining source in name order,
until every source has recovered, and a source cannot override an unhealthy component.

The exporter's health is the worst status of its components (healthy when it has none). It is
ready when its caches have synced and no component is unhealthy; otherwise the reason names
what is missing, the unhealthy components in ascending name order. -/

namespace StateMetrics

/-- How well a component works; the constructors are ordered from best to worst. -/
inductive ComponentStatus where
  | healthy
  | degraded
  | unhealthy
  deriving Repr, BEq, DecidableEq, Inhabited

namespace ComponentStatus

/-- The status as a word. -/
def word : ComponentStatus → String
  | .healthy => "healthy"
  | .degraded => "degraded"
  | .unhealthy => "unhealthy"

/-- A status named by a word; any other word means healthy. -/
def ofWord (w : String) : ComponentStatus :=
  if w = "degraded" then .degraded else if w = "unhealthy" then .unhealthy else .healthy

/-- Whether a component with this status still works. -/
def isOperational : ComponentStatus → Bool
  | .unhealthy => false
  | _ => true

/-- The worse of two statuses. -/
def worst : ComponentStatus → ComponentStatus → ComponentStatus
  | .unhealthy, _ | _, .unhealthy => .unhealthy
  | .degraded, _ | _, .degraded => .degraded
  | _, _ => .healthy

end ComponentStatus

/-- The health of one component. -/
structure ComponentHealth where
  status : ComponentStatus
  message : Option String := none
  deriving Repr, BEq, DecidableEq, Inhabited

namespace ComponentHealth

/-- Healthy, without a message. -/
def healthy : ComponentHealth := ⟨.healthy, none⟩

/-- Degraded, with a message. -/
def degraded (m : String) : ComponentHealth := ⟨.degraded, some m⟩

/-- Unhealthy, with a message. -/
def unhealthy (m : String) : ComponentHealth := ⟨.unhealthy, some m⟩

end ComponentHealth

/-- Whether the exporter is ready, and why not. -/
structure Readiness where
  ready : Bool
  reason : Option String
  deriving Repr, BEq, DecidableEq, Inhabited

/-- The health of all components, the degrading sources of each, and whether the caches have
synced. Components and sources are kept in ascending name order. -/
structure HealthRegistry where
  components : List (String × ComponentHealth) := []
  ascending : Ascending components := by exact ascending_nil
  sources : List (String × List (String × String)) := []
  sourcesAscending : Ascending sources := by exact ascending_nil
  ready : Bool := false

namespace HealthRegistry

instance : Inhabited HealthRegistry := ⟨{}⟩

/-- Records a component's health, replacing what was known. -/
def update (h : HealthRegistry) (name : String) (c : ComponentHealth) : HealthRegistry :=
  { h with components := insertSorted name c h.components,
           ascending := h.ascending.insertSorted name c }

/-- Registers a component as healthy. -/
def register (h : HealthRegistry) (name : String) : HealthRegistry := h.update name .healthy

/-- The health of a component. -/
def component? (h : HealthRegistry) (name : String) : Option ComponentHealth :=
  findKey? name h.components

/-- Makes a registered component healthy again. -/
def setHealthy (h : HealthRegistry) (name : String) : HealthRegistry :=
  match h.component? name with
  | some c => if c.status != .healthy then h.update name .healthy else h
  | none => h

/-- Marks a component degraded. -/
def setDegraded (h : HealthRegistry) (name message : String) : HealthRegistry :=
  h.update name (.degraded message)

/-- Marks a component unhealthy. -/
def setUnhealthy (h : HealthRegistry) (name message : String) : HealthRegistry :=
  h.update name (.unhealthy message)

/-- Records that a source degrades a component; the component becomes degraded with the
source's message unless it is unhealthy. -/
def setSourceDegraded (h : HealthRegistry) (name source message : String) : HealthRegistry :=
  let current := (findKey? name h.sources).getD []
  let h := { h with sources := insertSorted name (insertSorted source message current) h.sources,
                    sourcesAscending := h.sourcesAscending.insertSorted _ _ }
  match h.component? name with
  | some c => if c.status == .unhealthy then h else h.update name (.degraded message)
  | none => h.update name (.degraded message)

/-- Records the sources left degrading a component; with none left, its row is dropped. -/
def setSources (h : HealthRegistry) (name : String) (rest : List (String × String)) :
    HealthRegistry :=
  if rest.isEmpty then
    { h with sources := h.sources.filter (·.1 != name),
             sourcesAscending := h.sourcesAscending.filter _ }
  else
    { h with sources := insertSorted name rest h.sources,
             sourcesAscending := h.sourcesAscending.insertSorted name rest }

/-- The health a degraded component takes when a source recovers: degraded with the message of
the first source left, or healthy when none is left. -/
def recoveredHealth : List (String × String) → ComponentHealth
  | (_, message) :: _ => .degraded message
  | [] => .healthy

/-- Records that a source has recovered. While other sources remain, a degraded component
takes the message of the first of them; when none remains, a degraded component is healthy
again. -/
def setSourceHealthy (h : HealthRegistry) (name source : String) : HealthRegistry :=
  match findKey? name h.sources with
  | none => h
  | some current =>
    if (findKey? source current).isNone then h
    else
      let rest := current.filter (·.1 != source)
      let isDegraded : Bool := match h.component? name with
        | some c => c.status == .degraded
        | none => false
      let h := h.setSources name rest
      if isDegraded then h.update name (recoveredHealth rest) else h

/-- Records whether the caches have synced. -/
def setReady (h : HealthRegistry) (ready : Bool) : HealthRegistry := { h with ready }

/-- The exporter's status: the worst of its components'. -/
def status (h : HealthRegistry) : ComponentStatus :=
  h.components.foldl (fun s (_, c) => s.worst c.status) .healthy

/-- The names of the unhealthy components, in ascending order. -/
def unhealthyNames (h : HealthRegistry) : List String :=
  (h.components.filter fun (_, c) => c.status == .unhealthy).map (·.1)

/-- Whether the exporter is ready: synced and without unhealthy components. -/
def readiness (h : HealthRegistry) : Readiness :=
  if !h.ready then ⟨false, some "Collector caches not yet synced"⟩
  else if h.status == .unhealthy then
    ⟨false, some ("Unhealthy collectors: " ++ ", ".intercalate h.unhealthyNames)⟩
  else ⟨true, none⟩

end HealthRegistry

end StateMetrics
