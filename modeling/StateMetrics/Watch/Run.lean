import StateMetrics.Watch.Watcher
import StateMetrics.Health

/-! # Running a watch

A watch feeds one target from a watcher. Each event goes through the known objects to the
target's handler; the first full listing marks the target synced. A failure degrades the
collector's health through the watch as a source, with the message `watch <label>: <failure>`,
and the next event heals that source again. The label of a watch is its resource type, with
` in <namespace>` inside a namespace. -/

namespace StateMetrics

/-- The label of a watch in messages. -/
def watchLabel (gvr : Gvr) (scope : Option String) : String :=
  match scope with
  | some ns => gvr.display ++ " in " ++ ns
  | none => gvr.display

/-- Where a watch stands: the objects it knows, the changes handed to the target so far, the
health registry, whether the watch has degraded its collector, and whether the target has
synced. -/
structure WatchRun where
  known : KnownObjects := {}
  changes : List ResourceEvent := []
  health : HealthRegistry := {}
  degraded : Bool := false
  synced : Bool := false
  deriving Inhabited

namespace WatchRun

/-- Takes one report of the watcher for a collector's watch with a label. -/
def consume (collector label : String) (st : WatchRun) : WatcherItem → WatchRun
  | .ok e =>
    let st := if st.degraded then
        { st with health := st.health.setSourceHealthy collector label, degraded := false }
      else st
    let (known, changes, listed) := dispatch st.known e
    { st with known, changes := st.changes ++ changes, synced := st.synced || listed }
  | .error e =>
    { st with
      health := st.health.setSourceDegraded collector label ("watch " ++ label ++ ": " ++ e.message)
      degraded := true }

end WatchRun

/-- Runs a collector's watch of a resource type over a script of replies, starting from a
health registry. Returns the requests made, each with its path and whether it is a watch, and
where the watch stands when the script runs out. -/
def runWatch (collector : String) (gvr : Gvr) (scope : Option String) (health : HealthRegistry)
    (replies : List Kube.Reply) : List (String × Bool) × WatchRun :=
  let path := (Kube.ApiResource.ofGvr gvr).urlPath scope
  let label := watchLabel gvr scope
  let (requests, items) := runWatcher .start replies
  (requests.map fun w => (path, w), items.foldl (WatchRun.consume collector label) { health })

end StateMetrics
