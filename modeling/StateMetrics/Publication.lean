import StateMetrics.Registry
import StateMetrics.Metric.Registry

/-! # Publishing the collectors' metrics

Every built collector registers each of its metrics collectors with one metrics registry, in
build order. A collector stops at its first refused registration; the metrics collectors
registered before it stay registered. Gathering asks every registered metrics collector for its
families, and the registry merges and orders them. -/

namespace StateMetrics

/-- A metrics registry and the metrics collectors it holds, each named by the index of its
collector and its index within that collector. -/
structure Publication where
  registry : Metric.MetricsRegistry := {}
  groups : List (Nat × Nat) := []
  deriving Inhabited

namespace Publication

/-- Registers a metrics collector of the collector with index `i`, the `j`-th of its own; a
refused one is left out. -/
def registerGroup (p : Publication) (i j : Nat) (descs : List Metric.Desc) :
    Publication × Option MetricsError :=
  match p.registry.register descs with
  | (r, .error e) => ({ p with registry := r }, some e)
  | (r, .ok ()) => ({ registry := r, groups := p.groups ++ [(i, j)] }, none)

/-- Registers every metrics collector of every collector in order, with the refusal of each. -/
def registerAll (cs : List Collector) : Publication × List (Option MetricsError) :=
  let groups := (cs.zipIdx).flatMap fun (c, i) => c.descGroups.zipIdx.map fun (d, j) => (i, j, d)
  groups.foldl (fun (p, out) (i, j, d) =>
    let (p, e) := p.registerGroup i j d
    (p, out ++ [e])) ({}, [])

/-- The families gathered from the registered metrics collectors. -/
def gather (p : Publication) (cs : List Collector) (gateOpen : Bool) (now : Instant) :
    List Metric.Family :=
  Metric.gather (p.groups.flatMap fun (i, j) => match cs[i]? with
    | some c => c.collectGroup j gateOpen now
    | none => [])

end Publication

end StateMetrics
