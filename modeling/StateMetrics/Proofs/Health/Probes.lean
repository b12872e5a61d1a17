import Mathlib
import StateMetrics.Proofs.Health.Degradation
import StateMetrics.Http.Router

/-! # Health and readiness probes

Statuses are ordered from best to worst: healthy, degraded, unhealthy. Under that order the
worse of two statuses is the greater, so the exporter's status, the worse of its components'
statuses folded from healthy, is their least upper bound (`status_le_iff`): the worst component
status, healthy when there are none. As a least upper bound it does not depend on the order in
which the statuses are folded (`foldl_worst_perm`).

The exporter is ready when its caches have synced and no component is unhealthy. When it is
not, the reason says why: the caches have not synced, or the unhealthy components are named,
each once, since the registry keeps its components in ascending name order.

Over HTTP, the health probe answers 503 exactly when the status is unhealthy, and the readiness
probe answers 200 exactly when the exporter is ready and is the active instance.

Main statement: `probes_follow_component_statuses`. -/

namespace StateMetrics

namespace ComponentStatus

/-- The place of a status, from best to worst. -/
def rank : ComponentStatus → Nat
  | .healthy => 0
  | .degraded => 1
  | .unhealthy => 2

theorem rank_injective : Function.Injective rank := by
  intro a b same
  cases a <;> cases b <;> simp_all [rank]

theorem rank_worst (a b : ComponentStatus) : (a.worst b).rank = max a.rank b.rank := by
  cases a <;> cases b <;> rfl

instance : Max ComponentStatus := ⟨worst⟩

instance : Min ComponentStatus := ⟨fun a b => if a.rank ≤ b.rank then a else b⟩

/-- Statuses from best to worst; the worse of two is their maximum. -/
instance : LinearOrder ComponentStatus :=
  LinearOrder.lift rank rank_injective rank_worst fun _ _ =>
    (apply_ite rank _ _ _).trans (min_def _ _).symm

@[simp] theorem worst_eq_max (a b : ComponentStatus) : a.worst b = max a b := rfl

@[simp] theorem healthy_le (a : ComponentStatus) : healthy ≤ a := by
  cases a <;> decide

theorem le_degraded_iff {a : ComponentStatus} : a ≤ degraded ↔ a ≠ unhealthy := by
  cases a <;> decide

/-- Folding the worse of statuses from a start gives a status no worse than a bound exactly
when the start and every folded status are no worse. -/
theorem foldl_worst_le_iff (l : List ComponentStatus) (start bound : ComponentStatus) :
    l.foldl worst start ≤ bound ↔ start ≤ bound ∧ ∀ s ∈ l, s ≤ bound := by
  induction l generalizing start with
  | nil => simp
  | cons s rest ih =>
    simp only [List.foldl_cons, ih, worst_eq_max, max_le_iff, List.mem_cons, forall_eq_or_imp]
    exact and_assoc

/-- The worst of some statuses does not depend on the order in which they are folded: both
orders have the same upper bounds. -/
theorem foldl_worst_perm {l l' : List ComponentStatus} (perm : l.Perm l')
    (start : ComponentStatus) : l.foldl worst start = l'.foldl worst start := by
  have bounds : ∀ bound, l.foldl worst start ≤ bound ↔ l'.foldl worst start ≤ bound := by
    intro bound
    simp only [foldl_worst_le_iff, perm.mem_iff]
  exact le_antisymm ((bounds _).2 le_rfl) ((bounds _).1 le_rfl)

end ComponentStatus

namespace HealthRegistry

open ComponentStatus

/-! ## Status -/

theorem status_eq_foldl (h : HealthRegistry) :
    h.status = (h.components.map (·.2.status)).foldl worst .healthy := by
  rw [status, List.foldl_map]

/-- The exporter's status is no worse than a bound exactly when no component's is: it is the
worst component status, and healthy when there are no components. -/
theorem status_le_iff (h : HealthRegistry) (bound : ComponentStatus) :
    h.status ≤ bound ↔ ∀ e ∈ h.components, e.2.status ≤ bound := by
  rw [status_eq_foldl, foldl_worst_le_iff]
  simp only [healthy_le, true_and, List.forall_mem_map]

theorem status_eq_unhealthy_iff (h : HealthRegistry) :
    h.status = .unhealthy ↔ ∃ e ∈ h.components, e.2.status = .unhealthy := by
  -- a status is unhealthy exactly when it is not bounded by degraded
  rw [← not_iff_not]
  simpa [le_degraded_iff] using status_le_iff h .degraded

/-! ## Readiness -/

theorem readiness_of_unsynced {h : HealthRegistry} (unsynced : h.ready = false) :
    h.readiness = ⟨false, some "Collector caches not yet synced"⟩ := by
  simp [readiness, unsynced]

theorem readiness_of_unhealthy {h : HealthRegistry} (synced : h.ready = true)
    (failing : h.status = .unhealthy) :
    h.readiness =
      ⟨false, some ("Unhealthy collectors: " ++ ", ".intercalate h.unhealthyNames)⟩ := by
  simp [readiness, synced, failing]

theorem readiness_of_operational {h : HealthRegistry} (synced : h.ready = true)
    (working : h.status ≠ .unhealthy) : h.readiness = ⟨true, none⟩ := by
  simp [readiness, synced, working]

/-- The exporter is ready exactly when its caches have synced and no component is
unhealthy. -/
theorem readiness_ready_iff (h : HealthRegistry) :
    h.readiness.ready = true ↔
      h.ready = true ∧ ∀ e ∈ h.components, e.2.status ≠ .unhealthy := by
  have working : (∀ e ∈ h.components, e.2.status ≠ .unhealthy) ↔ h.status ≠ .unhealthy := by
    simp [status_eq_unhealthy_iff]
  rw [working]
  cases synced : h.ready
  · simp [readiness_of_unsynced synced]
  · by_cases failing : h.status = .unhealthy
    · simp [readiness_of_unhealthy synced failing, failing]
    · simp [readiness_of_operational synced failing, failing]

theorem mem_unhealthyNames (h : HealthRegistry) (n : String) :
    n ∈ h.unhealthyNames ↔ ∃ c, h.component? n = some c ∧ c.status = .unhealthy := by
  simp only [unhealthyNames, List.mem_map, List.mem_filter, status_beq, decide_eq_true_eq]
  constructor
  · rintro ⟨⟨k, c⟩, ⟨listed, failing⟩, rfl⟩
    exact ⟨c, findKey?_of_mem h.ascending listed, failing⟩
  · rintro ⟨c, found, failing⟩
    exact ⟨(n, c), ⟨mem_of_findKey? found, failing⟩, rfl⟩

theorem nodup_unhealthyNames (h : HealthRegistry) : h.unhealthyNames.Nodup :=
  (h.ascending.filter _).nodup

end HealthRegistry

/-! ## The probes -/

namespace Http

/-- A `GET` or `HEAD` request answers by the path it routes to. -/
theorem status_handle {method : String} (target : String) (h : HealthRegistry) (gateOpen : Bool)
    (families : List Metric.Family) (fetch : method = "GET" ∨ method = "HEAD") :
    (handle method target h gateOpen families).status =
      if routePath target = "/healthz" then (if h.status.isOperational then 200 else 503)
      else if routePath target = "/readyz" then
        (if (readiness h gateOpen).ready then 200 else 503)
      else if routePath target = "/metrics" then 200
      else 404 := by
  have fetched : (method != "GET" && method != "HEAD") = false := by
    rcases fetch with rfl | rfl <;> rfl
  -- a `HEAD` request empties the body and keeps the status
  simp only [handle, fetched, Bool.false_eq_true, if_false, apply_ite Response.status, ite_self]
  generalize routePath target = path
  by_cases health : path = "/healthz"
  · simp [health]
  · by_cases ready : path = "/readyz"
    · simp [ready]
    · by_cases metrics : path = "/metrics"
      · simp [metrics]
      · simp [health, ready, metrics]

/-- An exporter that is not the active instance is not ready. -/
theorem readiness_ready (h : HealthRegistry) (gateOpen : Bool) :
    (readiness h gateOpen).ready = (h.readiness.ready && gateOpen) := by
  cases gateOpen <;> cases ready : h.readiness.ready <;> simp [readiness, ready]

theorem status_handle_healthz {method target : String} (h : HealthRegistry) (gateOpen : Bool)
    (families : List Metric.Family) (fetch : method = "GET" ∨ method = "HEAD")
    (routed : routePath target = "/healthz") :
    (handle method target h gateOpen families).status =
      if h.status = .unhealthy then 503 else 200 := by
  rw [status_handle target h gateOpen families fetch, if_pos routed]
  cases h.status <;> rfl

theorem status_handle_readyz {method target : String} (h : HealthRegistry) (gateOpen : Bool)
    (families : List Metric.Family) (fetch : method = "GET" ∨ method = "HEAD")
    (routed : routePath target = "/readyz") :
    (handle method target h gateOpen families).status =
      if h.readiness.ready = true ∧ gateOpen = true then 200 else 503 := by
  have notHealth : routePath target ≠ "/healthz" := by
    rw [routed]
    decide
  rw [status_handle target h gateOpen families fetch, if_neg notHealth, if_pos routed,
    readiness_ready]
  cases h.readiness.ready <;> cases gateOpen <;> rfl

end Http

open HealthRegistry in
/-- For every registry the calls build from an empty one: the exporter's status is the worst
component status (healthy without components), the same in whatever order the statuses are
folded; it is ready exactly when its caches have synced and no component is unhealthy, and
otherwise the reason says the caches have not synced, or names the unhealthy components, each
once; the health probe answers 503 exactly when the status is unhealthy, and the readiness
probe 200 exactly when the exporter is ready and the active instance. -/
theorem probes_follow_component_statuses (calls : List Call) (gateOpen : Bool)
    (families : List Metric.Family) (method target : String)
    (fetch : method = "GET" ∨ method = "HEAD") :
    let h := ({} : HealthRegistry).run calls
    (∀ bound, h.status ≤ bound ↔ ∀ e ∈ h.components, e.2.status ≤ bound) ∧
    (∀ l : List ComponentStatus, l.Perm (h.components.map (·.2.status)) →
      l.foldl ComponentStatus.worst .healthy = h.status) ∧
    (h.readiness.ready = true ↔
      h.ready = true ∧ ∀ e ∈ h.components, e.2.status ≠ .unhealthy) ∧
    (h.ready = false → h.readiness.reason = some "Collector caches not yet synced") ∧
    (h.ready = true → h.readiness.ready = false →
      h.readiness.reason = some ("Unhealthy collectors: " ++ ", ".intercalate h.unhealthyNames)) ∧
    h.unhealthyNames.Nodup ∧
    (∀ n, n ∈ h.unhealthyNames ↔ ∃ c, h.component? n = some c ∧ c.status = .unhealthy) ∧
    (Http.routePath target = "/healthz" → (Http.handle method target h gateOpen families).status =
      if h.status = .unhealthy then 503 else 200) ∧
    (Http.routePath target = "/readyz" → (Http.handle method target h gateOpen families).status =
      if h.readiness.ready = true ∧ gateOpen = true then 200 else 503) := by
  intro h
  refine ⟨status_le_iff h, fun l perm => ?_, readiness_ready_iff h,
    fun unsynced => by rw [readiness_of_unsynced unsynced], fun synced unready => ?_,
    nodup_unhealthyNames h, mem_unhealthyNames h,
    Http.status_handle_healthz h gateOpen families fetch,
    Http.status_handle_readyz h gateOpen families fetch⟩
  · rw [status_eq_foldl]
    exact ComponentStatus.foldl_worst_perm perm _
  · -- synced but not ready: some component is unhealthy
    have failing : h.status = .unhealthy := by
      by_contra working
      simp [readiness_of_operational synced working] at unready
    rw [readiness_of_unhealthy synced failing]

/-- A failed event collector makes a synced exporter unready, with a reason that names it
alone, and the readiness probe then answers 503 to the active instance. -/
theorem failed_collector_fails_readiness :
    let calls := [HealthRegistry.Call.register "pod", .register "event",
      .setUnhealthy "event" "watch failed", .setReady true]
    let h := ({} : HealthRegistry).run calls
    ("GET" = "GET" ∨ "GET" = "HEAD") ∧
      h.readiness.reason = some "Unhealthy collectors: event" ∧
      (Http.routePath "/readyz" = "/readyz" →
        (Http.handle "GET" "/readyz" h true []).status = 503) := by
  intro calls h
  have probes := probes_follow_component_statuses calls true [] "GET" "/readyz" (.inl rfl)
  have synced : h.ready = true := by decide
  have unready : h.readiness.ready = false := by decide
  have names : h.unhealthyNames = ["event"] := by decide
  refine ⟨.inl rfl, ?_, fun routed => ?_⟩
  · rw [probes.2.2.2.2.1 synced unready, names]
    rfl
  · rw [probes.2.2.2.2.2.2.2.2 routed, unready]
    rfl

end StateMetrics
