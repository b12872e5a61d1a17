import Mathlib
import StateMetrics.Proofs.Watch.Sync

/-! # A closed gate

Every collector hands its watch targets its callbacks, each wrapped behind the lifecycle gate
(`EventHandlerFuncs.gated`): while the gate is closed every wrapped callback drops its change,
whatever its kind (`EventHandlerFuncs.handle_gated_closed`), so the cache of a custom resource
collector and the aggregators of the pod and event collectors stay as they were. The
same holds of a change delivered to any target of the built collectors by its global index
(`Collectors.deliverAt_closed`), and so of any run of such deliveries. Collecting gives nothing
while the gate is closed or a watch has not synced (`collect_of_not_ready`); once the gate opens
again, the collectors report from the state they kept.

Main statement: `closed_gate_keeps_collector_state`. -/

namespace StateMetrics

/-- Joining parts that are each element alone gives the list back, whatever the widths. -/
theorem joinFrom_singleton {α : Type} {part : Nat → α → List α} (width : Nat → α → Nat)
    (alone : ∀ n a, part n a = [a]) (as : List α) (n : Nat) : joinFrom part width n as = as := by
  induction as generalizing n with
  | nil => rfl
  | cons a rest ih => rw [joinFrom, alone, ih, List.singleton_append]

namespace CrdCollector

theorem collect_of_not_ready {c : CrdCollector} {gateOpen : Bool}
    (unready : gateOpen = false ∨ c.hasSynced = false) : c.collect gateOpen = [] := by
  rcases unready with closed | unsynced <;> simp [collect, isReady, *]

end CrdCollector

namespace PodCollector

theorem collect_of_not_ready {c : PodCollector} {gateOpen : Bool} (now : Instant)
    (unready : gateOpen = false ∨ c.sync.hasSynced = false) : c.collect gateOpen now = [] := by
  rcases unready with closed | unsynced <;> simp [collect, isReady, *]

end PodCollector

namespace EventCollector

theorem collect_of_not_ready {c : EventCollector} {gateOpen : Bool}
    (unready : gateOpen = false ∨ c.sync.hasSynced = false) : c.collect gateOpen = [] := by
  rcases unready with closed | unsynced <;> simp [collect, isReady, *]

end EventCollector

theorem CrdCollectorSet.deliverAt_closed (s : CrdCollectorSet) (i : Nat) (e : ResourceEvent) :
    s.deliverAt i false e = s := by
  unfold CrdCollectorSet.deliverAt
  dsimp only
  rw [foldl_eq_joinFrom
    (fun n c => [if n ≤ i ∧ i < n + c.sync.flags.length then c.deliver false e else c])
    (fun _ c => c.sync.flags.length)]
  · rw [List.nil_append, joinFrom_singleton]
    intro n c
    split
    · rw [c.deliver_closed]
    · rfl
  · intro acc n c
    rfl

theorem Collector.deliverAt_closed (c : Collector) (i : Nat) (now : Instant) (e : ResourceEvent) :
    c.deliverAt i false now e = c := by
  cases c with
  | crd s => exact congrArg Collector.crd (s.deliverAt_closed i e)
  | pod p => exact congrArg Collector.pod (p.deliver_closed now e)
  | event v => exact congrArg Collector.event (v.deliver_closed now e)

theorem Collectors.deliverAt_closed (cs : List Collector) (i : Nat) (now : Instant)
    (e : ResourceEvent) : Collectors.deliverAt cs i false now e = cs := by
  unfold Collectors.deliverAt
  dsimp only
  rw [foldl_eq_joinFrom
    (fun n c => [if n ≤ i ∧ i < n + c.syncCount then c.deliverAt (i - n) false now e else c])
    (fun _ c => c.syncCount)]
  · rw [List.nil_append, joinFrom_singleton]
    intro n c
    split
    · rw [Collector.deliverAt_closed]
    · rfl
  · intro acc n c
    rfl

/-- While the gate is closed, every change delivered to a collector, through its own handler or
through any watch target of the built collectors, leaves it exactly as it was, so reopening the
gate reports what was kept; and no collector reports a family while the gate is closed or one of
its watches has not synced. -/
theorem closed_gate_keeps_collector_state :
    (∀ (c : CrdCollector) (events : List ResourceEvent),
      events.foldl (fun c e => c.deliver false e) c = c ∧
      (events.foldl (fun c e => c.deliver false e) c).collect true = c.collect true) ∧
    (∀ (p : PodCollector) (events : List (Instant × ResourceEvent)) (now : Instant),
      events.foldl (fun p d => p.deliver false d.1 d.2) p = p ∧
      (events.foldl (fun p d => p.deliver false d.1 d.2) p).collect true now =
        p.collect true now) ∧
    (∀ (v : EventCollector) (events : List (Instant × ResourceEvent)),
      events.foldl (fun v d => v.deliver false d.1 d.2) v = v ∧
      (events.foldl (fun v d => v.deliver false d.1 d.2) v).collect true = v.collect true) ∧
    (∀ (cs : List Collector) (deliveries : List (Nat × Instant × ResourceEvent)),
      deliveries.foldl (fun cs d => Collectors.deliverAt cs d.1 false d.2.1 d.2.2) cs = cs) ∧
    (∀ (c : CrdCollector) (gateOpen : Bool),
      gateOpen = false ∨ c.hasSynced = false → c.collect gateOpen = []) ∧
    (∀ (p : PodCollector) (gateOpen : Bool) (now : Instant),
      gateOpen = false ∨ p.sync.hasSynced = false → p.collect gateOpen now = []) ∧
    (∀ (v : EventCollector) (gateOpen : Bool),
      gateOpen = false ∨ v.sync.hasSynced = false → v.collect gateOpen = []) := by
  refine ⟨fun c events => ?_, fun p events now => ?_, fun v events => ?_,
    fun cs deliveries => ?_, fun _ _ => CrdCollector.collect_of_not_ready,
    fun _ _ now => PodCollector.collect_of_not_ready now,
    fun _ _ => EventCollector.collect_of_not_ready⟩
  · have kept := List.foldl_fixed' (f := fun c e => CrdCollector.deliver c false e)
      c.deliver_closed events
    exact ⟨kept, by rw [kept]⟩
  · -- each change meets the pod callbacks of its instant, all behind the closed gate
    have kept : events.foldl (fun p d => p.deliver false d.1 d.2) p = p :=
      EventHandlerFuncs.foldl_handle_gated_closed PodCollector.handler events p
    exact ⟨kept, by rw [kept]⟩
  · have kept : events.foldl (fun v d => v.deliver false d.1 d.2) v = v :=
      EventHandlerFuncs.foldl_handle_gated_closed EventCollector.handler events v
    exact ⟨kept, by rw [kept]⟩
  · exact List.foldl_fixed' (f := fun cs (d : Nat × Instant × ResourceEvent) =>
        Collectors.deliverAt cs d.1 false d.2.1 d.2.2)
      (fun d => Collectors.deliverAt_closed cs d.1 d.2.1 d.2.2) deliveries

end StateMetrics
