import Mathlib
import StateMetrics.Proofs.Crd.CacheMirror

/-! # A re-list does not undo a deletion the gate dropped

A collector watched through one cluster-wide target takes two kinds of input: watcher events,
which the watch dispatches through its known objects into the collector's gated handler, and
flips of the lifecycle gate. The handler drops every change while the gate is closed, but the
watch records every event whatever the gate. A deletion dispatched while the gate is closed
therefore leaves the cache holding an object the watch no longer knows: a stale key.

A restart deletes the objects the watch knew and the listing lacks, so it cannot see a stale
key: after a restart dispatched while the gate is open, the cache holds the listed keys, each
with its last listed object, and the stale keys, and nothing else (`cache_keys_relist`). A key
turns stale only at a deletion that a closed gate dropped (`Gated.stale_run`), so a run that
drops none ends every open restart with the cache keyed exactly by the listing, and a run that
drops one may keep its key through every later restart (`deletion_dropped_survives_relist`).

Main statement: `relist_leaves_dropped_deletions`. -/

namespace StateMetrics

/-- An input to a collector watched through one target: a watcher event on the target, or the
gate set open or closed. -/
inductive GatedInput where
  | event (ev : WatcherEvent)
  | setGate (isOpen : Bool)

/-- A collector, the objects its one watch knows, and whether the gate is open. -/
structure Gated where
  collector : CrdCollector
  known : KnownObjects
  gateOpen : Bool

namespace Gated

/-- A collector whose watch knows nothing yet. -/
def start (c : CrdCollector) (gateOpen : Bool) : Gated := ⟨c, {}, gateOpen⟩

/-- One input. An event updates the known objects and hands its changes to the gated handler,
which drops them while the gate is closed. -/
def step (g : Gated) : GatedInput → Gated
  | .event ev =>
    let d := dispatch g.known ev
    { g with collector := d.2.1.foldl (fun c e => c.deliver g.gateOpen e) g.collector,
             known := d.1 }
  | .setGate isOpen => { g with gateOpen := isOpen }

/-- The state after a sequence of inputs. -/
def run (g : Gated) (inputs : List GatedInput) : Gated := inputs.foldl step g

/-- A key the cache holds although the watch no longer knows it. -/
def Stale (g : Gated) (x : String) : Prop :=
  g.collector.cache.contains x = true ∧ g.known.get? x = none

/-- Input `i` of a run from `g` is a watcher event, dispatched while the gate was closed, that
made the watch forget key `x`. -/
def DropsDeletion (g : Gated) (inputs : List GatedInput) (x : String) (i : Nat) : Prop :=
  ∃ ev, inputs[i]? = some (.event ev) ∧ (g.run (inputs.take i)).gateOpen = false ∧
    ((g.run (inputs.take i)).known.get? x).isSome ∧
    ((g.run (inputs.take i)).step (.event ev)).known.get? x = none

theorem run_concat (g : Gated) (inputs : List GatedInput) (input : GatedInput) :
    g.run (inputs ++ [input]) = (g.run inputs).step input := by
  simp [run, List.foldl_append]

/-! ## One step -/

/-- A closed gate drops every change. -/
theorem collector_step_closed {g : Gated} (closed : g.gateOpen = false) (ev : WatcherEvent) :
    (g.step (.event ev)).collector = g.collector := by
  simp only [step, closed]
  exact List.foldl_fixed' (f := fun c e => CrdCollector.deliver c false e)
    g.collector.deliver_closed _

/-- With the gate open, an event does what it does to a target of the whole cluster. -/
theorem step_open {g : Gated} (isOpen : g.gateOpen = true) (ev : WatcherEvent) :
    let w : CrdCollector.Watched := ⟨g.collector, fun _ => g.known⟩
    (g.step (.event ev)).collector = (w.step 0 ev).collector ∧
      (g.step (.event ev)).known = (w.step 0 ev).known 0 := by
  intro w
  rw [CrdCollector.Watched.collector_step, CrdCollector.Watched.known_step_self]
  simp [step, isOpen, w]

/-- With the gate open, an event makes the cache agree with the known objects on the keys it
touches, and keeps every other key of both. -/
theorem effect_open {g : Gated} (isOpen : g.gateOpen = true) (ev : WatcherEvent) :
    ∃ touched : String → Prop,
      (∀ x, touched x →
        (g.step (.event ev)).collector.cache.get? x = (g.step (.event ev)).known.get? x) ∧
      (∀ x, ¬ touched x → (g.step (.event ev)).collector.cache.get? x = g.collector.cache.get? x ∧
        (g.step (.event ev)).known.get? x = g.known.get? x) := by
  obtain ⟨collector, known⟩ := step_open isOpen ev
  -- the whole cluster is one scope: every object carries it and every key lies in it
  have carries : ∀ obj ∈ ev.objects, Carries none obj := fun _ _ _ outside => nomatch outside
  obtain ⟨touched, -, onTouched, offTouched⟩ :=
    CrdCollector.Watched.step_effect (w := ⟨g.collector, fun _ => g.known⟩) (i := 0)
      carries (fun _ _ => trivial)
  rw [collector, known]
  exact ⟨touched, onTouched, offTouched⟩

/-- A key turns stale only at an event dispatched while the gate is closed that makes the watch
forget it. -/
theorem stale_step {g : Gated} {input : GatedInput} {x : String}
    (stale : (g.step input).Stale x) :
    g.Stale x ∨ ∃ ev, input = .event ev ∧ g.gateOpen = false ∧ (g.known.get? x).isSome ∧
      (g.step input).known.get? x = none := by
  obtain ⟨cached, unknown⟩ := stale
  cases input with
  | setGate isOpen => exact .inl ⟨cached, unknown⟩
  | event ev =>
    cases gate : g.gateOpen
    · rw [collector_step_closed gate] at cached
      cases known : g.known.get? x with
      | none => exact .inl ⟨cached, known⟩
      | some o => exact .inr ⟨ev, rfl, rfl, rfl, unknown⟩
    · obtain ⟨touched, onTouched, offTouched⟩ := effect_open gate ev
      by_cases hit : touched x
      · -- the cache now agrees with the watch, which does not know the key
        rw [ResourceCache.contains, onTouched x hit, unknown] at cached
        cases cached
      · rw [ResourceCache.contains, (offTouched x hit).1] at cached
        rw [(offTouched x hit).2] at unknown
        exact .inl ⟨cached, unknown⟩

/-! ## Runs -/

theorem DropsDeletion.append {g : Gated} {inputs : List GatedInput} {x : String} {i : Nat}
    (dropped : g.DropsDeletion inputs x i) (more : List GatedInput) :
    g.DropsDeletion (inputs ++ more) x i := by
  obtain ⟨ev, at_i, closed, known, forgotten⟩ := dropped
  have bound : i < inputs.length := (List.getElem?_eq_some_iff.1 at_i).1
  have prefix_i : (inputs ++ more).take i = inputs.take i :=
    List.take_append_of_le_length bound.le
  refine ⟨ev, ?_, ?_, ?_, ?_⟩
  · rw [List.getElem?_append_left bound, at_i]
  all_goals rwa [prefix_i]

/-- Every key stale after a run was stale before it or forgotten at a deletion the closed gate
dropped. -/
theorem stale_run {g : Gated} {inputs : List GatedInput} {x : String}
    (stale : (g.run inputs).Stale x) : g.Stale x ∨ ∃ i, g.DropsDeletion inputs x i := by
  induction inputs using List.reverseRecOn with
  | nil => exact .inl stale
  | append_singleton inputs input ih =>
    rw [run_concat] at stale
    rcases stale_step stale with before | ⟨ev, rfl, closed, known, forgotten⟩
    · rcases ih before with old | ⟨i, dropped⟩
      · exact .inl old
      · exact .inr ⟨i, dropped.append _⟩
    · -- the last input dropped the deletion
      have prefix_all : (inputs ++ [GatedInput.event ev]).take inputs.length = inputs := by simp
      refine .inr ⟨inputs.length, ev, by simp, ?_⟩
      rw [prefix_all]
      exact ⟨closed, known, forgotten⟩

/-! ## Restarting with the gate open -/

/-- A restart while the gate is open stores the last listed object of every listed key, deletes
every other key the watch knew, and leaves every other key of the cache as it was. -/
theorem get?_relist {g : Gated} (isOpen : g.gateOpen = true) (objs : List Json) (x : String) :
    (g.step (.event (.restarted objs))).collector.cache.get? x =
      if x ∈ objs.map resourceKey then lastListed objs x
      else if (g.known.get? x).isSome then none else g.collector.cache.get? x := by
  simp only [step, isOpen]
  exact CrdCollector.relist_open g.collector g.known objs x

/-- After a restart while the gate is open, the cache holds the listed keys and the stale ones. -/
theorem cache_keys_relist {g : Gated} (isOpen : g.gateOpen = true) (objs : List Json)
    (x : String) :
    (g.step (.event (.restarted objs))).collector.cache.contains x = true ↔
      x ∈ objs.map resourceKey ∨ g.Stale x := by
  rw [ResourceCache.contains, get?_relist isOpen, Stale, ResourceCache.contains]
  by_cases listedKey : x ∈ objs.map resourceKey
  · have found : lastListed objs x ≠ none := mt lastListed_eq_none_iff.1 (not_not.2 listedKey)
    simp [listedKey, Option.isSome_iff_ne_none.2 found]
  · cases known : g.known.get? x <;> simp [listedKey]

end Gated

/-- A collector watched through one cluster-wide target, from an empty cache, after any watcher
events and gate flips, and a restart dispatched while the gate is open: the cache holds under
each listed key its last listed object, and its keys are the listed ones and the stale ones,
each forgotten by the watch at a deletion that a closed gate dropped. So when no deletion was
dropped the cache's keys are exactly the listed keys. -/
theorem relist_leaves_dropped_deletions {c : CrdCollector} (empty : c.cache.entries = [])
    (isOpen : Bool) (inputs : List GatedInput) (objs : List Json) :
    let g := (Gated.start c isOpen).run inputs
    let g' := g.step (.event (.restarted objs))
    g.gateOpen = true →
      (∀ x ∈ objs.map resourceKey, g'.collector.cache.get? x = lastListed objs x) ∧
      (∀ x, g'.collector.cache.contains x = true ↔ x ∈ objs.map resourceKey ∨ g.Stale x) ∧
      (∀ x, g.Stale x → ∃ i, (Gated.start c isOpen).DropsDeletion inputs x i) ∧
      ((∀ x i, ¬ (Gated.start c isOpen).DropsDeletion inputs x i) →
        ∀ x, g'.collector.cache.contains x = true ↔ x ∈ objs.map resourceKey) := by
  intro g g' gate
  -- nothing is stale at the start, whose cache is empty
  have dropped : ∀ x, g.Stale x → ∃ i, (Gated.start c isOpen).DropsDeletion inputs x i := by
    intro x stale
    rcases Gated.stale_run stale with ⟨cached, -⟩ | found
    · simp [Gated.start, ResourceCache.contains, ResourceCache.get?_eq_findKey?, empty] at cached
    · exact found
  refine ⟨fun x listedKey => ?_, Gated.cache_keys_relist gate objs, dropped, ?_⟩
  · rw [Gated.get?_relist gate, if_pos listedKey]
  · intro none_dropped x
    rw [Gated.cache_keys_relist gate]
    refine ⟨fun kept => kept.resolve_right fun stale => ?_, .inl⟩
    obtain ⟨i, found⟩ := dropped x stale
    exact none_dropped x i found

/-- `web` is deleted while the gate is closed, and a restart listing `db` follows once it is
open again: `default/web` stays cached, stale since the dropped deletion. -/
theorem dropped_deletion_outlives_listing :
    let c : CrdCollector :=
      { spec := { name := "app", gvr := { resource := "apps" } }, descriptors := [],
        sync := SyncFlags.unset 1 }
    let web := Json.obj [("metadata", .obj [("name", .str "web"), ("namespace", .str "default")])]
    let db := Json.obj [("metadata", .obj [("name", .str "db"), ("namespace", .str "default")])]
    let inputs : List GatedInput :=
      [.event (.applied web), .setGate false, .event (.deleted web), .setGate true]
    let g := (Gated.start c true).run inputs
    let g' := g.step (.event (.restarted [db]))
    c.cache.entries = [] ∧ g.gateOpen = true ∧
      (∀ x, g'.collector.cache.contains x = true ↔ x ∈ [db].map resourceKey ∨ g.Stale x) ∧
      ∃ i, (Gated.start c true).DropsDeletion inputs "default/web" i := by
  intro c web db inputs g g'
  have gate : g.gateOpen = true := rfl
  obtain ⟨-, keys, dropped, -⟩ := relist_leaves_dropped_deletions (c := c) rfl true inputs [db] gate
  have stale : g.Stale "default/web" := ⟨by decide, Option.isNone_iff_eq_none.1 (by decide)⟩
  exact ⟨rfl, gate, keys, dropped _ stale⟩

/-- A deletion the closed gate drops outlives a restart: `web` is applied, the gate closes,
`web` is deleted, the gate opens and the watch restarts with an empty listing, and the cache
still holds `default/web`. -/
theorem deletion_dropped_survives_relist :
    let spec : CrdSpec :=
      { name := "app", gvr := { resource := "apps" }, commonLabels := [("name", "metadata.name")],
        metrics := [{ kind := "gauge", name := "replicas", path := "spec.replicas" }] }
    let c : CrdCollector :=
      { spec, sync := SyncFlags.unset 1,
        descriptors := [⟨"t_app_replicas", "replicas gauge of app", .gauge, ["name"],
          { kind := "gauge", name := "replicas", path := "spec.replicas" }⟩] }
    let web := Json.obj [("metadata", .obj [("name", .str "web"), ("namespace", .str "default")]),
      ("spec", .obj [("replicas", .num (.int 3))])]
    let g := (Gated.start c true).run
      [.event (.applied web), .setGate false, .event (.deleted web), .setGate true]
    CrdCollector.new spec "t" = .ok c ∧ g.gateOpen = true ∧
      (g.step (.event (.restarted []))).collector.cache.keys = ["default/web"] := by
  intro spec c web g
  have built : CrdCollector.new spec "t" = .ok c := by
    simp only [spec, c]
    rfl
  exact ⟨built, rfl, by decide⟩

end StateMetrics
