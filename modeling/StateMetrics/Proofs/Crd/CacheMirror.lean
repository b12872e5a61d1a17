import Mathlib
import StateMetrics.Proofs.Watch.Known
import StateMetrics.Crd.Collector

/-! # The cache of a custom resource collector mirrors its watches

A collector watches its resource through one target per namespace, or through one target for
the whole cluster. Each target's watch keeps its own known objects and dispatches every watcher
event into the collector's handler. While the gate is open, the collector's cache is, as a map
from key to object, the disjoint union of the targets' known objects, after every event on any
target in any interleaving; after a restart on a target, that target's part of the cache is its
listing.

An event touches keys of its own target's scope only, and on the keys it touches the cache
becomes the target's new known objects (`step_effect`). The union then follows once the
targets' scopes are separate: objects delivered on a namespaced target carry its namespace, the
namespaces are distinct, and none contains `/`, so that a key `<namespace>/<name>` names one
namespace. The last condition cannot be dropped: objects `b/c` in namespace `a` and `c` in
namespace `a/b` share the key `a/b/c` (`slashed_namespaces_share_cache`).

Main statement: `cache_eq_union_of_known`. -/

namespace StateMetrics

/-- The objects a watcher event carries. -/
def WatcherEvent.objects : WatcherEvent → List Json
  | .applied obj => [obj]
  | .deleted obj => [obj]
  | .restarted objs => objs

/-- Whether a key names an object in a scope: any key for the whole cluster, and
`<namespace>/<name>` for a namespace. -/
def InScope (scope : Option String) (key : String) : Prop :=
  match scope with
  | none => True
  | some ns => ∃ name, key = ns ++ "/" ++ name

/-- Scopes no key lies in two of. -/
def Separate (scopes : List (Option String)) : Prop :=
  ∀ (i j : Nat) (s t : Option String) (x : String), i ≠ j → scopes[i]? = some s →
    scopes[j]? = some t → InScope s x → InScope t x → False

/-- An object carries the namespace of a scope; any object is in the whole cluster. -/
def Carries (scope : Option String) (obj : Json) : Prop :=
  ∀ ns, scope = some ns → Json.extractString obj "metadata.namespace" = ns

theorem inScope_resourceKey {scope : Option String} {obj : Json} (carries : Carries scope obj) :
    InScope scope (resourceKey obj) := by
  cases scope with
  | none => trivial
  | some ns => exact ⟨Json.extractString obj "metadata.name", by rw [resourceKey, carries ns rfl]⟩

/-- Distinct namespaces without `/` are separate scopes. -/
theorem separate_namespaces {namespaces : List String} (distinct : namespaces.Nodup)
    (noSlash : ∀ ns ∈ namespaces, '/' ∉ ns.toList) : Separate (namespaces.map some) := by
  intro i j s t x different atI atJ inI inJ
  simp only [List.getElem?_map, Option.map_eq_some_iff] at atI atJ
  obtain ⟨ns, nsAt, rfl⟩ := atI
  obtain ⟨ns', nsAt', rfl⟩ := atJ
  obtain ⟨a, rfl⟩ := inI
  obtain ⟨b, same⟩ := inJ
  have member := List.mem_of_getElem? nsAt
  have member' := List.mem_of_getElem? nsAt'
  obtain ⟨rfl, -⟩ := slash_join_inj (noSlash ns member) (noSlash ns' member') same
  have bound : i < namespaces.length := (List.getElem?_eq_some_iff.1 nsAt).1
  exact different ((List.getElem?_inj bound distinct).1 (nsAt.trans nsAt'.symm))

/-- One scope is separate. -/
theorem separate_singleton (scope : Option String) : Separate [scope] := by
  intro i j s t x different atI atJ _ _
  have : i = 0 := by
    by_contra nonzero
    simp [List.getElem?_eq_none (by simp; omega : [scope].length ≤ i)] at atI
  have : j = 0 := by
    by_contra nonzero
    simp [List.getElem?_eq_none (by simp; omega : [scope].length ≤ j)] at atJ
  omega

/-- Whether an event fits target `i` of a list of scopes: the target exists, and the event's
objects carry its scope. -/
def Fits (scopes : List (Option String)) (i : Nat) (ev : WatcherEvent) : Prop :=
  ∃ s ∈ scopes[i]?, ∀ obj ∈ ev.objects, Carries s obj

/-- An event whose objects carry the namespace of a namespaced target fits the target. -/
theorem fits_of_namespace {scopes : List (Option String)} {i : Nat} {ns : String}
    {ev : WatcherEvent} (scope : scopes[i]? = some (some ns))
    (carried : ∀ obj ∈ ev.objects, Json.extractString obj "metadata.namespace" = ns) :
    Fits scopes i ev :=
  ⟨some ns, scope, fun obj listed _ same => Option.some.inj same ▸ carried obj listed⟩

namespace CrdCollector

theorem cache_apply_changeOf (c : CrdCollector) (old : Option Json) (new : Json) :
    (c.apply (changeOf old new)).cache = (c.cache.upsert new).1 := by
  cases old <;> rfl

/-- Deleting objects in turn removes their keys. -/
theorem get?_foldl_deleted (c : CrdCollector) (vs : List Json) (x : String) :
    ((vs.map ResourceEvent.deleted).foldl (fun c e => c.deliver true e) c).cache.get? x =
      if x ∈ vs.map resourceKey then none else c.cache.get? x := by
  induction vs generalizing c with
  | nil => simp
  | cons v rest ih =>
    rw [List.map_cons, List.foldl_cons, ih, deliver_open]
    by_cases same : x = resourceKey v <;> simp [apply, ResourceCache.get?_remove, same]

/-- Adding or updating listed objects in turn stores the last object of each key. -/
theorem get?_foldl_changeOf (c : CrdCollector) (listed : List (Option Json × Json)) (x : String) :
    ((listed.map fun (old, new) => changeOf old new).foldl
      (fun c e => c.deliver true e) c).cache.get? x =
      (lastListed (listed.map Prod.snd) x).or (c.cache.get? x) := by
  induction listed generalizing c with
  | nil => simp [lastListed]
  | cons entry rest ih =>
    obtain ⟨old, new⟩ := entry
    rw [List.map_cons, List.foldl_cons, ih, deliver_open, cache_apply_changeOf,
      ResourceCache.get?_upsert, List.map_cons, lastListed_cons]
    by_cases same : x = resourceKey new
    · subst same
      cases lastListed (rest.map Prod.snd) (resourceKey new) <;> simp
    · simp [same, Ne.symm same]

/-- A restart handed to the open handler stores the last listed object under every listed key,
deletes every other key the watch knew, and keeps every other key of the cache. -/
theorem relist_open (c : CrdCollector) (k : KnownObjects) (objs : List Json) (x : String) :
    ((dispatch k (.restarted objs)).2.1.foldl (fun c e => c.deliver true e) c).cache.get? x =
      if x ∈ objs.map resourceKey then lastListed objs x
      else if (k.get? x).isSome then none else c.cache.get? x := by
  set vanished := (KnownObjects.relist k.entries objs).1.map (·.2)
  set listed := (KnownObjects.relist k.entries objs).2
  have objects : listed.map Prod.snd = objs := KnownObjects.relist_snd_objects _ objs
  simp only [dispatch, KnownObjects.restarted_eq, List.foldl_append]
  rw [get?_foldl_changeOf, get?_foldl_deleted, objects]
  by_cases listedKey : x ∈ objs.map resourceKey
  · obtain ⟨o, found⟩ :=
      Option.ne_none_iff_exists'.1 (mt lastListed_eq_none_iff.1 (not_not.2 listedKey))
    rw [found, if_pos listedKey, Option.some_or]
  · -- an unlisted key vanishes exactly when the watch knew it
    have gone : x ∈ vanished.map resourceKey ↔ (k.get? x).isSome :=
      (KnownObjects.mem_vanished_keys k objs x).trans (and_iff_left listedKey)
    rw [lastListed_eq_none_iff.2 listedKey, Option.none_or, if_neg listedKey]
    by_cases known : (k.get? x).isSome
    · rw [if_pos (gone.2 known), if_pos known]
    · rw [if_neg (mt gone.1 known), if_neg known]

/-- A collector together with the objects each of its targets' watches knows, by target
index. -/
structure Watched where
  collector : CrdCollector
  known : Nat → KnownObjects

namespace Watched

/-- A built collector whose watches know nothing yet. -/
def start (c : CrdCollector) : Watched := ⟨c, fun _ => {}⟩

/-- A watcher event on target `i`, dispatched through the target's known objects into the
collector's handler while the gate is open. -/
def step (w : Watched) (i : Nat) (ev : WatcherEvent) : Watched :=
  let (k, changes, _) := dispatch (w.known i) ev
  ⟨changes.foldl (fun c e => c.deliver true e) w.collector, Function.update w.known i k⟩

/-- The state after a sequence of events, each on its target. -/
def run (w : Watched) (events : List (Nat × WatcherEvent)) : Watched :=
  events.foldl (fun w e => w.step e.1 e.2) w

theorem known_step_self (w : Watched) (i : Nat) (ev : WatcherEvent) :
    (w.step i ev).known i = (dispatch (w.known i) ev).1 := by
  simp [step]

theorem known_step_ne (w : Watched) {i j : Nat} (different : j ≠ i) (ev : WatcherEvent) :
    (w.step i ev).known j = w.known j := by
  simp [step, Function.update_of_ne different]

theorem collector_step (w : Watched) (i : Nat) (ev : WatcherEvent) :
    (w.step i ev).collector =
      (dispatch (w.known i) ev).2.1.foldl (fun c e => c.deliver true e) w.collector := by
  simp [step]

/-- What one event on target `i` does, when its objects carry the target's scope and the
target's known objects lie in it: on the keys it touches, all in the scope, the cache becomes
the target's new known objects, and every other key keeps its cached and its known object. -/
theorem step_effect {w : Watched} {i : Nat} {ev : WatcherEvent} {scope : Option String}
    (carries : ∀ obj ∈ ev.objects, Carries scope obj)
    (within : ∀ x, ((w.known i).get? x).isSome → InScope scope x) :
    ∃ touched : String → Prop,
      (∀ x, touched x → InScope scope x) ∧
      (∀ x, touched x → (w.step i ev).collector.cache.get? x = ((w.step i ev).known i).get? x) ∧
      (∀ x, ¬ touched x → (w.step i ev).collector.cache.get? x = w.collector.cache.get? x ∧
        ((w.step i ev).known i).get? x = (w.known i).get? x) := by
  rw [known_step_self, collector_step]
  cases ev with
  | applied obj =>
    have scopedKey := inScope_resourceKey (carries obj (by simp [WatcherEvent.objects]))
    simp only [dispatch, List.foldl_cons, List.foldl_nil, deliver_open, cache_apply_changeOf]
    refine ⟨(· = resourceKey obj), fun x same => same ▸ scopedKey, ?_, ?_⟩
    · rintro x rfl
      simp [ResourceCache.get?_upsert, KnownObjects.get?_applied]
    · intro x other
      simp [ResourceCache.get?_upsert, KnownObjects.get?_applied, other]
  | deleted obj =>
    have scopedKey := inScope_resourceKey (carries obj (by simp [WatcherEvent.objects]))
    simp only [dispatch, List.foldl_cons, List.foldl_nil, deliver_open]
    refine ⟨(· = resourceKey obj), fun x same => same ▸ scopedKey, ?_, ?_⟩
    · rintro x rfl
      simp [apply, ResourceCache.get?_remove, KnownObjects.get?_deleted]
    · intro x other
      simp [apply, ResourceCache.get?_remove, KnownObjects.get?_deleted, other]
  | restarted objs =>
    have lookup := relist_open w.collector (w.known i) objs
    refine ⟨fun x => x ∈ objs.map resourceKey ∨ ((w.known i).get? x).isSome, ?_, ?_, ?_⟩
    · rintro x (listedKey | known)
      · obtain ⟨o, member, rfl⟩ := List.mem_map.1 listedKey
        exact inScope_resourceKey (carries o member)
      · exact within x known
    · intro x touched
      rw [lookup x, KnownObjects.get?_dispatch_restarted]
      by_cases listedKey : x ∈ objs.map resourceKey
      · rw [if_pos listedKey]
      · rw [if_neg listedKey, if_pos (touched.resolve_left listedKey),
          lastListed_eq_none_iff.2 listedKey]
    · intro x untouched
      rw [not_or, Bool.not_eq_true, Option.isSome_eq_false_iff, Option.isNone_iff_eq_none]
        at untouched
      rw [lookup x, KnownObjects.get?_dispatch_restarted, if_neg untouched.1, untouched.2,
        lastListed_eq_none_iff.2 untouched.1]
      exact ⟨rfl, rfl⟩

/-- What every run from a built collector keeps, for the scopes of its targets. -/
structure Mirrors (scopes : List (Option String)) (w : Watched) : Prop where
  /-- Every target knows objects of its own scope only. -/
  within : ∀ i x, ((w.known i).get? x).isSome → ∃ s ∈ scopes[i]?, InScope s x
  /-- The cache holds what some target knows, and nothing else. -/
  union : ∀ x v, w.collector.cache.get? x = some v ↔ ∃ i, (w.known i).get? x = some v

theorem mirrors_start {c : CrdCollector} (empty : c.cache.entries = [])
    (scopes : List (Option String)) : Mirrors scopes (start c) where
  within _ _ known := by simp [start, KnownObjects.get?] at known
  union x v := by simp [start, KnownObjects.get?, ResourceCache.get?_eq_findKey?, empty]

section Separate

variable {scopes : List (Option String)} {w : Watched}

/-- A key of a target's scope is cached as that target knows it. -/
theorem Mirrors.get?_of_inScope (m : Mirrors scopes w) (separate : Separate scopes) {i : Nat}
    {s : Option String} (atI : scopes[i]? = some s) {x : String} (inScope : InScope s x) :
    w.collector.cache.get? x = (w.known i).get? x := by
  apply Option.ext
  intro v
  rw [m.union x v]
  constructor
  · rintro ⟨j, found⟩
    by_cases same : j = i
    · exact same ▸ found
    · obtain ⟨t, atJ, inT⟩ := m.within j x (by simp [found])
      exact (separate j i t s x same (by simpa using atJ) atI inT inScope).elim
  · exact fun found => ⟨i, found⟩

/-- No two targets know one key. -/
theorem Mirrors.disjoint (m : Mirrors scopes w) (separate : Separate scopes) {i j : Nat}
    {x : String} (different : i ≠ j) (known : ((w.known i).get? x).isSome) :
    (w.known j).get? x = none := by
  obtain ⟨s, atI, inS⟩ := m.within i x known
  cases found : (w.known j).get? x with
  | none => rfl
  | some v =>
    obtain ⟨t, atJ, inT⟩ := m.within j x (by simp [found])
    exact (separate i j s t x different (by simpa using atI) (by simpa using atJ) inS inT).elim

/-- Every event that fits its target keeps the cache the union of the known objects. -/
theorem Mirrors.step (m : Mirrors scopes w) (separate : Separate scopes) {i : Nat}
    {ev : WatcherEvent} (fits : Fits scopes i ev) : Mirrors scopes (w.step i ev) := by
  obtain ⟨s, atI, carries⟩ := fits
  have atI' : scopes[i]? = some s := by simpa using atI
  have within : ∀ x, ((w.known i).get? x).isSome → InScope s x := by
    intro x known
    obtain ⟨s', atI'', inS'⟩ := m.within i x known
    rw [atI', Option.mem_def, Option.some.injEq] at atI''
    exact atI'' ▸ inS'
  obtain ⟨touched, inScope, onTouched, offTouched⟩ := step_effect carries within
  refine ⟨?_, ?_⟩
  · intro j x known
    by_cases same : j = i
    · subst same
      by_cases hit : touched x
      · exact ⟨s, by simpa using atI', inScope x hit⟩
      · rw [(offTouched x hit).2] at known
        exact m.within j x known
    · rw [known_step_ne w same] at known
      exact m.within j x known
  · intro x v
    by_cases hit : touched x
    · rw [onTouched x hit]
      constructor
      · exact fun found => ⟨i, found⟩
      · rintro ⟨j, found⟩
        by_cases same : j = i
        · exact same ▸ found
        · rw [known_step_ne w same] at found
          obtain ⟨t, atJ, inT⟩ := m.within j x (by simp [found])
          exact (separate j i t s x same (by simpa using atJ) atI' inT (inScope x hit)).elim
    · rw [(offTouched x hit).1, m.union x v]
      have unchanged : ∀ j, (w.step i ev).known j = w.known j ∨ j = i := fun j =>
        if same : j = i then .inr same else .inl (known_step_ne w same ev)
      constructor
      · rintro ⟨j, found⟩
        refine ⟨j, ?_⟩
        rcases unchanged j with same | rfl
        · rw [same]; exact found
        · rw [(offTouched x hit).2]; exact found
      · rintro ⟨j, found⟩
        refine ⟨j, ?_⟩
        rcases unchanged j with same | rfl
        · rw [← same]; exact found
        · rw [← (offTouched x hit).2]; exact found

theorem Mirrors.run (m : Mirrors scopes w) (separate : Separate scopes)
    {events : List (Nat × WatcherEvent)} (fit : ∀ e ∈ events, Fits scopes e.1 e.2) :
    Mirrors scopes (w.run events) := by
  induction events generalizing w with
  | nil => exact m
  | cons e rest ih =>
    exact ih (m.step separate (fit e List.mem_cons_self))
      (fun e' member => fit e' (List.mem_cons_of_mem _ member))

end Separate

end Watched

/-- A built collector holds its specification and an empty cache. -/
theorem spec_cache_of_new {spec : CrdSpec} {stem : String} {c : CrdCollector}
    (built : CrdCollector.new spec stem = .ok c) : c.spec = spec ∧ c.cache = {} := by
  unfold CrdCollector.new at built
  split at built
  · cases built
  · split at built
    · cases built
    · simp only [Except.ok.injEq] at built
      subst built
      exact ⟨rfl, rfl⟩

/-- The scopes of a collector's targets: its namespaces, or the whole cluster. -/
theorem scopes_targets (c : CrdCollector) (firstSync : Nat) :
    (c.targets firstSync).map (·.scope) =
      if c.spec.namespaces.isEmpty then [none] else c.spec.namespaces.map some := by
  simp only [targets, WatchTarget.forNamespaces, List.map_map]
  exact List.map_fst_zip (by simp)

theorem separate_targets {c : CrdCollector} (distinct : c.spec.namespaces.Nodup)
    (noSlash : ∀ ns ∈ c.spec.namespaces, '/' ∉ ns.toList) (firstSync : Nat) :
    Separate ((c.targets firstSync).map (·.scope)) := by
  rw [scopes_targets]
  split
  · exact separate_singleton none
  · exact separate_namespaces distinct noSlash

/-- For a built collector whose namespaces are distinct and free of `/`, and any events on its
targets whose objects carry their target's namespace, dispatched in any order: the cache, as a
map from key to object, is the disjoint union of what the targets' watches know; and a restart
on a target leaves, on the keys of that target's scope, exactly the last listed object of each
key, every other object of the scope gone. -/
theorem cache_eq_union_of_known {spec : CrdSpec} {stem : String} {c : CrdCollector}
    (built : CrdCollector.new spec stem = .ok c) (distinct : spec.namespaces.Nodup)
    (noSlash : ∀ ns ∈ spec.namespaces, '/' ∉ ns.toList) (events : List (Nat × WatcherEvent))
    (fit : ∀ e ∈ events, Fits (c.targets.map (·.scope)) e.1 e.2) :
    let w := (Watched.start c).run events
    (∀ x v, w.collector.cache.get? x = some v ↔ ∃ i, (w.known i).get? x = some v) ∧
    (∀ i j x, i ≠ j → ((w.known i).get? x).isSome → (w.known j).get? x = none) ∧
    (∀ i objs, Fits (c.targets.map (·.scope)) i (.restarted objs) →
      ∀ x, (∃ t ∈ c.targets[i]?, InScope t.scope x) →
        (w.step i (.restarted objs)).collector.cache.get? x = lastListed objs x) := by
  intro w
  obtain ⟨sameSpec, emptyCache⟩ := spec_cache_of_new built
  subst sameSpec
  have separate := separate_targets distinct noSlash 0
  have m : Watched.Mirrors _ w :=
    (Watched.mirrors_start (by simp [emptyCache]) _).run separate fit
  refine ⟨m.union, fun i j x different known => m.disjoint separate different known, ?_⟩
  intro i objs fits x inTarget
  obtain ⟨t, atI, inScope⟩ := inTarget
  have m' := m.step separate fits
  have atI' : (c.targets.map (·.scope))[i]? = some t.scope := by simp [Option.mem_def.1 atI]
  rw [m'.get?_of_inScope separate atI' inScope, Watched.known_step_self]
  exact KnownObjects.get?_dispatch_restarted _ objs x

/-- A collector of `apps` in namespaces `a` and `b`: `a/web` is applied and then updated on the
first target, `b/db` and `b/cache` are applied on the second, which then restarts with a listing
of `b/db` alone. The cache ends holding `a/web` and `b/db`, the union of what the two targets
know. -/
theorem cache_union_two_namespaces :
    let spec : CrdSpec := { name := "app", gvr := { resource := "apps" }, namespaces := ["a", "b"] }
    let resource := fun (ns name : String) (fields : List (String × Json)) =>
      Json.obj ([("metadata", .obj [("name", .str name), ("namespace", .str ns)])] ++ fields)
    let c : CrdCollector := { spec, descriptors := [], sync := SyncFlags.unset 2 }
    let events : List (Nat × WatcherEvent) :=
      [(0, .applied (resource "a" "web" [])), (1, .applied (resource "b" "db" [])),
       (1, .applied (resource "b" "cache" [])),
       (0, .applied (resource "a" "web" [("status", .str "ready")])),
       (1, .restarted [resource "b" "db" [("status", .str "ready")]])]
    let w := (Watched.start c).run events
    CrdCollector.new spec "t" = .ok c ∧ spec.namespaces.Nodup ∧
      (∀ ns ∈ spec.namespaces, '/' ∉ ns.toList) ∧
      (∀ e ∈ events, Fits (c.targets.map (·.scope)) e.1 e.2) ∧
      w.collector.cache.keys = ["a/web", "b/db"] ∧
      ((∀ x v, w.collector.cache.get? x = some v ↔ ∃ i, (w.known i).get? x = some v) ∧
       (∀ i j x, i ≠ j → ((w.known i).get? x).isSome → (w.known j).get? x = none) ∧
       (∀ i objs, Fits (c.targets.map (·.scope)) i (.restarted objs) →
         ∀ x, (∃ t ∈ c.targets[i]?, InScope t.scope x) →
           (w.step i (.restarted objs)).collector.cache.get? x = lastListed objs x)) := by
  intro spec resource c events w
  have fit : ∀ e ∈ events, Fits (c.targets.map (·.scope)) e.1 e.2 := by
    intro e member
    simp only [events, List.mem_cons, List.not_mem_nil, or_false] at member
    rcases member with rfl | rfl | rfl | rfl | rfl <;> exact fits_of_namespace rfl (by decide)
  have built : CrdCollector.new spec "t" = .ok c := rfl
  exact ⟨built, by decide, by decide, fit, by decide,
    cache_eq_union_of_known built (by decide) (by decide) events fit⟩

/-- Namespaces `a` and `a/b` hold the objects `b/c` and `c` under the one key `a/b/c`. Deleting
the second empties that key of the cache while the first target still knows the first object,
so the cache is not the union of the targets' known objects. -/
theorem slashed_namespaces_share_cache :
    let spec : CrdSpec := { name := "app", gvr := { resource := "apps" }, namespaces := ["a", "a/b"] }
    let first := Json.obj [("metadata", .obj [("name", .str "b/c"), ("namespace", .str "a")])]
    let second := Json.obj [("metadata", .obj [("name", .str "c"), ("namespace", .str "a/b")])]
    let c : CrdCollector := { spec, descriptors := [], sync := SyncFlags.unset 2 }
    let events : List (Nat × WatcherEvent) :=
      [(0, .applied first), (1, .applied second), (1, .deleted second)]
    let w := (Watched.start c).run events
    CrdCollector.new spec "t" = .ok c ∧ spec.namespaces.Nodup ∧
      (∀ e ∈ events, Fits (c.targets.map (·.scope)) e.1 e.2) ∧
      ¬ (∀ x v, w.collector.cache.get? x = some v ↔ ∃ i, (w.known i).get? x = some v) := by
  intro spec first second c events w
  have fit : ∀ e ∈ events, Fits (c.targets.map (·.scope)) e.1 e.2 := by
    intro e member
    simp only [events, List.mem_cons, List.not_mem_nil, or_false] at member
    rcases member with rfl | rfl | rfl
    · refine ⟨some "a", rfl, ?_⟩
      intro o listed ns scope
      simp only [WatcherEvent.objects, List.mem_singleton] at listed
      simp only [Option.some.injEq] at scope
      subst listed scope
      rfl
    all_goals
      refine ⟨some "a/b", rfl, ?_⟩
      intro o listed ns scope
      simp only [WatcherEvent.objects, List.mem_singleton] at listed
      simp only [Option.some.injEq] at scope
      subst listed scope
      rfl
  have forgotten : w.collector.cache.get? "a/b/c" = none := by decide +kernel
  have stillKnown : ((w.known 0).get? "a/b/c").isSome = true := by decide
  refine ⟨rfl, by decide, fit, fun union => ?_⟩
  obtain ⟨v, found⟩ := Option.isSome_iff_exists.1 stillKnown
  have cached := (union "a/b/c" v).2 ⟨0, found⟩
  rw [forgotten] at cached
  cases cached

end CrdCollector

end StateMetrics
