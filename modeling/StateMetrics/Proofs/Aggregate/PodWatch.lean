import Mathlib
import StateMetrics.Proofs.Aggregate.PodTally

/-! # The pod watch tallies the pods it knows

The pod collector watches pods through one target for the whole cluster. Its watch keeps the
objects it knows and dispatches every watcher event into the collector's handler, which, with
the gate open, adds, updates and removes pods in the aggregator. After every event of any
sequence, the aggregator's buckets are exactly the groups of the known pods by namespace and
phase: each bucket's members are the names of the known pods of its group, its count is their
number, and no bucket is empty; the abnormal table holds exactly the identities of the known
pods whose latest version is abnormal.

This needs what the watch delivers to be admissible (`PodWatch.Admissible`): every object reads
as a pod whose namespace is free of `/`, a restart lists each key once, and a deleted pod that
the watch knows is in the phase of the version it knows. Every change the watch then hands on
follows the objects known so far (`ResourceEvent.Follows`), and the tallies carry over change
by change (`tallies_deliver`).

Main statement: `buckets_count_known_pods`. -/

namespace StateMetrics

open Kube

/-! ## Pods read from objects -/

/-- A member of the metadata reads as the string at its dotted path. -/
theorem extractString_metadata (obj : Json) {path key : String}
    (segments : Json.segments path = ["metadata", key]) :
    Json.extractString obj path = textAt ((present obj "metadata").getD (.obj [])) key := by
  have nonempty : path.isEmpty = false := by
    cases empty : path.isEmpty
    · rfl
    · rw [String.isEmpty_iff.1 empty] at segments
      simp [Json.segments, Json.splitDots] at segments
  simp only [Json.extractString, Json.lookup, nonempty, Json.follow, segments, textAt, present,
    List.foldlM_cons, List.foldlM_nil, Bool.false_eq_true, if_false]
  cases obj.get? "metadata" with
  | none => rfl
  | some m => cases m <;> simp [Json.get?, Json.lookupMember]

/-- An object that reads as a pod is keyed by the pod's identity. -/
theorem resourceKey_of_decode {obj : Json} {p : Pod} (decoded : Pod.decode obj = .ok p) :
    resourceKey obj = p.identity := by
  unfold Pod.decode at decoded
  split at decoded
  · cases decoded
  · simp only [Except.ok.injEq] at decoded
    subst decoded
    rw [resourceKey,
      extractString_metadata obj (by decide : Json.segments "metadata.namespace" = ["metadata", "namespace"]),
      extractString_metadata obj (by decide : Json.segments "metadata.name" = ["metadata", "name"])]
    rfl

/-- An object the pod watch may deliver: it reads as a pod whose namespace is free of `/`. -/
def PodObject (obj : Json) : Prop :=
  ∃ p, Pod.decode obj = .ok p ∧ '/' ∉ p.namespaceName.toList

/-- Two objects read as pods of one phase. -/
def SamePhase (a b : Json) : Prop :=
  ∀ p q, Pod.decode a = .ok p → Pod.decode b = .ok q → p.phase = q.phase

/-- The pods of a table of objects. -/
def podsOf (G : String → Option Json) (x : String) : Option Pod :=
  (G x).bind fun obj => (Pod.decode obj).toOption

/-- A table of pod objects, each under its resource key. -/
def KeyedPods (G : String → Option Json) : Prop :=
  ∀ x obj, G x = some obj → PodObject obj ∧ resourceKey obj = x

section Table

variable {G : String → Option Json}

theorem decode_toOption_eq_some {obj : Json} {p : Pod} :
    (Pod.decode obj).toOption = some p ↔ Pod.decode obj = .ok p := by
  cases Pod.decode obj <;> simp [Except.toOption]

theorem podsOf_eq_some {x : String} {p : Pod} :
    podsOf G x = some p ↔ ∃ obj, G x = some obj ∧ Pod.decode obj = .ok p := by
  simp only [podsOf, Option.bind_eq_some_iff, decode_toOption_eq_some]

theorem podsOf_set {obj : Json} {p : Pod} (decoded : Pod.decode obj = .ok p) :
    podsOf (Function.update G (resourceKey obj) (some obj)) =
      Function.update (podsOf G) p.identity (some p) := by
  funext x
  rw [resourceKey_of_decode decoded]
  by_cases same : x = p.identity
  · subst same
    simp [podsOf, decoded, Except.toOption]
  · simp [podsOf, Function.update_of_ne same]

theorem podsOf_erase (key : String) :
    podsOf (Function.update G key none) = Function.update (podsOf G) key none := by
  funext x
  by_cases same : x = key <;> simp [podsOf, same]

theorem KeyedPods.set (keyed : KeyedPods G) {obj : Json} (pod : PodObject obj) :
    KeyedPods (Function.update G (resourceKey obj) (some obj)) := by
  intro x o found
  rcases update_some_eq_some found with ⟨rfl, rfl⟩ | ⟨-, old⟩
  · exact ⟨pod, rfl⟩
  · exact keyed x o old

theorem KeyedPods.erase (keyed : KeyedPods G) (key : String) :
    KeyedPods (Function.update G key none) :=
  fun x o found => keyed x o (update_none_eq_some found).2

/-- The pods of a table of pod objects stand under their identities. -/
theorem KeyedPods.filed (keyed : KeyedPods G) : Filed (podsOf G) := by
  constructor
  · intro x p found
    obtain ⟨obj, held, decoded⟩ := podsOf_eq_some.1 found
    rw [← resourceKey_of_decode decoded]
    exact (keyed x obj held).2
  · intro x p found
    obtain ⟨obj, held, decoded⟩ := podsOf_eq_some.1 found
    obtain ⟨⟨q, decoded', hq⟩, -⟩ := keyed x obj held
    rw [decoded, Except.ok.injEq] at decoded'
    exact decoded' ▸ hq

end Table

/-! ## Changes the handler takes -/

namespace ResourceEvent

/-- What a change does to a table of objects by key. -/
def applyTo (G : String → Option Json) : ResourceEvent → String → Option Json
  | .added obj => Function.update G (resourceKey obj) (some obj)
  | .updated _ obj => Function.update G (resourceKey obj) (some obj)
  | .deleted obj => Function.update G (resourceKey obj) none

/-- A change of pods that follows a table of objects: an addition under a new key, an update of
the version the table holds, or a deletion in the phase of the version held. -/
def Follows (G : String → Option Json) : ResourceEvent → Prop
  | .added obj => PodObject obj ∧ G (resourceKey obj) = none
  | .updated old obj => PodObject obj ∧ G (resourceKey obj) = some old
  | .deleted obj => PodObject obj ∧ ∀ old, G (resourceKey obj) = some old → SamePhase old obj

end ResourceEvent

/-- Changes that each follow the table the changes before them leave. -/
def FollowAll : (String → Option Json) → List ResourceEvent → Prop
  | _, [] => True
  | G, e :: rest => e.Follows G ∧ FollowAll (e.applyTo G) rest

theorem followAll_append {G : String → Option Json} {first later : List ResourceEvent} :
    FollowAll G (first ++ later) ↔
      FollowAll G first ∧ FollowAll (first.foldl ResourceEvent.applyTo G) later := by
  induction first generalizing G with
  | nil => simp [FollowAll]
  | cons e rest ih => simp [FollowAll, ih, and_assoc]

theorem follows_changeOf {G : String → Option Json} {obj : Json} (pod : PodObject obj) :
    (changeOf (G (resourceKey obj)) obj).Follows G := by
  cases held : G (resourceKey obj) with
  | none => exact ⟨pod, held⟩
  | some old => exact ⟨pod, held⟩

theorem applyTo_changeOf (G : String → Option Json) (old : Option Json) (obj : Json) :
    (changeOf old obj).applyTo G = Function.update G (resourceKey obj) (some obj) := by
  cases old <;> rfl

/-- One change the handler takes with the gate open keeps the tallies of the table it follows. -/
theorem tallies_deliver {G : String → Option Json} {c : PodCollector} (keyed : KeyedPods G)
    (tallies : Tallies (podsOf G) c.aggregator) {e : ResourceEvent} (follows : e.Follows G)
    (now : Instant) :
    KeyedPods (e.applyTo G) ∧ Tallies (podsOf (e.applyTo G)) (c.deliver true now e).aggregator := by
  cases e with
  | added obj =>
    obtain ⟨⟨p, decoded, hp⟩, fresh⟩ := follows
    have missing : podsOf G p.identity = none := by
      rw [← resourceKey_of_decode decoded]
      simp [podsOf, fresh]
    refine ⟨keyed.set ⟨p, decoded, hp⟩, ?_⟩
    rw [ResourceEvent.applyTo, podsOf_set decoded]
    simpa [PodCollector.deliver_open, PodCollector.handler, EventHandlerFuncs.handle, decoded]
      using tallies.add hp missing now
  | updated old obj =>
    obtain ⟨⟨p, decoded, hp⟩, held⟩ := follows
    obtain ⟨⟨q, decodedOld, -⟩, -⟩ := keyed _ old held
    have known : podsOf G p.identity = some q := by
      rw [← resourceKey_of_decode decoded]
      exact podsOf_eq_some.2 ⟨old, held, decodedOld⟩
    refine ⟨keyed.set ⟨p, decoded, hp⟩, ?_⟩
    rw [ResourceEvent.applyTo, podsOf_set decoded]
    simpa [PodCollector.deliver_open, PodCollector.handler, EventHandlerFuncs.handle, decoded,
      decodedOld] using tallies.update hp known now
  | deleted obj =>
    obtain ⟨⟨p, decoded, hp⟩, samePhase⟩ := follows
    have inPhase : ∀ q, podsOf G p.identity = some q → q.phase = p.phase := by
      intro q found
      rw [← resourceKey_of_decode decoded] at found
      obtain ⟨old, held, decodedOld⟩ := podsOf_eq_some.1 found
      exact samePhase old held q p decodedOld decoded
    refine ⟨keyed.erase _, ?_⟩
    rw [ResourceEvent.applyTo, podsOf_erase, resourceKey_of_decode decoded]
    simpa [PodCollector.deliver_open, PodCollector.handler, EventHandlerFuncs.handle, decoded]
      using tallies.remove hp inPhase

/-- Changes taken one after another keep the tallies of the tables they follow. -/
theorem tallies_deliverAll {G : String → Option Json} {c : PodCollector} (keyed : KeyedPods G)
    (tallies : Tallies (podsOf G) c.aggregator) {changes : List ResourceEvent}
    (follows : FollowAll G changes) (now : Instant) :
    KeyedPods (changes.foldl ResourceEvent.applyTo G) ∧
      Tallies (podsOf (changes.foldl ResourceEvent.applyTo G))
        (changes.foldl (fun c e => c.deliver true now e) c).aggregator := by
  induction changes generalizing G c with
  | nil => exact ⟨keyed, tallies⟩
  | cons e rest ih =>
    obtain ⟨first, later⟩ := follows
    obtain ⟨keyed', tallies'⟩ := tallies_deliver keyed tallies first now
    exact ih keyed' tallies' later

/-! ## What a restart hands on -/

/-- Deleting objects one after another, each held under its key. -/
theorem followAll_deleted {G : String → Option Json} {vs : List Json}
    (distinct : (vs.map resourceKey).Nodup)
    (held : ∀ v ∈ vs, G (resourceKey v) = some v ∧ PodObject v) :
    FollowAll G (vs.map .deleted) ∧
      (vs.map .deleted).foldl ResourceEvent.applyTo G =
        fun x => if x ∈ vs.map resourceKey then none else G x := by
  induction vs generalizing G with
  | nil => exact ⟨trivial, rfl⟩
  | cons v rest ih =>
    simp only [List.map_cons, List.nodup_cons, List.mem_map, not_exists, not_and] at distinct
    obtain ⟨heldV, podV⟩ := held v List.mem_cons_self
    have heldRest : ∀ w ∈ rest, Function.update G (resourceKey v) none (resourceKey w) = some w ∧
        PodObject w := by
      intro w member
      have different : resourceKey w ≠ resourceKey v := fun same => distinct.1 w member same
      rw [Function.update_of_ne different]
      exact held w (List.mem_cons_of_mem v member)
    have follows : (ResourceEvent.deleted v).Follows G := by
      refine ⟨podV, fun old found p q decodedOld decoded => ?_⟩
      rw [heldV, Option.some.injEq] at found
      subst found
      rw [decodedOld, Except.ok.injEq] at decoded
      rw [decoded]
    obtain ⟨followsRest, table⟩ := ih distinct.2 heldRest
    refine ⟨⟨follows, followsRest⟩, ?_⟩
    rw [List.map_cons, List.foldl_cons]
    refine table.trans (funext fun x => ?_)
    by_cases later : x ∈ rest.map resourceKey
    · simp [later]
    · by_cases same : x = resourceKey v
      · simp [same]
      · simp [later, same]

/-- Listing objects with distinct keys one after another, each against the version that a
table `G` holds, from a table `H` that agrees with `G` on their keys. -/
theorem followAll_listed {G H : String → Option Json} {objs : List Json}
    (distinct : (objs.map resourceKey).Nodup) (pods : ∀ o ∈ objs, PodObject o)
    (agree : ∀ o ∈ objs, H (resourceKey o) = G (resourceKey o)) :
    FollowAll H (objs.map fun o => changeOf (G (resourceKey o)) o) ∧
      (objs.map fun o => changeOf (G (resourceKey o)) o).foldl ResourceEvent.applyTo H =
        fun x => if x ∈ objs.map resourceKey then lastListed objs x else H x := by
  induction objs generalizing H with
  | nil => exact ⟨trivial, rfl⟩
  | cons o rest ih =>
    simp only [List.map_cons, List.nodup_cons, List.mem_map, not_exists, not_and] at distinct
    have agreeRest : ∀ w ∈ rest,
        Function.update H (resourceKey o) (some o) (resourceKey w) = G (resourceKey w) := by
      intro w member
      have different : resourceKey w ≠ resourceKey o := fun same => distinct.1 w member same
      rw [Function.update_of_ne different]
      exact agree w (List.mem_cons_of_mem o member)
    have follows : (changeOf (G (resourceKey o)) o).Follows H := by
      rw [← agree o List.mem_cons_self]
      exact follows_changeOf (pods o List.mem_cons_self)
    obtain ⟨followsRest, table⟩ :=
      ih distinct.2 (fun w member => pods w (List.mem_cons_of_mem o member)) agreeRest
    refine ⟨⟨follows, by rwa [applyTo_changeOf]⟩, ?_⟩
    rw [List.map_cons, List.foldl_cons, applyTo_changeOf]
    refine table.trans (funext fun x => ?_)
    rw [lastListed_cons]
    by_cases later : x ∈ rest.map resourceKey
    · have listed : lastListed rest x ≠ none := by rwa [ne_eq, lastListed_eq_none_iff, not_not]
      obtain ⟨w, found⟩ := Option.ne_none_iff_exists'.1 listed
      simp [later, found]
    · by_cases same : x = resourceKey o
      · subst same
        simp [later, lastListed_eq_none_iff.2 later]
      · simp [later, same]

/-! ## The watch -/

/-- A pod collector with the objects its cluster-wide watch knows. -/
structure PodWatch where
  collector : PodCollector
  known : KnownObjects

namespace PodWatch

/-- A collector whose watch knows nothing yet. -/
def start (c : PodCollector) : PodWatch := ⟨c, {}⟩

/-- A watcher event at an instant, dispatched through the known objects into the collector's
handler while the gate is open. -/
def step (w : PodWatch) (ev : WatcherEvent) (now : Instant) : PodWatch :=
  let (known, changes, _) := dispatch w.known ev
  ⟨changes.foldl (fun c e => c.deliver true now e) w.collector, known⟩

/-- The state after a sequence of events, each at its instant. -/
def run (w : PodWatch) (events : List (WatcherEvent × Instant)) : PodWatch :=
  events.foldl (fun w e => w.step e.1 e.2) w

/-- What the watch may deliver, given the objects it knows: pod objects, a restart that lists
each key once, and a deleted pod in the phase of the version known under its key. -/
def Admissible (k : KnownObjects) : WatcherEvent → Prop
  | .applied obj => PodObject obj
  | .deleted obj => PodObject obj ∧ ∀ old, k.get? (resourceKey obj) = some old → SamePhase old obj
  | .restarted objs => (∀ obj ∈ objs, PodObject obj) ∧ (objs.map resourceKey).Nodup

/-- Every event of a run is admissible when it comes. -/
def Admits : PodWatch → List (WatcherEvent × Instant) → Prop
  | _, [] => True
  | w, (ev, now) :: rest => Admissible w.known ev ∧ (w.step ev now).Admits rest

/-- A deletion is admissible when the deleted object reads as a pod free of `/` and the version
known under its key, if any, reads as a pod of the same phase. -/
theorem admissible_deleted_of_phase {k : KnownObjects} {obj : Json} {p : Pod}
    (decoded : Pod.decode obj = .ok p) (slashFree : '/' ∉ p.namespaceName.toList)
    (phase : ((k.get? (resourceKey obj)).bind fun o => (Pod.decode o).toOption).all
      (·.phase == p.phase) = true) :
    Admissible k (.deleted obj) := by
  refine ⟨⟨p, decoded, slashFree⟩, fun old found q r decodedOld decodedObj => ?_⟩
  rw [decoded, Except.ok.injEq] at decodedObj
  subst decodedObj
  simpa [found, decodedOld, Except.toOption] using phase

end PodWatch

/-- The objects that vanish in a restart, each known under its key, with distinct keys. -/
theorem vanished_held {k : KnownObjects} (keyed : KeyedPods k.get?)
    (objs : List Json) :
    let vanished := (KnownObjects.relist k.entries objs).1.map (·.2)
    (vanished.map resourceKey).Nodup ∧
      ∀ v ∈ vanished, k.get? (resourceKey v) = some v ∧ PodObject v := by
  intro vanished
  have left := KnownObjects.relist_fst k.ascending objs
  have keys : vanished.map resourceKey =
      (k.entries.filter fun e => e.1 ∉ objs.map resourceKey).map (·.1) := by
    simp only [vanished, left, List.map_map]
    refine List.map_congr_left fun e member => ?_
    exact (k.keyed e (List.mem_of_mem_filter member)).symm
  refine ⟨?_, fun v member => ?_⟩
  · rw [keys]
    exact (k.ascending.filter _).imp ne_of_lt
  · simp only [vanished, left, List.mem_map] at member
    obtain ⟨e, kept, rfl⟩ := member
    have entry := List.mem_of_mem_filter kept
    have held : k.get? (resourceKey e.2) = some e.2 := by
      rw [KnownObjects.get?, ← k.keyed e entry]
      exact findKey?_of_mem k.ascending entry
    exact ⟨held, (keyed _ _ held).1⟩

/-- What the watch hands on for an admissible event follows the objects it knew, and leaves the
objects it knows after the event. -/
theorem dispatch_follows {k : KnownObjects} (keyed : KeyedPods k.get?)
    {ev : WatcherEvent} (admissible : PodWatch.Admissible k ev) :
    FollowAll k.get? (dispatch k ev).2.1 ∧
      (dispatch k ev).2.1.foldl ResourceEvent.applyTo k.get? = (dispatch k ev).1.get? := by
  cases ev with
  | applied obj =>
    have previous : (k.applied obj).2 = k.get? (resourceKey obj) := KnownObjects.applied_snd k obj
    refine ⟨⟨previous ▸ follows_changeOf admissible, trivial⟩, funext fun x => ?_⟩
    show (changeOf (k.applied obj).2 obj).applyTo k.get? x = (k.applied obj).1.get? x
    rw [applyTo_changeOf, KnownObjects.get?_applied]
    by_cases same : x = resourceKey obj <;> simp [same]
  | deleted obj =>
    refine ⟨⟨admissible, trivial⟩, funext fun x => ?_⟩
    show (ResourceEvent.deleted obj).applyTo k.get? x = (k.deleted obj).1.get? x
    rw [ResourceEvent.applyTo, KnownObjects.get?_deleted]
    by_cases same : x = resourceKey obj <;> simp [same]
  | restarted objs =>
    obtain ⟨pods, distinct⟩ := admissible
    obtain ⟨vanishedDistinct, held⟩ := vanished_held keyed objs
    set vanished := (KnownObjects.relist k.entries objs).1.map (·.2)
    -- the vanished objects are deleted first, then the listing is handed on
    have changes : (dispatch k (.restarted objs)).2.1 =
        vanished.map .deleted ++ objs.map fun o => changeOf (k.get? (resourceKey o)) o := by
      simp [dispatch, KnownObjects.restarted_eq, KnownObjects.relist_snd_of_nodup k.ascending distinct,
        vanished, KnownObjects.get?]
    obtain ⟨followsVanished, afterVanished⟩ := followAll_deleted vanishedDistinct held
    have agree : ∀ o ∈ objs, (if resourceKey o ∈ vanished.map resourceKey then none
        else k.get? (resourceKey o)) = k.get? (resourceKey o) := by
      intro o member
      have kept : resourceKey o ∉ vanished.map resourceKey := fun gone =>
        ((KnownObjects.mem_vanished_keys k objs _).1 gone).2 (List.mem_map_of_mem member)
      rw [if_neg kept]
    obtain ⟨followsListed, afterListed⟩ :=
      followAll_listed (H := fun x => if x ∈ vanished.map resourceKey then none else k.get? x)
        distinct pods agree
    rw [changes]
    refine ⟨followAll_append.2 ⟨followsVanished, afterVanished ▸ followsListed⟩, ?_⟩
    rw [List.foldl_append, afterVanished, afterListed]
    funext x
    show _ = (k.restarted objs).1.get? x
    rw [KnownObjects.get?_restarted]
    by_cases listed : x ∈ objs.map resourceKey
    · simp [listed]
    · have unknown : x ∈ vanished.map resourceKey ∨ k.get? x = none := by
        by_cases gone : x ∈ vanished.map resourceKey
        · exact .inl gone
        · simp only [vanished, KnownObjects.mem_vanished_keys, listed, not_false_eq_true,
            and_true, Option.not_isSome_iff_eq_none] at gone
          exact .inr gone
      rcases unknown with gone | unknown
      · simp [listed, lastListed_eq_none_iff.2 listed, gone]
      · simp [listed, lastListed_eq_none_iff.2 listed, unknown]

/-- A pod watch whose known objects are pod objects, tallied by the collector's aggregator. -/
structure PodWatch.Counted (w : PodWatch) : Prop where
  keyed : KeyedPods w.known.get?
  tallies : Tallies (podsOf w.known.get?) w.collector.aggregator

namespace PodWatch

theorem counted_start {c : PodCollector} {windowSecs : Nat}
    (fresh : c.aggregator = { windowSecs }) : (start c).Counted where
  keyed := fun _ _ found => by cases found
  tallies := by
    have empty : podsOf (start c).known.get? = fun _ => none := rfl
    rw [empty, show (start c).collector.aggregator = _ from fresh]
    exact tallies_empty windowSecs

/-- An admissible event keeps the watch counted. -/
theorem Counted.step {w : PodWatch} (counted : w.Counted) {ev : WatcherEvent}
    (admissible : Admissible w.known ev) (now : Instant) : (w.step ev now).Counted := by
  obtain ⟨follows, table⟩ := dispatch_follows counted.keyed admissible
  obtain ⟨keyed, tallies⟩ := tallies_deliverAll counted.keyed counted.tallies follows now
  rw [table] at keyed tallies
  exact ⟨keyed, tallies⟩

/-- A run of admissible events keeps the watch counted. -/
theorem Counted.run {w : PodWatch} (counted : w.Counted) {events : List (WatcherEvent × Instant)}
    (admits : w.Admits events) : (w.run events).Counted := by
  induction events generalizing w with
  | nil => exact counted
  | cons event rest ih =>
    obtain ⟨ev, now⟩ := event
    obtain ⟨admissible, later⟩ := admits
    exact ih (counted.step admissible now) later

end PodWatch

/-! ## The known pods -/

namespace KnownObjects

/-- The known objects that read as pods, by key. -/
def pods (k : KnownObjects) : List Pod :=
  k.entries.filterMap fun e => (Pod.decode e.2).toOption

/-- The known pods of a namespace and phase, by key. -/
def podsIn (k : KnownObjects) (ns phase : String) : List Pod :=
  k.pods.filter fun p => p.namespaceName == ns && p.phase == phase

variable {k : KnownObjects}

theorem mem_pods {p : Pod} : p ∈ k.pods ↔ ∃ x, podsOf k.get? x = some p := by
  simp only [pods, List.mem_filterMap, decode_toOption_eq_some, podsOf_eq_some]
  constructor
  · rintro ⟨e, member, decoded⟩
    exact ⟨e.1, e.2, findKey?_of_mem k.ascending member, decoded⟩
  · rintro ⟨x, obj, found, decoded⟩
    exact ⟨(x, obj), mem_of_findKey? found, decoded⟩

/-- The known pods ascend by identity. -/
theorem pods_ascending : k.pods.Pairwise fun p q => p.identity < q.identity := by
  have sorted := k.ascending
  rw [Ascending, List.pairwise_map] at sorted
  rw [pods, List.pairwise_filterMap]
  refine sorted.imp_of_mem fun {e e'} member member' below p decoded q decoded' => ?_
  rw [decode_toOption_eq_some] at decoded decoded'
  rwa [← resourceKey_of_decode decoded, ← resourceKey_of_decode decoded', ← k.keyed e member,
    ← k.keyed e' member']

/-- The names of the known pods of a group are the names the group has. -/
theorem mem_names_podsIn (keyed : KeyedPods k.get?) {ns phase n : String}
    (hns : '/' ∉ ns.toList) :
    n ∈ (k.podsIn ns phase).map (·.name) ↔ InGroup (podsOf k.get?) ns phase n := by
  have filed := keyed.filed
  simp only [podsIn, List.mem_map, List.mem_filter, Bool.and_eq_true, beq_iff_eq]
  constructor
  · rintro ⟨p, ⟨member, rfl, rfl⟩, rfl⟩
    obtain ⟨x, found⟩ := mem_pods.1 member
    exact filed.inGroup found
  · rintro ⟨p, found, rfl⟩
    obtain ⟨sameNs, sameName⟩ :=
      slash_join_inj (filed.noSlash _ p found) hns (filed.identity _ p found)
    exact ⟨p, ⟨mem_pods.2 ⟨_, found⟩, sameNs, rfl⟩, sameName⟩

/-- The known pods of a group have distinct names. -/
theorem nodup_names_podsIn (ns phase : String) :
    ((k.podsIn ns phase).map (·.name)).Nodup := by
  rw [List.Nodup, List.pairwise_map]
  refine (pods_ascending.filter _).imp_of_mem fun {p q} member member' below same => ?_
  simp only [podsIn, List.mem_filter, Bool.and_eq_true, beq_iff_eq] at member member'
  have sameIdentity : p.identity = q.identity := by
    rw [Pod.identity, Pod.identity, member.2.1, member'.2.1, same]
  exact lt_irrefl _ (sameIdentity ▸ below)

end KnownObjects

theorem PodCollector.aggregator_of_new {namespaces : List String} {aggregator : PodAggregator}
    {stem : String} {c : PodCollector} (built : PodCollector.new namespaces aggregator stem = .ok c) :
    c.aggregator = aggregator := by
  unfold PodCollector.new at built
  split at built
  · cases built
  · cases built
  · cases built
    rfl

/-- After any sequence of admissible watcher events on a new pod collector's cluster-wide watch,
delivered with the gate open, the buckets are exactly the groups of the known pods by namespace
and phase: every bucket stands under `<namespace>/<phase>` of its group, its members are the
names of the group's known pods and its count is their number, which is positive, and every
known pod has its bucket. The abnormal table holds exactly the identities of the known pods
whose latest version is abnormal. -/
theorem buckets_count_known_pods {windowSecs : Nat} {stem : String} {c : PodCollector}
    (built : PodCollector.new [] { windowSecs } stem = .ok c)
    (events : List (WatcherEvent × Instant)) (admitted : (PodWatch.start c).Admits events) :
    let w := (PodWatch.start c).run events
    let a := w.collector.aggregator
    (∀ key b, a.buckets.get? key = some b →
      key = b.dims.namespaceName ++ "/" ++ b.dims.phase ∧
      b.members.Perm ((w.known.podsIn b.dims.namespaceName b.dims.phase).map (·.name)) ∧
      b.count = (w.known.podsIn b.dims.namespaceName b.dims.phase).length ∧ 0 < b.count) ∧
    (∀ p ∈ w.known.pods, (a.buckets.get? p.bucketKey).isSome) ∧
    (∀ x, (findKey? x a.abnormal).isSome ↔
      ∃ p ∈ w.known.pods, p.identity = x ∧ p.isAbnormal = true) := by
  intro w a
  have counted : w.Counted :=
    (PodWatch.counted_start (PodCollector.aggregator_of_new built)).run admitted
  have filed := counted.keyed.filed
  have grouped := counted.tallies.grouped
  refine ⟨fun key b found => ?_, fun p member => ?_, fun x => ?_⟩
  · obtain ⟨onKey, hns⟩ := grouped.key key b found
    have counts := grouped.counts key b found
    have names : b.members.Perm ((w.known.podsIn b.dims.namespaceName b.dims.phase).map (·.name)) := by
      refine (List.perm_ext_iff_of_nodup (counts.sorted.imp ne_of_lt)
        (KnownObjects.nodup_names_podsIn _ _)).2 fun n => ?_
      rw [counts.members, KnownObjects.mem_names_podsIn counted.keyed hns]
    refine ⟨onKey, names, ?_, ?_⟩
    · rw [counts.count, names.length_eq, List.length_map]
    · rw [counts.count]
      exact List.length_pos_of_ne_nil counts.nonempty
  · obtain ⟨x, found⟩ := KnownObjects.mem_pods.1 member
    exact grouped.complete x p found
  · rw [counted.tallies.tracks.tracked x]
    constructor
    · rintro ⟨p, found, abnormal⟩
      exact ⟨p, KnownObjects.mem_pods.2 ⟨x, found⟩, filed.identity x p found, abnormal⟩
    · rintro ⟨p, member, rfl, abnormal⟩
      obtain ⟨y, found⟩ := KnownObjects.mem_pods.1 member
      rw [filed.identity y p found]
      exact ⟨p, found, abnormal⟩

/-- A pod `<namespace>/<name>` in a phase, as the watch delivers it. -/
def podJson (ns name phase : String) : Json :=
  .obj [("metadata", .obj [("name", .str name), ("namespace", .str ns)]),
    ("status", .obj [("phase", .str phase)])]

/-- A new collector whose watch sees `web` go from pending to running, `db` run and be deleted,
and a restart that lists `web` running and `api` pending: the running bucket holds `web` alone
and the pending bucket `api` alone. -/
theorem pod_buckets_follow_watch_history :
    let c : PodCollector :=
      { namespaces := [], aggregator := { windowSecs := 300 }, sync := SyncFlags.unset 1,
        countDesc := ⟨"test_pod_aggregated_count", "Number of pods per namespace and phase",
          ["namespace", "phase"]⟩,
        abnormalDesc := ⟨"test_pod_abnormal_duration_seconds",
          "Seconds since the pod was first observed in an abnormal state", ["namespace", "pod"]⟩ }
    let events : List (WatcherEvent × Instant) :=
      [(.applied (podJson "default" "web" "Pending"), ⟨0⟩),
       (.applied (podJson "default" "web" "Running"), ⟨1000⟩),
       (.applied (podJson "default" "db" "Running"), ⟨2000⟩),
       (.deleted (podJson "default" "db" "Running"), ⟨3000⟩),
       (.restarted [podJson "default" "web" "Running", podJson "default" "api" "Pending"], ⟨4000⟩)]
    let w := (PodWatch.start c).run events
    let a := w.collector.aggregator
    PodCollector.new [] { windowSecs := 300 } "test" = .ok c ∧ (PodWatch.start c).Admits events ∧
    (a.buckets.get? "default/Running").map (·.members) = some ["web"] ∧
    (a.buckets.get? "default/Pending").map (·.members) = some ["api"] ∧
    ((∀ key b, a.buckets.get? key = some b →
      key = b.dims.namespaceName ++ "/" ++ b.dims.phase ∧
      b.members.Perm ((w.known.podsIn b.dims.namespaceName b.dims.phase).map (·.name)) ∧
      b.count = (w.known.podsIn b.dims.namespaceName b.dims.phase).length ∧ 0 < b.count) ∧
    (∀ p ∈ w.known.pods, (a.buckets.get? p.bucketKey).isSome) ∧
    (∀ x, (findKey? x a.abnormal).isSome ↔
      ∃ p ∈ w.known.pods, p.identity = x ∧ p.isAbnormal = true)) := by
  intro c events w a
  have built : PodCollector.new [] { windowSecs := 300 } "test" = .ok c := rfl
  have listed : ∀ obj ∈ [podJson "default" "web" "Running", podJson "default" "api" "Pending"],
      PodObject obj := by
    intro obj member
    simp only [List.mem_cons, List.not_mem_nil, or_false] at member
    rcases member with rfl | rfl <;> exact ⟨_, rfl, by decide⟩
  -- each event reads as a pod, the deletion in the phase known for `db`, the listing once a key
  have admitted : (PodWatch.start c).Admits events :=
    ⟨⟨_, rfl, by decide⟩, ⟨_, rfl, by decide⟩, ⟨_, rfl, by decide⟩,
      PodWatch.admissible_deleted_of_phase rfl (by decide) (by decide), ⟨listed, by decide⟩,
      trivial⟩
  exact ⟨built, admitted, by decide, by decide, buckets_count_known_pods built events admitted⟩

end StateMetrics
