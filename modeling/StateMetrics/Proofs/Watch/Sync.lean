import Mathlib
import StateMetrics.Registry

/-! # Watch targets and sync flags

A collector watches one resource type in each of its namespaces, or across the whole cluster
when it names none, and keeps one sync flag per watch: the first complete listing of a watch
sets its flag, and the collector has synced once every flag is set. The targets are numbered
separately from the flags, so the two have to agree: as built, a collector has one target per
namespace (duplicates included) or one for the cluster, the target at each position owning the
flag at that position, and no flag set (`WatchesBuilt`). Then setting the flags of some targets
syncs the collector exactly when every target's flag was set (`WatchesBuilt.hasSynced_marks`).

The custom resource collectors of a configuration form a set whose targets are numbered across
its collectors; its flags, read in that order, are set one index at a time as a single list of
flags would be (`CrdCollectorSet.flags_markSynced`), so the set syncs exactly when every one of
its targets had its flag set (`CrdCollectorSet.hasSynced_marks_of_new`).

Main statement: `watch_targets_own_sync_flags`. -/

namespace StateMetrics

/-! ## Sync flags -/

namespace SyncFlags

@[simp] theorem length_mark (s : SyncFlags) (i : Nat) :
    (s.mark i).flags.length = s.flags.length := by
  simp [mark]

/-- Setting flag `i` of flags given position by position. -/
theorem set_map_range (n i : Nat) (p : Nat → Bool) :
    ((List.range n).map p).set i true = (List.range n).map fun j => p j || decide (j = i) := by
  apply List.ext_getElem
  · simp
  · intro k bound _
    by_cases same : i = k
    · subst same
      simp
    · simp [same, Ne.symm same]

/-- Marking flags one after another from flags given position by position. -/
theorem flags_foldl_mark (n : Nat) (p : Nat → Bool) (marked : List Nat) :
    (marked.foldl mark ⟨(List.range n).map p⟩).flags =
      (List.range n).map fun j => p j || decide (j ∈ marked) := by
  induction marked generalizing p with
  | nil => simp
  | cons i rest ih =>
    rw [List.foldl_cons]
    have step : mark ⟨(List.range n).map p⟩ i =
        ⟨(List.range n).map fun j => p j || decide (j = i)⟩ := by
      simp only [mark, set_map_range]
    rw [step, ih]
    congr
    funext j
    by_cases here : j = i <;> simp [here]

/-- From flags none of which is set, a flag is set exactly when its index was marked. -/
theorem flags_marks_unset (n : Nat) (marked : List Nat) :
    (marked.foldl mark (unset n)).flags = (List.range n).map fun j => decide (j ∈ marked) := by
  have none : unset n = ⟨(List.range n).map fun _ => false⟩ := by
    simp [unset, List.map_const']
  rw [none, flags_foldl_mark]
  simp

theorem hasSynced_marks_unset (n : Nat) (marked : List Nat) :
    (marked.foldl mark (unset n)).hasSynced = true ↔ ∀ j < n, j ∈ marked := by
  simp [hasSynced, flags_marks_unset, List.all_map]

end SyncFlags

/-! ## Targets -/

namespace WatchTarget

variable (collector : String) (gvr : Gvr) (namespaces : List String) (handlers : Handlers)

/-- One target per namespace, or one for the whole cluster when there is none. -/
theorem length_forNamespaces (first : Nat) :
    (forNamespaces collector gvr namespaces handlers first).length = max namespaces.length 1 := by
  cases namespaces <;> simp [forNamespaces]

theorem map_syncIndex_forNamespaces (first : Nat) :
    (forNamespaces collector gvr namespaces handlers first).map (·.syncIndex) =
      List.range' first (max namespaces.length 1) := by
  apply List.ext_getElem
  · simp [length_forNamespaces]
  · intro k _ _
    simp [forNamespaces]

theorem map_scope_forNamespaces (first : Nat) :
    (forNamespaces collector gvr namespaces handlers first).map (·.scope) =
      if namespaces = [] then [none] else namespaces.map some := by
  apply List.ext_getElem
  · cases namespaces <;> simp [length_forNamespaces]
  · intro k _ _
    cases namespaces <;> simp [forNamespaces]

end WatchTarget

/-- Where the targets own the first `n` flags, one each, the indices below `n` are marked exactly
when every target's index is. -/
theorem marked_below_iff {targets : List WatchTarget} {n : Nat}
    (owns : targets.map (·.syncIndex) = List.range n) (marked : List Nat) :
    (∀ j < n, j ∈ marked) ↔ ∀ t ∈ targets, t.syncIndex ∈ marked := by
  have positions : ∀ j, j < n ↔ j ∈ targets.map (·.syncIndex) := by simp [owns]
  constructor
  · intro all t member
    exact all t.syncIndex ((positions _).2 (List.mem_map_of_mem member))
  · intro all j bound
    obtain ⟨t, member, rfl⟩ := List.mem_map.1 ((positions j).1 bound)
    exact all t member

/-- A collector's watch targets and sync flags as it is built: one target per namespace, or one
for the whole cluster when there is none, each owning the flag at its own position, and no flag
set. -/
structure WatchesBuilt (targets : List WatchTarget) (namespaces : List String) (sync : SyncFlags) :
    Prop where
  scopes : targets.map (·.scope) = if namespaces = [] then [none] else namespaces.map some
  owns : targets.map (·.syncIndex) = List.range (max namespaces.length 1)
  unset : sync = SyncFlags.unset (max namespaces.length 1)

namespace WatchesBuilt

variable {targets : List WatchTarget} {namespaces : List String} {sync : SyncFlags}

theorem of_forNamespaces (collector : String) (gvr : Gvr) (handlers : Handlers) :
    WatchesBuilt (WatchTarget.forNamespaces collector gvr namespaces handlers 0) namespaces
      (SyncFlags.unset (max namespaces.length 1)) where
  scopes := WatchTarget.map_scope_forNamespaces collector gvr namespaces handlers 0
  owns := by rw [WatchTarget.map_syncIndex_forNamespaces, List.range_eq_range']
  unset := rfl

theorem length (built : WatchesBuilt targets namespaces sync) :
    targets.length = max namespaces.length 1 := by
  simpa using congrArg List.length built.owns

/-- The flags set by marking some indices all are set exactly when every target's index was
marked. -/
theorem hasSynced_marks (built : WatchesBuilt targets namespaces sync) (marked : List Nat) :
    (marked.foldl SyncFlags.mark sync).hasSynced = true ↔
      ∀ t ∈ targets, t.syncIndex ∈ marked := by
  rw [built.unset, SyncFlags.hasSynced_marks_unset]
  exact marked_below_iff built.owns marked

/-- After any flags are set, a collector built with these targets and flags has synced exactly
when every target's flag was set, and is ready exactly when the gate is open as well. -/
theorem ready_marks (built : WatchesBuilt targets namespaces sync) (marked : List Nat)
    (gateOpen : Bool) :
    ((marked.foldl SyncFlags.mark sync).hasSynced = true ↔
        ∀ t ∈ targets, t.syncIndex ∈ marked) ∧
      ((gateOpen && (marked.foldl SyncFlags.mark sync).hasSynced) = true ↔
        gateOpen = true ∧ ∀ t ∈ targets, t.syncIndex ∈ marked) := by
  rw [Bool.and_eq_true, built.hasSynced_marks]
  exact ⟨Iff.rfl, Iff.rfl⟩

end WatchesBuilt

/-! ## The collectors as built -/

theorem CrdCollector.of_new {spec : CrdSpec} {stem : String} {c : CrdCollector}
    (built : CrdCollector.new spec stem = .ok c) :
    c.spec = spec ∧ c.sync = SyncFlags.unset (max spec.namespaces.length 1) := by
  unfold CrdCollector.new at built
  split at built
  · cases built
  · split at built
    · cases built
    · cases built
      exact ⟨rfl, rfl⟩

theorem CrdCollector.watchesBuilt_of_new {spec : CrdSpec} {stem : String} {c : CrdCollector}
    (built : CrdCollector.new spec stem = .ok c) :
    WatchesBuilt c.targets spec.namespaces c.sync := by
  obtain ⟨rfl, synced⟩ := CrdCollector.of_new built
  rw [synced]
  exact WatchesBuilt.of_forNamespaces _ _ _

theorem PodCollector.of_new {namespaces : List String} {a : PodAggregator} {stem : String}
    {c : PodCollector} (built : PodCollector.new namespaces a stem = .ok c) :
    c.namespaces = namespaces ∧ c.sync = SyncFlags.unset (max namespaces.length 1) := by
  unfold PodCollector.new at built
  split at built
  · cases built
  · cases built
  · cases built
    exact ⟨rfl, rfl⟩

theorem PodCollector.watchesBuilt_of_ofSettings {settings : PodSettings} {stem : String}
    {c : PodCollector} (built : PodCollector.ofSettings settings stem = .ok c) :
    WatchesBuilt c.targets settings.namespaces c.sync := by
  unfold PodCollector.ofSettings at built
  split at built
  · cases built
  · split at built
    · cases built
    · obtain ⟨same, synced⟩ := PodCollector.of_new built
      rw [synced, PodCollector.targets, same]
      exact WatchesBuilt.of_forNamespaces _ _ _

theorem EventCollector.of_new {namespaces : List String} {a : EventAggregator} {stem : String}
    {c : EventCollector} (built : EventCollector.new namespaces a stem = .ok c) :
    c.namespaces = namespaces ∧ c.sync = SyncFlags.unset (max namespaces.length 1) := by
  unfold EventCollector.new at built
  split at built
  · cases built
  · cases built
  · cases built
    exact ⟨rfl, rfl⟩

theorem EventCollector.watchesBuilt_of_ofSettings {settings : EventSettings} {stem : String}
    {c : EventCollector} (built : EventCollector.ofSettings settings stem = .ok c) :
    WatchesBuilt c.targets settings.namespaces c.sync := by
  unfold EventCollector.ofSettings at built
  split at built
  · cases built
  · obtain ⟨same, synced⟩ := EventCollector.of_new built
    rw [synced, EventCollector.targets, same]
    exact WatchesBuilt.of_forNamespaces _ _ _

/-! ## A set of custom resource collectors -/

/-- The parts of a list's elements joined in order, each made from the position where the widths
of the elements before it end. -/
def joinFrom {α β : Type} (part : Nat → α → List β) (width : Nat → α → Nat) :
    Nat → List α → List β
  | _, [] => []
  | n, a :: as => part n a ++ joinFrom part width (n + width n a) as

/-- A fold that appends each element's part and moves its position on by the element's width
joins the parts. -/
theorem foldl_eq_joinFrom {α β : Type} {step : List β × Nat → α → List β × Nat}
    (part : Nat → α → List β) (width : Nat → α → Nat)
    (steps : ∀ acc n a, step (acc, n) a = (acc ++ part n a, n + width n a))
    (as : List α) (acc : List β) (n : Nat) :
    (as.foldl step (acc, n)).1 = acc ++ joinFrom part width n as := by
  induction as generalizing acc n with
  | nil => simp [joinFrom]
  | cons a rest ih => rw [List.foldl_cons, steps, ih, joinFrom, List.append_assoc]

namespace CrdCollectorSet

/-- A collector at a position, once the sync flag with a global index is set: the flag is one
of its own when the index falls in its range. -/
def markAt (i n : Nat) (c : CrdCollector) : CrdCollector :=
  if n ≤ i ∧ i < n + c.sync.flags.length then { c with sync := c.sync.mark (i - n) } else c

/-- The sync flags of all collectors, in target order. -/
def flags (s : CrdCollectorSet) : SyncFlags := ⟨s.collectors.flatMap (·.sync.flags)⟩

theorem targets_eq (s : CrdCollectorSet) :
    s.targets =
      joinFrom (fun n c => c.targets n) (fun n c => (c.targets n).length) 0 s.collectors := by
  unfold targets
  rw [foldl_eq_joinFrom (fun n c => c.targets n) (fun n c => (c.targets n).length)]
  · rfl
  · intro acc n c
    rfl

theorem collectors_markSynced (s : CrdCollectorSet) (i : Nat) :
    (s.markSynced i).collectors =
      joinFrom (fun n c => [markAt i n c]) (fun _ c => c.sync.flags.length) 0 s.collectors := by
  unfold markSynced
  dsimp only
  rw [foldl_eq_joinFrom (fun n c => [markAt i n c]) (fun _ c => c.sync.flags.length)]
  · rfl
  · intro acc n c
    rfl

theorem targets_markAt (i n m : Nat) (c : CrdCollector) :
    (markAt i n c).targets m = c.targets m := by
  unfold markAt
  split <;> rfl

/-- Setting a flag of the collectors from position `n` on sets the flag at the index's place
among their flags, if it lies among them. -/
theorem flatMap_joinFrom_markAt (i : Nat) (cs : List CrdCollector) (n : Nat) :
    (joinFrom (fun n c => [markAt i n c]) (fun _ c => c.sync.flags.length) n cs).flatMap
        (·.sync.flags) =
      if n ≤ i then (cs.flatMap (·.sync.flags)).set (i - n) true
      else cs.flatMap (·.sync.flags) := by
  induction cs generalizing n with
  | nil => simp [joinFrom]
  | cons c rest ih =>
    rw [joinFrom, List.flatMap_append, ih, List.flatMap_cons, List.flatMap_cons]
    simp only [List.flatMap_nil, List.append_nil]
    -- the index falls before this collector, among its flags, or after them
    by_cases before : i < n
    · rw [markAt, if_neg (by omega), if_neg (by omega), if_neg (by omega)]
    · by_cases inside : i < n + c.sync.flags.length
      · rw [markAt, if_pos ⟨by omega, inside⟩, if_neg (by omega), if_pos (by omega),
          List.set_append_left _ _ (by omega)]
        rfl
      · rw [markAt, if_neg (by omega), if_pos (by omega), if_pos (by omega),
          List.set_append_right _ _ (by omega), Nat.sub_sub]

theorem flags_markSynced (s : CrdCollectorSet) (i : Nat) :
    (s.markSynced i).flags = s.flags.mark i := by
  simp [flags, collectors_markSynced, flatMap_joinFrom_markAt, SyncFlags.mark]

theorem flags_marks (s : CrdCollectorSet) (marked : List Nat) :
    (marked.foldl markSynced s).flags = marked.foldl SyncFlags.mark s.flags := by
  induction marked generalizing s with
  | nil => rfl
  | cons i rest ih => rw [List.foldl_cons, List.foldl_cons, ih, flags_markSynced]

theorem hasSynced_eq (s : CrdCollectorSet) : s.hasSynced = s.flags.hasSynced := by
  simp [hasSynced, flags, SyncFlags.hasSynced, CrdCollector.hasSynced, List.all_flatMap]

theorem joinFrom_targets_markAt (i : Nat) (cs : List CrdCollector) (n m : Nat) :
    joinFrom (fun n c => c.targets n) (fun n c => (c.targets n).length) m
        (joinFrom (fun n c => [markAt i n c]) (fun _ c => c.sync.flags.length) n cs) =
      joinFrom (fun n c => c.targets n) (fun n c => (c.targets n).length) m cs := by
  induction cs generalizing n m with
  | nil => rfl
  | cons c rest ih =>
    simp only [joinFrom, List.cons_append, List.nil_append, targets_markAt]
    rw [ih]

theorem targets_markSynced (s : CrdCollectorSet) (i : Nat) :
    (s.markSynced i).targets = s.targets := by
  rw [targets_eq, targets_eq, collectors_markSynced, joinFrom_targets_markAt]

theorem targets_marks (s : CrdCollectorSet) (marked : List Nat) :
    (marked.foldl markSynced s).targets = s.targets := by
  induction marked generalizing s with
  | nil => rfl
  | cons i rest ih => rw [List.foldl_cons, ih, targets_markSynced]

/-- Collectors whose targets own their flags number their targets across the list, the target
at each global position owning the flag at that position. -/
theorem map_syncIndex_joinFrom (cs : List CrdCollector)
    (aligned : ∀ c ∈ cs, ∀ m,
      (c.targets m).map (·.syncIndex) = List.range' m c.sync.flags.length)
    (n : Nat) :
    (joinFrom (fun n c => c.targets n) (fun n c => (c.targets n).length) n cs).map (·.syncIndex) =
      List.range' n (cs.flatMap (·.sync.flags)).length := by
  induction cs generalizing n with
  | nil => rfl
  | cons c rest ih =>
    have own := aligned c List.mem_cons_self n
    have width : (c.targets n).length = c.sync.flags.length := by
      simpa using congrArg List.length own
    rw [joinFrom, List.map_append, own, width,
      ih (fun c member => aligned c (List.mem_cons_of_mem _ member)), List.flatMap_cons,
      List.length_append, List.range'_append_1]

theorem of_mapM_new {specs : List CrdSpec} {stem : String} {cs : List CrdCollector}
    (built : specs.mapM (fun spec => CrdCollector.new spec stem) = .ok cs) :
    cs.map (·.spec) = specs ∧
      ∀ c ∈ cs, c.sync = SyncFlags.unset (max c.spec.namespaces.length 1) := by
  induction specs generalizing cs with
  | nil =>
    cases built
    simp
  | cons spec rest ih =>
    rw [List.mapM_cons] at built
    cases first : CrdCollector.new spec stem with
    | error e => simp [first, bind, Except.bind] at built
    | ok c =>
      cases later : rest.mapM (fun spec => CrdCollector.new spec stem) with
      | error e => simp [first, later, bind, Except.bind] at built
      | ok cs' =>
        simp only [first, later, bind, Except.bind, pure, Except.pure, Except.ok.injEq] at built
        subst built
        obtain ⟨named, fresh⟩ := ih later
        obtain ⟨same, unset⟩ := CrdCollector.of_new first
        refine ⟨by rw [List.map_cons, named, same], fun c' member => ?_⟩
        rcases List.mem_cons.1 member with rfl | later'
        · exact unset.trans (by rw [same])
        · exact fresh c' later'

theorem exists_mapM_of_new {specs : List CrdSpec} {stem : String} {s : CrdCollectorSet}
    (built : CrdCollectorSet.new specs stem = .ok s) :
    ∃ cs, specs.mapM (fun spec => CrdCollector.new spec stem) = .ok cs ∧ s = ⟨cs⟩ := by
  unfold CrdCollectorSet.new at built
  cases mapped : specs.mapM (fun spec => CrdCollector.new spec stem) with
  | error e => simp [mapped, Except.map] at built
  | ok cs =>
    simp only [mapped, Except.map, Except.ok.injEq] at built
    exact ⟨cs, rfl, built.symm⟩

/-- A set built from specifications numbers the targets of its collectors across the set, and
after any flags are set it has synced exactly when every one of those targets has had its flag
set. -/
theorem hasSynced_marks_of_new {specs : List CrdSpec} {stem : String} {s : CrdCollectorSet}
    (built : CrdCollectorSet.new specs stem = .ok s) (marked : List Nat) :
    s.targets.map (·.syncIndex) = List.range s.targets.length ∧
      ((marked.foldl markSynced s).hasSynced = true ↔
        ∀ t ∈ s.targets, t.syncIndex ∈ marked) := by
  obtain ⟨cs, mapped, rfl⟩ := exists_mapM_of_new built
  obtain ⟨-, fresh⟩ := of_mapM_new mapped
  have aligned : ∀ c ∈ cs, ∀ m,
      (c.targets m).map (·.syncIndex) = List.range' m c.sync.flags.length := by
    intro c member m
    rw [fresh c member, CrdCollector.targets, WatchTarget.map_syncIndex_forNamespaces]
    simp [SyncFlags.unset]
  have numbered : (⟨cs⟩ : CrdCollectorSet).targets.map (·.syncIndex) =
      List.range' 0 (cs.flatMap (·.sync.flags)).length := by
    rw [targets_eq]
    exact map_syncIndex_joinFrom cs aligned 0
  have count :
      (⟨cs⟩ : CrdCollectorSet).targets.length = (cs.flatMap (·.sync.flags)).length := by
    simpa using congrArg List.length numbered
  -- every collector starts with no flag set, so neither does the set
  have unset : (⟨cs⟩ : CrdCollectorSet).flags =
      SyncFlags.unset (⟨cs⟩ : CrdCollectorSet).targets.length := by
    rw [count, flags, SyncFlags.unset, SyncFlags.mk.injEq, List.eq_replicate_iff]
    refine ⟨rfl, fun b member => ?_⟩
    obtain ⟨c, own, mem⟩ := List.mem_flatMap.1 member
    rw [fresh c own, SyncFlags.unset] at mem
    exact List.eq_of_mem_replicate mem
  rw [← List.range_eq_range', ← count] at numbered
  refine ⟨numbered, ?_⟩
  rw [hasSynced_eq, flags_marks, unset, SyncFlags.hasSynced_marks_unset]
  exact marked_below_iff numbered marked

end CrdCollectorSet

/-- Every collector, as built, has one watch target per namespace or one for the whole cluster,
each owning its own sync flag in order, with no flag set. After any flags are set it has synced
exactly when every target's flag was set, and is ready exactly when the gate is open as well.
The custom resource collectors are one per configured specification; their set numbers the
targets of all of them in order, keeps its targets while flags are set, and has synced exactly
when each of its collectors has, that is when every target of the set had its flag set. -/
theorem watch_targets_own_sync_flags :
    (∀ spec stem c, CrdCollector.new spec stem = .ok c →
      WatchesBuilt c.targets spec.namespaces c.sync ∧
      ∀ (marked : List Nat) (gateOpen : Bool),
        let c' : CrdCollector := { c with sync := marked.foldl SyncFlags.mark c.sync }
        (c'.hasSynced = true ↔ ∀ t ∈ c'.targets, t.syncIndex ∈ marked) ∧
        (c'.isReady gateOpen = true ↔
          gateOpen = true ∧ ∀ t ∈ c'.targets, t.syncIndex ∈ marked)) ∧
    (∀ settings stem p, PodCollector.ofSettings settings stem = .ok p →
      WatchesBuilt p.targets settings.namespaces p.sync ∧
      ∀ (marked : List Nat) (gateOpen : Bool),
        let p' : PodCollector := { p with sync := marked.foldl SyncFlags.mark p.sync }
        (p'.sync.hasSynced = true ↔ ∀ t ∈ p'.targets, t.syncIndex ∈ marked) ∧
        (p'.isReady gateOpen = true ↔
          gateOpen = true ∧ ∀ t ∈ p'.targets, t.syncIndex ∈ marked)) ∧
    (∀ settings stem e, EventCollector.ofSettings settings stem = .ok e →
      WatchesBuilt e.targets settings.namespaces e.sync ∧
      ∀ (marked : List Nat) (gateOpen : Bool),
        let e' : EventCollector := { e with sync := marked.foldl SyncFlags.mark e.sync }
        (e'.sync.hasSynced = true ↔ ∀ t ∈ e'.targets, t.syncIndex ∈ marked) ∧
        (e'.isReady gateOpen = true ↔
          gateOpen = true ∧ ∀ t ∈ e'.targets, t.syncIndex ∈ marked)) ∧
    (∀ specs stem s, CrdCollectorSet.new specs stem = .ok s →
      s.collectors.map (·.spec) = specs ∧
      s.targets.map (·.syncIndex) = List.range s.targets.length ∧
      ∀ marked : List Nat,
        let s' := marked.foldl CrdCollectorSet.markSynced s
        s'.targets = s.targets ∧
        (s'.hasSynced = true ↔ ∀ c ∈ s'.collectors, c.hasSynced = true) ∧
        (s'.hasSynced = true ↔ ∀ t ∈ s.targets, t.syncIndex ∈ marked)) := by
  refine ⟨fun spec stem c built => ?_, fun settings stem p built => ?_,
    fun settings stem e built => ?_, fun specs stem s built => ?_⟩
  · have watches := CrdCollector.watchesBuilt_of_new built
    exact ⟨watches, watches.ready_marks⟩
  · have watches := PodCollector.watchesBuilt_of_ofSettings built
    exact ⟨watches, watches.ready_marks⟩
  · have watches := EventCollector.watchesBuilt_of_ofSettings built
    exact ⟨watches, watches.ready_marks⟩
  · obtain ⟨cs, mapped, rfl⟩ := CrdCollectorSet.exists_mapM_of_new built
    refine ⟨(CrdCollectorSet.of_mapM_new mapped).1,
      (CrdCollectorSet.hasSynced_marks_of_new built []).1, fun marked => ?_⟩
    refine ⟨CrdCollectorSet.targets_marks _ marked, ?_,
      (CrdCollectorSet.hasSynced_marks_of_new built marked).2⟩
    simp [CrdCollectorSet.hasSynced]

/-- Two custom resources, one watched in namespaces `a` and `b` and one across the cluster: their
set numbers three targets in order, has not synced with the first and the last flag set, and has
synced once the middle one is set too. -/
theorem crd_set_syncs_all_targets :
    let app : CrdSpec := { name := "app", gvr := { resource := "apps" }, namespaces := ["a", "b"] }
    let db : CrdSpec := { name := "db", gvr := { resource := "dbs" } }
    let s : CrdCollectorSet := ⟨[{ spec := app, descriptors := [], sync := SyncFlags.unset 2 },
      { spec := db, descriptors := [], sync := SyncFlags.unset 1 }]⟩
    CrdCollectorSet.new [app, db] "t" = .ok s ∧ s.targets.map (·.syncIndex) = [0, 1, 2] ∧
      ([0, 2].foldl CrdCollectorSet.markSynced s).hasSynced = false ∧
      ([0, 2, 1].foldl CrdCollectorSet.markSynced s).hasSynced = true := by
  intro app db s
  have built : CrdCollectorSet.new [app, db] "t" = .ok s := rfl
  have numbered := (watch_targets_own_sync_flags.2.2.2 [app, db] "t" s built).2
  have three : s.targets.length = 3 := by decide
  refine ⟨built, by rw [numbered.1, three]; rfl, ?_, ?_⟩
  · -- the middle target's flag is not set
    rw [Bool.eq_false_iff, ne_eq, ((numbered.2 [0, 2]).2.2)]
    decide
  · rw [((numbered.2 [0, 2, 1]).2.2)]
    decide

end StateMetrics
