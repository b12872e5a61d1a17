import Mathlib
import StateMetrics.Startup
import StateMetrics.Proofs.Registry.Build
import StateMetrics.Proofs.Crd.Descriptors
import StateMetrics.Proofs.Crd.Labels
import StateMetrics.Proofs.Watch.Sync
import StateMetrics.Proofs.Kube.Ordered

/-! # Names of the described metric families

A run registers the descriptions of every built collector in the default registry, which holds
the exporter's own metrics already, and the registry identifies a description by the hash of its
name, so registering succeeds only if no two described families share a name and none has the
name of one of the exporter's own metrics (`nodup_names_of_registerCollectors`).

A built collector describes the names its specification gives (`Collector.familyNames`): full
names `<stem>_<resource>_<metric>` made safe character by character (`fullName_eq_append`).
Within one metrics collector they are distinct, since a custom resource's descriptors refuse a
full name an earlier metric of it has and the pod and the event collector each describe two
families; and the four pod and event families have four names. Nothing compares the full names
of different custom resources, or of a custom resource and the pod or event families. Under one
stem two full names agree exactly when the safe `<resource>_<metric>` texts do
(`fullName_eq_fullName_iff`), and the safe forms of different texts meet: `a-b` with `c` and
`a` with `b_c` both give `<stem>_a_b_c`, so such a configuration builds and then fails to
register.

Main statement: `built_family_names_distinct_within_collectors`. -/

namespace StateMetrics

open StateMetrics.Metric

/-! ## Full names -/

namespace Metric

@[simp] theorem toList_sanitize (s : String) : (sanitize s).toList = s.toList.map sanitizeChar :=
  String.toList_ofList

theorem sanitize_append (a b : String) : sanitize (a ++ b) = sanitize a ++ sanitize b := by
  rw [← String.toList_inj]
  simp

/-- The full name of a metric of a named resource: the safe stem and an underscore, when there
is a stem, then the safe `<resource>_<metric>`. -/
theorem fullName_eq_append (stem : String) {resource metric : String} (named : resource ≠ "")
    (measured : metric ≠ "") :
    fullName stem resource metric =
      (if stem = "" then "" else sanitize stem ++ "_") ++ sanitize (resource ++ "_" ++ metric) := by
  have underscore : sanitize "_" = "_" := by decide
  unfold fullName
  by_cases bare : stem = ""
  · simp [bare, named, measured, String.intercalate_cons_cons]
  · simp [bare, named, measured, String.intercalate_cons_cons, sanitize_append, underscore,
      String.append_assoc]

/-- Under one stem, two full names agree exactly when the safe forms of `<resource>_<metric>`
do. -/
theorem fullName_eq_fullName_iff (stem : String) {r m r' m' : String} (hr : r ≠ "")
    (hm : m ≠ "") (hr' : r' ≠ "") (hm' : m' ≠ "") :
    fullName stem r m = fullName stem r' m' ↔
      sanitize (r ++ "_" ++ m) = sanitize (r' ++ "_" ++ m') := by
  rw [fullName_eq_append stem hr hm, fullName_eq_append stem hr' hm']
  exact String.append_right_inj _

theorem Desc.name_of_make {name help : String} {labels : List String} {d : Desc}
    (made : Desc.make name help labels = .ok d) : d.name = name := by
  unfold Desc.make at made
  split_ifs at made
  cases checked : checkLabels [] labels <;> simp [checked, Except.map] at made
  rw [← made]

end Metric

/-! ## What each collector describes -/

/-- The names of the families a collector describes, as its specification gives them: every
metric of every custom resource, and the two families of the pod and of the event collector. -/
def Collector.familyNames (stem : String) : Collector → List String
  | .crd s => s.collectors.flatMap fun c => c.spec.metrics.map (fullName stem c.spec.name ·.name)
  | .pod _ =>
    [fullName stem "pod" "aggregated_count", fullName stem "pod" "abnormal_duration_seconds"]
  | .event _ => [fullName stem "event" "aggregated_count", fullName stem "event" "unique_objects"]

/-- A collector as the built-in factory of its kind builds it from the settings. -/
def Collector.BuiltFrom (settings : CollectorSettings) (stem : String) : Collector → Prop
  | .crd s => CrdCollectorSet.new settings.crd.crds stem = .ok s
  | .pod p => PodCollector.ofSettings settings.pod stem = .ok p
  | .event e => EventCollector.ofSettings settings.event stem = .ok e

/-- The names of all the families the collectors describe, collector after collector. -/
def describedNames (cs : List Collector) : List String :=
  (cs.flatMap fun c => c.descGroups.flatten).map (·.name)

/-- A pod and an event collector describe four different names, whatever the stem. -/
theorem aggregate_family_names_nodup (stem : String) (p : PodCollector) (e : EventCollector) :
    (Collector.familyNames stem (.pod p) ++ Collector.familyNames stem (.event e)).Nodup := by
  have safe : [sanitize "pod_aggregated_count", sanitize "pod_abnormal_duration_seconds",
      sanitize "event_aggregated_count", sanitize "event_unique_objects"].Nodup := by decide
  have prefixed := safe.map (f := ((if stem = "" then "" else sanitize stem ++ "_") ++ ·))
    fun a b same => (String.append_right_inj _).1 same
  simpa [Collector.familyNames, fullName_eq_append] using prefixed

/-- The pod and the event collector each describe two names. -/
theorem Collector.familyNames_nodup (stem : String) {c : Collector} (kind : c.name ≠ "crd") :
    (c.familyNames stem).Nodup := by
  cases c with
  | crd => exact absurd rfl kind
  | pod p => exact (List.nodup_append.1 (aggregate_family_names_nodup stem p default)).1
  | event e => exact (List.nodup_append.1 (aggregate_family_names_nodup stem default e)).2.1

/-- Collectors of different kinds, neither the custom resource one, describe no common name. -/
theorem Collector.familyNames_disjoint (stem : String) {a b : Collector} (ha : a.name ≠ "crd")
    (hb : b.name ≠ "crd") (differ : a.name ≠ b.name) :
    (a.familyNames stem).Disjoint (b.familyNames stem) := by
  cases a with
  | crd => exact absurd rfl ha
  | pod p =>
    cases b with
    | crd => exact absurd rfl hb
    | pod q => exact absurd rfl differ
    | event e => exact List.disjoint_of_nodup_append (aggregate_family_names_nodup stem p e)
  | event e =>
    cases b with
    | crd => exact absurd rfl hb
    | pod p => exact (List.disjoint_of_nodup_append (aggregate_family_names_nodup stem p e)).symm
    | event e' => exact absurd rfl differ

/-- The descriptors planned for metrics are named by their full names. -/
theorem Descriptor.names_of_plans {crd : CrdSpec} {stem : String} {ms : List MetricSpec}
    {ds : List Descriptor} (plans : List.Forall₂ (Descriptor.Plans crd stem) ms ds) :
    ds.map (·.name) = ms.map (fullName stem crd.name ·.name) := by
  induction plans with
  | nil => rfl
  | cons plan _ ih =>
    obtain ⟨kind, -, rfl⟩ := plan
    simp [ih, Descriptor.planned]

/-- The descriptors of a specification are named by the full names of its metrics, in
order. -/
theorem CrdSpec.names_of_descriptors {crd : CrdSpec} {stem : String} {ds : List Descriptor}
    (built : crd.descriptors stem = .ok ds) :
    ds.map (·.name) = crd.metrics.map (fullName stem crd.name ·.name) := by
  have nothingTaken : ∀ x, x ∈ ([] : List String) ↔
      x ∈ ([] : List MetricSpec).map (fullName stem crd.name ·.name) := by simp
  exact Descriptor.names_of_plans
    ((Descriptor.buildAll_eq_ok_iff crd.metrics nothingTaken ds).1 built).2

theorem CrdCollector.names_of_new {spec : CrdSpec} {stem : String} {c : CrdCollector}
    (built : CrdCollector.new spec stem = .ok c) :
    c.descs.map (·.name) = c.spec.metrics.map (fullName stem c.spec.name ·.name) ∧
      (c.descs.map (·.name)).Nodup := by
  obtain ⟨rfl, found⟩ := CrdCollector.descriptors_of_new built
  have described : c.descs.map (·.name) = c.descriptors.map (·.name) := by
    simp [CrdCollector.descs, Descriptor.desc]
  rw [described]
  exact ⟨CrdSpec.names_of_descriptors found, (Descriptor.buildAll_ok found).2.1⟩

theorem PodCollector.names_of_ofSettings {settings : PodSettings} {stem : String}
    {p : PodCollector} (built : PodCollector.ofSettings settings stem = .ok p) :
    [p.countDesc.name, p.abnormalDesc.name] = Collector.familyNames stem (.pod p) := by
  unfold PodCollector.ofSettings PodCollector.new at built
  split_ifs at built
  split at built
  · cases built
  · cases built
  · rename_i madeCount madeAbnormal
    cases built
    simp [Collector.familyNames, Desc.name_of_make madeCount, Desc.name_of_make madeAbnormal]

theorem EventCollector.names_of_ofSettings {settings : EventSettings} {stem : String}
    {e : EventCollector} (built : EventCollector.ofSettings settings stem = .ok e) :
    [e.countDesc.name, e.uniqueDesc.name] = Collector.familyNames stem (.event e) := by
  unfold EventCollector.ofSettings EventCollector.new at built
  split_ifs at built
  split at built
  · cases built
  · cases built
  · rename_i madeCount madeUnique
    cases built
    simp [Collector.familyNames, Desc.name_of_make madeCount, Desc.name_of_make madeUnique]

/-- A collector set describes, collector by collector, the full names of its metrics; a
collector without metrics contributes no metrics collector and no name. -/
theorem CrdCollectorSet.names_of_new {specs : List CrdSpec} {stem : String}
    {s : CrdCollectorSet} (built : CrdCollectorSet.new specs stem = .ok s) :
    (s.metricCollectors.map (·.descs)).flatten.map (·.name) =
      Collector.familyNames stem (.crd s) := by
  obtain ⟨cs, mapped, rfl⟩ := CrdCollectorSet.exists_mapM_of_new built
  have named := forall_mem_of_mapM_eq_ok
    (fun c => c.descs.map (·.name) = c.spec.metrics.map (fullName stem c.spec.name ·.name))
    (fun _ _ c made => (CrdCollector.names_of_new made).1) mapped
  clear mapped built
  unfold CrdCollectorSet.metricCollectors Collector.familyNames
  dsimp only
  induction cs with
  | nil => rfl
  | cons c rest ih =>
    have first := named c List.mem_cons_self
    have later := ih fun c member => named c (List.mem_cons_of_mem _ member)
    by_cases bare : c.descriptors.isEmpty
    · -- a collector without descriptors has no metrics, so no names
      have none : c.spec.metrics.map (fullName stem c.spec.name ·.name) = [] := by
        simp only [List.isEmpty_iff] at bare
        simp [← first, CrdCollector.descs, bare]
      simp [bare, later, none]
    · simp [bare, later, ← first]

/-- Each kind of collector, as its factory builds it, describes the names its specification
gives. -/
theorem Collector.names_of_builtFrom {settings : CollectorSettings} {stem : String}
    {c : Collector} (built : c.BuiltFrom settings stem) :
    c.descGroups.flatten.map (·.name) = c.familyNames stem := by
  cases c with
  | crd s => exact CrdCollectorSet.names_of_new built
  | pod p => simpa [descGroups] using PodCollector.names_of_ofSettings built
  | event e => simpa [descGroups] using EventCollector.names_of_ofSettings built

/-- Within each metrics collector a built collector describes, the names are distinct. -/
theorem Collector.groups_nodup_of_builtFrom {settings : CollectorSettings} {stem : String}
    {c : Collector} (built : c.BuiltFrom settings stem) :
    ∀ g ∈ c.descGroups, (g.map (·.name)).Nodup := by
  intro g member
  cases c with
  | crd s =>
    obtain ⟨cs, mapped, rfl⟩ := CrdCollectorSet.exists_mapM_of_new built
    simp only [descGroups, CrdCollectorSet.metricCollectors, List.mem_map,
      List.mem_filter] at member
    obtain ⟨c, ⟨inSet, -⟩, rfl⟩ := member
    exact forall_mem_of_mapM_eq_ok (fun c => (c.descs.map (·.name)).Nodup)
      (fun _ _ c made => (CrdCollector.names_of_new made).2) mapped c inSet
  | pod p =>
    simp only [descGroups, List.mem_singleton] at member
    subst member
    rw [List.map_cons, List.map_cons, List.map_nil, PodCollector.names_of_ofSettings built]
    exact Collector.familyNames_nodup stem (by simp [Collector.name])
  | event e =>
    simp only [descGroups, List.mem_singleton] at member
    subst member
    rw [List.map_cons, List.map_cons, List.map_nil, EventCollector.names_of_ofSettings built]
    exact Collector.familyNames_nodup stem (by simp [Collector.name])

/-! ## The collectors a build yields -/

theorem Collector.builtFrom_of_build {f : Factory} {settings : CollectorSettings}
    {stem : String} {c : Collector} (built : Collector.build f settings stem = .ok c) :
    c.BuiltFrom settings stem := by
  cases f with
  | crd =>
    obtain ⟨s, made, rfl⟩ := exists_of_map_eq_ok built
    exact made
  | pod =>
    obtain ⟨p, made, rfl⟩ := exists_of_map_eq_ok built
    exact made
  | event =>
    obtain ⟨e, made, rfl⟩ := exists_of_map_eq_ok built
    exact made
  | disabled reason => cases built

namespace CollectorRegistry

variable {enabled : List String} {settings : CollectorSettings} {stem : String}
  {cs : List Collector}

/-- Every collector of a successful build is built by the factory of its kind. -/
theorem builtFrom_of_build (r : CollectorRegistry)
    (built : r.build enabled settings stem = .ok cs) : ∀ c ∈ cs, c.BuiltFrom settings stem := by
  rw [build_eq_mapM] at built
  obtain ⟨os, mapped, rfl⟩ := exists_of_map_eq_ok built
  have each := forall_mem_of_mapM_eq_ok (fun o => ∀ c, o = some c → c.BuiltFrom settings stem)
    (fun _ _ o visit c found => ?_) mapped
  · intro c member
    exact each (some c) (List.reduceOption_mem_iff.1 member) c rfl
  · subst found
    obtain ⟨f, -, made⟩ := (outcome_eq_some_iff r settings stem).1 visit
    exact Collector.builtFrom_of_build made

/-- The built-in registry builds at most one collector of each name. -/
theorem builtin_names_nodup (built : builtin.build enabled settings stem = .ok cs) :
    (cs.map Collector.name).Nodup := by
  rw [builtin_names_of_build built]
  exact (nodup_eraseDups enabled).filter _

/-- A successful build describes, collector after collector, the names the specifications
give. -/
theorem describedNames_of_build (built : builtin.build enabled settings stem = .ok cs) :
    describedNames cs = cs.flatMap (·.familyNames stem) := by
  have each := builtFrom_of_build builtin built
  rw [describedNames, List.map_flatMap]
  exact List.flatMap_congr fun c member => Collector.names_of_builtFrom (each c member)

/-- Leaving out the custom resource collector, a successful build describes every name once. -/
theorem aggregate_names_nodup_of_build (built : builtin.build enabled settings stem = .ok cs) :
    (describedNames (cs.filter fun c => c.name != "crd")).Nodup := by
  have each := builtFrom_of_build builtin built
  have kept : ∀ c ∈ cs.filter (fun c => c.name != "crd"), c ∈ cs ∧ c.name ≠ "crd" := by
    intro c member
    simpa using List.mem_filter.1 member
  have named : (cs.filter fun c => c.name != "crd").Pairwise fun a b => a.name ≠ b.name :=
    List.pairwise_map.1 ((builtin_names_nodup built).sublist ((List.filter_sublist).map _))
  rw [describedNames, List.map_flatMap, List.flatMap_congr fun c member =>
    Collector.names_of_builtFrom (each c (kept c member).1), List.nodup_flatMap]
  exact ⟨fun c member => Collector.familyNames_nodup stem (kept c member).2,
    named.imp_of_mem fun aKept bKept differ =>
      Collector.familyNames_disjoint stem (kept _ aKept).2 (kept _ bKept).2 differ⟩

end CollectorRegistry

/-! ## Registering -/

namespace Metric.MetricsRegistry

/-- Checking descriptions keeps the registered identities and gives those checked, after the
ones `seen`: each not registered before and none twice. -/
theorem checkDescs_ok {descs : List Desc} {r r' : MetricsRegistry} {seen ids : List Nat}
    (checked : r.checkDescs seen descs = (r', .ok ids)) :
    r'.descIds = r.descIds ∧ ids = seen ++ descs.map Desc.id ∧
      (∀ d ∈ descs, d.id ∉ r.descIds) ∧ (seen.Nodup → ids.Nodup) := by
  induction descs generalizing r seen with
  | nil =>
    simp only [checkDescs, Prod.mk.injEq, Except.ok.injEq] at checked
    obtain ⟨rfl, rfl⟩ := checked
    simp
  | cons d rest ih =>
    rw [checkDescs] at checked
    dsimp only at checked
    split_ifs at checked with registered clash repeated
    -- a refused description ends the check with an error
    · simp at checked
    · simp at checked
    · simp at checked
    obtain ⟨same, listed, fresh, distinct⟩ := ih checked
    refine ⟨same, by simp [listed], fun d' member => ?_, fun seenDistinct => distinct ?_⟩
    · rcases List.mem_cons.1 member with rfl | later
      · simpa using registered
      · exact fresh d' later
    · have unseen : d.id ∉ seen := by simpa using repeated
      simpa using seenDistinct.concat unseen

/-- A registered collector adds the identities of its descriptions to those registered, each
new and none twice. -/
theorem register_ok {r r' : MetricsRegistry} {descs : List Desc}
    (registered : r.register descs = (r', .ok ())) :
    r'.descIds = r.descIds ++ descs.map Desc.id ∧
      (r.descIds.Nodup → r'.descIds.Nodup) := by
  unfold register at registered
  cases checked : r.checkDescs [] descs with
  | mk r₁ result =>
    rw [checked] at registered
    cases result with
    | error e => simp at registered
    | ok ids =>
      dsimp only at registered
      split_ifs at registered
      · simp at registered
      · obtain ⟨same, listed, fresh, distinct⟩ := checkDescs_ok checked
        simp only [Prod.mk.injEq] at registered
        rw [← registered.1]
        refine ⟨by simp [same, listed], fun before => ?_⟩
        rw [same, listed, List.nil_append]
        refine List.nodup_append.2 ⟨before, by simpa [listed] using distinct List.nodup_nil, ?_⟩
        intro a old b new
        rintro rfl
        obtain ⟨d, member, rfl⟩ := List.mem_map.1 new
        exact fresh d member old

/-- The registered identities are those of the descriptions `done`, each once. -/
def Holds (r : MetricsRegistry) (done : List Desc) : Prop :=
  r.descIds = done.map Desc.id ∧ (done.map Desc.id).Nodup

theorem Holds.register {r r' : MetricsRegistry} {done descs : List Desc} (holds : r.Holds done)
    (registered : r.register descs = (r', .ok ())) : r'.Holds (done ++ descs) := by
  obtain ⟨added, distinct⟩ := register_ok registered
  have listed : r'.descIds = (done ++ descs).map Desc.id := by rw [added, holds.1, List.map_append]
  exact ⟨listed, listed ▸ distinct (holds.1 ▸ holds.2)⟩

end Metric.MetricsRegistry

/-- A fold that keeps its first error, run without one, carries every invariant that each step
without an error keeps. -/
theorem foldl_keeps_invariant {α σ ε : Type} {step : σ × Option ε → α → σ × Option ε}
    (P : σ → List α → Prop) (keep : ∀ s e a, step (s, some e) a = (s, some e))
    (preserves : ∀ s done a, P s done → (step (s, none) a).2 = none →
      P (step (s, none) a).1 (done ++ [a]))
    (as : List α) (s : σ) (done : List α) (start : P s done)
    (clean : (as.foldl step (s, none)).2 = none) : P (as.foldl step (s, none)).1 (done ++ as) := by
  induction as generalizing s done with
  | nil => simpa using start
  | cons a rest ih =>
    rw [List.foldl_cons] at clean ⊢
    cases stepped : step (s, none) a with
    | mk s' e =>
      rw [stepped] at clean
      cases e with
      | some e =>
        -- an error, once met, is kept to the end
        rw [List.foldl_fixed' (keep s' e)] at clean
        cases clean
      | none =>
        have next := preserves s done a start (by rw [stepped])
        rw [stepped] at next
        simpa using ih s' (done ++ [a]) next clean

/-- The default registry holds the exporter's own metrics, one identity each. -/
theorem holds_defaultRegistry : defaultRegistry.Holds selfMetricDescs := by
  unfold MetricsRegistry.Holds
  decide +kernel

/-- When every collector registers, the names of all their descriptions are distinct, and none
is the name of one of the exporter's own metrics: a name described twice, or described and
already in the default registry, is a description registered twice. -/
theorem nodup_names_of_registerCollectors {cs : List Collector}
    (registered : registerCollectors cs = none) :
    (selfMetricDescs.map (·.name) ++ describedNames cs).Nodup := by
  unfold registerCollectors at registered
  dsimp only at registered
  -- the outer fold registers collector after collector, the inner one group after group
  have run := foldl_keeps_invariant
    (fun (r : Metric.MetricsRegistry) (done : List Collector) =>
      r.Holds (selfMetricDescs ++ done.flatMap fun c => c.descGroups.flatten))
    ?keep ?preserves cs defaultRegistry [] ?start registered
  · have byName : ∀ descs : List Metric.Desc, descs.map Metric.Desc.id =
        (descs.map (·.name)).map fun n => Metric.fnvTexts Metric.fnvOffset [n] := by
      simp [Function.comp_def, Metric.Desc.id]
    have distinct := run.2
    rw [List.nil_append, byName] at distinct
    simpa [describedNames] using distinct.of_map _
  case keep =>
    intro s e c
    rfl
  case start => simpa using holds_defaultRegistry
  case preserves =>
    intro s done c holds clean
    dsimp only at clean ⊢
    have inner := foldl_keeps_invariant
      (fun (r : Metric.MetricsRegistry) (groups : List (List Metric.Desc)) =>
        r.Holds ((selfMetricDescs ++ done.flatMap fun c => c.descGroups.flatten) ++
          groups.flatten))
      ?keepGroup ?preservesGroup c.descGroups s [] (by simpa using holds) clean
    · simpa using inner
    case keepGroup =>
      intro r e g
      rfl
    case preservesGroup =>
      intro r groups g held cleanGroup
      dsimp only at cleanGroup ⊢
      cases registered : r.register g with
      | mk r' result =>
        rw [registered] at cleanGroup
        cases result with
        | error err => cases cleanGroup
        | ok u =>
          simpa using held.register registered

/-! ## The names a build describes -/

open CollectorRegistry in
/-- Every successful build describes the names its specifications give; within one metrics
collector they are distinct, and so they are across the pod and event collectors. Registering
them all succeeds only if they are all distinct. -/
theorem built_family_names_distinct_within_collectors (enabled : List String)
    (settings : CollectorSettings) (stem : String) (cs : List Collector)
    (built : builtin.build enabled settings stem = .ok cs) :
    describedNames cs = cs.flatMap (·.familyNames stem) ∧
    (∀ c ∈ cs, ∀ g ∈ c.descGroups, (g.map (·.name)).Nodup) ∧
    (describedNames (cs.filter fun c => c.name != "crd")).Nodup ∧
    (registerCollectors cs = none → (describedNames cs).Nodup) :=
  ⟨describedNames_of_build built,
    fun c member => Collector.groups_nodup_of_builtFrom (builtFrom_of_build builtin built c member),
    aggregate_names_nodup_of_build built,
    fun registered => (nodup_names_of_registerCollectors registered).of_append_right⟩

open CollectorRegistry in
/-- Two custom resources with three metrics between them, beside the pod and the event
collector: the build succeeds, describes the seven names the specifications give, and
registering them all succeeds. -/
theorem two_resource_build_names_apart :
    let settings : CollectorSettings := { crd := { crds := [
      { name := "app", gvr := ⟨"g", "v1", "apps", "App"⟩,
        metrics := [{ kind := "gauge", name := "replicas", path := "spec.replicas" },
                    { kind := "gauge", name := "ready", path := "status.ready" }] },
      { name := "db", gvr := ⟨"g", "v1", "dbs", "Db"⟩,
        metrics := [{ kind := "gauge", name := "size", path := "spec.size" }] }] } }
    ∃ cs, builtin.build ["crd", "pod", "event"] settings "kube" = .ok cs ∧
      describedNames cs = ["kube_app_replicas", "kube_app_ready", "kube_db_size",
        "kube_pod_aggregated_count", "kube_pod_abnormal_duration_seconds",
        "kube_event_aggregated_count", "kube_event_unique_objects"] ∧
      registerCollectors cs = none ∧
      describedNames cs = cs.flatMap (·.familyNames "kube") ∧
      (∀ c ∈ cs, ∀ g ∈ c.descGroups, (g.map (·.name)).Nodup) ∧
      (describedNames (cs.filter fun c => c.name != "crd")).Nodup ∧
      (registerCollectors cs = none → (describedNames cs).Nodup) := by
  intro settings
  -- registering hashes every name into the default registry, too deep for plain `decide`
  have outcome : (builtin.build ["crd", "pod", "event"] settings "kube").toOption.map
      (fun cs => (describedNames cs, (registerCollectors cs).isNone)) =
      some (["kube_app_replicas", "kube_app_ready", "kube_db_size",
        "kube_pod_aggregated_count", "kube_pod_abnormal_duration_seconds",
        "kube_event_aggregated_count", "kube_event_unique_objects"], true) := by
    decide +kernel
  cases built : builtin.build ["crd", "pod", "event"] settings "kube" with
  | error e =>
    rw [built] at outcome
    cases outcome
  | ok cs =>
    rw [built] at outcome
    obtain ⟨described, registered⟩ := Prod.mk.inj (Option.some.inj outcome)
    exact ⟨cs, rfl, described, Option.isNone_iff_eq_none.1 registered,
      built_family_names_distinct_within_collectors _ _ _ cs built⟩

open CollectorRegistry in
/-- Two custom resources whose safe `<resource>_<metric>` texts meet: the build succeeds,
describes one name twice, and registering its collectors fails. -/
theorem resource_full_names_meet :
    let settings : CollectorSettings := { crd := { crds := [
      { name := "a-b", gvr := ⟨"g", "v1", "things", "Thing"⟩,
        metrics := [{ kind := "gauge", name := "c", path := "v" }] },
      { name := "a", gvr := ⟨"g", "v1", "others", "Other"⟩,
        metrics := [{ kind := "gauge", name := "b_c", path := "v" }] }] } }
    ∃ cs, builtin.build ["crd"] settings "t" = .ok cs ∧
      describedNames cs = ["t_a_b_c", "t_a_b_c"] ∧ registerCollectors cs ≠ none := by
  intro settings
  have names : (builtin.build ["crd"] settings "t").toOption.map describedNames =
      some ["t_a_b_c", "t_a_b_c"] := by
    decide
  cases built : builtin.build ["crd"] settings "t" with
  | error e =>
    rw [built] at names
    cases names
  | ok cs =>
    rw [built] at names
    have described : describedNames cs = ["t_a_b_c", "t_a_b_c"] := Option.some.inj names
    refine ⟨cs, rfl, described, fun registered => ?_⟩
    have distinct := (nodup_names_of_registerCollectors registered).of_append_right
    rw [described] at distinct
    exact absurd distinct (by decide)

end StateMetrics
