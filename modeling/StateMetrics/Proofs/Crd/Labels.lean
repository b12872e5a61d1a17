import Mathlib
import StateMetrics.Proofs.Crd.Gather

/-! # Labels of custom resource metrics

Every family a custom resource collector collects belongs to one of its descriptors, which
have distinct names, and has a metric at least. Each metric carries the descriptor's label
names in order, one pair for each, and each pair carries what its label stands for
(`PointPairs`): a common label the string at its path in the resource that gave the metric, an
info metric's own label the string at its own path, a map metric's key label the key of the
entry, `state` the state string, the condition labels the condition's fields, and a count
metric's label a non-empty value that some cached resource holds.

Label names are laid out once, when descriptors are built, and label values separately, when
samples are read; the two agree kind by kind (`pointPairs_of_mem_points`), and the names of the
pairs follow from what they carry (`PointPairs.names`). This holds whatever the cache holds
and however the sync flags stand.

Main statement: `collected_labels_follow_descriptors`. -/

namespace StateMetrics

open StateMetrics.Metric

namespace Descriptor

/-- The common label pairs of a resource: each common label with the string at its path. -/
def commonPairs (crd : CrdSpec) (obj : Json) : List (String × String) :=
  crd.commonLabels.map fun e => (e.1, Json.extractString obj e.2)

/-- The label pairs a metric of a kind may carry over cached resources. A count metric carries
its value label with a non-empty value some resource holds at the path; every other metric
carries the common pairs of the resource that gave it, then: for info, each own label with the
string at its path; for map_state, the key label with the key of an object entry of the map at
the path, and `state` with the entry's non-empty string at the value path; for map_gauge, the
key label with the key of an object entry; for conditions, `type`, `status` and `reason` with
the fields of an object in the array at the path whose type is not empty. -/
def PointPairs (crd : CrdSpec) (kind : MetricKind) (m : MetricSpec) (objs : List Json)
    (pairs : List (String × String)) : Prop :=
  match kind with
  | .count => ∃ o ∈ objs, Json.extractString o m.path ≠ "" ∧
      pairs = [(labelOr m.valueLabel "value", Json.extractString o m.path)]
  | .info => ∃ o ∈ objs,
      pairs = commonPairs crd o ++ m.labels.map fun e => (e.1, Json.extractString o e.2)
  | .gauge => ∃ o ∈ objs, pairs = commonPairs crd o
  | .mapState => ∃ o ∈ objs, ∃ key entry, (key, entry) ∈ (Json.extractMap o m.path).getD [] ∧
      entry.isObject = true ∧ Json.extractString entry m.valuePath ≠ "" ∧
      pairs = commonPairs crd o ++
        [(labelOr m.keyLabel "key", key), ("state", Json.extractString entry m.valuePath)]
  | .mapGauge => ∃ o ∈ objs, ∃ key entry, (key, entry) ∈ (Json.extractMap o m.path).getD [] ∧
      entry.isObject = true ∧ pairs = commonPairs crd o ++ [(labelOr m.keyLabel "key", key)]
  | .conditions => ∃ o ∈ objs, ∃ entry ∈ Json.extractSlice o m.path, entry.isObject = true ∧
      memberString entry m.conditionNames.typeField ≠ "" ∧
      pairs = commonPairs crd o ++
        [("type", memberString entry m.conditionNames.typeField),
         ("status", memberString entry m.conditionNames.statusField),
         ("reason", memberString entry m.conditionNames.reasonField)]

/-- The pairs a metric carries are named by the label names of its kind, in order. -/
theorem PointPairs.names {crd : CrdSpec} {kind : MetricKind} {m : MetricSpec} {objs : List Json}
    {pairs : List (String × String)} (carried : PointPairs crd kind m objs pairs) :
    pairs.map (·.1) = labelNamesFor kind (crd.commonLabels.map (·.1)) m := by
  cases kind <;> simp only [PointPairs] at carried
  all_goals
    obtain ⟨o, -, carried⟩ := carried
  case count =>
    obtain ⟨-, rfl⟩ := carried
    rfl
  case info =>
    subst carried
    simp [labelNamesFor, commonPairs, Function.comp_def]
  case gauge =>
    subst carried
    simp [labelNamesFor, commonPairs]
  case mapState =>
    obtain ⟨key, entry, -, -, -, rfl⟩ := carried
    simp [labelNamesFor, commonPairs]
  case mapGauge =>
    obtain ⟨key, entry, -, -, rfl⟩ := carried
    simp [labelNamesFor, commonPairs]
  case conditions =>
    obtain ⟨entry, -, -, -, rfl⟩ := carried
    simp [labelNamesFor, commonPairs]

/-! ## Descriptors -/

theorem build_ok {crd : CrdSpec} {stem : String} {m : MetricSpec} {d : Descriptor}
    (built : build crd stem m = .ok d) :
    d.labelNames = labelNamesFor d.kind (crd.commonLabels.map (·.1)) d.spec := by
  unfold build at built
  split at built
  · cases built
  · -- the help text and the description's check decide nothing about the labels
    split at built <;> dsimp only at built <;> split at built <;> cases built <;> rfl

/-- Built descriptors lay their label names out by kind, and their names differ from each
other and from the names already taken. -/
theorem buildAll_ok {crd : CrdSpec} {stem : String} {taken : List String} {ms : List MetricSpec}
    {ds : List Descriptor} (built : buildAll crd stem taken ms = .ok ds) :
    (∀ d ∈ ds, d.labelNames = labelNamesFor d.kind (crd.commonLabels.map (·.1)) d.spec) ∧
      (ds.map (·.name)).Nodup ∧ ∀ d ∈ ds, d.name ∉ taken := by
  induction ms generalizing taken ds with
  | nil =>
    cases built
    simp
  | cons m rest ih =>
    unfold buildAll at built
    split at built
    · cases built
    · rename_i d first
      split_ifs at built with duplicate
      cases later : buildAll crd stem (d.name :: taken) rest with
      | error e => simp [later, Except.map] at built
      | ok ds' =>
        simp only [later, Except.map, Except.ok.injEq] at built
        subst built
        obtain ⟨labels, distinct, fresh⟩ := ih later
        have notTaken : d.name ∉ taken := by simpa using duplicate
        refine ⟨?_, ?_, ?_⟩
        · simpa [build_ok first] using labels
        · refine List.nodup_cons.2 ⟨fun member => ?_, distinct⟩
          obtain ⟨d', member', same⟩ := List.mem_map.1 member
          exact fresh d' member' (by simp [same])
        · simp only [List.mem_cons, forall_eq_or_imp]
          exact ⟨notTaken, fun d' member' => fun old => fresh d' member' (List.mem_cons_of_mem _ old)⟩

/-! ## Samples -/

theorem mem_mapStateSamples {valuePath : String} {common : List String}
    {entries : List (String × Json)} {s : Sample} (member : s ∈ mapStateSamples valuePath common entries) :
    ∃ key entry, (key, entry) ∈ entries ∧ entry.isObject = true ∧
      Json.extractString entry valuePath ≠ "" ∧
      s.labels = common ++ [key, Json.extractString entry valuePath] := by
  fun_induction mapStateSamples valuePath common entries with
  | case1 => cases member
  | case2 key entry rest state kept ih =>
    rcases List.mem_cons.1 member with rfl | later
    · simp only [Bool.not_eq_true', String.isEmpty_eq_false_iff] at kept
      exact ⟨key, entry, List.mem_cons_self, kept.1, kept.2, rfl⟩
    · obtain ⟨k, e, listed, rest⟩ := ih later
      exact ⟨k, e, List.mem_cons_of_mem _ listed, rest⟩
  | case3 key entry rest state skipped ih =>
    obtain ⟨k, e, listed, rest⟩ := ih member
    exact ⟨k, e, List.mem_cons_of_mem _ listed, rest⟩

theorem mem_mapGaugeSamples {valuePath : String} {common : List String}
    {entries : List (String × Json)} {s : Sample} (member : s ∈ mapGaugeSamples valuePath common entries) :
    ∃ key entry, (key, entry) ∈ entries ∧ entry.isObject = true ∧ s.labels = common ++ [key] := by
  fun_induction mapGaugeSamples valuePath common entries with
  | case1 => cases member
  | case2 key entry rest kept ih =>
    rcases List.mem_cons.1 member with rfl | later
    · exact ⟨key, entry, List.mem_cons_self, kept, rfl⟩
    · obtain ⟨k, e, listed, rest⟩ := ih later
      exact ⟨k, e, List.mem_cons_of_mem _ listed, rest⟩
  | case3 key entry rest skipped ih =>
    obtain ⟨k, e, listed, rest⟩ := ih member
    exact ⟨k, e, List.mem_cons_of_mem _ listed, rest⟩

theorem mem_conditionSamples {names : ConditionNames} {common : List String}
    {entries : List Json} {s : Sample} (member : s ∈ conditionSamples names common entries) :
    ∃ entry ∈ entries, entry.isObject = true ∧ memberString entry names.typeField ≠ "" ∧
      s.labels = common ++ [memberString entry names.typeField,
        memberString entry names.statusField, memberString entry names.reasonField] := by
  fun_induction conditionSamples names common entries with
  | case1 => cases member
  | case2 entry rest type kept status reason ih =>
    rcases List.mem_cons.1 member with rfl | later
    · simp only [Bool.not_eq_true', String.isEmpty_eq_false_iff] at kept
      exact ⟨entry, List.mem_cons_self, kept.1, kept.2, rfl⟩
    · obtain ⟨e, listed, rest⟩ := ih later
      exact ⟨e, List.mem_cons_of_mem _ listed, rest⟩
  | case3 entry rest type skipped ih =>
    obtain ⟨e, listed, rest⟩ := ih member
    exact ⟨e, List.mem_cons_of_mem _ listed, rest⟩

theorem mem_bump {v : String} {counts : List (String × Nat)} {e : String × Nat}
    (member : e ∈ bump v counts) : e.1 = v ∨ ∃ n, (e.1, n) ∈ counts := by
  fun_induction bump v counts with
  | case1 => simp_all
  | case2 w n rest below =>
    rcases List.mem_cons.1 member with rfl | old
    · exact .inl rfl
    · exact .inr ⟨e.2, old⟩
  | case3 n rest notBelow =>
    rcases List.mem_cons.1 member with rfl | old
    · exact .inl rfl
    · exact .inr ⟨e.2, List.mem_cons_of_mem _ old⟩
  | case4 w n rest notBelow different ih =>
    rcases List.mem_cons.1 member with rfl | later
    · exact .inr ⟨n, List.mem_cons_self⟩
    · rcases ih later with same | ⟨m, old⟩
      · exact .inl same
      · exact .inr ⟨m, List.mem_cons_of_mem _ old⟩

theorem countValues_concat (path : String) (objs : List Json) (o : Json) :
    countValues path (objs ++ [o]) =
      if (Json.extractString o path).isEmpty then countValues path objs
      else bump (Json.extractString o path) (countValues path objs) := by
  simp [countValues, List.foldl_append]

/-- Every counted value is a non-empty string that a resource holds at the path. -/
theorem mem_countValues {path : String} {objs : List Json} {e : String × Nat}
    (member : e ∈ countValues path objs) :
    e.1 ≠ "" ∧ ∃ o ∈ objs, Json.extractString o path = e.1 := by
  induction objs using List.reverseRecOn generalizing e with
  | nil => cases member
  | append_singleton objs o ih =>
    rw [countValues_concat] at member
    split_ifs at member with empty
    · obtain ⟨nonempty, o', listed, value⟩ := ih member
      exact ⟨nonempty, o', List.mem_append_left _ listed, value⟩
    · rcases mem_bump member with same | ⟨n, old⟩
      · refine ⟨?_, o, by simp, same.symm⟩
        rw [same]
        simpa using empty
      · obtain ⟨nonempty, o', listed, value⟩ := ih old
        exact ⟨nonempty, o', List.mem_append_left _ listed, value⟩

/-! ## Points -/

theorem zip_commonValues (crd : CrdSpec) (obj : Json) :
    (crd.commonLabels.map (·.1)).zip (commonValues (crd.commonLabels.map (·.2)) obj) =
      commonPairs crd obj := by
  simp [commonValues, commonPairs, List.map_map, List.zip_map', Function.comp_def]

/-- A sample that a resource gives carries, under the label names of its kind, the pairs of
its kind. -/
theorem pointPairs_of_mem_resourceSamples {crd : CrdSpec} {d : Descriptor} {obj : Json}
    {objs : List Json} (listed : obj ∈ objs) {s : Sample}
    (member : s ∈ d.resourceSamples obj (commonValues (crd.commonLabels.map (·.2)) obj)) :
    PointPairs crd d.kind d.spec objs
      ((labelNamesFor d.kind (crd.commonLabels.map (·.1)) d.spec).zip s.labels) := by
  have lengths : (crd.commonLabels.map (·.1)).length =
      (commonValues (crd.commonLabels.map (·.2)) obj).length := by
    simp [commonValues]
  unfold resourceSamples at member
  cases kind : d.kind <;> simp only [kind] at member <;> simp only [PointPairs, labelNamesFor]
  case count => cases member
  case info =>
    rw [List.mem_singleton] at member
    subst member
    refine ⟨obj, listed, ?_⟩
    rw [List.zip_append (by simp [lengths]), zip_commonValues, List.zip_map']
  case gauge =>
    rw [List.mem_singleton] at member
    subst member
    exact ⟨obj, listed, by rw [zip_commonValues]⟩
  case mapState =>
    obtain ⟨key, entry, entryListed, isObject, nonempty, onSample⟩ := mem_mapStateSamples member
    refine ⟨obj, listed, key, entry, entryListed, isObject, nonempty, ?_⟩
    rw [onSample, List.zip_append (by simp [lengths]), zip_commonValues]
    rfl
  case mapGauge =>
    obtain ⟨key, entry, entryListed, isObject, onSample⟩ := mem_mapGaugeSamples member
    refine ⟨obj, listed, key, entry, entryListed, isObject, ?_⟩
    rw [onSample, List.zip_append (by simp [lengths]), zip_commonValues]
    rfl
  case conditions =>
    obtain ⟨entry, entryListed, isObject, nonempty, onSample⟩ := mem_conditionSamples member
    refine ⟨obj, listed, entry, entryListed, isObject, nonempty, ?_⟩
    rw [onSample, List.zip_append (by simp [lengths]), zip_commonValues]
    rfl

/-- A counted sample carries the value label with a counted value. -/
theorem pointPairs_of_mem_countSamples {crd : CrdSpec} {d : Descriptor} (count : d.kind = .count)
    {objs : List Json} {s : Sample} (member : s ∈ d.countSamples objs) :
    PointPairs crd d.kind d.spec objs
      ((labelNamesFor d.kind (crd.commonLabels.map (·.1)) d.spec).zip s.labels) := by
  obtain ⟨⟨v, n⟩, counted, rfl⟩ := List.mem_map.1 member
  obtain ⟨nonempty, o, listed, value⟩ := mem_countValues counted
  rw [count]
  exact ⟨o, listed, by rwa [value], by rw [value]; rfl⟩

theorem mem_points_family {d : Descriptor} {samples : List Sample} {pt : Point}
    (member : pt ∈ (d.desc.family samples).points) :
    ∃ s ∈ samples, pt.labels = d.labelNames.zip s.labels := by
  obtain ⟨s, sampled, rfl⟩ := List.mem_map.1 member
  exact ⟨s, sampled, rfl⟩

end Descriptor

namespace CrdCollector

theorem descriptors_of_new {spec : CrdSpec} {stem : String} {c : CrdCollector}
    (built : new spec stem = .ok c) : c.spec = spec ∧ spec.descriptors stem = .ok c.descriptors := by
  unfold new at built
  split at built
  · cases built
  · split at built
    · cases built
    · rename_i descriptors found
      cases built
      exact ⟨rfl, found⟩

/-- A collected family is the family of a descriptor's gathered samples, which are not empty. -/
theorem mem_collect {c : CrdCollector} {gateOpen : Bool} {f : Family}
    (member : f ∈ c.collect gateOpen) :
    ∃ d ∈ c.descriptors, ∃ samples, samples ≠ [] ∧ f = d.desc.family samples ∧
      samples = if d.kind.isAggregate then d.countSamples c.cache.objects
        else c.cache.objects.flatMap fun obj => d.resourceSamples obj (commonValues c.commonPaths obj) := by
  unfold collect at member
  split_ifs at member
  · obtain ⟨⟨d, samples⟩, kept, rfl⟩ := List.mem_map.1 member
    obtain ⟨gathered, kept⟩ := List.mem_filter.1 kept
    have nonempty : samples ≠ [] := by simpa using kept
    rw [gather, gatherSamples_eq] at gathered
    obtain ⟨d', listed, same⟩ := List.mem_map.1 gathered
    split_ifs at same with aggregate <;> cases same
    · exact ⟨d, listed, _, nonempty, rfl, by simp [aggregate]⟩
    · exact ⟨d, listed, _, nonempty, rfl, by simp [aggregate]⟩
  · cases member

end CrdCollector

/-- Whatever its cache holds and however its sync flags stand, a built custom resource
collector collects only families of its descriptors, whose names differ, each with a metric at
least; every metric carries the descriptor's label names in order, one pair for each, and each
pair carries what its label stands for in the resource, or for a count the value, that gave
the metric. -/
theorem collected_labels_follow_descriptors {spec : CrdSpec} {stem : String} {c : CrdCollector}
    (built : CrdCollector.new spec stem = .ok c) (cache : ResourceCache) (sync : SyncFlags)
    (gateOpen : Bool) :
    (c.descriptors.map (·.name)).Nodup ∧
    ∀ f ∈ ({ c with cache, sync } : CrdCollector).collect gateOpen,
      ∃ d ∈ c.descriptors, f.name = d.name ∧ f.help = d.help ∧ f.points ≠ [] ∧
        ∀ pt ∈ f.points, pt.labels.map (·.1) = d.labelNames ∧
          Descriptor.PointPairs spec d.kind d.spec cache.objects pt.labels := by
  obtain ⟨specIs, descriptors⟩ := CrdCollector.descriptors_of_new built
  obtain ⟨labels, distinct, -⟩ := Descriptor.buildAll_ok descriptors
  refine ⟨distinct, fun f member => ?_⟩
  obtain ⟨d, listed, samples, nonempty, rfl, gathered⟩ := CrdCollector.mem_collect member
  refine ⟨d, listed, rfl, rfl, by simpa [Desc.family, gaugeFamily] using nonempty,
    fun pt point => ?_⟩
  obtain ⟨s, sampled, onPoint⟩ := Descriptor.mem_points_family point
  have carried : Descriptor.PointPairs spec d.kind d.spec cache.objects pt.labels := by
    rw [onPoint, labels d listed]
    cases aggregate : d.kind.isAggregate <;> simp only [aggregate] at gathered <;> subst gathered
    · -- a metric of one resource
      obtain ⟨obj, cached, fromObj⟩ := List.mem_flatMap.1 sampled
      rw [show ({ c with cache, sync } : CrdCollector).commonPaths = spec.commonLabels.map (·.2) by
        rw [CrdCollector.commonPaths, ← specIs]] at fromObj
      exact Descriptor.pointPairs_of_mem_resourceSamples cached fromObj
    · -- a count over all resources
      have count : d.kind = .count := by
        cases kind : d.kind <;> simp_all [MetricKind.isAggregate]
      exact Descriptor.pointPairs_of_mem_countSamples count sampled
  exact ⟨carried.names.trans (labels d listed).symm, carried⟩

/-- A collector of the replicas of `apps`, labelled by name, with one cached app. -/
theorem app_replicas_labelled :
    let spec : CrdSpec :=
      { name := "app", gvr := { resource := "apps" }, commonLabels := [("name", "metadata.name")],
        metrics := [{ kind := "gauge", name := "replicas", path := "spec.replicas" }] }
    let c : CrdCollector :=
      { spec, sync := SyncFlags.unset 1,
        descriptors := [⟨"t_app_replicas", "replicas gauge of app", .gauge, ["name"],
          { kind := "gauge", name := "replicas", path := "spec.replicas" }⟩] }
    let web := Json.obj [("metadata", .obj [("name", .str "web"), ("namespace", .str "default")]),
      ("spec", .obj [("replicas", .num (.int 3))])]
    let cache : ResourceCache := ⟨[("default/web", web)], by decide⟩
    CrdCollector.new spec "t" = .ok c ∧
      ((c.descriptors.map (·.name)).Nodup ∧
        ∀ f ∈ ({ c with cache, sync := ⟨[true]⟩ } : CrdCollector).collect true,
          ∃ d ∈ c.descriptors, f.name = d.name ∧ f.help = d.help ∧ f.points ≠ [] ∧
            ∀ pt ∈ f.points, pt.labels.map (·.1) = d.labelNames ∧
              Descriptor.PointPairs spec d.kind d.spec cache.objects pt.labels) := by
  intro spec c web cache
  have built : CrdCollector.new spec "t" = .ok c := by
    simp only [spec, c]
    rfl
  exact ⟨built, collected_labels_follow_descriptors built cache ⟨[true]⟩ true⟩

end StateMetrics
