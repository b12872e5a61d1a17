import Mathlib
import StateMetrics.Crd.Collector

/-! # Building descriptors, and why it fails

A collector for a custom resource is refused when its specification has no name (reported
under the resource's display name) or no resource to watch; otherwise its descriptors are built
from the metrics in order, and the first metric that fails decides the error. At each metric
three things are checked in turn (`fault`): that its kind is known, that the registry accepts
its description, and that its full name differs from the full names of the metrics before it.
Full names are compared after they are made safe, so two names that differ only in characters
the exposition format does not allow collide.

The registry accepts a description exactly when its help text is not empty, its name is a
metric name and its label names are label names, each once (`make_ok_iff`). A metric without a
help text gets `<metric> <kind> of <resource>`, never empty, so the registry never refuses a
help text here.

Main statement: `new_reports_first_faulty_metric`: building succeeds exactly when every kind is
known, every description acceptable and every full name distinct, and then yields the planned
descriptor of each metric in order (`planned`); otherwise it fails with the fault of the first
faulty metric. -/

namespace StateMetrics

open StateMetrics.Metric

/-! ## What the registry accepts -/

namespace Metric

/-- Label names that the registry accepts after the names `seen`: each a label name, none
seen, each once. -/
theorem checkLabels_ok_iff (seen labels : List String) :
    checkLabels seen labels = .ok () ↔
      (∀ l ∈ labels, isLabelName l = true ∧ l ∉ seen) ∧ labels.Nodup := by
  induction labels generalizing seen with
  | nil => simp [checkLabels]
  | cons l rest ih =>
    by_cases malformed : isLabelName l = true
    · by_cases repeated : l ∈ seen
      · simp [checkLabels, malformed, repeated]
      · have step : checkLabels seen (l :: rest) = checkLabels (l :: seen) rest := by
          simp [checkLabels, malformed, repeated]
        rw [step, ih]
        constructor
        · rintro ⟨fresh, distinct⟩
          refine ⟨fun x member => ?_,
            List.nodup_cons.2 ⟨fun later => (fresh l later).2 List.mem_cons_self, distinct⟩⟩
          rcases List.mem_cons.1 member with rfl | later
          · exact ⟨malformed, repeated⟩
          · exact ⟨(fresh x later).1,
              fun old => (fresh x later).2 (List.mem_cons_of_mem _ old)⟩
        · rintro ⟨fresh, distinct⟩
          obtain ⟨absent, distinct⟩ := List.nodup_cons.1 distinct
          refine ⟨fun x member => ⟨(fresh x (List.mem_cons_of_mem _ member)).1, ?_⟩,
            distinct⟩
          intro seenBefore
          rcases List.mem_cons.1 seenBefore with rfl | old
          · exact absent member
          · exact (fresh x (List.mem_cons_of_mem _ member)).2 old
    · simp [checkLabels, malformed]

/-- The registry accepts a description exactly when its help text is not empty, its name is a
metric name, and its label names are label names, each once. -/
theorem make_ok_iff (name help : String) (labels : List String) :
    (∃ d, Desc.make name help labels = .ok d) ↔
      help ≠ "" ∧ isMetricName name = true ∧ (∀ l ∈ labels, isLabelName l = true) ∧
        labels.Nodup := by
  have labelsOk := checkLabels_ok_iff [] labels
  simp only [List.not_mem_nil, not_false_eq_true, and_true] at labelsOk
  unfold Desc.make
  by_cases empty : help = ""
  · simp [empty]
  · have filled : help.isEmpty = false := by simpa [String.isEmpty_iff] using empty
    by_cases named : isMetricName name = true
    · cases checked : checkLabels [] labels with
      | error e =>
        simp only [checked, reduceCtorEq, false_iff] at labelsOk
        simp [filled, named, Except.map, labelsOk]
      | ok u =>
        simp only [checked, true_iff] at labelsOk
        simp [filled, named, Except.map, empty, labelsOk.2]
        exact labelsOk.1
    · simp [filled, named]

end Metric

/-! ## The planned descriptors and the faults -/

namespace Descriptor

/-- The descriptor planned for a metric of a kind: its full name, its own help text or
`<metric> <kind> of <resource>`, and the label names of its kind. -/
def planned (crd : CrdSpec) (stem : String) (m : MetricSpec) (kind : MetricKind) : Descriptor where
  name := fullName stem crd.name m.name
  help := if m.help.isEmpty then m.name ++ " " ++ kind.word ++ " of " ++ crd.name else m.help
  kind := kind
  labelNames := labelNamesFor kind (crd.commonLabels.map (·.1)) m
  spec := m

/-- A descriptor is the one planned for a metric: its kind is known and it is the planned
descriptor of that kind. -/
def Plans (crd : CrdSpec) (stem : String) (m : MetricSpec) (d : Descriptor) : Prop :=
  ∃ kind, MetricKind.ofWord? m.kind = some kind ∧ d = planned crd stem m kind

/-- What is wrong with a metric after the metrics `earlier`, checked in order: an unknown kind,
then a description the registry refuses, then a full name that an earlier metric has. -/
def fault (crd : CrdSpec) (stem : String) (earlier : List MetricSpec) (m : MetricSpec) :
    Option ExporterError :=
  match MetricKind.ofWord? m.kind with
  | none => some (.unknownMetricType crd.name m.name m.kind)
  | some kind =>
    let d := planned crd stem m kind
    match Desc.make d.name d.help d.labelNames with
    | .error e => some (.invalidDescriptor crd.name m.name e)
    | .ok _ =>
      if d.name ∈ earlier.map (fullName stem crd.name ·.name) then
        some (.invalidCrd crd.name
          ("metric " ++ Text.quoted m.name ++ " duplicates metric name " ++ d.name))
      else none

/-- The fault of the metric at position `i` of `ms`, after `earlier` and the metrics of `ms`
before it. -/
def faultIn (crd : CrdSpec) (stem : String) (earlier ms : List MetricSpec) (i : Nat) :
    Option ExporterError :=
  ms[i]?.bind (fault crd stem (earlier ++ ms.take i))

/-- The fault of the metric at position `i` of a specification, after the metrics before it. -/
def faultAt (crd : CrdSpec) (stem : String) (i : Nat) : Option ExporterError :=
  faultIn crd stem [] crd.metrics i

/-- Building fails with `e`: it is the fault of a metric, and every metric before it is
sound. -/
def FailsFirstWith (crd : CrdSpec) (stem : String) (e : ExporterError) : Prop :=
  ∃ i < crd.metrics.length, (∀ j < i, faultAt crd stem j = none) ∧ faultAt crd stem i = some e

/-- The kind of a metric is known, and the registry accepts the name and the label names of
its planned descriptor. -/
def Acceptable (crd : CrdSpec) (stem : String) (m : MetricSpec) : Prop :=
  ∃ kind, MetricKind.ofWord? m.kind = some kind ∧
    isMetricName (planned crd stem m kind).name = true ∧
    (∀ l ∈ (planned crd stem m kind).labelNames, isLabelName l = true) ∧
    (planned crd stem m kind).labelNames.Nodup

/-- Every metric is acceptable, and the full names are pairwise distinct. -/
def Buildable (crd : CrdSpec) (stem : String) : Prop :=
  (∀ m ∈ crd.metrics, Acceptable crd stem m) ∧
    (crd.metrics.map (fullName stem crd.name ·.name)).Nodup

/-- The help text of a planned descriptor is never empty. -/
theorem planned_help_ne_empty (crd : CrdSpec) (stem : String) (m : MetricSpec) (kind : MetricKind) :
    (planned crd stem m kind).help ≠ "" := by
  unfold planned
  split_ifs with empty
  · intro same
    have := congrArg String.length same
    simp at this
  · exact fun same => empty (String.isEmpty_iff.2 same)

/-- Label names never make the registry complain about a help text. -/
theorem checkLabels_ne_emptyHelp (seen labels : List String) :
    checkLabels seen labels ≠ .error .emptyHelp := by
  induction labels generalizing seen with
  | nil => simp [checkLabels]
  | cons l rest ih =>
    unfold checkLabels
    split_ifs
    · simp
    · simp
    · exact ih _

/-- A description with a help text is never refused for its help text. -/
theorem make_ne_emptyHelp {name help : String} (filled : help ≠ "") (labels : List String) :
    Desc.make name help labels ≠ .error .emptyHelp := by
  have notEmpty : help.isEmpty = false := by simpa [String.isEmpty_iff] using filled
  unfold Desc.make
  simp only [notEmpty, Bool.false_eq_true, if_false]
  split_ifs
  · simp
  · cases checked : checkLabels [] labels with
    | error e =>
      have different : e ≠ .emptyHelp := fun same =>
        checkLabels_ne_emptyHelp [] labels (same ▸ checked)
      simpa [Except.map] using different
    | ok u => simp [Except.map]

/-! ## One metric -/

/-- The fault of a metric is the failure of building its descriptor, or else a full name that
an earlier metric has. -/
theorem fault_eq (crd : CrdSpec) (stem : String) (earlier : List MetricSpec) (m : MetricSpec) :
    fault crd stem earlier m =
      match build crd stem m with
      | .error e => some e
      | .ok d =>
        if d.name ∈ earlier.map (fullName stem crd.name ·.name) then
          some (.invalidCrd crd.name
            ("metric " ++ Text.quoted m.name ++ " duplicates metric name " ++ d.name))
        else none := by
  unfold fault build
  cases MetricKind.ofWord? m.kind with
  | none => rfl
  | some kind =>
    simp only [planned]
    cases Desc.make _ _ _ <;> rfl

/-- A built descriptor is the one planned for its metric. -/
theorem plans_of_build {crd : CrdSpec} {stem : String} {m : MetricSpec} {d : Descriptor}
    (built : build crd stem m = .ok d) : Plans crd stem m d := by
  unfold build at built
  split at built
  · cases built
  · rename_i kind known
    dsimp only at built
    split at built
    · cases built
    · cases built
      exact ⟨kind, known, rfl⟩

/-- A metric has one planned descriptor. -/
theorem Plans.unique {crd : CrdSpec} {stem : String} {m : MetricSpec} {d d' : Descriptor}
    (first : Plans crd stem m d) (second : Plans crd stem m d') : d' = d := by
  obtain ⟨kind, known, rfl⟩ := first
  obtain ⟨kind', known', rfl⟩ := second
  rw [known] at known'
  cases known'
  rfl

/-- A metric is sound exactly when its kind is known, the registry accepts its planned
description, and no earlier metric has its full name. -/
theorem fault_eq_none_iff (crd : CrdSpec) (stem : String) (earlier : List MetricSpec)
    (m : MetricSpec) :
    fault crd stem earlier m = none ↔
      Acceptable crd stem m ∧
        fullName stem crd.name m.name ∉ earlier.map (fullName stem crd.name ·.name) := by
  unfold fault Acceptable
  cases known : MetricKind.ofWord? m.kind with
  | none => simp
  | some kind =>
    have accepts := make_ok_iff (planned crd stem m kind).name (planned crd stem m kind).help
      (planned crd stem m kind).labelNames
    simp only [planned_help_ne_empty, ne_eq, not_false_eq_true, true_and] at accepts
    dsimp only
    simp only [planned] at accepts ⊢
    split
    · rename_i e made
      simp only [made, reduceCtorEq, exists_false, false_iff] at accepts
      simp [accepts]
    · rename_i desc made
      simp only [made, Except.ok.injEq, exists_eq', true_iff] at accepts
      obtain ⟨named, labelled, distinct⟩ := accepts
      simp only [Option.some.injEq, exists_eq_left', named, distinct, true_and, and_true]
      rw [and_iff_right labelled]
      split_ifs with duplicate <;> simp [duplicate]

/-! ## Every metric, in order -/

section Build

variable {crd : CrdSpec} {stem : String}

@[simp] theorem faultIn_cons_zero (earlier : List MetricSpec) (m : MetricSpec)
    (rest : List MetricSpec) :
    faultIn crd stem earlier (m :: rest) 0 = fault crd stem earlier m := by
  simp [faultIn]

@[simp] theorem faultIn_cons_succ (earlier : List MetricSpec) (m : MetricSpec)
    (rest : List MetricSpec) (i : Nat) :
    faultIn crd stem earlier (m :: rest) (i + 1) = faultIn crd stem (earlier ++ [m]) rest i := by
  simp [faultIn]

/-- The metrics before position `i + 1` are sound exactly when the first is and those of the
rest before `i` are. -/
theorem forall_faultIn_cons (earlier : List MetricSpec) (m : MetricSpec) (rest : List MetricSpec)
    (i : Nat) :
    (∀ j < i + 1, faultIn crd stem earlier (m :: rest) j = none) ↔
      fault crd stem earlier m = none ∧ ∀ j < i, faultIn crd stem (earlier ++ [m]) rest j = none := by
  constructor
  · intro sound
    refine ⟨by simpa using sound 0 (by omega), fun j below => ?_⟩
    simpa using sound (j + 1) (by omega)
  · rintro ⟨first, later⟩ j below
    cases j with
    | zero => simpa using first
    | succ j => simpa using later j (by omega)

/-- With the full name of a sound metric, `taken` holds the full names of the metrics up to
it. -/
theorem taken_cons {earlier : List MetricSpec} {taken : List String}
    (sameTaken : ∀ x, x ∈ taken ↔ x ∈ earlier.map (fullName stem crd.name ·.name))
    {m : MetricSpec} {d : Descriptor} (named : d.name = fullName stem crd.name m.name) :
    ∀ x, x ∈ d.name :: taken ↔ x ∈ (earlier ++ [m]).map (fullName stem crd.name ·.name) := by
  simp [sameTaken, named, or_comm]

/-- A faulty metric stops building with its fault, when `taken` holds the full names of the
metrics before it. -/
theorem buildAll_cons_of_fault {earlier : List MetricSpec} {taken : List String}
    (sameTaken : ∀ x, x ∈ taken ↔ x ∈ earlier.map (fullName stem crd.name ·.name))
    {m : MetricSpec} {e : ExporterError} (faulty : fault crd stem earlier m = some e)
    (rest : List MetricSpec) : buildAll crd stem taken (m :: rest) = .error e := by
  rw [fault_eq] at faulty
  rw [buildAll]
  cases built : build crd stem m with
  | error e' => simpa [built] using faulty
  | ok d =>
    have named : d.name = fullName stem crd.name m.name := by
      obtain ⟨kind, -, rfl⟩ := plans_of_build built
      rfl
    simp only [built] at faulty
    split_ifs at faulty with duplicate
    cases faulty
    have inTaken : d.name ∈ taken := (sameTaken _).2 duplicate
    simp [inTaken]

/-- A sound metric contributes its planned descriptor and takes its full name. -/
theorem buildAll_cons_of_sound {earlier : List MetricSpec} {taken : List String}
    (sameTaken : ∀ x, x ∈ taken ↔ x ∈ earlier.map (fullName stem crd.name ·.name))
    {m : MetricSpec} (sound : fault crd stem earlier m = none) (rest : List MetricSpec) :
    ∃ d, Plans crd stem m d ∧ d.name = fullName stem crd.name m.name ∧
      buildAll crd stem taken (m :: rest) =
        (buildAll crd stem (d.name :: taken) rest).map (d :: ·) := by
  rw [fault_eq] at sound
  cases built : build crd stem m with
  | error e => simp [built] at sound
  | ok d =>
    have plans := plans_of_build built
    have named : d.name = fullName stem crd.name m.name := by
      obtain ⟨kind, -, rfl⟩ := plans
      rfl
    simp only [built] at sound
    split_ifs at sound with duplicate
    have fresh : d.name ∉ taken := fun old => duplicate ((sameTaken _).1 old)
    exact ⟨d, plans, named, by simp [buildAll, built, fresh]⟩

/-- Building fails exactly with the fault of the first faulty metric. -/
theorem buildAll_eq_error_iff (ms : List MetricSpec) {earlier : List MetricSpec}
    {taken : List String}
    (sameTaken : ∀ x, x ∈ taken ↔ x ∈ earlier.map (fullName stem crd.name ·.name))
    (e : ExporterError) :
    buildAll crd stem taken ms = .error e ↔
      ∃ i < ms.length, (∀ j < i, faultIn crd stem earlier ms j = none) ∧
        faultIn crd stem earlier ms i = some e := by
  induction ms generalizing earlier taken with
  | nil => simp [buildAll]
  | cons m rest ih =>
    cases faulty : fault crd stem earlier m with
    | some e' =>
      -- the first metric decides
      rw [buildAll_cons_of_fault sameTaken faulty]
      constructor
      · rintro ⟨⟩
        exact ⟨0, by simp, by simp, by simp [faulty]⟩
      · rintro ⟨i, -, before, found⟩
        cases i with
        | zero => simpa [faulty] using found
        | succ i => simpa [faulty] using before 0 (by omega)
    | none =>
      -- the first metric is sound, and the rest decide
      obtain ⟨d, -, named, step⟩ := buildAll_cons_of_sound sameTaken faulty rest
      have mapped : (buildAll crd stem (d.name :: taken) rest).map (d :: ·) = .error e ↔
          buildAll crd stem (d.name :: taken) rest = .error e := by
        cases buildAll crd stem (d.name :: taken) rest <;> simp [Except.map]
      rw [step, mapped, ih (taken_cons sameTaken named)]
      constructor
      · rintro ⟨i, bound, before, found⟩
        exact ⟨i + 1, by simp [bound], (forall_faultIn_cons earlier m rest i).2 ⟨faulty, before⟩,
          by simpa using found⟩
      · rintro ⟨i, bound, before, found⟩
        cases i with
        | zero => simp [faulty] at found
        | succ i =>
          exact ⟨i, by simpa using bound, ((forall_faultIn_cons earlier m rest i).1 before).2,
            by simpa using found⟩

/-- Building succeeds exactly when every metric is sound, and then yields the planned
descriptor of each metric in order. -/
theorem buildAll_eq_ok_iff (ms : List MetricSpec) {earlier : List MetricSpec}
    {taken : List String}
    (sameTaken : ∀ x, x ∈ taken ↔ x ∈ earlier.map (fullName stem crd.name ·.name))
    (ds : List Descriptor) :
    buildAll crd stem taken ms = .ok ds ↔
      (∀ i < ms.length, faultIn crd stem earlier ms i = none) ∧
        List.Forall₂ (Plans crd stem) ms ds := by
  induction ms generalizing earlier taken ds with
  | nil => simp [buildAll, eq_comm]
  | cons m rest ih =>
    cases faulty : fault crd stem earlier m with
    | some e =>
      rw [buildAll_cons_of_fault sameTaken faulty]
      simp only [reduceCtorEq, false_iff, not_and]
      intro sound
      simpa [faulty] using sound 0 (by simp)
    | none =>
      obtain ⟨d, plans, named, step⟩ := buildAll_cons_of_sound sameTaken faulty rest
      have sameTaken' := taken_cons sameTaken named
      rw [step]
      cases later : buildAll crd stem (d.name :: taken) rest with
      | error e =>
        -- a later metric is faulty
        obtain ⟨i, bound, -, found⟩ := (buildAll_eq_error_iff rest sameTaken' e).1 later
        simp only [Except.map, reduceCtorEq, false_iff, not_and]
        intro sound
        have := sound (i + 1) (by simp [bound])
        simp [found] at this
      | ok ds' =>
        have rests := ih sameTaken' ds'
        simp only [later, true_iff] at rests
        simp only [Except.map, Except.ok.injEq, List.forall₂_cons_left_iff]
        constructor
        · rintro rfl
          exact ⟨(forall_faultIn_cons earlier m rest rest.length).2 ⟨faulty, rests.1⟩, d, ds', plans,
            rests.2, rfl⟩
        · rintro ⟨-, d', ds'', plans', later', rfl⟩
          have same := plans'.unique plans
          subst same
          have : ds'' = ds' := by
            have := (ih sameTaken' ds'').2 ⟨fun i bound => rests.1 i bound, later'⟩
            rw [later] at this
            simpa using this.symm
          rw [this]

end Build

/-! ## A whole specification -/

/-- A list has no duplicate exactly when no element is among those before it. -/
theorem nodup_iff_not_mem_take {β : Type} {l : List β} :
    l.Nodup ↔ ∀ i (h : i < l.length), l[i] ∉ l.take i := by
  rw [List.Nodup, List.pairwise_iff_getElem]
  constructor
  · intro distinct j bound member
    obtain ⟨i, below, same⟩ := List.mem_iff_getElem.1 member
    simp only [List.length_take] at below
    rw [List.getElem_take] at same
    exact distinct i j (by omega) bound (by omega) same
  · intro fresh i j _ bound before same
    exact fresh j bound
      (List.mem_iff_getElem.2 ⟨i, by simp; omega, by rw [List.getElem_take]; exact same⟩)

theorem faultAt_of_lt {crd : CrdSpec} {stem : String} {i : Nat} (bound : i < crd.metrics.length) :
    faultAt crd stem i = fault crd stem (crd.metrics.take i) crd.metrics[i] := by
  simp [faultAt, faultIn, bound]

/-- Every metric of a specification is sound exactly when the specification is buildable. -/
theorem sound_iff_buildable (crd : CrdSpec) (stem : String) :
    (∀ i < crd.metrics.length, faultAt crd stem i = none) ↔ Buildable crd stem := by
  rw [Buildable, nodup_iff_not_mem_take]
  simp only [List.length_map, List.getElem_map, ← List.map_take]
  constructor
  · intro sound
    refine ⟨fun m member => ?_, fun i bound => ?_⟩
    · obtain ⟨i, bound, rfl⟩ := List.mem_iff_getElem.1 member
      exact ((fault_eq_none_iff _ _ _ _).1 (faultAt_of_lt bound ▸ sound i bound)).1
    · exact ((fault_eq_none_iff _ _ _ _).1 (faultAt_of_lt bound ▸ sound i bound)).2
  · rintro ⟨acceptable, fresh⟩ i bound
    rw [faultAt_of_lt bound, fault_eq_none_iff]
    exact ⟨acceptable _ (List.getElem_mem bound), fresh i bound⟩

/-- The registry is never asked about an empty help text, so no metric fails for one. -/
theorem fault_ne_emptyHelp (crd : CrdSpec) (stem : String) (earlier : List MetricSpec)
    (m : MetricSpec) (metric : String) :
    fault crd stem earlier m ≠ some (.invalidDescriptor crd.name metric .emptyHelp) := by
  unfold fault
  cases MetricKind.ofWord? m.kind with
  | none => simp
  | some kind =>
    dsimp only
    split
    · rename_i e made
      have different : e ≠ .emptyHelp := fun same =>
        make_ne_emptyHelp (planned_help_ne_empty crd stem m kind) _ (same ▸ made)
      simp [different]
    · split_ifs <;> simp

/-- Building the descriptors of a specification: the first metric that fails decides.

* A specification without a name is refused under the resource's display name, and one without
  a resource under its name; otherwise the collector's descriptors are the ones built.
* Building succeeds exactly when every kind is known, the registry accepts every planned name
  and label names, and the full names are pairwise distinct; it then yields, metric by metric
  in order, the planned descriptor.
* Otherwise it fails with the fault of the first faulty metric, checked in the order kind,
  description, full name of an earlier metric; and never for an empty help text. -/
theorem new_reports_first_faulty_metric (crd : CrdSpec) (stem : String) :
    (crd.name = "" →
      CrdCollector.new crd stem = .error (.invalidCrd crd.gvr.display "name must not be empty")) ∧
    (crd.name ≠ "" → crd.gvr.resource = "" →
      CrdCollector.new crd stem =
        .error (.invalidCrd crd.name "gvr.resource must not be empty")) ∧
    (crd.name ≠ "" → crd.gvr.resource ≠ "" →
      (CrdCollector.new crd stem).map (·.descriptors) = crd.descriptors stem) ∧
    (∀ ds, crd.descriptors stem = .ok ds ↔
      Buildable crd stem ∧ List.Forall₂ (Plans crd stem) crd.metrics ds) ∧
    (∀ e, crd.descriptors stem = .error e ↔ FailsFirstWith crd stem e) ∧
    (∀ e, crd.descriptors stem = .error e →
      ∀ metric, e ≠ .invalidDescriptor crd.name metric .emptyHelp) := by
  have nothingTaken : ∀ x, x ∈ ([] : List String) ↔
      x ∈ ([] : List MetricSpec).map (fullName stem crd.name ·.name) := by simp
  have failsFirst : ∀ e, crd.descriptors stem = .error e ↔ FailsFirstWith crd stem e :=
    fun e => buildAll_eq_error_iff crd.metrics nothingTaken e
  refine ⟨fun unnamed => ?_, fun named unwatched => ?_, fun named watched => ?_, fun ds => ?_,
    failsFirst, fun e failed metric same => ?_⟩
  · simp [CrdCollector.new, CrdSpec.validate, unnamed]
  · simp [CrdCollector.new, CrdSpec.validate, named, unwatched]
  · have valid : crd.validate = .ok () := by simp [CrdSpec.validate, named, watched]
    simp only [CrdCollector.new, valid]
    cases crd.descriptors stem <;> rfl
  · rw [CrdSpec.descriptors, buildAll_eq_ok_iff crd.metrics nothingTaken, ← sound_iff_buildable]
    rfl
  · obtain ⟨i, bound, -, found⟩ := (failsFirst e).1 failed
    rw [faultAt_of_lt bound, same] at found
    exact fault_ne_emptyHelp crd stem _ _ metric found

/-- Two metrics whose names differ only in case have one full name: the second is refused,
after the first was built. -/
theorem case_variants_collide :
    let crd : CrdSpec :=
      { name := "app", gvr := { resource := "apps" },
        metrics := [{ kind := "gauge", name := "Replicas", path := "spec.replicas" },
          { kind := "gauge", name := "replicas", path := "status.replicas" }] }
    let refused : ExporterError := .invalidCrd "app"
      ("metric " ++ Text.quoted "replicas" ++ " duplicates metric name " ++ "t_app_replicas")
    crd.name ≠ "" ∧ crd.gvr.resource ≠ "" ∧ CrdCollector.new crd "t" = .error refused ∧
      FailsFirstWith crd "t" refused ∧ faultAt crd "t" 0 = none := by
  intro crd refused
  have built : crd.descriptors "t" = .error refused := by
    simp only [crd, refused]
    rfl
  have reports := new_reports_first_faulty_metric crd "t"
  have named : crd.name ≠ "" := by decide
  have watched : crd.gvr.resource ≠ "" := by decide
  have collector : (CrdCollector.new crd "t").map (·.descriptors) = .error refused :=
    (reports.2.2.1 named watched).trans built
  refine ⟨named, watched, ?_, (reports.2.2.2.2.1 refused).1 built, by decide⟩
  cases made : CrdCollector.new crd "t" with
  | error e =>
    rw [made] at collector
    simpa [Except.map] using collector
  | ok c =>
    rw [made] at collector
    simp [Except.map] at collector

end Descriptor

end StateMetrics
