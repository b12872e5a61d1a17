import Mathlib
import StateMetrics.Proofs.Aggregate.AbnormalTimer
import StateMetrics.Proofs.Aggregate.PodWatch
import StateMetrics.Aggregate.Event

/-! # Distinct series of the aggregators

The pod and event aggregators keep their buckets under keys formatted from the dimensions a
bucket stands for: `<namespace>/<phase>` for pods, `<namespace>/<reason>/<kind>` for events.
The dimensions are taken from the pod or event that opens a bucket, and later contributions
under the same key leave them as they are, so every bucket stays under the key of its own
dimensions (`Keyed`), whatever the calls and even where two different dimensions format to one
key. The abnormal pods are kept the same way, under `<namespace>/<name>` of the pod that started
the entry.

Keys are distinct, so dimensions are: no two buckets share a namespace and phase, or a
namespace, reason and kind, and no two abnormal entries share a namespace and name. The
reported buckets and abnormal pods, and the metrics of every family a pod or event collector
gives, carry these as their label values, so no family holds two metrics with the same label
values (`aggregator_series_distinct`). -/

namespace StateMetrics

open Kube StateMetrics.Metric

/-- The key of the bucket of pods in a namespace and phase: `<namespace>/<phase>`. -/
def PodDims.key (d : PodDims) : String := d.namespaceName ++ "/" ++ d.phase

/-- The key of the bucket of events of a namespace, reason and kind:
`<namespace>/<reason>/<kind>`. -/
def EventDims.key (d : EventDims) : String := d.namespaceName ++ "/" ++ d.reason ++ "/" ++ d.kind

/-- The identity of an abnormal pod: `<namespace>/<name>`. -/
def AbnormalEntry.identity (e : AbnormalEntry) : String := e.namespaceName ++ "/" ++ e.name

/-! ## Entries under the keys of their values -/

/-- Keys determined by what entries hold are distinct only if what they hold is: where every key
is `h (g v)` of its value `v`, distinct keys give distinct `g v`. -/
theorem nodup_map_of_keyed {α β : Type} {l : List (String × α)} (g : α → β)
    (h : β → String) (keyed : ∀ e ∈ l, e.1 = h (g e.2)) (distinct : (l.map (·.1)).Nodup) :
    (l.map fun e => g e.2).Nodup := by
  have keys : l.map (·.1) = (l.map fun e => g e.2).map h := by
    rw [List.map_map]
    exact List.map_congr_left keyed
  exact List.Nodup.of_map h (keys ▸ distinct)

namespace BucketMap

variable {D : Type} (fmt : D → String)

/-- Every bucket stands under the key its dimensions format to. -/
def Keyed (bm : BucketMap D) : Prop := ∀ e ∈ bm.buckets, e.1 = fmt e.2.dims

/-- A call opens buckets only under the key of the dimensions it opens them with. -/
def Op.OpensKeyed : Op D → Prop
  | .addMember key dims _ _ => key = fmt dims
  | .addOccurrences key dims _ _ _ => key = fmt dims
  | _ => True

variable {fmt}

theorem Keyed.dims_of_get? {bm : BucketMap D} (keyed : Keyed fmt bm) {key : String}
    {b : Bucket D} (found : bm.get? key = some b) : key = fmt b.dims :=
  keyed (key, b) (mem_of_findKey? ((get?_eq_findKey? bm key) ▸ found))

/-- Setting a bucket under the key of its dimensions keeps every bucket under its own. -/
theorem Keyed.setBucket {bm bm' : BucketMap D} (keyed : Keyed fmt bm) {key : String}
    {b : Bucket D} (set : bm'.buckets = BucketMap.setBucket key b bm.buckets)
    (onKey : key = fmt b.dims) : Keyed fmt bm' := by
  intro e member
  rw [set, setBucket_eq_insertSorted] at member
  rcases mem_insertSorted member with rfl | old
  · exact onKey
  · exact keyed e old

theorem Keyed.filter {bm bm' : BucketMap D} (keyed : Keyed fmt bm)
    {p : String × Bucket D → Bool} (filtered : bm'.buckets = bm.buckets.filter p) :
    Keyed fmt bm' := by
  intro e member
  rw [filtered] at member
  exact keyed e (List.mem_of_mem_filter member)

theorem Keyed.evictOldest {bm : BucketMap D} (keyed : Keyed fmt bm) :
    Keyed fmt bm.evictOldest.1 := by
  obtain ⟨p, evicted⟩ := evictOldest_eq_filter bm
  rw [evicted]
  exact keyed.filter rfl

section Touch

variable {dims : D} {now : Instant} {change : Bucket D → Bucket D}

/-- A contribution keeps every bucket under the key of its dimensions when it opens a bucket
only under the key of its own and its change leaves dimensions alone. -/
theorem Keyed.touch {bm : BucketMap D} (keyed : Keyed fmt bm) {key : String}
    (onKey : key = fmt dims) (keepsDims : ∀ b, (change b).dims = b.dims) :
    Keyed fmt (bm.touch key dims now change).1 := by
  refine forall_mem_touch keyed (fun b found => ?_) ?_
  · -- the bucket under the key keeps its dimensions
    simp only [keepsDims]
    exact keyed.dims_of_get? found
  · simp only [keepsDims]
    exact onKey

end Touch

theorem Keyed.refresh {bm : BucketMap D} (keyed : Keyed fmt bm) (key member : String)
    (now : Instant) : Keyed fmt (bm.refresh key member now).1 := by
  cases found : bm.get? key with
  | none =>
    rw [refresh_of_absent found]
    exact keyed
  | some b =>
    have present := keyed.dims_of_get? found
    rw [refresh_of_get? found]
    exact keyed.setBucket rfl present

theorem Keyed.removeMember {bm : BucketMap D} (keyed : Keyed fmt bm) (key member : String) :
    Keyed fmt (bm.removeMember key member).1 := by
  cases found : bm.get? key with
  | none =>
    rw [removeMember_of_absent found]
    exact keyed
  | some b =>
    have present := keyed.dims_of_get? found
    rw [removeMember_of_get? found]
    split
    · exact keyed.filter rfl
    · exact keyed.setBucket rfl present

/-- Every call that opens buckets only under the keys of their dimensions keeps every bucket
under its own. -/
theorem Keyed.apply {bm : BucketMap D} (keyed : Keyed fmt bm) {op : Op D}
    (opens : op.OpensKeyed fmt) : Keyed fmt (bm.apply op) := by
  cases op with
  | addMember key dims member now => exact keyed.touch opens fun _ => rfl
  | addOccurrences key dims member n now =>
    by_cases zero : n = 0
    · subst zero
      rw [BucketMap.apply, addOccurrences_zero]
      exact keyed.refresh key member now
    · simp only [BucketMap.apply, addOccurrences, zero, if_false]
      exact keyed.touch opens fun _ => rfl
  | refresh key member now => exact keyed.refresh key member now
  | removeMember key member => exact keyed.removeMember key member
  | cleanup now maxIdle =>
    obtain ⟨p, cleaned⟩ := apply_cleanup_eq_filter bm now maxIdle
    rw [cleaned]
    exact keyed.filter rfl
  | evictOldest => exact keyed.evictOldest

theorem Keyed.run {bm : BucketMap D} (keyed : Keyed fmt bm) {ops : List (Op D)}
    (opens : ∀ op ∈ ops, op.OpensKeyed fmt) : Keyed fmt (bm.run ops) := by
  induction ops generalizing bm with
  | nil => exact keyed
  | cons op rest ih =>
    rw [run_cons]
    exact ih (keyed.apply (opens op List.mem_cons_self)) fun o member =>
      opens o (List.mem_cons_of_mem _ member)

end BucketMap

/-! ## Families -/

theorem eq_of_mem_ite_nil {α : Type} {p : Prop} [Decidable p] {x y : α}
    (member : y ∈ if p then [] else [x]) : y = x := by
  split_ifs at member
  · cases member
  · exact List.mem_singleton.1 member

theorem Metric.Desc.labels_of_make {name help : String} {labels : List String} {d : Desc}
    (made : Desc.make name help labels = .ok d) : d.labels = labels := by
  unfold Desc.make at made
  split_ifs at made
  cases checked : checkLabels [] labels with
  | error e => simp [checked, Except.map] at made
  | ok u =>
    simp only [checked, Except.map, Except.ok.injEq] at made
    rw [← made]

/-- The metrics of a family carry the values of its samples as label values, when no sample has
more values than the family has label names. -/
theorem Metric.Desc.label_values_family {d : Desc} {samples : List Sample}
    (fits : ∀ s ∈ samples, s.labels.length ≤ d.labels.length) :
    (d.family samples).points.map (fun pt => pt.labels.map (·.2)) = samples.map (·.labels) := by
  simp only [Desc.family, gaugeFamily, List.map_map]
  exact List.map_congr_left fun s member => List.map_snd_zip (fits s member)

/-! ## Pod aggregators -/

namespace PodAggregator

/-- What each call does to the buckets: bucket-map calls that open buckets only under
`<namespace>/<phase>` of their dimensions. -/
theorem buckets_apply (a : PodAggregator) (now : Instant) (c : Call) :
    ∃ ops : List (BucketMap.Op PodDims), (a.apply now c).buckets = a.buckets.run ops ∧
      ∀ op ∈ ops, op.OpensKeyed PodDims.key := by
  cases c with
  | add p =>
    exact ⟨[.addMember p.bucketKey ⟨p.namespaceName, p.phase⟩ p.name now], rfl,
      by simp [BucketMap.Op.OpensKeyed, Pod.bucketKey, PodDims.key]⟩
  | update old new =>
    by_cases moved : (old.bucketKey != new.bucketKey) = true
    · refine ⟨[.removeMember old.bucketKey old.name,
        .addMember new.bucketKey ⟨new.namespaceName, new.phase⟩ new.name now], ?_,
        by simp [BucketMap.Op.OpensKeyed, Pod.bucketKey, PodDims.key]⟩
      simp only [PodAggregator.apply, update, moved, if_true]
      rfl
    · refine ⟨[.addMember new.bucketKey ⟨new.namespaceName, new.phase⟩ new.name now], ?_,
        by simp [BucketMap.Op.OpensKeyed, Pod.bucketKey, PodDims.key]⟩
      simp only [PodAggregator.apply, update, moved, Bool.false_eq_true, if_false]
      rfl
  | remove p =>
    exact ⟨[.removeMember p.bucketKey p.name], rfl, by simp [BucketMap.Op.OpensKeyed]⟩
  | cleanup =>
    refine ⟨[.cleanup now ((retentionSecs a.windowSecs : Int) * 1000)], ?_,
      by simp [BucketMap.Op.OpensKeyed]⟩
    simp only [PodAggregator.apply, cleanup_unfolds, BucketMap.run_cons, BucketMap.run_nil,
      BucketMap.apply]
    cases a.buckets.cleanup now ((retentionSecs a.windowSecs : Int) * 1000) <;> rfl

/-- The series a pod aggregator keeps apart: buckets each under `<namespace>/<phase>` of their
dimensions, and abnormal entries in ascending key order, each under `<namespace>/<name>` of the
pod it names. -/
structure Keyed (a : PodAggregator) : Prop where
  buckets : a.buckets.Keyed PodDims.key
  abnormalAscending : Ascending a.abnormal
  abnormal : ∀ e ∈ a.abnormal, e.1 = e.2.identity

theorem keyed_empty (windowSecs : Nat) : Keyed { windowSecs } where
  buckets := fun _ member => by cases member
  abnormalAscending := ascending_nil
  abnormal := fun _ member => by cases member

theorem Keyed.abnormal_observe {a : PodAggregator} (inv : a.Keyed) (p : Pod) (now : Instant) :
    Ascending (a.observe p now).abnormal ∧
      ∀ e ∈ (a.observe p now).abnormal, e.1 = e.2.identity := by
  rw [PodAggregator.abnormal_observe]
  split_ifs
  · exact ⟨inv.abnormalAscending, inv.abnormal⟩
  · refine ⟨inv.abnormalAscending.insertSorted _ _, fun e member => ?_⟩
    rcases mem_insertSorted member with rfl | old
    · rfl
    · exact inv.abnormal e old
  · exact ⟨inv.abnormalAscending.filter _,
      fun e member => inv.abnormal e (List.mem_of_mem_filter member)⟩

/-- Every call keeps the series apart. -/
theorem Keyed.apply {a : PodAggregator} (inv : a.Keyed) (now : Instant) (c : Call) :
    (a.apply now c).Keyed := by
  obtain ⟨ops, buckets, opens⟩ := buckets_apply a now c
  have table : Ascending (a.apply now c).abnormal ∧
      ∀ e ∈ (a.apply now c).abnormal, e.1 = e.2.identity := by
    cases c with
    | add p => exact inv.abnormal_observe p now
    | update old new =>
      rw [PodAggregator.apply, abnormal_update]
      exact inv.abnormal_observe new now
    | remove p =>
      rw [PodAggregator.apply, abnormal_remove]
      exact ⟨inv.abnormalAscending.filter _,
        fun e member => inv.abnormal e (List.mem_of_mem_filter member)⟩
    | cleanup =>
      rw [abnormal_apply_cleanup]
      exact ⟨inv.abnormalAscending, inv.abnormal⟩
  have keyed : (a.apply now c).buckets.Keyed PodDims.key := by
    rw [buckets]
    exact inv.buckets.run opens
  exact ⟨keyed, table.1, table.2⟩

theorem keyed_run (windowSecs : Nat) (calls : List (Call × Instant)) :
    (({ windowSecs } : PodAggregator).run calls).Keyed := by
  induction calls using List.reverseRecOn with
  | nil => exact keyed_empty windowSecs
  | append_singleton calls c ih =>
    rw [run_concat]
    exact ih.apply c.2 c.1

/-- No two reported buckets share a namespace and phase. -/
theorem Keyed.nodup_aggregated {a : PodAggregator} (inv : a.Keyed) :
    (a.aggregated.map fun v => (v.namespaceName, v.phase)).Nodup := by
  unfold aggregated Text.sortByTexts
  rw [((List.mergeSort_perm _ _).map _).nodup_iff, List.map_map]
  exact nodup_map_of_keyed (fun b : Bucket PodDims => (b.dims.namespaceName, b.dims.phase))
    (fun p => p.1 ++ "/" ++ p.2) inv.buckets a.buckets.ascending.nodup

/-- No two reported abnormal pods share a namespace and name. -/
theorem Keyed.nodup_abnormalPods {a : PodAggregator} (inv : a.Keyed) (now : Instant) :
    ((a.abnormalPods now).map fun p => (p.1, p.2.1)).Nodup := by
  unfold abnormalPods Text.sortByTexts
  rw [List.map_map, ((List.mergeSort_perm _ _).map _).nodup_iff, List.map_map]
  exact nodup_map_of_keyed (fun e : AbnormalEntry => (e.namespaceName, e.name))
    (fun p => p.1 ++ "/" ++ p.2) inv.abnormal inv.abnormalAscending.nodup

end PodAggregator

/-! ## Pod collectors -/

namespace PodCollector

theorem labels_of_new {namespaces : List String} {a : PodAggregator} {stem : String}
    {c : PodCollector} (built : new namespaces a stem = .ok c) :
    c.countDesc.labels = ["namespace", "phase"] ∧
      c.abnormalDesc.labels = ["namespace", "pod"] := by
  unfold new at built
  split at built
  · cases built
  · cases built
  · rename_i countDesc abnormalDesc madeCount madeAbnormal
    cases built
    exact ⟨Desc.labels_of_make madeCount, Desc.labels_of_make madeAbnormal⟩

/-- A collector over an aggregator whose series are apart gives no family with two metrics of
the same label values. -/
theorem nodup_label_values {c : PodCollector} (inv : c.aggregator.Keyed)
    (countLabels : c.countDesc.labels = ["namespace", "phase"])
    (abnormalLabels : c.abnormalDesc.labels = ["namespace", "pod"]) {gateOpen : Bool}
    {now : Instant} {f : Family} (member : f ∈ c.collect gateOpen now) :
    (f.points.map fun pt => pt.labels.map (·.2)).Nodup := by
  unfold collect at member
  split_ifs at member
  · cases member
  rcases List.mem_append.1 member with counted | timed
  · -- the pod counts, one metric per bucket
    rw [eq_of_mem_ite_nil counted, Desc.label_values_family (by simp [countLabels]), List.map_map]
    refine List.Nodup.of_map (fun ls => (ls.getD 0 "", ls.getD 1 "")) ?_
    rw [List.map_map]
    exact inv.nodup_aggregated
  · -- the abnormal durations, one metric per abnormal pod
    rw [eq_of_mem_ite_nil timed, Desc.label_values_family, List.map_map]
    · refine List.Nodup.of_map (fun ls => (ls.getD 0 "", ls.getD 1 "")) ?_
      rw [List.map_map]
      exact inv.nodup_abnormalPods now
    · rw [abnormalLabels]
      intro s member
      obtain ⟨⟨ns, name, ms⟩, -, rfl⟩ := List.mem_map.1 member
      rfl

end PodCollector

/-! ## Event aggregators -/

namespace EventAggregator

/-- One call on an event aggregator. -/
inductive Call where
  | add (e : Event)
  | update (old new : Event)
  | cleanup
  deriving Repr, DecidableEq

/-- The aggregator after a call at an instant; a cleanup that overflows changes nothing. -/
def apply (a : EventAggregator) (now : Instant) : Call → EventAggregator
  | .add e => a.add e now
  | .update old new => a.update old new now
  | .cleanup =>
    match a.cleanup now with
    | .ok result => result.1
    | .error _ => a

/-- The aggregator after calls, each at its instant. -/
def run (a : EventAggregator) (calls : List (Call × Instant)) : EventAggregator :=
  calls.foldl (fun a c => a.apply c.2 c.1) a

theorem run_concat (a : EventAggregator) (calls : List (Call × Instant)) (c : Call) (t : Instant) :
    a.run (calls ++ [(c, t)]) = (a.run calls).apply t c := by
  rw [run, List.foldl_append]
  rfl

theorem bucketKey_eq_key (e : Event) : e.bucketKey = (dimsOf e).key := rfl

/-- What each call does to the buckets: bucket-map calls that open buckets only under
`<namespace>/<reason>/<kind>` of their dimensions. -/
theorem buckets_apply (a : EventAggregator) (now : Instant) (c : Call) :
    ∃ ops : List (BucketMap.Op EventDims), (a.apply now c).buckets = a.buckets.run ops ∧
      ∀ op ∈ ops, op.OpensKeyed EventDims.key := by
  cases c with
  | add e =>
    exact ⟨[.addOccurrences e.bucketKey (dimsOf e) e.involvedName e.occurrences now], rfl,
      by simp [BucketMap.Op.OpensKeyed, bucketKey_eq_key]⟩
  | update old new =>
    -- an update refreshes its bucket, or contributes what it adds under the new version's key
    dsimp only [EventAggregator.apply, update]
    generalize (if (old.bucketKey == new.bucketKey) = true then new.occurrences - old.occurrences
      else new.occurrences) = delta
    by_cases noGrowth : delta = 0
    · rw [if_pos noGrowth]
      exact ⟨[.refresh new.bucketKey new.involvedName now], rfl,
        by simp [BucketMap.Op.OpensKeyed]⟩
    · rw [if_neg noGrowth]
      exact ⟨[.addOccurrences new.bucketKey (dimsOf new) new.involvedName delta now], rfl,
        by simp [BucketMap.Op.OpensKeyed, bucketKey_eq_key]⟩
  | cleanup =>
    refine ⟨[.cleanup now ((retentionSecs a.windowSecs : Int) * 1000)], ?_,
      by simp [BucketMap.Op.OpensKeyed]⟩
    simp only [EventAggregator.apply, cleanup_unfolds, BucketMap.run_cons, BucketMap.run_nil,
      BucketMap.apply]
    cases a.buckets.cleanup now ((retentionSecs a.windowSecs : Int) * 1000) <;> rfl

/-- The series an event aggregator keeps apart: buckets each under
`<namespace>/<reason>/<kind>` of their dimensions. -/
structure Keyed (a : EventAggregator) : Prop where
  buckets : a.buckets.Keyed EventDims.key

theorem Keyed.apply {a : EventAggregator} (inv : a.Keyed) (now : Instant) (c : Call) :
    (a.apply now c).Keyed := by
  obtain ⟨ops, buckets, opens⟩ := buckets_apply a now c
  constructor
  rw [buckets]
  exact inv.buckets.run opens

theorem keyed_run (windowSecs maxEvents : Nat) (calls : List (Call × Instant)) :
    ((new windowSecs maxEvents).run calls).Keyed := by
  induction calls using List.reverseRecOn with
  | nil => exact ⟨fun _ member => by cases member⟩
  | append_singleton calls c ih =>
    rw [run_concat]
    exact ih.apply c.2 c.1

/-- No two reported buckets share a namespace, reason and kind. -/
theorem Keyed.nodup_aggregated {a : EventAggregator} (inv : a.Keyed) :
    (a.aggregated.map fun v => (v.dims.namespaceName, v.dims.reason, v.dims.kind)).Nodup := by
  unfold aggregated Text.sortByTexts
  rw [((List.mergeSort_perm _ _).map _).nodup_iff, List.map_map]
  exact nodup_map_of_keyed
    (fun b : Bucket EventDims => (b.dims.namespaceName, b.dims.reason, b.dims.kind))
    (fun p => p.1 ++ "/" ++ p.2.1 ++ "/" ++ p.2.2) inv.buckets a.buckets.ascending.nodup

end EventAggregator

/-! ## Event collectors -/

namespace EventCollector

theorem labels_of_new {namespaces : List String} {a : EventAggregator} {stem : String}
    {c : EventCollector} (built : new namespaces a stem = .ok c) :
    c.countDesc.labels = eventLabels ∧ c.uniqueDesc.labels = eventLabels := by
  unfold new at built
  split at built
  · cases built
  · cases built
  · rename_i countDesc uniqueDesc madeCount madeUnique
    cases built
    exact ⟨Desc.labels_of_make madeCount, Desc.labels_of_make madeUnique⟩

/-- A collector over an aggregator whose series are apart gives no family with two metrics of
the same label values. -/
theorem nodup_label_values {c : EventCollector} (inv : c.aggregator.Keyed)
    (countLabels : c.countDesc.labels = eventLabels)
    (uniqueLabels : c.uniqueDesc.labels = eventLabels) {gateOpen : Bool} {f : Family}
    (member : f ∈ c.collect gateOpen) :
    (f.points.map fun pt => pt.labels.map (·.2)).Nodup := by
  unfold collect at member
  dsimp only at member
  split_ifs at member
  · cases member
  -- both families carry namespace, reason, kind and type of each bucket
  have distinct : (c.aggregator.aggregated.map fun b =>
      [b.dims.namespaceName, b.dims.reason, b.dims.kind, b.dims.type]).Nodup := by
    refine List.Nodup.of_map (fun ls => (ls.getD 0 "", ls.getD 1 "", ls.getD 2 "")) ?_
    rw [List.map_map]
    exact inv.nodup_aggregated
  rcases List.mem_cons.1 member with rfl | rest
  · rw [Desc.label_values_family (by simp [countLabels, eventLabels]), List.map_map]
    exact distinct
  · rw [List.mem_singleton.1 rest, Desc.label_values_family (by simp [uniqueLabels, eventLabels]),
      List.map_map]
    exact distinct

theorem aggregator_of_new {namespaces : List String} {a : EventAggregator} {stem : String}
    {c : EventCollector} (built : new namespaces a stem = .ok c) : c.aggregator = a := by
  unfold new at built
  split at built
  · cases built
  · cases built
  · cases built
    rfl

end EventCollector

/-! ## Every run -/

/-- In every state a pod or event aggregator reaches from empty, through any adds, updates,
removals and cleanups: every bucket stands under the key formatted from its dimensions
(`<namespace>/<phase>`, resp. `<namespace>/<reason>/<kind>`), and every abnormal pod under
`<namespace>/<name>`; so no two reported buckets share a namespace and phase (resp. namespace,
reason and kind), no two reported abnormal pods share a namespace and name, and, whatever the
sync flags and the gate, no family a collector over the aggregator gives holds two metrics with
the same label values. -/
theorem aggregator_series_distinct :
    (∀ (windowSecs : Nat) (calls : List (PodAggregator.Call × Instant)),
      let a := ({ windowSecs } : PodAggregator).run calls
      (∀ k b, (k, b) ∈ a.buckets.buckets → k = b.dims.namespaceName ++ "/" ++ b.dims.phase) ∧
      (∀ k e, (k, e) ∈ a.abnormal → k = e.namespaceName ++ "/" ++ e.name) ∧
      (a.aggregated.map fun v => (v.namespaceName, v.phase)).Nodup ∧
      (∀ now, ((a.abnormalPods now).map fun p => (p.1, p.2.1)).Nodup) ∧
      ∀ namespaces stem c, PodCollector.new namespaces a stem = .ok c →
        ∀ sync gateOpen now, ∀ f ∈ ({ c with sync } : PodCollector).collect gateOpen now,
          (f.points.map fun pt => pt.labels.map (·.2)).Nodup) ∧
    (∀ (windowSecs maxEvents : Nat) (calls : List (EventAggregator.Call × Instant)),
      let a := (EventAggregator.new windowSecs maxEvents).run calls
      (∀ k b, (k, b) ∈ a.buckets.buckets →
        k = b.dims.namespaceName ++ "/" ++ b.dims.reason ++ "/" ++ b.dims.kind) ∧
      (a.aggregated.map fun v => (v.dims.namespaceName, v.dims.reason, v.dims.kind)).Nodup ∧
      ∀ namespaces stem c, EventCollector.new namespaces a stem = .ok c →
        ∀ sync gateOpen, ∀ f ∈ ({ c with sync } : EventCollector).collect gateOpen,
          (f.points.map fun pt => pt.labels.map (·.2)).Nodup) := by
  refine ⟨fun windowSecs calls => ?_, fun windowSecs maxEvents calls => ?_⟩
  · intro a
    have inv : a.Keyed := PodAggregator.keyed_run windowSecs calls
    refine ⟨fun k b member => inv.buckets (k, b) member,
      fun k e member => inv.abnormal (k, e) member, inv.nodup_aggregated,
      inv.nodup_abnormalPods, ?_⟩
    intro namespaces stem c built sync gateOpen now f member
    obtain ⟨countLabels, abnormalLabels⟩ := PodCollector.labels_of_new built
    have apart : ({ c with sync } : PodCollector).aggregator.Keyed := by
      rw [← PodCollector.aggregator_of_new built] at inv
      exact inv
    exact PodCollector.nodup_label_values apart countLabels abnormalLabels member
  · intro a
    have inv : a.Keyed := EventAggregator.keyed_run windowSecs maxEvents calls
    refine ⟨fun k b member => inv.buckets (k, b) member, inv.nodup_aggregated, ?_⟩
    intro namespaces stem c built sync gateOpen f member
    obtain ⟨countLabels, uniqueLabels⟩ := EventCollector.labels_of_new built
    have apart : ({ c with sync } : EventCollector).aggregator.Keyed := by
      rw [← EventCollector.aggregator_of_new built] at inv
      exact inv
    exact EventCollector.nodup_label_values apart countLabels uniqueLabels member

/-- Two pods whose namespaces and phases format to the same key, `a/b/c`, and two events whose
namespaces, reasons and kinds format to the same key, `a/b/c/d`: the second of each joins the
bucket the first opened, and no family reports a series twice. -/
theorem colliding_keys_keep_series_apart :
    let p : Pod := ⟨"a", "web", some ⟨some "b/c", []⟩⟩
    let q : Pod := ⟨"a/b", "db", some ⟨some "c", []⟩⟩
    let pods := ({ windowSecs := 300 } : PodAggregator).run [(.add p, ⟨0⟩), (.add q, ⟨1000⟩)]
    let pc : PodCollector :=
      { namespaces := [], aggregator := pods, sync := SyncFlags.unset 1,
        countDesc := ⟨"test_pod_aggregated_count", "Number of pods per namespace and phase",
          ["namespace", "phase"]⟩,
        abnormalDesc := ⟨"test_pod_abnormal_duration_seconds",
          "Seconds since the pod was first observed in an abnormal state", ["namespace", "pod"]⟩ }
    let e : Event := ⟨"a", "b/c", "Warning", "d", "web", some 2⟩
    let e' : Event := ⟨"a", "b", "Normal", "c/d", "db", none⟩
    let events := (EventAggregator.new 300 10).run [(.add e, ⟨0⟩), (.add e', ⟨1000⟩)]
    let ec : EventCollector :=
      { namespaces := [], aggregator := events, sync := SyncFlags.unset 1,
        countDesc := ⟨"test_event_aggregated_count",
          "Event occurrences per namespace, reason and involved kind", eventLabels⟩,
        uniqueDesc := ⟨"test_event_unique_objects",
          "Distinct involved objects per namespace, reason and involved kind", eventLabels⟩ }
    (PodCollector.new [] pods "test" = .ok pc ∧
      ∀ sync gateOpen now, ∀ f ∈ ({ pc with sync } : PodCollector).collect gateOpen now,
        (f.points.map fun pt => pt.labels.map (·.2)).Nodup) ∧
    (EventCollector.new [] events "test" = .ok ec ∧
      ∀ sync gateOpen, ∀ f ∈ ({ ec with sync } : EventCollector).collect gateOpen,
        (f.points.map fun pt => pt.labels.map (·.2)).Nodup) := by
  intro p q pods pc e e' events ec
  have podBuilt : PodCollector.new [] pods "test" = .ok pc := rfl
  have eventBuilt : EventCollector.new [] events "test" = .ok ec := rfl
  exact ⟨⟨podBuilt, (aggregator_series_distinct.1 300 _).2.2.2.2 [] "test" pc podBuilt⟩,
    ⟨eventBuilt, (aggregator_series_distinct.2 300 10 _).2.2 [] "test" ec eventBuilt⟩⟩

end StateMetrics
