import Mathlib
import StateMetrics.Proofs.Entries
import StateMetrics.Crd.Collector

/-! # Gathering reads the cache as a map

A collector gathers its samples in two passes over one reading of its cache, with one buffer
per descriptor: the first pass goes through the cached resources and appends each one's
samples to the buffers of the per-resource descriptors, skipping the count descriptors; the
second pass replaces the buffers of the count descriptors by the counts over all the
resources. The passes amount to a fold per descriptor (`gatherSamples_eq`): a count descriptor
gets the counts over the resources, any other the samples of each resource in turn.

Counting does not depend on the order of the resources, since adding one occurrence of each of
two values to sorted counts gives the same counts in either order (`bump_comm`). So reading the
cached resources in any order gathers the same counts and, per descriptor, the same samples up
to their order: what a collector gathers depends on its cache only as a map from keys to
resources.

Main statement: `gather_follows_cache_map`. -/

namespace StateMetrics

open StateMetrics.Metric

/-! ## The two passes -/

namespace CrdCollector

/-- A fold over the resources that updates one buffer per descriptor is a fold per
descriptor. -/
theorem foldl_zip_map (ds : List Descriptor) (step : Json → Descriptor × List Sample → List Sample)
    (objs : List Json) (buffer : Descriptor → List Sample) :
    objs.foldl (fun buffers obj => (ds.zip buffers).map (step obj)) (ds.map buffer) =
      ds.map fun d => objs.foldl (fun out obj => step obj (d, out)) (buffer d) := by
  induction objs generalizing buffer with
  | nil => rfl
  | cons obj rest ih =>
    simp only [List.foldl_cons, ← List.map_prod_left_eq_zip, List.map_map]
    exact ih _

theorem gatherSamples_eq (ds : List Descriptor) (paths : List String) (objs : List Json) :
    gatherSamples ds paths objs = ds.map fun d => (d,
      if d.kind.isAggregate then d.countSamples objs
      else objs.flatMap fun obj => d.resourceSamples obj (commonValues paths obj)) := by
  rw [gatherSamples, foldl_zip_map]
  rw [← List.map_prod_left_eq_zip, List.map_map, ← List.map_prod_left_eq_zip]
  refine List.map_congr_left fun d _ => ?_
  cases aggregate : d.kind.isAggregate
  · simp [aggregate, List.flatMap_eq_foldl]
  · simp [aggregate]

end CrdCollector

/-! ## Counting in any order -/

namespace Descriptor

theorem bump_of_lt {v u : String} (below : v < u) (n : Nat) (rest : List (String × Nat)) :
    bump v ((u, n) :: rest) = (v, 1) :: (u, n) :: rest := by
  rw [bump, if_pos below]

theorem bump_self (u : String) (n : Nat) (rest : List (String × Nat)) :
    bump u ((u, n) :: rest) = (u, n + 1) :: rest := by
  rw [bump, if_neg (lt_irrefl u), if_pos rfl]

theorem bump_of_gt {v u : String} (above : u < v) (n : Nat) (rest : List (String × Nat)) :
    bump v ((u, n) :: rest) = (u, n) :: bump v rest := by
  rw [bump, if_neg (not_lt.2 above.le), if_neg above.ne']

theorem bump_nil (v : String) : bump v [] = [(v, 1)] := rfl

/-- Counting two values in either order gives the same counts. -/
theorem bump_comm (v w : String) (counts : List (String × Nat)) :
    bump v (bump w counts) = bump w (bump v counts) := by
  induction counts with
  | nil =>
    rcases lt_trichotomy v w with below | rfl | above
    · simp only [bump_nil, bump_of_lt below, bump_of_gt below]
    · rfl
    · simp only [bump_nil, bump_of_lt above, bump_of_gt above]
  | cons e rest ih =>
    obtain ⟨u, n⟩ := e
    -- where each of the two values falls against the first counted one
    rcases lt_trichotomy v u with vu | vu | uv <;> rcases lt_trichotomy w u with wu | wu | uw
    · rcases lt_trichotomy v w with vw | rfl | wv
      · simp only [bump_of_lt vu, bump_of_lt wu, bump_of_lt vw, bump_of_gt vw]
      · rfl
      · simp only [bump_of_lt vu, bump_of_lt wu, bump_of_lt wv, bump_of_gt wv]
    · subst wu
      simp only [bump_of_lt vu, bump_self, bump_of_gt vu]
    · simp only [bump_of_lt vu, bump_of_gt uw, bump_of_gt (vu.trans uw)]
    · subst vu
      simp only [bump_of_lt wu, bump_self, bump_of_gt wu]
    · subst vu wu
      rfl
    · subst vu
      simp only [bump_self, bump_of_gt uw]
    · simp only [bump_of_lt wu, bump_of_gt uv, bump_of_gt (wu.trans uv)]
    · subst wu
      simp only [bump_self, bump_of_gt uv]
    · simp only [bump_of_gt uv, bump_of_gt uw, ih]

/-- The counts of the values at a path do not depend on the order of the resources. -/
theorem countValues_perm (path : String) {objs objs' : List Json} (perm : objs.Perm objs') :
    countValues path objs = countValues path objs' := by
  unfold countValues
  refine perm.foldl_eq' (fun x _ y _ counts => ?_) []
  by_cases xEmpty : (Json.extractString x path).isEmpty <;>
    by_cases yEmpty : (Json.extractString y path).isEmpty <;>
    simp only [xEmpty, yEmpty, Bool.false_eq_true, ↓reduceIte]
  exact bump_comm _ _ _

theorem countSamples_perm (d : Descriptor) {objs objs' : List Json} (perm : objs.Perm objs') :
    d.countSamples objs = d.countSamples objs' := by
  rw [countSamples, countSamples, countValues_perm _ perm]

end Descriptor

/-! ## Gathering -/

/-- A collector gathers one entry per descriptor, in configuration order: a count descriptor
the counts over all the cached resources, any other the samples of each cached resource in
turn, with its common label values. So what it gathers depends on the cache only as a map from
keys to resources: reading the cached resources in any other order gives the same descriptors
in the same order, the same counts, and the same samples up to their order. -/
theorem gather_follows_cache_map (c : CrdCollector) :
    c.gather = c.descriptors.map (fun d => (d,
      if d.kind.isAggregate then d.countSamples c.cache.objects
      else c.cache.objects.flatMap fun o => d.resourceSamples o (commonValues c.commonPaths o))) ∧
    ∀ objs : List Json, objs.Perm c.cache.objects →
      List.Forall₂ (fun e e' => e.1 = e'.1 ∧ e.2.Perm e'.2 ∧ (e.1.kind.isAggregate → e.2 = e'.2))
        c.gather (CrdCollector.gatherSamples c.descriptors c.commonPaths objs) := by
  refine ⟨CrdCollector.gatherSamples_eq _ _ _, fun objs reordered => ?_⟩
  have perm := reordered.symm
  rw [CrdCollector.gather, CrdCollector.gatherSamples_eq, CrdCollector.gatherSamples_eq]
  refine List.forall₂_map_left_iff.2 (List.forall₂_map_right_iff.2
    (List.forall₂_same.2 fun d _ => ?_))
  cases aggregate : d.kind.isAggregate
  · -- samples per resource, in the order of each reading
    simp only [Bool.false_eq_true, ↓reduceIte, false_implies, and_true, true_and]
    exact perm.flatMap_right _
  · simp [d.countSamples_perm perm]

/-- A collector that counts apps by phase and reads their replicas gathers alike from its cache
and from the same two apps read the other way round. -/
theorem reordered_cache_gathers_alike :
    let web := Json.obj [("metadata", .obj [("name", .str "web"), ("namespace", .str "default")]),
      ("status", .obj [("phase", .str "Running")])]
    let db := Json.obj [("metadata", .obj [("name", .str "db"), ("namespace", .str "default")]),
      ("status", .obj [("phase", .str "Pending")])]
    let spec : CrdSpec :=
      { name := "app", gvr := { resource := "apps" }, commonLabels := [("name", "metadata.name")] }
    let c : CrdCollector :=
      { spec, sync := SyncFlags.unset 1,
        cache := ⟨[("default/db", db), ("default/web", web)], by decide⟩,
        descriptors := [
          ⟨"t_app_phase", "phase count of app", .count, ["phase"],
            { kind := "count", name := "phase", path := "status.phase" }⟩,
          ⟨"t_app_replicas", "replicas gauge of app", .gauge, ["name"],
            { kind := "gauge", name := "replicas", path := "spec.replicas" }⟩] }
    [web, db].Perm c.cache.objects ∧
      List.Forall₂ (fun e e' => e.1 = e'.1 ∧ e.2.Perm e'.2 ∧ (e.1.kind.isAggregate → e.2 = e'.2))
        c.gather (CrdCollector.gatherSamples c.descriptors c.commonPaths [web, db]) := by
  intro web db spec c
  have swapped : [web, db].Perm c.cache.objects := List.Perm.swap db web []
  exact ⟨swapped, (gather_follows_cache_map c).2 [web, db] swapped⟩

end StateMetrics
