import Mathlib
import StateMetrics.Registry
import StateMetrics.Proofs.Entries

/-! # Building the enabled collectors

The registry builds the names a configuration enables, one after another. What a name
contributes depends on that name alone (`outcome`): an unregistered name fails the build, a
factory's refusal other than being disabled fails it too, a disabled collector contributes
nothing, and a built collector is kept. A name met again is skipped, so the build visits the
distinct names in the order of their first occurrence (`List.eraseDups`): it is a pass over
those names that stops at the first failure (`build_eq_mapM`), and such a pass fails exactly at
its first failing name (`mapM_eq_error_iff`).

Main statement: `builtin_build_visits_first_occurrences`. The built-in factories build the
collectors named as they are registered, so a successful build holds one collector per distinct
name that is not disabled, in order, and never two of one name. -/

namespace StateMetrics

namespace CollectorRegistry

variable (r : CollectorRegistry) (settings : CollectorSettings) (stem : String)

/-- What one enabled name contributes to the build: the collector its factory builds, nothing
when its collector is disabled, or why the build fails. -/
def outcome (name : String) : Except ExporterError (Option Collector) :=
  match findKey? name r.factories with
  | none => .error (.unknownCollector name)
  | some f => match Collector.build f settings stem with
    | .ok c => .ok (some c)
    | .error (.collectorDisabled _) => .ok none
    | .error e => .error e

/-- Whether a name's collector is built: the name is registered and its factory neither fails
nor reports its collector disabled. -/
def builds (name : String) : Bool :=
  match r.outcome settings stem name with
  | .ok (some _) => true
  | _ => false

theorem outcome_eq_some_iff {n : String} {c : Collector} :
    r.outcome settings stem n = .ok (some c) ↔
      ∃ f, findKey? n r.factories = some f ∧ Collector.build f settings stem = .ok c := by
  unfold outcome
  cases found : findKey? n r.factories with
  | none => simp
  | some f =>
    dsimp only
    cases made : Collector.build f settings stem with
    | ok c' => simp [made]
    | error e => cases e <;> simp [made]

/-- A name not seen before contributes its outcome and joins the names seen. -/
theorem buildFrom_cons_unseen {name : String} {seen : List String}
    (fresh : seen.contains name = false) (rest : List String) (built : List Collector) :
    r.buildFrom settings stem (name :: rest) seen built =
      match r.outcome settings stem name with
      | .ok (some c) => r.buildFrom settings stem rest (name :: seen) (built ++ [c])
      | .ok none => r.buildFrom settings stem rest (name :: seen) built
      | .error e => .error e := by
  simp only [buildFrom, fresh, Bool.false_eq_true, ↓reduceIte, outcome]
  cases found : findKey? name r.factories with
  | none => rfl
  | some f =>
    dsimp only
    cases made : Collector.build f settings stem with
    | ok c => rfl
    | error e => cases e <;> rfl

/-- Skipping the names seen and then a fresh name is skipping the names seen with it. -/
theorem filter_unseen_cons (name : String) (seen rest : List String) :
    ((rest.filter fun n => !seen.contains n).filter fun n => !n == name) =
      rest.filter fun n => !(name :: seen).contains n := by
  rw [List.filter_filter]
  congr
  funext n
  by_cases same : n = name <;> simp [same]

/-- Building after the names `seen` is a pass over the unseen names, each taken at its first
occurrence, whose collectors follow those already `built`. -/
theorem buildFrom_eq (names seen : List String) (built : List Collector) :
    r.buildFrom settings stem names seen built =
      ((names.filter fun n => !seen.contains n).eraseDups.mapM (r.outcome settings stem)).map
        (built ++ ·.reduceOption) := by
  induction names generalizing seen built with
  | nil => simp [buildFrom, Except.map, pure, Except.pure]
  | cons name rest ih =>
    cases repeated : seen.contains name with
    | true =>
      have skip : r.buildFrom settings stem (name :: rest) seen built =
          r.buildFrom settings stem rest seen built := by
        simp only [buildFrom, repeated, ↓reduceIte]
      rw [skip, ih, List.filter_cons_of_neg (by simpa using repeated)]
    | false =>
      rw [buildFrom_cons_unseen r settings stem repeated,
        List.filter_cons_of_pos (by simpa using repeated), List.eraseDups_cons,
        filter_unseen_cons, List.mapM_cons]
      -- the rest of the pass is the same whatever the name contributes, unless it fails
      cases r.outcome settings stem name with
      | error e => rfl
      | ok o =>
        cases o with
        | none =>
          dsimp only
          rw [ih]
          cases (List.filter (fun n => !(name :: seen).contains n) rest).eraseDups.mapM
              (r.outcome settings stem) <;>
            simp [Except.map, bind, Except.bind, pure, Except.pure, List.reduceOption_cons_of_none]
        | some c =>
          dsimp only
          rw [ih]
          cases (List.filter (fun n => !(name :: seen).contains n) rest).eraseDups.mapM
              (r.outcome settings stem) <;>
            simp [Except.map, bind, Except.bind, pure, Except.pure, List.reduceOption_cons_of_some]

/-- Building is a pass over the distinct enabled names in order of first occurrence. -/
theorem build_eq_mapM (enabled : List String) :
    r.build enabled settings stem =
      (enabled.eraseDups.mapM (r.outcome settings stem)).map List.reduceOption := by
  simp [build, buildFrom_eq]

/-- Where every factory builds a collector named as it is registered, the collectors of a
successful pass are named by the names that build, in order. -/
theorem names_of_mapM_outcome
    (named : ∀ n c, r.outcome settings stem n = .ok (some c) → c.name = n) {names : List String}
    {os : List (Option Collector)} (mapped : names.mapM (r.outcome settings stem) = .ok os) :
    os.reduceOption.map Collector.name = names.filter (r.builds settings stem) := by
  induction names generalizing os with
  | nil =>
    cases mapped
    rfl
  | cons name rest ih =>
    rw [List.mapM_cons] at mapped
    cases visit : r.outcome settings stem name with
    | error e => simp [visit, bind, Except.bind] at mapped
    | ok o =>
      cases later : rest.mapM (r.outcome settings stem) with
      | error e => simp [visit, later, bind, Except.bind] at mapped
      | ok os' =>
        simp only [visit, later, bind, Except.bind, pure, Except.pure, Except.ok.injEq] at mapped
        subst mapped
        cases o with
        | none =>
          have skipped : r.builds settings stem name = false := by simp [builds, visit]
          rw [List.reduceOption_cons_of_none, ih later,
            List.filter_cons_of_neg (by simp [skipped])]
        | some c =>
          have kept : r.builds settings stem name = true := by simp [builds, visit]
          rw [List.reduceOption_cons_of_some, List.map_cons, ih later,
            List.filter_cons_of_pos kept, named name c visit]

/-- Each built-in factory builds a collector named as it is registered. -/
theorem builtin_name_of_outcome {n : String} {c : Collector}
    (visit : builtin.outcome settings stem n = .ok (some c)) : c.name = n := by
  obtain ⟨f, found, made⟩ := (outcome_eq_some_iff builtin settings stem).1 visit
  have member := mem_of_findKey? found
  simp only [builtin, List.mem_cons, List.mem_nil_iff, Prod.mk.injEq, or_false] at member
  rcases member with ⟨rfl, rfl⟩ | ⟨rfl, rfl⟩ | ⟨rfl, rfl⟩
  · cases set : CrdCollectorSet.new settings.crd.crds stem <;>
      simp [Collector.build, set, Except.map] at made
    rw [← made]
    rfl
  · cases set : EventCollector.ofSettings settings.event stem <;>
      simp [Collector.build, set, Except.map] at made
    rw [← made]
    rfl
  · cases set : PodCollector.ofSettings settings.pod stem <;>
      simp [Collector.build, set, Except.map] at made
    rw [← made]
    rfl

end CollectorRegistry

/-- A pass that can fail fails exactly at its first failing element: every element before it
passes. -/
theorem mapM_eq_error_iff {ε α β : Type} {f : α → Except ε β} {l : List α} {e : ε} :
    l.mapM f = .error e ↔
      ∃ pre x post, l = pre ++ x :: post ∧ (∀ y ∈ pre, ∃ b, f y = .ok b) ∧
        f x = .error e := by
  induction l with
  | nil => simp [pure, Except.pure]
  | cons a rest ih =>
    rw [List.mapM_cons]
    cases first : f a with
    | error e' =>
      simp only [bind, Except.bind, Except.error.injEq]
      constructor
      · rintro rfl
        exact ⟨[], a, rest, rfl, by simp, first⟩
      · rintro ⟨pre, x, post, split, before, fails⟩
        cases pre with
        | nil =>
          obtain ⟨rfl, rfl⟩ := List.cons.inj split
          rw [first] at fails
          exact Except.error.inj fails
        | cons p pre =>
          obtain ⟨same, -⟩ := List.cons.inj split
          obtain ⟨b, passes⟩ := before p List.mem_cons_self
          rw [← same, first] at passes
          cases passes
    | ok b =>
      have lifted : (rest.mapM f >>= fun bs => pure (b :: bs)) = .error e ↔
          rest.mapM f = .error e := by
        cases rest.mapM f <;> simp [bind, Except.bind, pure, Except.pure]
      show (rest.mapM f >>= fun bs => pure (b :: bs)) = .error e ↔ _
      rw [lifted, ih]
      constructor
      · rintro ⟨pre, x, post, rfl, before, fails⟩
        refine ⟨a :: pre, x, post, rfl, fun y member => ?_, fails⟩
        rcases List.mem_cons.1 member with rfl | earlier
        · exact ⟨b, first⟩
        · exact before y earlier
      · rintro ⟨pre, x, post, split, before, fails⟩
        cases pre with
        | nil =>
          -- the first element passes, so it is not where the pass fails
          obtain ⟨rfl, rfl⟩ := List.cons.inj split
          rw [first] at fails
          cases fails
        | cons p pre =>
          obtain ⟨rfl, rest_eq⟩ := List.cons.inj split
          exact ⟨pre, x, post, rest_eq, fun y member => before y (List.mem_cons_of_mem _ member),
            fails⟩

/-- Erasing repeats leaves each element once. -/
theorem nodup_eraseDups {α : Type} [BEq α] [LawfulBEq α] (l : List α) : l.eraseDups.Nodup := by
  cases l with
  | nil => simp
  | cons a rest =>
    rw [List.eraseDups_cons, List.nodup_cons]
    refine ⟨by simp [List.mem_eraseDups], nodup_eraseDups (rest.filter fun b => !b == a)⟩
termination_by l.length
decreasing_by simpa using Nat.lt_succ_of_le (List.length_filter_le (fun b => !b == a) rest)

open CollectorRegistry in
/-- The collectors of a successful build are named by the distinct enabled names that build, in
order of first occurrence. -/
theorem builtin_names_of_build {enabled : List String} {settings : CollectorSettings}
    {stem : String} {cs : List Collector} (built : builtin.build enabled settings stem = .ok cs) :
    cs.map Collector.name = enabled.eraseDups.filter (builtin.builds settings stem) := by
  rw [build_eq_mapM] at built
  cases mapped : enabled.eraseDups.mapM (builtin.outcome settings stem) with
  | error e => simp [mapped, Except.map] at built
  | ok os =>
    simp only [mapped, Except.map, Except.ok.injEq] at built
    subst built
    exact names_of_mapM_outcome builtin settings stem
      (fun _ _ => builtin_name_of_outcome settings stem) mapped

open CollectorRegistry in
/-- The built-in registry builds the enabled names as a pass over the distinct names in order of
first occurrence. It fails with the failure of the first distinct name that is unregistered or
whose factory fails other than by reporting its collector disabled; otherwise it gives one
collector per distinct name that builds, in that order, so no collector is built twice. -/
theorem builtin_build_visits_first_occurrences (enabled : List String)
    (settings : CollectorSettings) (stem : String) :
    builtin.build enabled settings stem =
      (enabled.eraseDups.mapM (builtin.outcome settings stem)).map List.reduceOption ∧
    (∀ e, builtin.build enabled settings stem = .error e ↔
      ∃ pre x post, enabled.eraseDups = pre ++ x :: post ∧
        (∀ y ∈ pre, ∃ o, builtin.outcome settings stem y = .ok o) ∧
        builtin.outcome settings stem x = .error e) ∧
    (∀ cs, builtin.build enabled settings stem = .ok cs →
      cs.map Collector.name = enabled.eraseDups.filter (builtin.builds settings stem) ∧
        (cs.map Collector.name).Nodup) := by
  have pass := build_eq_mapM builtin settings stem enabled
  refine ⟨pass, fun e => ?_, fun cs built => ?_⟩
  · rw [pass, ← mapM_eq_error_iff]
    cases enabled.eraseDups.mapM (builtin.outcome settings stem) <;> simp [Except.map]
  · have names := builtin_names_of_build built
    exact ⟨names, names ▸ (nodup_eraseDups enabled).filter _⟩

/-- A repeated name is built once, at its first occurrence. -/
example : ((CollectorRegistry.builtin.build ["pod", "crd", "pod"] {} "test").map
    (·.map Collector.name)).toOption = some ["pod", "crd"] := by
  decide

end StateMetrics
