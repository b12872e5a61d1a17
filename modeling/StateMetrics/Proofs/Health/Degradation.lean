import Mathlib
import StateMetrics.Proofs.Entries

/-! # Degradation by sources

A component of the health registry can be degraded by several sources at once, such as the
watches of one collector. The registry keeps two tables: the health of each component, and for
each component the sources that degrade it, each with its latest message. Whether a source
still degrades a component is a matter of the history of calls alone (`degradation`): it was
degraded and has not recovered since.

On every run in which a component is driven only by its sources and by failures, after at most
one registration that comes first, the two tables say what the history says (`Reflects`): the
sources table has a row for the component exactly while some source still degrades it; once
the component has failed it stays unhealthy; and otherwise, when present, it is degraded exactly
while some source still degrades it, with the latest message of one of them, and healthy when
none does. Calls on other components touch neither row, so they may be interleaved freely.

Main statement: `sources_determine_component_health`, over every run from an empty registry. -/

namespace StateMetrics.HealthRegistry

/-- One call on a health registry. -/
inductive Call where
  | register (name : String)
  | update (name : String) (health : ComponentHealth)
  | setHealthy (name : String)
  | setDegraded (name message : String)
  | setUnhealthy (name message : String)
  | setSourceDegraded (name source message : String)
  | setSourceHealthy (name source : String)
  | setReady (ready : Bool)
  deriving Repr, DecidableEq

namespace Call

/-- The component a call acts on; readiness concerns none. -/
def component? : Call → Option String
  | .register n | .update n _ | .setHealthy n | .setDegraded n _ | .setUnhealthy n _
  | .setSourceDegraded n _ _ | .setSourceHealthy n _ => some n
  | .setReady _ => none

/-- How a call changes the message under which `source` degrades `name`: a degradation by the
source records its message, and a recovery of the source clears it. -/
def degradationAfter (name source : String) (current : Option String) : Call → Option String
  | .setSourceDegraded n s m => if n = name ∧ s = source then some m else current
  | .setSourceHealthy n s => if n = name ∧ s = source then none else current
  | _ => current

end Call

/-- The registry after one call. -/
def apply (h : HealthRegistry) : Call → HealthRegistry
  | .register n => h.register n
  | .update n c => h.update n c
  | .setHealthy n => h.setHealthy n
  | .setDegraded n m => h.setDegraded n m
  | .setUnhealthy n m => h.setUnhealthy n m
  | .setSourceDegraded n s m => h.setSourceDegraded n s m
  | .setSourceHealthy n s => h.setSourceHealthy n s
  | .setReady r => h.setReady r

/-- The registry after a sequence of calls. -/
def run (h : HealthRegistry) (calls : List Call) : HealthRegistry := calls.foldl apply h

/-- The message under which `source` still degrades `name` after `calls`: that of its last
degradation, unless the source recovered after it. -/
def degradation (name source : String) (calls : List Call) : Option String :=
  calls.foldl (Call.degradationAfter name source) none

/-- The calls mark `name` unhealthy at some point. -/
def Failed (name : String) (calls : List Call) : Prop := ∃ m, Call.setUnhealthy name m ∈ calls

/-- The calls that act on `name` are degradations and recoveries of its sources, failures, and
registrations, each of which comes before every other call on `name` (so there is at most
one). -/
def SourceDriven (name : String) (calls : List Call) : Prop :=
  (∀ call ∈ calls, call.component? = some name →
    call = .register name ∨ (∃ s m, call = .setSourceDegraded name s m) ∨
      (∃ s, call = .setSourceHealthy name s) ∨ ∃ m, call = .setUnhealthy name m) ∧
  ∀ pre post, calls = pre ++ .register name :: post →
    ∀ call ∈ pre, call.component? ≠ some name

/-- How the rows of `name` reflect the messages `degraded` of the sources that still degrade
it, and whether it has failed. -/
structure Reflects (name : String) (degraded : String → Option String) (failed : Prop)
    (h : HealthRegistry) : Prop where
  /-- The sources row holds the latest message of each source that still degrades `name`. -/
  messages : ∀ s, findKey? s ((findKey? name h.sources).getD []) = degraded s
  /-- The sources row exists exactly while some source degrades `name`. -/
  row : (findKey? name h.sources).isSome ↔ ∃ s, degraded s ≠ none
  /-- A failed component is unhealthy. -/
  unhealthy : failed → (h.component? name).map (·.status) = some .unhealthy
  /-- Otherwise it is degraded with the message of a degrading source, or healthy with no
  source left. -/
  status : ¬ failed → ∀ c, h.component? name = some c →
    (c.status = .degraded ∧ ∃ s m, degraded s = some m ∧ c.message = some m) ∨
      (c.status = .healthy ∧ ∀ s, degraded s = none)

/-! ## What each call does to the rows -/

/-- A list of entries is empty exactly when no key finds anything in it. -/
theorem exists_findKey?_ne_none_iff {α : Type} {l : List (String × α)} :
    (∃ x, findKey? x l ≠ none) ↔ l ≠ [] := by
  cases l with
  | nil => simp
  | cons entry rest =>
    obtain ⟨k, v⟩ := entry
    exact ⟨fun _ => List.cons_ne_nil _ _, fun _ => ⟨k, by simp⟩⟩

/-- The derived comparison of statuses is equality. -/
@[simp] theorem status_beq (a b : ComponentStatus) : (a == b) = decide (a = b) := by
  cases a <;> cases b <;> rfl

theorem component?_update (h : HealthRegistry) (n : String) (c : ComponentHealth) (x : String) :
    (h.update n c).component? x = if x = n then some c else h.component? x :=
  findKey?_insertSorted x n c h.components

@[simp] theorem sources_update (h : HealthRegistry) (n : String) (c : ComponentHealth) :
    (h.update n c).sources = h.sources := rfl

@[simp] theorem component?_with_sources (h : HealthRegistry)
    (l : List (String × List (String × String))) (sorted : Ascending l) (x : String) :
    ({ h with sources := l, sourcesAscending := sorted }).component? x = h.component? x := rfl

@[simp] theorem component?_setSources (h : HealthRegistry) (n : String)
    (rest : List (String × String)) (x : String) :
    (h.setSources n rest).component? x = h.component? x := by
  unfold setSources
  split <;> rfl

theorem sources_setSources (h : HealthRegistry) (n : String) (rest : List (String × String))
    (x : String) :
    findKey? x (h.setSources n rest).sources =
      if x = n then (if rest = [] then none else some rest) else findKey? x h.sources := by
  unfold setSources
  by_cases emptied : rest = []
  · simp [emptied, findKey?_filter_ne]
  · simp [emptied, findKey?_insertSorted]

theorem component?_setSourceDegraded (h : HealthRegistry) (n s m x : String) :
    (h.setSourceDegraded n s m).component? x =
      if x = n ∧ (h.component? n).map (·.status) ≠ some .unhealthy then some (.degraded m)
      else h.component? x := by
  unfold setSourceDegraded
  cases found : h.component? n with
  | none => simp [component?_update, found]
  | some c =>
    by_cases failed : c.status = .unhealthy
    · simp [found, failed]
    · simp [component?_update, found, failed]

theorem sources_setSourceDegraded (h : HealthRegistry) (n s m x : String) :
    findKey? x (h.setSourceDegraded n s m).sources =
      if x = n then some (insertSorted s m ((findKey? n h.sources).getD []))
      else findKey? x h.sources := by
  unfold setSourceDegraded
  simp only [component?_with_sources]
  split
  · split <;> simp [findKey?_insertSorted]
  · simp [findKey?_insertSorted]

/-- A recovery of a source that does not degrade `n` changes nothing. -/
theorem setSourceHealthy_of_absent {h : HealthRegistry} {n s : String}
    (absent : findKey? s ((findKey? n h.sources).getD []) = none) : h.setSourceHealthy n s = h := by
  unfold setSourceHealthy
  cases row : findKey? n h.sources with
  | none => rfl
  | some current => simp_all

/-- A recovery of a source that degrades `n` drops it from the row of `n`, and the row itself
when it was the last; a degraded component takes the message of the first source left, or is
healthy when none is left. -/
theorem setSourceHealthy_of_present {h : HealthRegistry} {n s : String}
    {current : List (String × String)} (row : findKey? n h.sources = some current)
    (present : findKey? s current ≠ none) :
    h.setSourceHealthy n s =
      let rest := current.filter (·.1 != s)
      if (h.component? n).map (·.status) = some .degraded then
        (h.setSources n rest).update n (recoveredHealth rest)
      else h.setSources n rest := by
  have flagged : (findKey? s current).isNone = false := by
    cases found : findKey? s current <;> simp_all
  unfold setSourceHealthy
  simp only [row, flagged, Bool.false_eq_true, if_false]
  cases found : h.component? n with
  | none => simp
  | some c => by_cases degraded : c.status = .degraded <;> simp [degraded]

theorem sources_setSourceHealthy (h : HealthRegistry) (n s x : String) :
    findKey? x (h.setSourceHealthy n s).sources =
      if x = n ∧ findKey? s ((findKey? n h.sources).getD []) ≠ none then
        if ((findKey? n h.sources).getD []).filter (·.1 != s) = [] then none
        else some (((findKey? n h.sources).getD []).filter (·.1 != s))
      else findKey? x h.sources := by
  by_cases present : findKey? s ((findKey? n h.sources).getD []) = none
  · simp [setSourceHealthy_of_absent present, present]
  · cases row : findKey? n h.sources with
    | none => simp [row] at present
    | some current =>
      simp only [row, Option.getD_some] at present ⊢
      rw [setSourceHealthy_of_present row present]
      dsimp only
      rw [apply_ite HealthRegistry.sources]
      simp only [sources_update, ite_self, sources_setSources]
      by_cases emptied : current.filter (·.1 != s) = [] <;> simp [emptied, present]

theorem component?_setSourceHealthy (h : HealthRegistry) (n s x : String) :
    (h.setSourceHealthy n s).component? x =
      if x = n ∧ findKey? s ((findKey? n h.sources).getD []) ≠ none ∧
          (h.component? n).map (·.status) = some .degraded then
        some (recoveredHealth (((findKey? n h.sources).getD []).filter (·.1 != s)))
      else h.component? x := by
  by_cases present : findKey? s ((findKey? n h.sources).getD []) = none
  · simp [setSourceHealthy_of_absent present, present]
  · cases row : findKey? n h.sources with
    | none => simp [row] at present
    | some current =>
      simp only [row, Option.getD_some] at present ⊢
      rw [setSourceHealthy_of_present row present]
      split <;> simp_all [component?_update]

/-- Calls on other components, and readiness, leave the rows of `name` as they were. -/
theorem rows_apply_of_ne {call : Call} {name : String} (other : call.component? ≠ some name)
    (h : HealthRegistry) :
    findKey? name (h.apply call).sources = findKey? name h.sources ∧
      (h.apply call).component? name = h.component? name := by
  cases call with
  | register n | update n _ | setDegraded n _ | setUnhealthy n _ =>
    have different : name ≠ n := fun same => other (by simp [Call.component?, same])
    simp [apply, register, setDegraded, setUnhealthy, component?_update, different]
  | setHealthy n =>
    have different : name ≠ n := fun same => other (by simp [Call.component?, same])
    simp only [apply, setHealthy]
    split
    · split <;> simp [component?_update, different]
    · simp
  | setSourceDegraded n s m =>
    have different : name ≠ n := fun same => other (by simp [Call.component?, same])
    simp [apply, component?_setSourceDegraded, sources_setSourceDegraded, different]
  | setSourceHealthy n s =>
    have different : name ≠ n := fun same => other (by simp [Call.component?, same])
    simp [apply, component?_setSourceHealthy, sources_setSourceHealthy, different]
  | setReady r => simp [apply, setReady, component?]

/-! ## What the calls on the component keep -/

section Own

variable {name : String} {degraded : String → Option String} {failed : Prop} {h : HealthRegistry}

/-- Registering a component that no source degrades and that has not failed makes it healthy,
as nothing degrades it. -/
theorem Reflects.register (inv : Reflects name degraded failed h)
    (fresh : ∀ s, degraded s = none) (notFailed : ¬ failed) :
    Reflects name degraded failed (h.register name) where
  messages := inv.messages
  row := inv.row
  unhealthy := fun nowFailed => absurd nowFailed notFailed
  status := by
    intro _ c found
    simp only [HealthRegistry.register, component?_update, if_true, Option.some.injEq] at found
    subst found
    exact .inr ⟨rfl, fresh⟩

theorem Reflects.setUnhealthy (inv : Reflects name degraded failed h) (m : String)
    {failed' : Prop} (nowFailed : failed') :
    Reflects name degraded failed' (h.setUnhealthy name m) where
  messages := inv.messages
  row := inv.row
  unhealthy := fun _ => by
    simp [HealthRegistry.setUnhealthy, component?_update, ComponentHealth.unhealthy]
  status := fun notFailed => absurd nowFailed notFailed

/-- A degradation by a source records its message, and degrades the component unless it has
failed. -/
theorem Reflects.setSourceDegraded (inv : Reflects name degraded failed h) (s m : String) :
    Reflects name (fun x => if x = s then some m else degraded x) failed
      (h.setSourceDegraded name s m) where
  messages := by
    intro x
    simp [sources_setSourceDegraded, findKey?_insertSorted, inv.messages]
  row := by
    simp only [sources_setSourceDegraded, if_true, Option.isSome_some, true_iff]
    exact ⟨s, by simp⟩
  unhealthy := by
    intro nowFailed
    rw [component?_setSourceDegraded]
    simp [inv.unhealthy nowFailed]
  status := by
    intro notFailed c found
    rw [component?_setSourceDegraded] at found
    split_ifs at found with working
    · cases found
      exact .inl ⟨rfl, s, m, by simp, rfl⟩
    · -- an unhealthy component that has not failed: the invariant rules it out
      simp only [true_and, not_not] at working
      rcases inv.status notFailed c found with ⟨isDegraded, -⟩ | ⟨isHealthy, -⟩ <;>
        simp_all

/-- A recovery of a source that degrades the component, whose row of sources is `current`. -/
theorem Reflects.setSourceHealthy_of_row (inv : Reflects name degraded failed h) {s : String}
    {current : List (String × String)} (row : findKey? name h.sources = some current)
    (absent : ¬ degraded s = none) :
    Reflects name (fun x => if x = s then none else degraded x) failed
      (h.setSourceHealthy name s) := by
  have lookups : ∀ x, findKey? x current = degraded x := by simpa [row] using inv.messages
  have present : findKey? s current ≠ none := by rw [lookups]; exact absent
  have left : ∀ x, findKey? x (current.filter (·.1 != s)) =
      if x = s then none else degraded x := by
    intro x
    rw [findKey?_filter_ne, lookups]
  have newRow : findKey? name (h.setSourceHealthy name s).sources =
      if current.filter (·.1 != s) = [] then none else some (current.filter (·.1 != s)) := by
    rw [sources_setSourceHealthy, row, Option.getD_some]
    simp [present]
  have newComponent : (h.setSourceHealthy name s).component? name =
      if (h.component? name).map (·.status) = some .degraded then
        some (recoveredHealth (current.filter (·.1 != s)))
      else h.component? name := by
    simp [component?_setSourceHealthy, row, present]
  refine ⟨?_, ?_, ?_, ?_⟩
  · intro x
    rw [newRow, ← left x]
    split_ifs with emptied
    · simp [emptied]
    · rfl
  · simp only [← left]
    rw [newRow, exists_findKey?_ne_none_iff]
    split_ifs with emptied <;> simp [emptied]
  · intro nowFailed
    rw [newComponent]
    simp [inv.unhealthy nowFailed]
  · intro notFailed c found
    rw [newComponent] at found
    split_ifs at found with wasDegraded
    · -- a degraded component follows the sources left
      cases rest : current.filter (·.1 != s) with
      | nil =>
        simp only [rest, recoveredHealth, Option.some.injEq] at found
        subst found
        refine .inr ⟨rfl, fun x => ?_⟩
        rw [← left, rest, findKey?_nil]
      | cons entry tail =>
        obtain ⟨s', m'⟩ := entry
        simp only [rest, recoveredHealth, Option.some.injEq] at found
        subst found
        refine .inl ⟨rfl, s', m', ?_, rfl⟩
        rw [← left, rest]
        simp
    · -- a component that is not degraded is healthy, but a source still degrades it
      rcases inv.status notFailed c found with ⟨isDegraded, -⟩ | ⟨-, none⟩
      · simp [found, isDegraded] at wasDegraded
      · exact absurd (none s) absent

/-- A recovery of a source forgets its message; a degraded component takes the message of the
first source left, or is healthy when none is left. -/
theorem Reflects.setSourceHealthy (inv : Reflects name degraded failed h) (s : String) :
    Reflects name (fun x => if x = s then none else degraded x) failed
      (h.setSourceHealthy name s) := by
  by_cases absent : degraded s = none
  · -- the source does not degrade the component, so nothing changes
    have unchanged : (fun x => if x = s then none else degraded x) = degraded := by
      funext x
      split_ifs with same
      · rw [same, absent]
      · rfl
    rw [unchanged, setSourceHealthy_of_absent (by rw [inv.messages]; exact absent)]
    exact inv
  · -- a source that degrades the component is listed in its row
    cases found : findKey? name h.sources with
    | none => exact absurd (by simpa [found] using (inv.messages s).symm) absent
    | some current => exact inv.setSourceHealthy_of_row found absent

/-- Calls on other components keep what the rows of `name` reflect. -/
theorem Reflects.of_ne (inv : Reflects name degraded failed h) {call : Call}
    (other : call.component? ≠ some name) : Reflects name degraded failed (h.apply call) := by
  obtain ⟨sameRow, sameComponent⟩ := rows_apply_of_ne other h
  exact ⟨by simpa [sameRow] using inv.messages, by simpa [sameRow] using inv.row,
    by simpa [sameComponent] using inv.unhealthy, by simpa [sameComponent] using inv.status⟩

end Own

/-! ## The history of a run -/

theorem degradation_concat (name source : String) (calls : List Call) (call : Call) :
    degradation name source (calls ++ [call]) =
      call.degradationAfter name source (degradation name source calls) := by
  simp [degradation, List.foldl_append]

theorem failed_concat {name : String} {calls : List Call} {call : Call} :
    Failed name (calls ++ [call]) ↔ Failed name calls ∨ ∃ m, call = .setUnhealthy name m := by
  simp only [Failed, List.mem_append, List.mem_singleton]
  constructor
  · rintro ⟨m, earlier | last⟩
    · exact .inl ⟨m, earlier⟩
    · exact .inr ⟨m, last.symm⟩
  · rintro (⟨m, earlier⟩ | ⟨m, last⟩)
    · exact ⟨m, .inl earlier⟩
    · exact ⟨m, .inr last.symm⟩

theorem degradationAfter_of_ne {name : String} {call : Call} (other : call.component? ≠ some name)
    (source : String) (current : Option String) :
    call.degradationAfter name source current = current := by
  cases call <;> simp_all [Call.degradationAfter, Call.component?]

/-- Before any call on `name`, no source degrades it and it has not failed. -/
theorem untouched {name : String} {calls : List Call}
    (quiet : ∀ call ∈ calls, call.component? ≠ some name) :
    (∀ s, degradation name s calls = none) ∧ ¬ Failed name calls := by
  refine ⟨fun s => ?_, fun ⟨m, failure⟩ => quiet _ failure (by simp [Call.component?])⟩
  induction calls using List.reverseRecOn with
  | nil => rfl
  | append_singleton calls call ih =>
    rw [degradation_concat, degradationAfter_of_ne (quiet call (by simp)),
      ih fun c member => quiet c (by simp [member])]

theorem SourceDriven.of_concat {name : String} {calls : List Call} {call : Call}
    (driven : SourceDriven name (calls ++ [call])) : SourceDriven name calls :=
  ⟨fun c member => driven.1 c (by simp [member]), fun pre post split =>
    driven.2 pre (post ++ [call]) (by simp [split])⟩

/-- One call keeps what the rows of `name` reflect about the run so far. -/
theorem Reflects.step {name : String} {calls : List Call} {h : HealthRegistry} {call : Call}
    (inv : Reflects name (fun s => degradation name s calls) (Failed name calls) h)
    (driven : SourceDriven name (calls ++ [call])) :
    Reflects name (fun s => degradation name s (calls ++ [call])) (Failed name (calls ++ [call]))
      (h.apply call) := by
  simp only [degradation_concat]
  by_cases mine : call.component? = some name
  · rcases driven.1 call (by simp) mine with rfl | ⟨s, m, rfl⟩ | ⟨s, rfl⟩ | ⟨m, rfl⟩
    · -- a registration comes before every other call on `name`
      obtain ⟨fresh, notFailed⟩ := untouched (driven.2 calls [] rfl)
      have sameFailure : Failed name (calls ++ [.register name]) ↔ Failed name calls := by
        simp [failed_concat]
      simpa [apply, Call.degradationAfter, sameFailure] using inv.register fresh notFailed
    · have sameFailure :
          Failed name (calls ++ [.setSourceDegraded name s m]) ↔ Failed name calls := by
        simp [failed_concat]
      simpa [apply, Call.degradationAfter, sameFailure, eq_comm] using inv.setSourceDegraded s m
    · have sameFailure :
          Failed name (calls ++ [.setSourceHealthy name s]) ↔ Failed name calls := by
        simp [failed_concat]
      simpa [apply, Call.degradationAfter, sameFailure, eq_comm] using inv.setSourceHealthy s
    · simpa [apply, Call.degradationAfter]
        using inv.setUnhealthy m (failed_concat.2 (.inr ⟨m, rfl⟩))
  · have sameFailure : Failed name (calls ++ [call]) ↔ Failed name calls := by
      rw [failed_concat]
      refine or_iff_left_of_imp fun ⟨m, last⟩ => absurd (by simp [last, Call.component?]) mine
    simpa [degradationAfter_of_ne mine, sameFailure] using inv.of_ne mine

/-- Every run from an empty registry in which `name` is driven by its sources keeps what its
rows reflect. -/
theorem reflects_run {name : String} {calls : List Call} (driven : SourceDriven name calls) :
    Reflects name (fun s => degradation name s calls) (Failed name calls)
      (({} : HealthRegistry).run calls) := by
  induction calls using List.reverseRecOn with
  | nil =>
    refine ⟨fun s => rfl, by simp [degradation, run], fun ⟨m, failure⟩ => by simp at failure,
      ?_⟩
    intro _ c found
    simp [run, component?] at found
  | append_singleton calls call ih =>
    rw [run, List.foldl_append]
    exact (ih driven.of_concat).step driven

/-- In every run from an empty registry in which a component is driven only by its sources and
by failures, after at most one registration that comes first: the sources table has a row for
it exactly while some source still degrades it; once it has failed it is unhealthy; and
otherwise, when present, it is degraded exactly while some source still degrades it, with the
latest message of one of them, and healthy exactly when none does. -/
theorem sources_determine_component_health (name : String) (calls : List Call)
    (driven : SourceDriven name calls) :
    let h := ({} : HealthRegistry).run calls
    ((findKey? name h.sources).isSome ↔ ∃ s, degradation name s calls ≠ none) ∧
    (Failed name calls → (h.component? name).map (·.status) = some .unhealthy) ∧
    (¬ Failed name calls → ∀ c, h.component? name = some c →
      (c.status = .degraded ↔ ∃ s, degradation name s calls ≠ none) ∧
      (c.status = .healthy ↔ ∀ s, degradation name s calls = none) ∧
      (c.status = .degraded →
        ∃ s m, degradation name s calls = some m ∧ c.message = some m)) := by
  intro h
  have inv := reflects_run driven
  refine ⟨inv.row, inv.unhealthy, fun notFailed c found => ?_⟩
  rcases inv.status notFailed c found with
    ⟨isDegraded, s, m, message, carried⟩ | ⟨isHealthy, cleared⟩
  · have degrading : degradation name s calls ≠ none := by simp [message]
    refine ⟨⟨fun _ => ⟨s, degrading⟩, fun _ => isDegraded⟩, ?_, fun _ => ⟨s, m, message, carried⟩⟩
    rw [isDegraded]
    exact ⟨fun same => absurd same (by decide), fun cleared => absurd (cleared s) degrading⟩
  · refine ⟨?_, ⟨fun _ => cleared, fun _ => isHealthy⟩, fun same => ?_⟩
    · rw [isHealthy]
      exact ⟨fun same => absurd same (by decide), fun ⟨s, degrading⟩ => absurd (cleared s) degrading⟩
    · rw [isHealthy] at same
      cases same

/-- Two watches of the pod collector degrade it, one recovers: the pod collector stays
degraded with the other's message. -/
theorem sibling_degradation_outlives_recovery :
    let calls := [Call.register "pod",
      .setSourceDegraded "pod" "v1/pods in team-a" "connection reset",
      .setSourceDegraded "pod" "v1/pods in team-b" "forbidden",
      .setSourceHealthy "pod" "v1/pods in team-a"]
    SourceDriven "pod" calls ∧
      ¬ Failed "pod" calls ∧
      (({} : HealthRegistry).run calls).component? "pod" = some (.degraded "forbidden") ∧
      degradation "pod" "v1/pods in team-b" calls = some "forbidden" ∧
      ((findKey? "pod" (({} : HealthRegistry).run calls).sources).isSome ↔
        ∃ s, degradation "pod" s calls ≠ none) := by
  intro calls
  have driven : SourceDriven "pod" calls := by
    refine ⟨fun call member _ => ?_, fun pre post split => ?_⟩
    · simp only [calls, List.mem_cons, List.not_mem_nil, or_false] at member
      rcases member with rfl | rfl | rfl | rfl <;> simp
    -- the registration is the first call, so nothing precedes it
    cases pre with
    | nil => simp
    | cons first pre =>
      simp only [calls, List.cons_append, List.cons.injEq] at split
      have later : Call.register "pod" ∈
          [Call.setSourceDegraded "pod" "v1/pods in team-a" "connection reset",
            .setSourceDegraded "pod" "v1/pods in team-b" "forbidden",
            .setSourceHealthy "pod" "v1/pods in team-a"] := by
        rw [split.2]
        simp
      simp at later
  refine ⟨driven, fun ⟨m, failure⟩ => by simp [calls] at failure, by decide, by decide,
    (sources_determine_component_health "pod" calls driven).1⟩

end StateMetrics.HealthRegistry
