import Mathlib
import StateMetrics.Proofs.Kube.Ordered
import StateMetrics.Proofs.Watch.Known
import StateMetrics.Watch.Run

/-! # Watches hand over ordered objects

A watch makes no object of its own: every change it hands to its target carries objects the
server sent, or earlier versions of them it remembered. Dispatching a report through the known
objects keeps every property that holds of each object reported and remembered so far
(`dispatch_forallObj`). The watcher's reports carry only objects read from the server's
replies, which are ordered at every depth, so whatever the replies are, every object of every
change a watch hands over is ordered (`runWatch_changes_ordered`). -/

namespace StateMetrics

open Kube

/-- Every object a report of the watcher carries satisfies `P`. -/
def WatcherEvent.ForallObj (P : Json → Prop) : WatcherEvent → Prop
  | .applied o | .deleted o => P o
  | .restarted objs => ∀ o ∈ objs, P o

/-- Every object a change carries satisfies `P`. -/
def ResourceEvent.ForallObj (P : Json → Prop) : ResourceEvent → Prop
  | .added o | .deleted o => P o
  | .updated old new => P old ∧ P new

/-- Every object of the pages a list request carries satisfies `P`. -/
def Pending.ForallObj (P : Json → Prop) : Pending → Prop
  | .list _ objects => ∀ o ∈ objects, P o
  | .watch _ => True

/-- Every object of every event among some reports of the watcher satisfies `P`. -/
def ReportsForallObj (P : Json → Prop) (items : List WatcherItem) : Prop :=
  ∀ ev, .ok ev ∈ items → ev.ForallObj P

section Reports

variable {P : Json → Prop}

@[simp] theorem reportsForallObj_nil : ReportsForallObj P [] := fun _ absent => nomatch absent

@[simp] theorem reportsForallObj_cons_error {e : WatcherError} {items : List WatcherItem} :
    ReportsForallObj P (.error e :: items) ↔ ReportsForallObj P items := by
  simp [ReportsForallObj]

@[simp] theorem reportsForallObj_cons_ok {ev : WatcherEvent} {items : List WatcherItem} :
    ReportsForallObj P (.ok ev :: items) ↔ ev.ForallObj P ∧ ReportsForallObj P items := by
  simp [ReportsForallObj]

@[simp] theorem reportsForallObj_append {items more : List WatcherItem} :
    ReportsForallObj P (items ++ more) ↔
      ReportsForallObj P items ∧ ReportsForallObj P more := by
  simp only [ReportsForallObj, List.mem_append]
  constructor
  · intro all
    exact ⟨fun ev member => all ev (.inl member), fun ev member => all ev (.inr member)⟩
  · rintro ⟨first, second⟩ ev (member | member)
    · exact first ev member
    · exact second ev member

end Reports

/-! ## Dispatching keeps the objects -/

section Dispatch

theorem mem_eraseEntry_fst {key : String} {l : List (String × Json)} {e : String × Json}
    (member : e ∈ (ResourceCache.eraseEntry key l).1) : e ∈ l := by
  fun_induction ResourceCache.eraseEntry key l with
  | case1 => cases member
  | case2 => exact .tail _ member
  | case3 k v rest _ rest' removed erased ih =>
    rw [erased] at ih
    rcases List.mem_cons.1 member with rfl | later
    · exact .head _
    · exact .tail _ (ih later)

theorem mem_of_eraseEntry_snd {key : String} {l : List (String × Json)} {v : Json}
    (found : (ResourceCache.eraseEntry key l).2 = some v) : (key, v) ∈ l := by
  fun_induction ResourceCache.eraseEntry key l with
  | case1 => cases found
  | case2 =>
    cases found
    exact .head _
  | case3 k w rest _ rest' removed erased ih =>
    rw [erased] at ih
    exact .tail _ (ih found)

/-- What a restart leaves of the earlier objects is among them. -/
theorem mem_relist_fst {prev : List (String × Json)} {objs : List Json} {e : String × Json}
    (member : e ∈ (KnownObjects.relist prev objs).1) : e ∈ prev := by
  induction objs generalizing prev with
  | nil => exact member
  | cons o rest ih =>
    simp only [KnownObjects.relist] at member
    exact mem_eraseEntry_fst (ih member)

/-- The version a restart pairs with a listed object is among the earlier objects. -/
theorem mem_of_relist_snd {prev : List (String × Json)} {objs : List Json}
    {p : Option Json × Json} {o : Json} (member : p ∈ (KnownObjects.relist prev objs).2)
    (old : p.1 = some o) : ∃ key, (key, o) ∈ prev := by
  induction objs generalizing prev with
  | nil => cases member
  | cons obj rest ih =>
    simp only [KnownObjects.relist, List.mem_cons] at member
    rcases member with rfl | later
    · exact ⟨_, mem_of_eraseEntry_snd old⟩
    · obtain ⟨key, kept⟩ := ih later
      exact ⟨key, mem_eraseEntry_fst kept⟩

theorem mem_foldl_insertSorted {objs : List Json} {es : List (String × Json)}
    {e : String × Json}
    (member : e ∈ objs.foldl (fun es o => insertSorted (resourceKey o) o es) es) :
    e.2 ∈ objs ∨ e ∈ es := by
  induction objs generalizing es with
  | nil => exact .inr member
  | cons o rest ih =>
    rcases ih member with listed | inserted
    · exact .inl (.tail _ listed)
    · rcases mem_insertSorted inserted with rfl | old
      · exact .inl (.head _)
      · exact .inr old

variable {P : Json → Prop}

theorem changeOf_forallObj {old : Option Json} {new : Json} (oldP : ∀ o, old = some o → P o)
    (newP : P new) : (changeOf old new).ForallObj P := by
  cases old with
  | none => exact newP
  | some o => exact ⟨oldP o rfl, newP⟩

/-- Dispatching a report whose objects satisfy `P` through known objects that satisfy it gives
known objects and changes whose objects satisfy it. -/
theorem dispatch_forallObj {k : KnownObjects} {ev : WatcherEvent}
    (known : ∀ e ∈ k.entries, P e.2) (carried : ev.ForallObj P) :
    (∀ e ∈ (dispatch k ev).1.entries, P e.2) ∧
      ∀ c ∈ (dispatch k ev).2.1, c.ForallObj P := by
  cases ev with
  | applied obj =>
    simp only [dispatch, KnownObjects.applied, KnownObjects.erase, KnownObjects.entries_store,
      List.mem_singleton]
    refine ⟨fun e member => ?_, fun c changed => ?_⟩
    · rcases mem_insertSorted member with rfl | kept
      · exact carried
      · exact known e (mem_eraseEntry_fst kept)
    · rw [changed]
      exact changeOf_forallObj (fun o found => known _ (mem_of_eraseEntry_snd found)) carried
  | deleted obj =>
    simp only [dispatch, KnownObjects.deleted, KnownObjects.erase, List.mem_singleton]
    exact ⟨fun e member => known e (mem_eraseEntry_fst member),
      fun c changed => changed ▸ carried⟩
  | restarted objs =>
    simp only [dispatch, KnownObjects.restarted_eq]
    refine ⟨fun e member => ?_, fun c changed => ?_⟩
    · rw [KnownObjects.entries_foldl_store] at member
      rcases mem_foldl_insertSorted member with listed | nothing
      · exact carried _ listed
      · cases nothing
    · simp only [List.mem_append, List.mem_map] at changed
      -- the deletions of the objects that vanished, then the listing against what was known
      rcases changed with ⟨o, ⟨e, vanished, rfl⟩, rfl⟩ | ⟨p, listed, rfl⟩
      · exact known e (mem_relist_fst vanished)
      · have listedObject : p.2 ∈ objs := by
          rw [← KnownObjects.relist_snd_objects k.entries objs]
          exact List.mem_map_of_mem listed
        refine changeOf_forallObj (fun o old => ?_) (carried _ listedObject)
        obtain ⟨key, earlier⟩ := mem_of_relist_snd listed old
        exact known _ earlier

end Dispatch

/-! ## The watcher reports ordered objects -/

theorem pending_start_forallObj (P : Json → Prop) : Pending.start.ForallObj P :=
  fun _ absent => nomatch absent

/-- The lines of a watch reply report ordered objects, and the request after them carries
none. -/
theorem watchLines_ordered (rv : String) (lines : List String) :
    ReportsForallObj (·.isOrdered = true) (watchLines rv lines).1 ∧
      (watchLines rv lines).2.ForallObj (·.isOrdered = true) := by
  fun_induction watchLines rv lines with
  | case1 => exact ⟨reportsForallObj_nil, trivial⟩
  | case2 | case10 => assumption
  | case3 | case12 =>
    -- a failure reported before the reports of the lines after it
    rename_i split ih
    rw [split] at ih
    exact ⟨reportsForallObj_cons_error.2 ih.1, ih.2⟩
  | case4 | case6 | case8 =>
    rename_i decoded _ _ _ _ split ih
    rw [split] at ih
    exact ⟨reportsForallObj_cons_ok.2 ⟨decodeWatchLine_ordered decoded, ih.1⟩, ih.2⟩
  | case5 | case7 | case9 | case11 =>
    -- starting over with a fresh listing
    exact ⟨by simp, pending_start_forallObj _⟩

/-- One reply answers a request with ordered reports, and the next request carries ordered
pages: those before it and the page of the reply. -/
theorem respond_ordered {p : Pending} (pOrdered : p.ForallObj (·.isOrdered = true))
    (r : Reply) :
    ReportsForallObj (·.isOrdered = true) (respond p r).1 ∧
      (respond p r).2.ForallObj (·.isOrdered = true) := by
  cases p with
  | list token objects =>
    simp only [respond]
    split
    · exact ⟨by simp, pending_start_forallObj _⟩
    rename_i l listed
    have allOrdered : ∀ o ∈ objects ++ l.items, o.isOrdered = true := fun o member =>
      (List.mem_append.1 member).elim (pOrdered o) (Reply.listing_items_ordered listed o)
    -- another page to come, the full listing, or a listing without a version
    split
    · exact ⟨reportsForallObj_nil, allOrdered⟩
    · exact ⟨reportsForallObj_cons_ok.2 ⟨allOrdered, reportsForallObj_nil⟩, trivial⟩
    · exact ⟨by simp, pending_start_forallObj _⟩
  | watch rv => exact watchLines_ordered rv r.lines

/-- Whatever the replies, every object the watcher reports is ordered at every depth. -/
theorem runWatcher_ordered {p : Pending} (pOrdered : p.ForallObj (·.isOrdered = true))
    (replies : List Reply) : ReportsForallObj (·.isOrdered = true) (runWatcher p replies).2 := by
  induction replies generalizing p with
  | nil => exact reportsForallObj_nil
  | cons r rest ih =>
    obtain ⟨reported, next⟩ := respond_ordered pOrdered r
    simp only [runWatcher]
    exact reportsForallObj_append.2 ⟨reported, ih next⟩

/-! ## What a watch hands over -/

/-- Every object a watch knows and every object of the changes it has handed over satisfies
`P`. -/
def WatchRun.ForallObj (P : Json → Prop) (st : WatchRun) : Prop :=
  (∀ e ∈ st.known.entries, P e.2) ∧ ∀ c ∈ st.changes, c.ForallObj P

section Run

variable {P : Json → Prop} (collector label : String)

theorem WatchRun.ForallObj.consume {st : WatchRun} (inv : st.ForallObj P) {item : WatcherItem}
    (carried : ReportsForallObj P [item]) : (st.consume collector label item).ForallObj P := by
  cases item with
  | error e => exact inv
  | ok ev =>
    obtain ⟨known, changes⟩ := inv
    -- healing the source touches neither the known objects nor the changes
    obtain ⟨known', changed⟩ := dispatch_forallObj (k := st.known) known
      (reportsForallObj_cons_ok.1 carried).1
    by_cases degraded : st.degraded <;>
      simp only [WatchRun.consume, degraded, if_true] <;>
      exact ⟨known', fun c member => (List.mem_append.1 member).elim (changes c) (changed c)⟩

theorem WatchRun.ForallObj.foldl_consume {st : WatchRun} (inv : st.ForallObj P)
    {items : List WatcherItem} (reported : ReportsForallObj P items) :
    (items.foldl (WatchRun.consume collector label) st).ForallObj P := by
  induction items generalizing st with
  | nil => exact inv
  | cons item rest ih =>
    have split : ReportsForallObj P ([item] ++ rest) := reported
    obtain ⟨first, later⟩ := reportsForallObj_append.1 split
    exact ih (inv.consume collector label first) later

end Run

/-- Whatever replies the server gives, every object a watch knows and every object of every
change it hands to its target is ordered at every depth. -/
theorem runWatch_changes_ordered (collector : String) (gvr : Gvr) (scope : Option String)
    (health : HealthRegistry) (replies : List Reply) :
    let st := (runWatch collector gvr scope health replies).2
    (∀ e ∈ st.known.entries, e.2.isOrdered = true) ∧
      ∀ c ∈ st.changes, c.ForallObj (·.isOrdered = true) := by
  have start : WatchRun.ForallObj (·.isOrdered = true) { health } :=
    ⟨fun _ absent => (nomatch absent), fun _ absent => nomatch absent⟩
  exact start.foldl_consume _ _ (runWatcher_ordered (pending_start_forallObj _) replies)

end StateMetrics
