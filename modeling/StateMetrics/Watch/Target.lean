import StateMetrics.Crd.Spec
import StateMetrics.Json.Basic

/-! # Watch targets

A collector watches one resource type, either across the cluster or in each of a list of
namespaces; each watch is a target. A target carries the collector's name, the resource type,
its namespace (none for the whole cluster), which kinds of change it handles, and the index of
the sync flag that its first complete listing sets. A collector is synced when all its flags
are set, and a collector without flags is synced.

Changes are delivered to handlers, sets of callbacks one per kind of change. A collector wraps
each of its callbacks behind the lifecycle gate: while the gate is closed a gated callback drops
its change. -/

namespace StateMetrics

/-- A change to a watched resource. -/
inductive ResourceEvent where
  | added (obj : Json)
  | updated (old new : Json)
  | deleted (obj : Json)
  deriving Inhabited

namespace ResourceEvent

/-- The name of the kind of change. -/
def name : ResourceEvent → String
  | .added _ => "add"
  | .updated .. => "update"
  | .deleted _ => "delete"

end ResourceEvent

/-- Which kinds of change a handler takes. -/
structure Handlers where
  add : Bool := false
  update : Bool := false
  delete : Bool := false
  deriving Repr, BEq, DecidableEq, Inhabited

namespace Handlers

/-- Handlers for every kind of change. -/
def all : Handlers := ⟨true, true, true⟩

/-- Whether the handlers take a change. -/
def takes (h : Handlers) : ResourceEvent → Bool
  | .added _ => h.add
  | .updated .. => h.update
  | .deleted _ => h.delete

/-- The handlers in their structural form. -/
def describe (h : Handlers) : String :=
  "EventHandlerFuncs \x7b add: " ++ toString h.add ++ ", update: " ++ toString h.update ++
    ", delete: " ++ toString h.delete ++ " \x7d"

end Handlers

/-- Callbacks for the three kinds of change, over the state they act on; a kind without a
callback is ignored. -/
structure EventHandlerFuncs (σ : Type) where
  add : Option (Json → σ → σ) := none
  update : Option (Json → Json → σ → σ) := none
  delete : Option (Json → σ → σ) := none

namespace EventHandlerFuncs

variable {σ : Type}

/-- Which kinds of change have a callback: all a watch target shows of its handler. -/
def kinds (h : EventHandlerFuncs σ) : Handlers := ⟨h.add.isSome, h.update.isSome, h.delete.isSome⟩

/-- Runs the callback for the change's kind, if there is one. -/
def handle (h : EventHandlerFuncs σ) (e : ResourceEvent) (s : σ) : σ :=
  match e with
  | .added obj => match h.add with
    | some f => f obj s
    | none => s
  | .updated old new => match h.update with
    | some f => f old new s
    | none => s
  | .deleted obj => match h.delete with
    | some f => f obj s
    | none => s

/-- The callbacks behind the lifecycle gate: each one is wrapped on its own and runs only when
the gate, read as the change arrives, is open. -/
def gated (h : EventHandlerFuncs σ) (mayRun : Bool) : EventHandlerFuncs σ where
  add := h.add.map fun f obj s => if mayRun then f obj s else s
  update := h.update.map fun f old new s => if mayRun then f old new s else s
  delete := h.delete.map fun f obj s => if mayRun then f obj s else s

/-- A gated callback runs its change exactly when the gate is open, whatever the kind. -/
theorem handle_gated (h : EventHandlerFuncs σ) (mayRun : Bool) (e : ResourceEvent) (s : σ) :
    (h.gated mayRun).handle e s = if mayRun then h.handle e s else s := by
  obtain ⟨add, update, delete⟩ := h
  cases e with
  | added obj => cases add <;> cases mayRun <;> rfl
  | updated old new => cases update <;> cases mayRun <;> rfl
  | deleted obj => cases delete <;> cases mayRun <;> rfl

theorem handle_gated_closed (h : EventHandlerFuncs σ) (e : ResourceEvent) (s : σ) :
    (h.gated false).handle e s = s := by
  rw [handle_gated, if_neg Bool.false_ne_true]

theorem handle_gated_open (h : EventHandlerFuncs σ) (e : ResourceEvent) (s : σ) :
    (h.gated true).handle e s = h.handle e s := by
  rw [handle_gated, if_pos rfl]

/-- Gating wraps the callbacks that are set and sets no other. -/
theorem kinds_gated (h : EventHandlerFuncs σ) (mayRun : Bool) : (h.gated mayRun).kinds = h.kinds := by
  simp [kinds, gated]

/-- While the gate is closed a run of changes leaves the state as it was, whichever callbacks
each change meets. -/
theorem foldl_handle_gated_closed {ι : Type} (hs : ι → EventHandlerFuncs σ)
    (changes : List (ι × ResourceEvent)) (s : σ) :
    changes.foldl (fun s d => ((hs d.1).gated false).handle d.2 s) s = s := by
  induction changes with
  | nil => rfl
  | cons d rest ih => rw [List.foldl_cons, handle_gated_closed, ih]

end EventHandlerFuncs

/-- One watch of a collector. -/
structure WatchTarget where
  collector : String
  gvr : Gvr
  scope : Option String
  handlers : Handlers
  syncIndex : Nat
  deriving Repr, BEq, DecidableEq, Inhabited

namespace WatchTarget

/-- One target per namespace, or one for the whole cluster when there are none; their sync
flags are numbered from `firstSync` on. -/
def forNamespaces (collector : String) (gvr : Gvr) (namespaces : List String)
    (handlers : Handlers) (firstSync : Nat := 0) : List WatchTarget :=
  let scopes : List (Option String) := if namespaces.isEmpty then [none] else namespaces.map some
  (scopes.zip (List.range scopes.length)).map fun (ns, i) =>
    { collector, gvr, scope := ns, handlers, syncIndex := firstSync + i }

/-- The resource type in its structural form. -/
def describeGvr (g : Gvr) : String :=
  "GvrConfig \x7b group: " ++ Text.quoted g.group ++ ", version: " ++ Text.quoted g.version ++
    ", resource: " ++ Text.quoted g.resource ++ ", kind: " ++ Text.quoted g.kind ++ " \x7d"

/-- The target in its structural form, given whether its sync flag is set. -/
def describe (t : WatchTarget) (synced : Bool) : String :=
  "WatchTarget \x7b collector: " ++ Text.quoted t.collector ++ ", gvr: " ++ describeGvr t.gvr ++
    ", namespace: " ++ (match t.scope with
      | some ns => "Some(" ++ Text.quoted ns ++ ")"
      | none => "None") ++
    ", handler: " ++ t.handlers.describe ++ ", sync: SyncHandle \x7b synced: " ++
    toString synced ++ " \x7d \x7d"

end WatchTarget

/-- The sync flags of a collector's watches. -/
structure SyncFlags where
  flags : List Bool := []
  deriving Repr, BEq, DecidableEq, Inhabited

namespace SyncFlags

/-- `n` flags, none set. -/
def unset (n : Nat) : SyncFlags := ⟨List.replicate n false⟩

/-- Sets the flag at an index; other indices are ignored. -/
def mark (s : SyncFlags) (i : Nat) : SyncFlags := ⟨s.flags.set i true⟩

/-- Sets every flag. -/
def markAll (s : SyncFlags) : SyncFlags := ⟨s.flags.map fun _ => true⟩

/-- Whether every flag is set. -/
def hasSynced (s : SyncFlags) : Bool := s.flags.all id

/-- Whether the flag at an index is set. -/
def isSet (s : SyncFlags) (i : Nat) : Bool := s.flags.getD i false

end SyncFlags

end StateMetrics
