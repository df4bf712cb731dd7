import SurrealSync.Package.ReadStore

open react_native_surrealdb.sync_read (Failure SyncReadScopeError)

namespace react_native_surrealdb.sync_window

structure WindowCursor where
  processEpoch : String
  subscriptionId : String
  revision : UInt64
deriving DecidableEq

/-- `content` is the snapshot, the request and the cancellation mark of a frame. -/
structure WindowFrame (W : Type) where
  content : W
  cursor : WindowCursor
deriving DecidableEq

structure WindowBatch (W : Type) where
  beforeRevision : UInt64
  revision : UInt64
  content : W

inductive WindowChanges (W : Type) where
  | reset_required (frame : WindowFrame W)
  | batches (cursor : WindowCursor) (batches : List (WindowBatch W))

inductive WindowEvent (W : Type) where
  | frame (frame : WindowFrame W)
  | loading
  | error (error : Failure) (invalidated : Bool)
  | closed

variable {W : Type}

/-- The frame an event shows. -/
def WindowEvent.shown : WindowEvent W → Option (WindowFrame W)
  | .frame shown => some shown
  | .loading => none
  | .error .. => none
  | .closed => none

/-- Listeners and controllers are numbered in the order they are made, and `log` is what the listeners were
told. -/
structure ExperimentalSyncWindowStore (W : Type) where
  subscriptionId : String
  listeners : List Nat
  frame : Option (WindowFrame W)
  controller : Option Nat
  aborted : List Nat
  closed : Bool
  blocked : Bool
  watched : Nat
  controllers : Nat
  log : List (Nat × WindowEvent W)

/-- Where a pump waits next. -/
inductive Await where
  | snapshot
  | changes (cursor : WindowCursor)
  | delay (cursor : WindowCursor)
  | finished

namespace ExperimentalSyncWindowStore

def new (subscriptionId : String) : ExperimentalSyncWindowStore W where
  subscriptionId
  listeners := []
  frame := none
  controller := none
  aborted := []
  closed := false
  blocked := false
  watched := 0
  controllers := 0
  log := []

def getSnapshot (store : ExperimentalSyncWindowStore W) : Option (WindowFrame W) := store.frame

def notify (store : ExperimentalSyncWindowStore W) (listener : Nat) (event : WindowEvent W) :
    ExperimentalSyncWindowStore W :=
  { store with log := store.log ++ [(listener, event)] }

def stop (store : ExperimentalSyncWindowStore W) : ExperimentalSyncWindowStore W :=
  { store with aborted := store.controller.toList ++ store.aborted, controller := none }

/-- A new controller, whose pump then waits for the snapshot. -/
def start (store : ExperimentalSyncWindowStore W) : ExperimentalSyncWindowStore W :=
  { store with controller := some store.controllers, controllers := store.controllers + 1 }

def current (store : ExperimentalSyncWindowStore W) (controller : Nat) : Prop :=
  store.controller = some controller ∧ controller ∉ store.aborted ∧ store.closed = false ∧ store.blocked = false

instance (store : ExperimentalSyncWindowStore W) (controller : Nat) : Decidable (store.current controller) :=
  inferInstanceAs (Decidable (_ ∧ _ ∧ _ ∧ _))

/-- The result is the store and the number of the new listener. -/
def subscribe (store : ExperimentalSyncWindowStore W) : Except Failure (ExperimentalSyncWindowStore W × Nat) :=
  if store.closed ∨ store.blocked then .error (.other "Window store is unavailable")
  else
    let listener := store.watched
    let store := { store with listeners := store.listeners ++ [listener], watched := store.watched + 1 }
    match store.controller, store.frame with
    | some _, some frame => .ok (store.notify listener (.frame frame), listener)
    | some _, none => .ok (store, listener)
    | none, _ => .ok (store.start, listener)

/-- What `subscribe` returns for a listener. -/
def unsubscribe (store : ExperimentalSyncWindowStore W) (listener : Nat) : ExperimentalSyncWindowStore W :=
  let store := { store with listeners := store.listeners.filter (· ≠ listener) }
  if store.listeners = [] then store.stop else store

variable [DecidableEq W]

/-- No listener calls the store, so that the checks before each of them have one outcome. -/
def emit (store : ExperimentalSyncWindowStore W) (event : WindowEvent W) : ExperimentalSyncWindowStore W :=
  if event.shown.isSome ∧ (store.closed ∨ store.blocked ∨ store.frame ≠ event.shown) then store
  else { store with log := store.log ++ store.listeners.map (·, event) }

/-- The lines that `refresh`, `close` and `invalidateScope` share. -/
def withdraw (store : ExperimentalSyncWindowStore W) (event : WindowEvent W) : ExperimentalSyncWindowStore W :=
  ({ store.stop with frame := none } : ExperimentalSyncWindowStore W).emit event

def refresh (store : ExperimentalSyncWindowStore W) : ExperimentalSyncWindowStore W :=
  if store.closed ∨ store.blocked then store
  else
    let store := store.withdraw .loading
    if store.listeners ≠ [] ∧ store.controller = none ∧ ¬ store.closed ∧ ¬ store.blocked then store.start else store

def invalidateScope (store : ExperimentalSyncWindowStore W) (error : Failure) : ExperimentalSyncWindowStore W :=
  if store.closed ∨ store.blocked then store
  else ({ store with blocked := true } : ExperimentalSyncWindowStore W).withdraw (.error error true)

def close (store : ExperimentalSyncWindowStore W) : ExperimentalSyncWindowStore W :=
  if store.closed then store
  else { (({ store with closed := true } : ExperimentalSyncWindowStore W).withdraw .closed) with listeners := [] }

/-! ### The pump, between its awaits -/

/-- The end of the pump. -/
def finish (store : ExperimentalSyncWindowStore W) (controller : Nat) : ExperimentalSyncWindowStore W :=
  if store.controller = some controller then { store with controller := none } else store

/-- The handler of what is thrown in the pump. -/
def caught (store : ExperimentalSyncWindowStore W) (controller : Nat) (error : Failure) :
    ExperimentalSyncWindowStore W :=
  if store.current controller then
    match error with
    | .scope blocked => store.invalidateScope (.scope blocked)
    | .other message => store.emit (.error (.other message) false)
  else store

def fail (store : ExperimentalSyncWindowStore W) (controller : Nat) (error : Failure) :
    ExperimentalSyncWindowStore W × Await :=
  ((store.caught controller error).finish controller, .finished)

/-- The head of the loop. -/
def again (store : ExperimentalSyncWindowStore W) (controller : Nat) (cursor : WindowCursor) :
    ExperimentalSyncWindowStore W × Await :=
  if store.current controller then (store, .changes cursor) else (store.finish controller, .finished)

/-- A new frame, and the event for it. -/
def install (store : ExperimentalSyncWindowStore W) (frame : WindowFrame W) : ExperimentalSyncWindowStore W :=
  ({ store with frame := some frame } : ExperimentalSyncWindowStore W).emit (.frame frame)

def afterSnapshot (store : ExperimentalSyncWindowStore W) (controller : Nat)
    (initial : Except Failure (WindowFrame W)) : ExperimentalSyncWindowStore W × Await :=
  match initial with
  | .error error => store.fail controller error
  | .ok initial =>
    if ¬ store.current controller then (store.finish controller, .finished)
    else (store.install initial).again controller initial.cursor

/-- The loop over the batches. It returns early, with `false`, when the pump is no longer the current one. -/
def installBatches (store : ExperimentalSyncWindowStore W) (controller : Nat) (cursor : WindowCursor) :
    List (WindowBatch W) → ExperimentalSyncWindowStore W × Bool
  | [] => (store, true)
  | batch :: batches =>
    if ¬ store.current controller then (store, false)
    else
      (store.install ⟨batch.content, { cursor with revision := batch.revision }⟩).installBatches controller cursor batches

def afterChanges (store : ExperimentalSyncWindowStore W) (controller : Nat)
    (result : Except Failure (WindowChanges W)) : ExperimentalSyncWindowStore W × Await :=
  match result with
  | .error error => store.fail controller error
  | .ok result =>
    if ¬ store.current controller then (store.finish controller, .finished)
    else match result with
      | .reset_required frame => (store.install frame, .delay frame.cursor)
      | .batches cursor batches =>
        match store.installBatches controller cursor batches with
        | (store, false) => (store.finish controller, .finished)
        | (store, true) => if batches = [] then (store, .delay cursor) else store.again controller cursor

end ExperimentalSyncWindowStore

end react_native_surrealdb.sync_window
