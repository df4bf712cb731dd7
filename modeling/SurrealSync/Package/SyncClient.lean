import SurrealSync.Basic.Trace
import SurrealSync.Package.WindowStore

open react_native_surrealdb.sync_read
open react_native_surrealdb.sync_window
open surrealdb_rn_core.sync_read (Cursor Bootstrap Changes)

namespace react_native_surrealdb.sync_window

variable {W : Type} [DecidableEq W]

inductive WindowOperation where
  | request
  | snapshot
  | changes
  | start
  | applyResponse
  | cancel (subscriptionId : String)

/-- Only `cancel` is allowed after the scope was withdrawn. -/
def WindowOperation.allowBlocked : WindowOperation → Bool
  | .cancel _ => true
  | .request | .snapshot | .changes | .start | .applyResponse => false

/-- The stores that are refreshed after a mutation: those of the subscription, or all of them. -/
def WindowOperation.refreshes : WindowOperation → String → Bool
  | .request | .snapshot | .changes => fun _ => false
  | .start | .applyResponse => fun _ => true
  | .cancel subscriptionId => (· = subscriptionId)

/-- A store that closes leaves the set of stores. It ignores all that is done to the set, and so stays in the
list here. -/
structure ExperimentalSyncWindowClient (W : Type) where
  closed : Bool
  blocked : Option Failure
  stores : List (ExperimentalSyncWindowStore W)

namespace ExperimentalSyncWindowClient

def new : ExperimentalSyncWindowClient W := ⟨false, none, []⟩

def check (client : ExperimentalSyncWindowClient W) (allowBlocked : Bool) : Except Failure Unit :=
  if client.closed then .error (.other "Subscription client is closed")
  else match client.blocked with
    | some error => if allowBlocked then .ok () else .error error
    | none => .ok ()

def createStore (client : ExperimentalSyncWindowClient W) (subscriptionId : String) :
    Except Failure (ExperimentalSyncWindowClient W) := do
  client.check false
  return { client with stores := client.stores ++ [.new subscriptionId] }

def invalidateScope (client : ExperimentalSyncWindowClient W) (error : Failure) : ExperimentalSyncWindowClient W :=
  { client with blocked := some error, stores := client.stores.map (·.invalidateScope error) }

def close (client : ExperimentalSyncWindowClient W) : ExperimentalSyncWindowClient W :=
  { client with closed := true, stores := client.stores.map (·.close) }

/-- The end of a mutation. -/
def refresh (client : ExperimentalSyncWindowClient W) (operation : WindowOperation) : ExperimentalSyncWindowClient W :=
  { client with
    stores := client.stores.map fun store => if operation.refreshes store.subscriptionId then store.refresh else store }

end ExperimentalSyncWindowClient

end react_native_surrealdb.sync_window

namespace react_native_surrealdb.sync

variable {V W : Type} [DecidableEq V] [DecidableEq W]

/-- What a native call can resolve to. -/
inductive Payload (V W : Type) where
  | bootstrap (bootstrap : Bootstrap V)
  | changes (changes : Changes V)
  | frame (frame : WindowFrame W)
  | windowChanges (changes : WindowChanges W)
  | other

inductive Kind where
  | readView
  | readSnapshot
  | readChanges
  | readRecord
  | pendingWindow
  | enqueueBounded
  | applyPullResponse
  | window (client : Nat) (operation : WindowOperation)

/-- The decoder of the call accepts the payload. -/
def Kind.decodes : Kind → Payload V W → Bool
  | .readSnapshot, .bootstrap _ => true
  | .readRecord, .bootstrap _ => true
  | .readChanges, .changes _ => true
  | .window _ .snapshot, .frame _ => true
  | .window _ .changes, .windowChanges _ => true
  | .readSnapshot, _ => false
  | .readRecord, _ => false
  | .readChanges, _ => false
  | .window _ .snapshot, _ => false
  | .window _ .changes, _ => false
  | _, _ => true

/-- A store or window client that closes leaves its set. It ignores all that is done to the set, and so stays in
the list here. -/
structure ExperimentalSyncClient (V W : Type) where
  scopeBlocked : Option SyncReadScopeError
  closed : Bool
  readStores : List (ExperimentalSyncReadStore V)
  windowClients : List (ExperimentalSyncWindowClient W)

namespace ExperimentalSyncClient

def new : ExperimentalSyncClient V W := ⟨none, false, [], []⟩

def readFailure (client : ExperimentalSyncClient V W) (error : Failure) : ExperimentalSyncClient V W :=
  match error with
  | .scope blocked =>
    { client with
      scopeBlocked := some blocked
      readStores := client.readStores.map (·.invalidateScope blocked)
      windowClients := client.windowClients.map (·.invalidateScope (.scope blocked)) }
  | .other _ => client

def createWindowClient (client : ExperimentalSyncClient V W) : ExperimentalSyncClient V W :=
  let window := match client.scopeBlocked with
    | some blocked => ExperimentalSyncWindowClient.new.invalidateScope (.scope blocked)
    | none => .new
  { client with windowClients := client.windowClients ++ [window] }

def createReadStore (client : ExperimentalSyncClient V W) (maxBatches : Nat)
    (bounded : 1 ≤ maxBatches ∧ maxBatches ≤ 128) : ExperimentalSyncClient V W :=
  let store := match client.scopeBlocked with
    | some blocked => (ExperimentalSyncReadStore.new maxBatches bounded).invalidateScope blocked
    | none => .new maxBatches bounded
  { client with readStores := client.readStores ++ [store] }

def close (client : ExperimentalSyncClient V W) : ExperimentalSyncClient V W :=
  { client with
    closed := true
    readStores := client.readStores.map (·.close)
    windowClients := client.windowClients.map (·.close) }

/-- The checks before the native call. -/
def begin (client : ExperimentalSyncClient V W) : Kind → Except Failure Unit
  | .readView | .pendingWindow | .enqueueBounded =>
    match client.scopeBlocked with
    | some blocked => .error (.scope blocked)
    | none => if client.closed then .error (.other "Sync client is closed") else .ok ()
  | .readSnapshot | .readChanges | .readRecord =>
    match client.scopeBlocked with
    | some blocked => .error (.scope blocked)
    | none => .ok ()
  | .applyPullResponse => .ok ()
  | .window index operation =>
    match client.windowClients[index]? with
    | some window => window.check operation.allowBlocked
    | none => .error (.other "unknown window client")

/-- What a window call makes of the outcome of its native call. -/
def windowResult (window : ExperimentalSyncWindowClient W) (index : Nat) (operation : WindowOperation)
    (outcome : Except Failure (Payload V W)) : Except Failure (Payload V W) := do
  let payload ← outcome
  Except.refuse (¬ (Kind.window index operation).decodes payload) (.other "Invalid subscription payload")
  window.check operation.allowBlocked
  return payload

/-- The rest of a window call, and of the mutation around it. -/
def settleWindow (client : ExperimentalSyncClient V W) (index : Nat) (operation : WindowOperation)
    (outcome : Except Failure (Payload V W)) : ExperimentalSyncClient V W × Except Failure (Payload V W) :=
  match client.windowClients[index]? with
  | none => (client, .error (.other "unknown window client"))
  | some window =>
    match windowResult window index operation outcome with
    | .ok payload =>
      ({ client with windowClients := client.windowClients.modify index (·.refresh operation) }, .ok payload)
    | .error (.scope blocked) =>
      let client := { client with
        windowClients := client.windowClients.modify index (·.invalidateScope (.scope blocked)) }
      (client.readFailure (.scope blocked), .error (.scope blocked))
    | .error (.other message) => (client.readFailure (.other message), .error (.other message))

/-- The rest of a call once its native call is settled. `unavailable` is what the checks of the native client
and of the signal find then. -/
def settle (client : ExperimentalSyncClient V W) (kind : Kind) (outcome : Except Failure (Payload V W))
    (unavailable : Bool) : ExperimentalSyncClient V W × Except Failure (Payload V W) :=
  match kind, outcome with
  | .window index operation, outcome => client.settleWindow index operation outcome
  | _, .error error => (client.readFailure error, .error error)
  | .readView, .ok payload | .pendingWindow, .ok payload | .enqueueBounded, .ok payload =>
    match client.scopeBlocked with
    | some blocked => (client, .error (.scope blocked))
    | none =>
      if client.closed ∨ unavailable then (client, .error (.other "Sync client is closed")) else (client, .ok payload)
  | kind, .ok payload =>
    if kind.decodes payload then (client, .ok payload)
    else (client, .error (.other "Invalid sync read protocol v1 payload"))

end ExperimentalSyncClient

/-! ### Calls in flight -/

inductive CallState (V W : Type) where
  | inFlight
  | settled (result : Except Failure (Payload V W))

structure Call (V W : Type) where
  kind : Kind
  state : CallState V W

/-- A pump of a read store at an await: a call of the client, or the delay. -/
structure ReadPump where
  store : Nat
  controller : Nat
  await : sync_read.Await
  call : Nat

structure WindowPump where
  client : Nat
  store : Nat
  controller : Nat
  await : sync_window.Await
  call : Nat

structure System (V W : Type) where
  client : ExperimentalSyncClient V W
  calls : List (Call V W)
  readPumps : List ReadPump
  windowPumps : List WindowPump

inductive Act (V W : Type) where
  /-- A call of the application. Its other checks, of the arguments and of the binary, may refuse it. -/
  | call (kind : Kind) (refused : Bool)
  | settle (call : Nat) (outcome : Except Failure (Payload V W)) (unavailable : Bool)
  | createReadStore (maxBatches : Nat) (bounded : 1 ≤ maxBatches ∧ maxBatches ≤ 128)
  | watchCollection (store : Nat)
  | unsubscribeRead (store listener : Nat)
  | refreshRead (store : Nat)
  | closeRead (store : Nat)
  | invalidateRead (store : Nat) (error : SyncReadScopeError)
  | createWindowClient
  | createStore (client : Nat) (subscriptionId : String)
  | subscribe (client store : Nat)
  | unsubscribeWindow (client store listener : Nat)
  | refreshWindow (client store : Nat)
  | closeStore (client store : Nat)
  | closeWindow (client : Nat)
  | invalidateWindow (client : Nat) (error : Failure)
  | close
  | resumeRead (pump : Nat)
  | resumeWindow (pump : Nat)

namespace System

def new : System V W := ⟨.new, [], [], []⟩

/-- A new call, in flight unless it is refused. -/
def begun (system : System V W) (kind : Kind) (refused : Bool) : System V W :=
  let state : CallState V W :=
    if refused then .settled (.error (.other "refused"))
    else match system.client.begin kind with
      | .ok () => .inFlight
      | .error error => .settled (.error error)
  { system with calls := system.calls ++ [⟨kind, state⟩] }

/-- The result a pump waits for, when its call is settled. -/
def resultOf (system : System V W) (call : Nat) : Option (Except Failure (Payload V W)) :=
  match system.calls[call]? with
  | some ⟨_, .settled result⟩ => some result
  | _ => none

/-- A read store after an operation of the application; a new controller calls `readSnapshot`. -/
def withRead (system : System V W) (index : Nat)
    (operation : ExperimentalSyncReadStore V → ExperimentalSyncReadStore V) : System V W :=
  match system.client.readStores[index]? with
  | none => system
  | some store =>
    let next := operation store
    let system := { system with
      client := { system.client with readStores := system.client.readStores.set index next } }
    if store.controllers < next.controllers then
      let pump := ⟨index, store.controllers, .readSnapshot, system.calls.length⟩
      { system.begun .readSnapshot false with readPumps := system.readPumps ++ [pump] }
    else system

/-- The pump of a new controller of a window store calls `snapshot`. -/
def launchWindow (system : System V W) (index store controller : Nat) : System V W :=
  let pump := ⟨index, store, controller, .snapshot, system.calls.length⟩
  { system.begun (.window index .snapshot) false with windowPumps := system.windowPumps ++ [pump] }

/-- The pumps of the controllers that the stores of a window client have got. -/
def launchWindows (system : System V W) (index : Nat)
    (stores : List ((ExperimentalSyncWindowStore W × ExperimentalSyncWindowStore W) × Nat)) : System V W :=
  stores.foldl (fun system entry =>
    if entry.1.1.controllers < entry.1.2.controllers then system.launchWindow index entry.2 entry.1.1.controllers
    else system) system

/-- A window store after an operation of the application. -/
def withWindow (system : System V W) (index store : Nat)
    (operation : ExperimentalSyncWindowStore W → ExperimentalSyncWindowStore W) : System V W :=
  match system.client.windowClients[index]? with
  | none => system
  | some window =>
    match window.stores[store]? with
    | none => system
    | some old =>
      let next := operation old
      let window := { window with stores := window.stores.set store next }
      let system := { system with
        client := { system.client with windowClients := system.client.windowClients.set index window } }
      if old.controllers < next.controllers then system.launchWindow index store old.controllers else system

/-- The outcome of a call as the pump of a read store reads it. -/
def bootstrapOf (result : Except Failure (Payload V W)) : Except Failure (Bootstrap V) :=
  match result with
  | .ok (.bootstrap bootstrap) => .ok bootstrap
  | .ok _ => .error (.other "unexpected payload")
  | .error error => .error error

def changesOf (result : Except Failure (Payload V W)) : Except Failure (Changes V) :=
  match result with
  | .ok (.changes changes) => .ok changes
  | .ok _ => .error (.other "unexpected payload")
  | .error error => .error error

def frameOf (result : Except Failure (Payload V W)) : Except Failure (WindowFrame W) :=
  match result with
  | .ok (.frame frame) => .ok frame
  | .ok _ => .error (.other "unexpected payload")
  | .error error => .error error

def windowChangesOf (result : Except Failure (Payload V W)) : Except Failure (WindowChanges W) :=
  match result with
  | .ok (.windowChanges changes) => .ok changes
  | .ok _ => .error (.other "unexpected payload")
  | .error error => .error error

/-- The next segment of the pump of a read store, when what it waits for is there. -/
def readSegment (system : System V W) (pump : ReadPump) (store : ExperimentalSyncReadStore V) :
    Option (ExperimentalSyncReadStore V × sync_read.Await) :=
  match pump.await with
  | .readSnapshot => (system.resultOf pump.call).map fun result =>
      store.afterReadSnapshot pump.controller (bootstrapOf result)
  | .readChanges cursor => (system.resultOf pump.call).map fun result =>
      store.afterReadChanges pump.controller cursor (changesOf result)
  | .readPollDelay cursor => some (store.again pump.controller cursor)
  | .finished => none

def windowSegment (system : System V W) (pump : WindowPump) (store : ExperimentalSyncWindowStore W) :
    Option (ExperimentalSyncWindowStore W × sync_window.Await) :=
  match pump.await with
  | .snapshot => (system.resultOf pump.call).map fun result =>
      store.afterSnapshot pump.controller (frameOf result)
  | .changes _ => (system.resultOf pump.call).map fun result =>
      store.afterChanges pump.controller (windowChangesOf result)
  | .delay cursor => some (store.again pump.controller cursor)
  | .finished => none

def resumeRead (system : System V W) (index : Nat) : System V W :=
  match system.readPumps[index]? with
  | none => system
  | some pump =>
    match system.client.readStores[pump.store]? with
    | none => system
    | some store =>
      match system.readSegment pump store with
      | none => system
      | some (next, await) =>
        let moved := { system with
          client := { system.client with readStores := system.client.readStores.set pump.store next }
          readPumps := system.readPumps.set index { pump with await, call := system.calls.length } }
        match await with
        | .readChanges _ => moved.begun .readChanges false
        | _ => moved

def resumeWindow (system : System V W) (index : Nat) : System V W :=
  match system.windowPumps[index]? with
  | none => system
  | some pump =>
    match system.client.windowClients[pump.client]? with
    | none => system
    | some window =>
      match window.stores[pump.store]? with
      | none => system
      | some store =>
        match system.windowSegment pump store with
        | none => system
        | some (next, await) =>
          let window := { window with stores := window.stores.set pump.store next }
          let moved := { system with
            client := { system.client with windowClients := system.client.windowClients.set pump.client window }
            windowPumps := system.windowPumps.set index { pump with await, call := system.calls.length } }
          match await with
          | .changes _ => moved.begun (.window pump.client .changes) false
          | _ => moved

/-- The stores of a window client before and after a step, with their numbers. -/
def storesAround (before after : ExperimentalSyncClient V W) (index : Nat) :
    List ((ExperimentalSyncWindowStore W × ExperimentalSyncWindowStore W) × Nat) :=
  match before.windowClients[index]?, after.windowClients[index]? with
  | some old, some next => (old.stores.zip next.stores).zipIdx
  | _, _ => []

/-- A native call is settled, and with it the call of the client. -/
def settle (system : System V W) (index : Nat) (outcome : Except Failure (Payload V W)) (unavailable : Bool) :
    System V W :=
  match system.calls[index]? with
  | some ⟨kind, .inFlight⟩ =>
    let (client, result) := system.client.settle kind outcome unavailable
    let moved := { system with client, calls := system.calls.set index ⟨kind, .settled result⟩ }
    match kind with
    | .window index _ => moved.launchWindows index (storesAround system.client client index)
    | _ => moved
  | _ => system

def step (system : System V W) : Act V W → System V W
  | .call kind refused => system.begun kind refused
  | .settle call outcome unavailable => system.settle call outcome unavailable
  | .createReadStore maxBatches bounded => { system with client := system.client.createReadStore maxBatches bounded }
  | .watchCollection store => system.withRead store fun store =>
      match store.watchCollection with
      | .ok (next, _) => next
      | .error _ => store
  | .unsubscribeRead store listener => system.withRead store (·.unsubscribe listener)
  | .refreshRead store => system.withRead store fun store =>
      match store.refresh with
      | .ok next => next
      | .error _ => store
  | .closeRead store => system.withRead store (·.close)
  | .invalidateRead store error => system.withRead store (·.invalidateScope error)
  | .createWindowClient => { system with client := system.client.createWindowClient }
  | .createStore client subscriptionId =>
    match system.client.windowClients[client]? with
    | none => system
    | some window =>
      match window.createStore subscriptionId with
      | .ok next => { system with
          client := { system.client with windowClients := system.client.windowClients.set client next } }
      | .error _ => system
  | .subscribe client store => system.withWindow client store fun store =>
      match store.subscribe with
      | .ok (next, _) => next
      | .error _ => store
  | .unsubscribeWindow client store listener => system.withWindow client store (·.unsubscribe listener)
  | .refreshWindow client store => system.withWindow client store (·.refresh)
  | .closeStore client store => system.withWindow client store (·.close)
  | .closeWindow client => { system with
      client := { system.client with windowClients := system.client.windowClients.modify client (·.close) } }
  | .invalidateWindow client error => { system with
      client := { system.client with
        windowClients := system.client.windowClients.modify client (·.invalidateScope error) } }
  | .close => { system with client := system.client.close }
  | .resumeRead pump => system.resumeRead pump
  | .resumeWindow pump => system.resumeWindow pump

abbrev Run (first : System V W) (edges : List (Trace.Edge (System V W) (Act V W))) (last : System V W) : Prop :=
  Trace.Run (fun system act next => next = system.step act) first edges last

end System

end react_native_surrealdb.sync
