import SurrealSync.Basic.LiveSet
import SurrealSync.Basic.Trace

namespace react_native_surrealdb.subscription

inductive LiveSubscriptionStatus where
  | opened
  | error
  | closed
deriving DecidableEq

structure LiveSubscriptionSnapshot (N E : Type) where
  status : LiveSubscriptionStatus
  notification : Option N := none
  error : Option E := none
deriving DecidableEq

/-- What follows an emission in the code that emits. -/
inductive After where
  /-- the `while` of the pump -/
  | loop
  /-- the `finally` of the pump -/
  | finish
  /-- the end of the pump -/
  | ended
  /-- `await this.#query.close(options)` of a `close` call -/
  | close
deriving DecidableEq

/-- An emission that is calling a listener: which loop it is in, the entry at which it goes on, and what follows. -/
inductive Frame (N : Type) where
  | store (index : Nat) (notification : Option N) (after : After)
  | notification (index : Nat) (notification : N) (after : After)
deriving DecidableEq

/-- A call of a listener; a notification listener is told with its entry. -/
inductive Called (N : Type) where
  | store (listener : Nat)
  | notification (entry listener : Nat) (notification : N)
deriving DecidableEq

inductive Pump where
  | idle
  /-- `await this.#query.next()` -/
  | next
  | emitting
  /-- `await this.#query.close()` -/
  | closing
  | ended
deriving DecidableEq

/-- Listeners are numbers, equal where the functions are. `frames` are the emissions under way, the innermost first;
`nextCalls` and `closeCalls` count the calls of the query, `yielded` is what it yielded, `calls` what the listeners were
told and `emissions` how often. -/
structure LiveSubscription (N E : Type) where
  storeListeners : LiveSet Nat
  notificationListeners : LiveSet Nat
  snapshot : LiveSubscriptionSnapshot N E
  closePromise : Bool
  started : Bool
  pump : Pump
  frames : List (Frame N)
  nextCalls : Nat
  closeCalls : Nat
  yielded : List N
  calls : List (Called N)
  emissions : Nat
deriving DecidableEq

namespace LiveSubscription

variable {N E : Type}

def new : LiveSubscription N E where
  storeListeners := []
  notificationListeners := []
  snapshot := { status := .opened }
  closePromise := false
  started := false
  pump := .idle
  frames := []
  nextCalls := 0
  closeCalls := 0
  yielded := []
  calls := []
  emissions := 0

variable (self : LiveSubscription N E)

def isClosed : Bool := self.snapshot.status = .closed

/-- The pump calls `next` and waits for it. -/
def callNext : LiveSubscription N E := { self with pump := .next, nextCalls := self.nextCalls + 1 }

/-- The `finally` of the pump. -/
def finish : LiveSubscription N E := { self with pump := .closing, closeCalls := self.closeCalls + 1 }

/-- When the loop of the pump ends because the subscription is closed, `#setClosed` returns at once. -/
def resume : After → LiveSubscription N E
  | .loop => if self.isClosed then self.finish else self.callNext
  | .finish => self.finish
  | .ended => { self with pump := .ended }
  | .close => { self with closePromise := true, closeCalls := self.closeCalls + 1 }

/-- The second loop of `#emit`, from an entry on. -/
def emitNotification (frames : List (Frame N)) (index : Nat) (notification : N) (after : After) :
    LiveSubscription N E :=
  match LiveSet.next self.notificationListeners index with
  | some (entry, listener) => { self with
      calls := self.calls ++ [.notification entry listener notification]
      frames := .notification (entry + 1) notification after :: frames }
  | none => resume { self with frames } after

/-- The first loop of `#emit`, from an entry on. -/
def emitStore (frames : List (Frame N)) (index : Nat) (notification : Option N) (after : After) :
    LiveSubscription N E :=
  match LiveSet.next self.storeListeners index with
  | some (entry, listener) => { self with
      calls := self.calls ++ [.store listener]
      frames := .store (entry + 1) notification after :: frames }
  | none =>
    match notification with
    | some notification => self.emitNotification frames 0 notification after
    | none => resume { self with frames } after

def emit (notification : Option N) (after : After) : LiveSubscription N E :=
  emitStore { self with emissions := self.emissions + 1 } self.frames 0 notification after

/-- `#setClosed()`, and what follows it. -/
def setClosed (after : After) : LiveSubscription N E :=
  if self.isClosed then self.resume after
  else emit { self with snapshot := { status := .closed, notification := self.snapshot.notification } } none after

/-- The snapshot of an error is told, unless it comes after the closing. -/
def setError (error : E) (after : After) : LiveSubscription N E :=
  if self.isClosed then self.resume after
  else emit { self with snapshot := { status := .error, error := some error } } none after

def start : LiveSubscription N E :=
  if self.started ∨ self.isClosed then self else callNext { self with started := true }

def subscribe (listener : Nat) : LiveSubscription N E :=
  start { self with storeListeners := self.storeListeners.add listener }

def onNotification (listener : Nat) : LiveSubscription N E :=
  start { self with notificationListeners := self.notificationListeners.add listener }

def close : LiveSubscription N E := if self.closePromise then self else self.setClosed .close

/-- How a `next` call settles. -/
inductive Settled (N E : Type) where
  | notification (notification : N)
  | ended
  | error (error : E)
deriving DecidableEq

/-- The pump after its `next` call. -/
def settleNext : Settled N E → LiveSubscription N E
  | .notification notification =>
    emit { self with
      pump := .emitting
      snapshot := { status := .opened, notification := some notification }
      yielded := self.yielded ++ [notification] } (some notification) .loop
  | .ended => setClosed { self with pump := .emitting } .finish
  | .error error => setError { self with pump := .emitting } error .finish

/-- The pump after its `close` call. -/
def settleClose : Option E → LiveSubscription N E
  | none => { self with pump := .ended }
  | some error => setError { self with pump := .emitting } error .ended

/-- The innermost emission goes on after its listener. -/
def returned : Option (LiveSubscription N E) :=
  match self.frames with
  | [] => none
  | .store index notification after :: frames => some (self.emitStore frames index notification after)
  | .notification index notification after :: frames => some (self.emitNotification frames index notification after)

/-- The calls that a listener or other code makes, the return of the listener that runs (or its exception), and the
settlements, which wait until no listener runs. -/
inductive Move (N E : Type) where
  | subscribe (listener : Nat)
  | unsubscribe (listener : Nat)
  | onNotification (listener : Nat)
  | offNotification (listener : Nat)
  | close
  | returned
  | settleNext (settled : Settled N E)
  | settleClose (failure : Option E)
deriving DecidableEq

def step : Move N E → Option (LiveSubscription N E)
  | .subscribe listener => some (self.subscribe listener)
  | .unsubscribe listener => some { self with storeListeners := self.storeListeners.delete listener }
  | .onNotification listener => some (self.onNotification listener)
  | .offNotification listener => some { self with notificationListeners := self.notificationListeners.delete listener }
  | .close => some self.close
  | .returned => self.returned
  | .settleNext settled => if self.frames = [] ∧ self.pump = .next then some (self.settleNext settled) else none
  | .settleClose failure => if self.frames = [] ∧ self.pump = .closing then some (self.settleClose failure) else none

end LiveSubscription

def Interleaving {N E : Type} : LiveSubscription N E → LiveSubscription.Move N E → LiveSubscription N E → Prop :=
  fun self move next => self.step move = some next

end react_native_surrealdb.subscription
