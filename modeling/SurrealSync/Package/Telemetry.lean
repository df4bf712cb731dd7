import Mathlib.Algebra.BigOperators.Group.List.Basic
import Mathlib.Data.Rat.Floor
import SurrealSync.Basic.Trace

namespace react_native_surrealdb.sync_telemetry

inductive SyncPhase where
  | enqueue
  | native_persistence
  | push
  | pull
  | encode
  | decode
  | transport
  | projection_checkpoint
  | queue_wait
  | scheduler
  | authority
  | native_storage
  | native_encoding
deriving DecidableEq

inductive SyncReason where
  | ok
  | error
  | local_durable
  | authority_accepted
  | authority_conflict
  | authority_rejected
  | locally_visible
  | offline
  | backoff
  | authentication_required
  | scope_changed
  | recovery_required
  | stopped
  | idle
  | syncing
  | failed
deriving DecidableEq

inductive Boundary where
  | start
  | ends
  | state
deriving DecidableEq

inductive Origin where
  | client
  | native
  | server
deriving DecidableEq

inductive Number where
  | finite (value : ℚ)
  | notFinite
deriving DecidableEq

def Number.isSafeInteger : Number → Bool
  | .finite value => value.den = 1 ∧ -(2 ^ 53 - 1) ≤ value ∧ value ≤ 2 ^ 53 - 1
  | .notFinite => false

def finite : Number → ℚ
  | .finite value => max 0 value
  | .notFinite => 0

def safe : Number → Nat
  | .finite value => if Number.isSafeInteger (.finite value) ∧ 0 ≤ value then value.num.toNat else 0
  | .notFinite => 0

/-- What a caller records. A text that is not one of the allowed ones is `none`. -/
structure Input where
  span : Number
  parent : Option Number := none
  commit : Option Number := none
  phase : Option SyncPhase
  boundary : Option Boundary
  origin : Option Origin
  atMs : Number
  durationMs : Option Number := none
  reason : Option SyncReason := none
  bytes : Option Number := none
  responseBytes : Option Number := none
  serverRequest : Option Number := none
deriving DecidableEq

structure SyncTelemetryEvent where
  schemaVersion : Nat
  sequence : Nat
  span : Nat
  parent : Option Nat
  commit : Option Nat
  phase : SyncPhase
  boundary : Boundary
  origin : Origin
  atMs : ℚ
  durationMs : Option ℚ
  reason : Option SyncReason
  bytes : Option Nat
  responseBytes : Option Nat
  serverRequest : Option Nat
deriving DecidableEq

/-- The event of an input, with nothing but the allowed data. -/
def reconstruct (sequence : Nat) (phase : SyncPhase) (input : Input) : SyncTelemetryEvent where
  schemaVersion := 1
  sequence := sequence
  span := safe input.span
  parent := input.parent.map safe
  commit := input.commit.map safe
  phase := phase
  boundary := input.boundary.getD .state
  origin := input.origin.getD .client
  atMs := finite input.atMs
  durationMs := input.durationMs.map finite
  reason := input.reason
  bytes := input.bytes.map safe
  responseBytes := input.responseBytes.map safe
  serverRequest := input.serverRequest.map safe

/-- Where the continuation that a `#pump` began is. `queue.shift()` of an empty queue gives no event. -/
inductive Task where
  /-- the `setTimeout` -/
  | timer
  /-- before `sink.send(event)` -/
  | send (event : Option SyncTelemetryEvent)
  | sending (event : Option SyncTelemetryEvent)
  /-- before the `finally` -/
  | settled
deriving DecidableEq

def Task.event : Task → Option SyncTelemetryEvent
  | .send event | .sending event => event
  | .timer | .settled => none

structure Totals where
  delivered : Nat
  dropped : Nat
  errors : Nat
deriving DecidableEq

/-- Which events the counters of a sink count. `due` are those recorded while it was subscribed, `called` is what its
exporter was called with. -/
structure History where
  due : List SyncTelemetryEvent := []
  delivered : List SyncTelemetryEvent := []
  errors : List SyncTelemetryEvent := []
  dropped : List SyncTelemetryEvent := []
  called : List (Option SyncTelemetryEvent) := []
deriving DecidableEq

/-- `kept` says whether the sink is in `#sinks`. -/
structure Sink where
  queue : List SyncTelemetryEvent := []
  busy : Bool := false
  totals : Totals := ⟨0, 0, 0⟩
  active : Bool := true
  kept : Bool := true
  tasks : List Task := []
  history : History := {}
deriving DecidableEq

namespace Sink

variable (sink : Sink)

def pump : Sink :=
  if sink.busy ∨ ¬ sink.active ∨ sink.queue = [] then sink
  else { sink with busy := true, tasks := sink.tasks ++ [.timer] }

/-- An event is recorded while the sink may be subscribed. -/
def expect (event : SyncTelemetryEvent) : Sink := { sink with history := { sink.history with
  due := if sink.active then sink.history.due ++ [event] else sink.history.due } }

def record (capacity : Nat) (event : SyncTelemetryEvent) : Sink :=
  if capacity ≤ sink.queue.length then { sink with
    totals := { sink.totals with dropped := sink.totals.dropped + 1 }
    history := { sink.history with dropped := sink.history.dropped ++ [event] } }
  else pump { sink with queue := sink.queue ++ [event] }

/-- The sink drops what it has queued, and is no longer active. -/
def deactivate : Sink := { sink with
  active := false
  totals := { sink.totals with dropped := sink.totals.dropped + sink.queue.length }
  queue := []
  history := { sink.history with dropped := sink.history.dropped ++ sink.queue } }

/-- The callback of an event resolves, or throws or rejects. -/
def settle (event : Option SyncTelemetryEvent) (resolved : Bool) : Sink :=
  if resolved then { sink with
    totals := { sink.totals with delivered := sink.totals.delivered + 1 }
    history := { sink.history with delivered := sink.history.delivered ++ event.toList } }
  else { sink with
    totals := { sink.totals with errors := sink.totals.errors + 1 }
    history := { sink.history with errors := sink.history.errors ++ event.toList } }

end Sink

/-- A `flush` or `close` call: it waits for its sinks, has its answer, or has returned. -/
inductive Flush where
  | waiting (closing : Bool)
  | flushed (closing answer : Bool)
  | returned (answer : Bool)
deriving DecidableEq

/-- `sinks` are all sinks that were ever subscribed, in this order. -/
structure Telemetry where
  capacity : Nat
  sinks : List Sink := []
  sequence : Nat := 0
  closed : Bool := false
  lastSchedulerReason : Option SyncReason := none
  lastPushSuccessAtMs : Option ℚ := none
  lastPullSuccessAtMs : Option ℚ := none
  retired : Totals := ⟨0, 0, 0⟩
  flushes : List Flush := []
deriving DecidableEq

namespace Telemetry

def new (capacity : Option Number) : Option Telemetry :=
  match capacity.getD (.finite 64) with
  | .finite value =>
    if Number.isSafeInteger (.finite value) ∧ 1 ≤ value ∧ value ≤ 65536 then some { capacity := value.num.toNat }
    else none
  | .notFinite => none

variable (self : Telemetry)

def subscribe : Option Telemetry :=
  if self.closed then none
  else if 16 ≤ self.sinks.countP (·.kept) then none
  else some { self with sinks := self.sinks ++ [{}] }

/-- A sink goes on as it has become. -/
def update (index : Nat) (sink : Sink) : Telemetry := { self with sinks := self.sinks.set index sink }

def retire (index : Nat) (sink : Sink) : Telemetry :=
  if sink.kept then { self with
    sinks := self.sinks.set index { sink with kept := false }
    retired := {
      delivered := self.retired.delivered + sink.totals.delivered
      dropped := self.retired.dropped + sink.totals.dropped
      errors := self.retired.errors + sink.totals.errors } }
  else self.update index sink

def unsubscribe (index : Nat) : Option Telemetry := do
  let sink ← self.sinks[index]?
  if ¬ sink.active then return self
  else if sink.busy then return self.update index sink.deactivate
  else return self.retire index sink.deactivate

def record (input : Input) : Telemetry :=
  match input.phase with
  | none => self
  | some phase =>
    if self.closed then self
    else
      let event := reconstruct (self.sequence + 1) phase input
      { self with
        sequence := self.sequence + 1
        lastSchedulerReason :=
          if event.phase = .scheduler ∧ event.reason.isSome then event.reason else self.lastSchedulerReason
        lastPushSuccessAtMs :=
          if event.boundary = .ends ∧ event.reason = some .ok ∧ event.phase = .push then some event.atMs
          else self.lastPushSuccessAtMs
        lastPullSuccessAtMs :=
          if event.boundary = .ends ∧ event.reason = some .ok ∧ event.phase = .pull then some event.atMs
          else self.lastPullSuccessAtMs
        sinks := self.sinks.map fun sink =>
          if sink.kept then (sink.expect event).record self.capacity event else sink.expect event }

/-- A task of a sink runs. -/
def run (index task : Nat) : Option Telemetry := do
  let sink ← self.sinks[index]?
  let rest := sink.tasks.eraseIdx task
  match ← sink.tasks[task]? with
  | .timer =>
    if ¬ sink.active then return self.retire index { sink with busy := false, tasks := rest }
    else return self.update index { sink with
      queue := sink.queue.tail
      tasks := rest ++ [.send sink.queue.head?] }
  | .send event => return self.update index { sink with
      tasks := rest ++ [.sending event]
      history := { sink.history with called := sink.history.called ++ [event] } }
  | .sending _ => none
  | .settled =>
    if sink.active then return self.update index (Sink.pump { sink with busy := false, tasks := rest })
    else return self.retire index { sink with busy := false, tasks := rest }

def settle (index task : Nat) (resolved : Bool) : Option Telemetry := do
  let sink ← self.sinks[index]?
  match ← sink.tasks[task]? with
  | .sending event =>
    return self.update index { sink.settle event resolved with tasks := sink.tasks.set task .settled }
  | .timer | .send _ | .settled => none

/-- A `flush` with an invalid deadline throws. -/
def flush (closing : Bool) (deadlineMs : Number) : Telemetry :=
  match deadlineMs with
  | .finite value =>
    if value < 0 ∨ 60000 < value then self else { self with flushes := self.flushes ++ [.waiting closing] }
  | .notFinite => self

/-- A `flush` looks at the sinks, before its deadline or not. -/
def poll (index : Nat) (late : Bool) : Option Telemetry := do
  match ← self.flushes[index]? with
  | .waiting closing =>
    if self.sinks.any fun sink => sink.kept && (sink.busy || !sink.queue.isEmpty) then
      if late then return { self with flushes := self.flushes.set index (.flushed closing false) } else return self
    else return { self with flushes := self.flushes.set index (.flushed closing true) }
  | .flushed _ _ | .returned _ => none

def close (deadlineMs : Number) : Telemetry := flush { self with closed := true } true deadlineMs

/-- What follows a `flush`, which for a `close` is its loop. -/
def resume (index : Nat) : Option Telemetry := do
  match ← self.flushes[index]? with
  | .flushed closing answer =>
    let sinks := if closing then self.sinks.map fun sink => if sink.kept then sink.deactivate else sink else self.sinks
    return { self with flushes := self.flushes.set index (.returned answer), sinks }
  | .waiting _ | .returned _ => none

structure Snapshot where
  sequence : Nat
  closed : Bool
  lastSchedulerReason : Option SyncReason
  lastPushSuccessAtMs : Option ℚ
  lastPullSuccessAtMs : Option ℚ
  capacityPerExporter : Nat
  exporters : Nat
  queued : Nat
  inFlight : Nat
  totals : Totals
deriving DecidableEq

def snapshot : Snapshot :=
  let kept := self.sinks.filter (·.kept)
  { sequence := self.sequence
    closed := self.closed
    lastSchedulerReason := self.lastSchedulerReason
    lastPushSuccessAtMs := self.lastPushSuccessAtMs
    lastPullSuccessAtMs := self.lastPullSuccessAtMs
    capacityPerExporter := self.capacity
    exporters := kept.length
    queued := (kept.map (·.queue.length)).sum
    inFlight := kept.countP (·.busy)
    totals := {
      delivered := self.retired.delivered + (kept.map (·.totals.delivered)).sum
      dropped := self.retired.dropped + (kept.map (·.totals.dropped)).sum
      errors := self.retired.errors + (kept.map (·.totals.errors)).sum } }

inductive Move where
  | subscribe
  | unsubscribe (index : Nat)
  | record (input : Input)
  | run (index task : Nat)
  | settle (index task : Nat) (resolved : Bool)
  | flush (deadlineMs : Number)
  | close (deadlineMs : Number)
  | poll (index : Nat) (late : Bool)
  | resume (index : Nat)
deriving DecidableEq

def step : Move → Option Telemetry
  | .subscribe => some (self.subscribe.getD self)
  | .unsubscribe index => self.unsubscribe index
  | .record input => some (self.record input)
  | .run index task => self.run index task
  | .settle index task resolved => self.settle index task resolved
  | .flush deadlineMs => some (self.flush false deadlineMs)
  | .close deadlineMs => some (self.close deadlineMs)
  | .poll index late => self.poll index late
  | .resume index => self.resume index

end Telemetry

def Interleaving : Telemetry → Telemetry.Move → Telemetry → Prop := fun self move next => self.step move = some next

end react_native_surrealdb.sync_telemetry
