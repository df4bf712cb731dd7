import SurrealSync.Basic.EventLog
import SurrealSync.Package.Scheduler

namespace react_native_surrealdb.sync_lifecycle

open sync_scheduler (Scheduler)

inductive ApplicationState where
  | active
  | inactive
  | background
  | unknown
deriving DecidableEq

/-- Where the promise chain of a `refreshAuthentication` call is. -/
inductive Chain where
  | unsettled
  /-- before the `then` -/
  | resolved (changed : Bool)
  /-- before the `catch` -/
  | rejected
  /-- before the `finally` -/
  | reacted
  | done
deriving DecidableEq

/-- A refresh and its controller, which is known by its index. -/
structure Refresh where
  status : Nat
  generation : Nat
  aborted : Bool := false
  chain : Chain := .unsettled
deriving DecidableEq

/-- The calls that are made and the events that count, as they happen. An application state is one that begins or ends
the activity. -/
inductive Entry where
  | refreshAuthentication (refresh : Nat)
  | settled (refresh : Nat) (changed : Option Bool)
  | aborted (refresh : Nat)
  | resumeAfterAuthentication (refresh : Nat)
  | onRefreshError (refresh : Nat)
  | idle
  | applicationState
  | stop
  | retryAuthentication
deriving DecidableEq

structure Coordinator where
  started : Bool := false
  active : Bool := false
  generation : Nat := 0
  refreshAttempted : Bool := false
  lastAuthenticationStatus : Option Nat := none
  refresh : Option Nat := none
  subscribedLifecycle : Bool := false
  subscribedScheduler : Bool := false
deriving DecidableEq

/-- Whether there is a `refreshAuthentication`, and the options of the scheduler. -/
structure Options where
  refreshAuthentication : Bool
  scheduler : sync_scheduler.Options

/-- `application` is what the lifecycle reports, and `refreshes` are all calls of `refreshAuthentication`. -/
structure World where
  coordinator : Coordinator
  scheduler : Scheduler
  application : Option ApplicationState
  refreshes : List Refresh
  log : List Entry
deriving DecidableEq

/-- What the scheduler meets when it is started, and the statuses that it publishes meanwhile. -/
structure Startup where
  current : Option Bool
  notified : List (Bool × List Scheduler.SourceEvent)
  events : List Scheduler.SourceEvent
  published : List sync_scheduler.Status

namespace World

def new (application : Option ApplicationState) : World where
  coordinator := {}
  scheduler := .new
  application := application
  refreshes := []
  log := []

variable (options : Options) (self : World)

/-- `this.#refresh?.abort()`, and `this.#refresh = undefined`. -/
def abort : World :=
  match self.coordinator.refresh with
  | none => self
  | some refresh => { self with
      coordinator := { self.coordinator with refresh := none }
      refreshes := self.refreshes.modify refresh fun call => { call with aborted := true }
      log := self.log ++ [.aborted refresh] }

def beginAuthenticationRefresh (status : Nat) : World :=
  if ¬ self.coordinator.started ∨ ¬ self.coordinator.active ∨ ¬ options.refreshAuthentication
      ∨ self.coordinator.refreshAttempted ∨ self.coordinator.refresh.isSome then self
  else { self with
    coordinator := { self.coordinator with refreshAttempted := true, refresh := some self.refreshes.length }
    refreshes := self.refreshes ++ [{ status, generation := self.coordinator.generation }]
    log := self.log ++ [.refreshAuthentication self.refreshes.length] }

def onSchedulerStatus : sync_scheduler.Status → World
  | .idle _ => { self with
      coordinator := { self.coordinator with refreshAttempted := false, lastAuthenticationStatus := none }
      log := self.log ++ [.idle] }
  | .authentication_required status =>
    beginAuthenticationRefresh options
      { self with coordinator := { self.coordinator with lastAuthenticationStatus := some status } } status
  | .stopped | .offline | .syncing _ | .backoff _ _ | .failed _ => self

/-- The scheduler publishes statuses. -/
def publish (published : List sync_scheduler.Status) : World :=
  if self.coordinator.subscribedScheduler then published.foldl (onSchedulerStatus options) self else self

def startScheduler (startup : Startup) : World :=
  publish options { self with
    scheduler := self.scheduler.start options.scheduler startup.current startup.notified startup.events }
    startup.published

def stopScheduler (startup : Startup) : World :=
  publish options { self with scheduler := self.scheduler.stop } startup.published

def setApplicationState (state : ApplicationState) (startup : Startup) : World :=
  if ¬ self.coordinator.started then self
  else
    let active := decide (state = .active)
    if active = self.coordinator.active then self
    else
      let self := abort { self with
        coordinator := { self.coordinator with
          active
          generation := self.coordinator.generation + 1
          refreshAttempted := false }
        log := self.log ++ [.applicationState] }
      if active then self.startScheduler options startup else self.stopScheduler options startup

/-- The lifecycle reports a state to its subscriber. -/
def report (state : ApplicationState) (startup : Startup) : World :=
  let self := { self with application := some state }
  if self.coordinator.subscribedLifecycle then self.setApplicationState options state startup else self

/-- `notified` is what the lifecycle reports to its new subscriber before `subscribe` returns. -/
def start (notified : List (ApplicationState × Startup)) (startup : Startup) : World :=
  if self.coordinator.started then self
  else
    let self := { self with coordinator := { self.coordinator with
      started := true
      generation := self.coordinator.generation + 1
      subscribedScheduler := true } }
    let self := self.onSchedulerStatus options self.scheduler.status
    let self := { self with coordinator := { self.coordinator with subscribedLifecycle := true } }
    let self := notified.foldl (fun self change => report options self change.1 change.2) self
    self.setApplicationState options (self.application.getD .unknown) startup

def stop : World :=
  if ¬ self.coordinator.started then self
  else
    let self := abort { self with
      coordinator := { self.coordinator with
        started := false
        active := false
        generation := self.coordinator.generation + 1
        refreshAttempted := false
        lastAuthenticationStatus := none }
      log := self.log ++ [.stop] }
    { self with
      coordinator := { self.coordinator with subscribedLifecycle := false, subscribedScheduler := false }
      scheduler := self.scheduler.stop }

def retryAuthentication : World :=
  let self := { self with log := self.log ++ [.retryAuthentication] }
  if ¬ self.coordinator.started ∨ ¬ self.coordinator.active then self
  else match self.coordinator.lastAuthenticationStatus with
    | none => self
    | some status =>
      beginAuthenticationRefresh options
        { self with coordinator := { self.coordinator with refreshAttempted := false } } status

def advance (refresh : Nat) (chain : Chain) : World :=
  { self with refreshes := self.refreshes.modify refresh fun call => { call with chain } }

/-- The promise of a refresh settles: with whether the credentials changed, or with an error. -/
def settle (refresh : Nat) (changed : Option Bool) : Option World := do
  let call ← self.refreshes[refresh]?
  if call.chain = .unsettled then
    let self := { self with log := self.log ++ [Entry.settled refresh changed] }
    match changed with
    | some changed => return self.advance refresh (.resolved changed)
    | none => return self.advance refresh .rejected
  else none

def resumeAfterAuthentication (refresh : Nat) (published : List sync_scheduler.Status) : World :=
  publish options { self with
    scheduler := self.scheduler.resumeAfterAuthentication
    log := self.log ++ [.resumeAfterAuthentication refresh] } published

/-- The `then` and the `catch` of a refresh. -/
def react (refresh : Nat) (published : List sync_scheduler.Status) : Option World := do
  let call ← self.refreshes[refresh]?
  let self := self.advance refresh .reacted
  match call.chain with
  | .resolved changed =>
    if changed ∧ ¬ call.aborted ∧ self.coordinator.started ∧ self.coordinator.active
        ∧ call.generation = self.coordinator.generation then
      return self.resumeAfterAuthentication options refresh published
    else return self
  | .rejected =>
    if ¬ call.aborted then return { self with log := self.log ++ [.onRefreshError refresh] } else return self
  | .unsettled | .reacted | .done => none

/-- The `finally` of a refresh. -/
def cleanup (refresh : Nat) : Option World := do
  let call ← self.refreshes[refresh]?
  if call.chain = .reacted then
    let self := self.advance refresh .done
    if self.coordinator.refresh = some refresh then
      return { self with coordinator := { self.coordinator with refresh := none } }
    else return self
  else none

end World

/-- The events of the scheduler that are not calls of the coordinator. -/
def Outside : sync_scheduler.Event → Prop
  | .start _ _ _ | .stop | .resumeAfterAuthentication => False
  | _ => True

/-- A step of the scheduler comes with the statuses that it publishes, whatever these are. -/
inductive Move where
  | start (notified : List (ApplicationState × Startup)) (startup : Startup)
  | stop
  | retryAuthentication
  | application (state : ApplicationState) (startup : Startup)
  | scheduler (event : sync_scheduler.Event) (published : List sync_scheduler.Status)
  | settle (refresh : Nat) (changed : Option Bool)
  | react (refresh : Nat) (published : List sync_scheduler.Status)
  | cleanup (refresh : Nat)

def Interleaving (options : Options) (self : World) : Move → World → Prop
  | .start notified startup, next => next = self.start options notified startup
  | .stop, next => next = self.stop
  | .retryAuthentication, next => next = self.retryAuthentication options
  | .application state startup, next => next = self.report options state startup
  | .scheduler event published, next => Outside event ∧ ∃ scheduler,
      sync_scheduler.Step options.scheduler self.scheduler event scheduler ∧
        next = { self with scheduler }.publish options published
  | .settle refresh changed, next => self.settle refresh changed = some next
  | .react refresh published, next => self.react options refresh published = some next
  | .cleanup refresh, next => self.cleanup refresh = some next

end react_native_surrealdb.sync_lifecycle
