import Mathlib.Data.Rat.Floor
import SurrealSync.Basic.Trace

namespace react_native_surrealdb.sync_scheduler

inductive Reason where
  | startup
  | local_mutation
  | manual
  | online
  | invalidation
  | periodic
  | retry
  | authentication_refresh
deriving DecidableEq

inductive HttpErrorKind where
  | aborted
  | timeout
  | network
  | http
  | content_type
  | body_limit
  | protocol
deriving DecidableEq

structure HttpError where
  kind : HttpErrorKind
  status : Option Nat
deriving DecidableEq

inductive Status where
  | stopped
  | offline
  | idle (lastSuccessAt : Nat)
  | syncing (reason : Reason)
  | backoff (attempt retryAt : Nat)
  | authentication_required (status : Nat)
  | failed (error : HttpError)
deriving DecidableEq

inductive Cycle where
  | pull
  | sync
deriving DecidableEq

structure Pending where
  cycle : Cycle
  reason : Reason
deriving DecidableEq

/-- The controller of the running call, by its identity. -/
structure Active where
  controller : Nat
  cycle : Cycle
deriving DecidableEq

/-- A `#drain` that awaits its adapter call. -/
structure Call where
  controller : Nat
  generation : Nat
  pending : Pending
deriving DecidableEq

structure Options where
  baseRetryMs : Nat
  maxRetryMs : Nat
  /-- Whether there is a source of invalidations. -/
  invalidations : Bool

structure Scheduler where
  status : Status
  started : Bool
  online : Bool
  pending : Option Pending
  active : Option Active
  retryAttempt : Nat
  retryTimer : Bool
  periodicTimer : Bool
  stopInvalidations : Bool
  authenticationBlocked : Bool
  terminalBlocked : Bool
  generation : Nat
  /-- The adapter calls that have not settled, also those begun before a stop. -/
  calls : List Call
  /-- How many calls were begun, and so the identity of the next controller. -/
  controllers : Nat
deriving DecidableEq

def Scheduler.new : Scheduler where
  status := .stopped
  started := false
  online := true
  pending := none
  active := none
  retryAttempt := 0
  retryTimer := false
  periodicTimer := false
  stopInvalidations := false
  authenticationBlocked := false
  terminalBlocked := false
  generation := 0
  calls := []
  controllers := 0

def prefer (current : Option Pending) (incoming : Pending) : Option Pending :=
  match current with
  | some current => if current.cycle = .sync then some current else some incoming
  | none => some incoming

/-- What a rejected adapter call throws: an error of the transport, or anything else. -/
def normalize : Option HttpError → HttpError
  | some error => error
  | none => ⟨.protocol, none⟩

def retryable (error : HttpError) : Bool :=
  match error.kind with
  | .network | .timeout => true
  | .http => error.status.getD 0 ∈ [408, 425, 429, 500, 502, 503, 504]
  | .aborted | .content_type | .body_limit | .protocol => false

/-- The status of a failure that asks for new credentials. -/
def authenticationStatus (failure : HttpError) : Option Nat :=
  if failure.kind = .http ∧ (failure.status = some 401 ∨ failure.status = some 403) then failure.status else none

/-- The full jitter of `#scheduleRetry`; a sample that is no number counts as one. -/
def retryDelay (options : Options) (attempt : Nat) (sample : Option ℚ) : Nat :=
  let cap := min options.maxRetryMs (options.baseRetryMs * 2 ^ min (attempt - 1) 30)
  match sample with
  | some sample => ⌊max 0 (min sample 1) * cap⌋₊
  | none => cap

namespace Scheduler

variable (options : Options)

def publish (self : Scheduler) (status : Status) : Scheduler := { self with status }

def cancelRetry (self : Scheduler) : Scheduler :=
  if self.retryTimer then { self with retryTimer := false, retryAttempt := 0 } else self

/-- Begins the adapter call of this work. -/
def begin (self : Scheduler) (pending : Pending) : Scheduler :=
  publish { self with
    pending := none
    active := some ⟨self.controllers, pending.cycle⟩
    calls := self.calls ++ [⟨self.controllers, self.generation, pending⟩]
    controllers := self.controllers + 1 } (.syncing pending.reason)

/-- `#drain` up to its await. -/
def drain (self : Scheduler) : Scheduler :=
  match self.pending with
  | none => self
  | some pending => if ¬ self.started ∨ ¬ self.online ∨ self.active.isSome then self else self.begin pending

def queue (self : Scheduler) (cycle : Cycle) (reason : Reason) (explicit : Bool) : Scheduler :=
  if ¬ self.started then self
  else
    let self := if explicit ∨ self.pending.map (·.cycle) ≠ some .sync then { self with pending := some ⟨cycle, reason⟩ }
      else self
    if ¬ self.online then self.publish .offline
    else if self.authenticationBlocked ∨ self.terminalBlocked ∨ self.active.isSome ∨ self.retryTimer then self
    else self.drain

def requestSync (self : Scheduler) (reason : Reason) : Scheduler :=
  ({ self with authenticationBlocked := false, terminalBlocked := false }).cancelRetry.queue .sync reason true

def resumeAfterAuthentication (self : Scheduler) : Scheduler :=
  ({ self with authenticationBlocked := false, terminalBlocked := false }).cancelRetry.queue .sync
    .authentication_refresh true

def requestPull (self : Scheduler) (reason : Reason) : Scheduler := self.queue .pull reason false

def schedulePeriodic (self : Scheduler) : Scheduler :=
  if ¬ self.started ∨ self.periodicTimer then self else { self with periodicTimer := true }

/-- What a source of invalidations reports. -/
inductive SourceEvent where
  | hint
  | failure
deriving DecidableEq

def report (self : Scheduler) : SourceEvent → Scheduler
  | .hint => self.requestPull .invalidation
  | .failure => self.schedulePeriodic

/-- The events are those that the source reports before its `start` returns. -/
def startInvalidations (self : Scheduler) (events : List SourceEvent) : Scheduler :=
  if self.stopInvalidations ∨ ¬ options.invalidations then self
  else { events.foldl report self with stopInvalidations := true }

def stopInvalidationSource (self : Scheduler) : Scheduler := { self with stopInvalidations := false }

def setOnline (self : Scheduler) (online : Bool) (events : List SourceEvent) : Scheduler :=
  if ¬ self.started ∨ self.online = online then self
  else
    let self := { self with online }
    if ¬ online then
      let self := match self.active with
        | some active => { self with pending := prefer self.pending ⟨active.cycle, .online⟩ }
        | none => self
      self.cancelRetry.stopInvalidationSource.publish .offline
    else (self.startInvalidations options events).queue .sync .online false

def scheduleRetry (self : Scheduler) (now : Nat) (sample : Option ℚ) : Scheduler :=
  let self := { self with retryAttempt := self.retryAttempt + 1 }
  let delay := retryDelay options self.retryAttempt sample
  { self.publish (.backoff self.retryAttempt (now + delay)) with retryTimer := true }

/-- `current` is what the connectivity reports, if there is one, and `notified` what it tells its new
subscriber before `subscribe` returns. -/
def start (self : Scheduler) (current : Option Bool) (notified : List (Bool × List SourceEvent))
    (events : List SourceEvent) : Scheduler :=
  if self.started then self
  else
    let self := { self with
      started := true
      generation := self.generation + 1
      authenticationBlocked := false
      terminalBlocked := false
      online := current ≠ some false }
    let self := notified.foldl (fun self change => setOnline options self change.1 change.2) self
    if ¬ self.online then { self with pending := some ⟨.sync, .startup⟩ }.publish .offline
    else (self.startInvalidations options events).queue .sync .startup true

def clearTimers (self : Scheduler) : Scheduler := { self.cancelRetry with periodicTimer := false }

def stop (self : Scheduler) : Scheduler :=
  if ¬ self.started then self
  else ({ self with started := false, pending := none, active := none }).clearTimers.stopInvalidationSource.publish
    .stopped

/-- The `catch` of `#drain`, for a call of this start. -/
def fail (self : Scheduler) (call : Call) (error : Option HttpError) (now : Nat) (sample : Option ℚ) : Scheduler :=
  if ¬ self.online then { self with pending := prefer self.pending call.pending }.publish .offline
  else
    let failure := normalize error
    if failure.kind = .aborted then self
    else match authenticationStatus failure with
      | some status => { self with authenticationBlocked := true }.publish (.authentication_required status)
      | none =>
        if ¬ retryable failure then { self with terminalBlocked := true, pending := none }.publish (.failed failure)
        else { self with pending := prefer self.pending ⟨call.pending.cycle, .retry⟩ }.scheduleRetry options now sample

/-- The `try` and `catch` of `#drain` after its await. -/
def resume (self : Scheduler) (call : Call) (result : Except (Option HttpError) Unit) (now : Nat) (sample : Option ℚ) :
    Scheduler :=
  if ¬ self.started ∨ call.generation ≠ self.generation then self
  else match result with
    | .ok () => ({ self with retryAttempt := 0 }.publish (.idle now)).schedulePeriodic
    | .error error => self.fail options call error now sample

/-- The `finally` of `#drain`. -/
def release (self : Scheduler) (call : Call) : Scheduler :=
  let self := if self.active.map (·.controller) = some call.controller then { self with active := none } else self
  if self.started ∧ call.generation = self.generation ∧ ¬ self.retryTimer ∧ ¬ self.authenticationBlocked
      ∧ ¬ self.terminalBlocked then self.drain
  else self

/-- A call settles, and its `#drain` runs to its end. -/
def settle (self : Scheduler) (call : Call) (result : Except (Option HttpError) Unit) (now : Nat) (sample : Option ℚ) :
    Scheduler :=
  let self := { self with calls := self.calls.filter fun other => other.controller ≠ call.controller }
  (self.resume options call result now sample).release call

end Scheduler

open Scheduler

/-- What can happen to a scheduler. -/
inductive Event where
  | start (current : Option Bool) (notified : List (Bool × List SourceEvent)) (events : List SourceEvent)
  | stop
  | requestSync (reason : Reason)
  | requestPull (reason : Reason)
  | resumeAfterAuthentication
  | connectivity (online : Bool) (events : List SourceEvent)
  | source (event : SourceEvent)
  | retryTimer
  | periodicTimer
  | settled (call : Call) (result : Except (Option HttpError) Unit) (now : Nat) (sample : Option ℚ)

/-- A timer fires only while it is armed, and a call settles once. -/
inductive Step (options : Options) : Scheduler → Event → Scheduler → Prop where
  | start {self : Scheduler} (current : Option Bool) (notified : List (Bool × List SourceEvent))
      (events : List SourceEvent) :
    Step options self (.start current notified events) (self.start options current notified events)
  | stop {self : Scheduler} : Step options self .stop self.stop
  | requestSync {self : Scheduler} (reason : Reason) : Step options self (.requestSync reason) (self.requestSync reason)
  | requestPull {self : Scheduler} (reason : Reason) : Step options self (.requestPull reason) (self.requestPull reason)
  | resumeAfterAuthentication {self : Scheduler} :
    Step options self .resumeAfterAuthentication self.resumeAfterAuthentication
  | connectivity {self : Scheduler} (online : Bool) (events : List SourceEvent) :
    Step options self (.connectivity online events) (self.setOnline options online events)
  | source {self : Scheduler} (event : SourceEvent) : Step options self (.source event) (self.report event)
  | retryTimer {self : Scheduler} (harmed : self.retryTimer) :
    Step options self .retryTimer { self with retryTimer := false }.drain
  | periodicTimer {self : Scheduler} (harmed : self.periodicTimer) :
    Step options self .periodicTimer ({ self with periodicTimer := false }.requestPull .periodic)
  | settled {self : Scheduler} {call : Call} (hcall : call ∈ self.calls) (result : Except (Option HttpError) Unit)
      (now : Nat) (sample : Option ℚ) :
    Step options self (.settled call result now sample) (self.settle options call result now sample)

abbrev Run (options : Options) : Scheduler → List (Trace.Edge Scheduler Event) → Scheduler → Prop :=
  Trace.Run (Step options)

end react_native_surrealdb.sync_scheduler
