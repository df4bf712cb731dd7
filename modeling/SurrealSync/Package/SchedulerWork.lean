import Mathlib.Data.List.Nodup
import SurrealSync.Package.Scheduler

namespace react_native_surrealdb.sync_scheduler

open Scheduler

variable {options : Options} {self : Scheduler}

/-- What every operation keeps: the running call is the one unsettled call of this start, and timers and
pending work exist only where they may. -/
structure Consistent (scheduler : Scheduler) : Prop where
  fresh : ∀ call ∈ scheduler.calls, call.controller < scheduler.controllers
  distinct : (scheduler.calls.map (·.controller)).Nodup
  generations : ∀ call ∈ scheduler.calls, call.generation ≤ scheduler.generation
  tracked : scheduler.started → ∀ call ∈ scheduler.calls, call.generation = scheduler.generation →
    scheduler.active = some ⟨call.controller, call.pending.cycle⟩
  running : ∀ active, scheduler.active = some active →
    ∃ call ∈ scheduler.calls, call.generation = scheduler.generation ∧ call.controller = active.controller
  stopped : scheduler.started = false →
    scheduler.active = none ∧ scheduler.pending = none ∧ scheduler.retryTimer = false ∧ scheduler.periodicTimer = false
  retry : scheduler.retryTimer → scheduler.started ∧ scheduler.online ∧ scheduler.active = none
  blocked : scheduler.started → scheduler.authenticationBlocked ∨ scheduler.terminalBlocked →
    scheduler.active = none ∧ scheduler.retryTimer = false

/-- Pending work that may run is on its way. -/
def Progresses (self : Scheduler) : Prop :=
  self.started → self.online → self.authenticationBlocked = false → self.terminalBlocked = false →
    self.pending.isSome → self.active.isSome ∨ self.retryTimer

theorem consistent_new : Consistent .new := by
  constructor <;> simp [Scheduler.new]

/-- A drain begins the pending call, or there is nothing it may begin. -/
theorem drain_cases (self : Scheduler) :
    (self.drain = self ∧ (self.pending = none ∨ self.started = false ∨ self.online = false ∨ self.active.isSome)) ∨
      ∃ pending, self.pending = some pending ∧ self.started ∧ self.online ∧ self.active = none ∧
        self.drain = self.begin pending := by
  unfold drain
  cases hpending : self.pending with
  | none => simp
  | some pending =>
    dsimp only
    split
    · rename_i hwaits
      left
      simpa using hwaits
    · rename_i hruns
      right
      simp only [not_or, not_not, Option.isSome_iff_ne_none] at hruns
      exact ⟨pending, rfl, hruns.1, hruns.2.1, hruns.2.2, rfl⟩

/-- What a request leaves: its own work is pending, or the sync that was pending before it, and that work
begins unless something is in its way. -/
theorem queue_cases (self : Scheduler) (cycle : Cycle) (reason : Reason) (explicit : Bool) :
    (self.started = false ∧ self.queue cycle reason explicit = self) ∨
      self.started ∧ ∃ next : Pending,
        (next = ⟨cycle, reason⟩ ∨ self.pending = some next) ∧
        (self.pending.map (·.cycle) = some .sync → explicit = false ∨ cycle = .sync → next.cycle = .sync) ∧
        ((self.online = false ∧ self.queue cycle reason explicit = { self with pending := some next }.publish .offline) ∨
          (self.online ∧ (self.authenticationBlocked ∨ self.terminalBlocked ∨ self.active.isSome ∨ self.retryTimer) ∧
            self.queue cycle reason explicit = { self with pending := some next }) ∨
          (self.online ∧ self.authenticationBlocked = false ∧ self.terminalBlocked = false ∧ self.active = none ∧
            self.retryTimer = false ∧ self.queue cycle reason explicit = self.begin next)) := by
  by_cases hstarted : self.started
  · right
    refine ⟨hstarted, ?_⟩
    obtain ⟨next, hnext, hsync, hqueue⟩ : ∃ next : Pending,
        (next = ⟨cycle, reason⟩ ∨ self.pending = some next) ∧
        (self.pending.map (·.cycle) = some .sync → explicit = false ∨ cycle = .sync → next.cycle = .sync) ∧
        (if explicit ∨ self.pending.map (·.cycle) ≠ some .sync then { self with pending := some ⟨cycle, reason⟩ }
          else self) = { self with pending := some next } := by
      by_cases hreplaced : explicit ∨ self.pending.map (·.cycle) ≠ some .sync
      · refine ⟨⟨cycle, reason⟩, .inl rfl, ?_, if_pos hreplaced⟩
        rintro hpending (hexplicit | hcycle)
        · simp [hexplicit, hpending] at hreplaced
        · exact hcycle
      · rw [not_or, not_not] at hreplaced
        obtain ⟨next, hnext, hcycle⟩ := Option.map_eq_some_iff.mp hreplaced.2
        refine ⟨next, .inr hnext, fun _ _ => hcycle, ?_⟩
        rw [if_neg (by simp [hreplaced]), ← hnext]
    refine ⟨next, hnext, hsync, ?_⟩
    unfold queue
    rw [if_neg (by simp [hstarted]), hqueue]
    simp only [Bool.not_eq_true]
    by_cases honline : self.online = false
    · left
      exact ⟨honline, if_pos honline⟩
    · rw [if_neg honline]
      rw [Bool.not_eq_false] at honline
      right
      split
      · rename_i hbusy
        exact .inl ⟨honline, hbusy, rfl⟩
      · rename_i hfree
        simp only [not_or, Bool.not_eq_true, Option.isSome_eq_false_iff, Option.isNone_iff_eq_none] at hfree
        obtain ⟨hauthentication, hterminal, hactive, hretry⟩ := hfree
        refine .inr ⟨honline, hauthentication, hterminal, hactive, hretry, ?_⟩
        simp [drain, begin, hstarted, honline, hactive]
  · left
    rw [Bool.not_eq_true] at hstarted
    exact ⟨hstarted, if_pos (by simp [hstarted])⟩

theorem progresses_drain (self : Scheduler) : Progresses self.drain := by
  intro hstarted honline _ _ hpending
  obtain ⟨hsame, hnothing⟩ | ⟨pending, _, _, _, _, hbegin⟩ := drain_cases self
  · rw [hsame] at hstarted honline hpending ⊢
    rcases hnothing with hnone | hstopped | hoffline | hactive
    · simp [hnone] at hpending
    · simp [hstopped] at hstarted
    · simp [hoffline] at honline
    · exact .inl hactive
  · rw [hbegin] at hpending
    simp [begin, publish] at hpending

theorem progresses_queue (self : Scheduler) (cycle : Cycle) (reason : Reason) (explicit : Bool) :
    Progresses (self.queue cycle reason explicit) := by
  obtain ⟨hstopped, hsame⟩ | ⟨_, next, _, _, ⟨hoffline, hqueue⟩ | ⟨_, hbusy, hqueue⟩ | ⟨_, _, _, _, _, hqueue⟩⟩ :=
    queue_cases self cycle reason explicit
  · intro hstarted
    simp [hsame, hstopped] at hstarted
  · intro _ honline
    simp [hqueue, publish, hoffline] at honline
  · rw [hqueue]
    intro _ _ hauthentication hterminal _
    dsimp only at hauthentication hterminal ⊢
    simpa [hauthentication, hterminal] using hbusy
  · intro _ _ _ _ hpending
    simp [hqueue, begin, publish] at hpending

theorem cancelRetry_eq (self : Scheduler) :
    ∃ retryAttempt, self.cancelRetry = { self with retryTimer := false, retryAttempt } := by
  unfold cancelRetry
  split
  · exact ⟨0, rfl⟩
  · rename_i hdisarmed
    rw [Bool.not_eq_true] at hdisarmed
    exact ⟨self.retryAttempt, by rw [← hdisarmed]⟩

/-- What a change of connectivity leaves. -/
theorem setOnline_cases (options : Options) (self : Scheduler) (online : Bool) (events : List SourceEvent) :
    ((self.started = false ∨ self.online = online) ∧ self.setOnline options online events = self) ∨
      (self.started ∧ self.online ∧ online = false ∧ ∃ pending,
        (self.pending.map (·.cycle) = some .sync → pending = self.pending) ∧
        self.setOnline options online events =
          { self with online := false, pending }.cancelRetry.stopInvalidationSource.publish .offline) ∨
      (self.started ∧ self.online = false ∧ online ∧
        self.setOnline options online events =
          ({ self with online := true }.startInvalidations options events).queue .sync .online false) := by
  unfold setOnline
  split
  · rename_i hsame
    left
    simpa using hsame
  · rename_i hchanges
    simp only [not_or, not_not] at hchanges
    obtain ⟨hstarted, hchanges⟩ := hchanges
    right
    cases online with
    | false =>
      left
      refine ⟨hstarted, by simpa using hchanges, rfl, ?_⟩
      simp only [Bool.false_eq_true, not_false_eq_true, if_true]
      split
      · rename_i active _
        refine ⟨prefer self.pending ⟨active.cycle, .online⟩, ?_, rfl⟩
        intro hsync
        obtain ⟨pending, hpending, hcycle⟩ := Option.map_eq_some_iff.mp hsync
        simp [hpending, prefer, hcycle]
      · exact ⟨self.pending, fun _ => rfl, rfl⟩
    | true =>
      right
      exact ⟨hstarted, by simpa using hchanges, rfl, rfl⟩

namespace Consistent

/-- While nothing runs, no unsettled call is of this start. -/
theorem settled_of_idle (hself : Consistent self) (hstarted : self.started) (hactive : self.active = none) :
    ∀ call ∈ self.calls, call.generation ≠ self.generation := by
  intro call hcall hcurrent
  have := hself.tracked hstarted call hcall hcurrent
  simp [hactive] at this

theorem eq_of_controller (hself : Consistent self) {call other : Call} (hcall : call ∈ self.calls)
    (hother : other ∈ self.calls) (hsame : call.controller = other.controller) : call = other :=
  List.inj_on_of_nodup_map hself.distinct hcall hother hsame

theorem begin (hself : Consistent self) (hstarted : self.started) (hactive : self.active = none)
    (hretry : self.retryTimer = false) (hauthentication : self.authenticationBlocked = false)
    (hterminal : self.terminalBlocked = false) (pending : Pending) : Consistent (self.begin pending) := by
  have hidle := hself.settled_of_idle hstarted hactive
  constructor
  case fresh =>
    intro call hcall
    rcases List.mem_append.mp hcall with hcall | hcall
    · have := hself.fresh call hcall
      simp only [Scheduler.begin, Scheduler.publish]
      omega
    · simp_all [Scheduler.begin, Scheduler.publish]
  case distinct =>
    simp only [Scheduler.begin, Scheduler.publish, List.map_append, List.nodup_append]
    refine ⟨hself.distinct, by simp, ?_⟩
    simp only [List.mem_map, List.map_cons, List.map_nil, List.mem_singleton]
    rintro _ ⟨call, hcall, rfl⟩ _ rfl
    have := hself.fresh call hcall
    omega
  case generations =>
    intro call hcall
    rcases List.mem_append.mp hcall with hcall | hcall
    · exact hself.generations call hcall
    · simp_all [Scheduler.begin, Scheduler.publish]
  case tracked =>
    intro _ call hcall hcurrent
    rcases List.mem_append.mp hcall with hcall | hcall
    · exact absurd hcurrent (hidle call hcall)
    · simp_all [Scheduler.begin, Scheduler.publish]
  case running =>
    intro active hrunning
    simp only [Scheduler.begin, Scheduler.publish, Option.some.injEq] at hrunning
    refine ⟨⟨self.controllers, self.generation, pending⟩, by simp [Scheduler.begin, Scheduler.publish], rfl, ?_⟩
    simp [← hrunning]
  all_goals simp [Scheduler.begin, Scheduler.publish, hstarted, hretry, hauthentication, hterminal]

theorem drain (hself : Consistent self) (hretry : self.retryTimer = false)
    (hauthentication : self.authenticationBlocked = false) (hterminal : self.terminalBlocked = false) :
    Consistent self.drain := by
  obtain ⟨hsame, _⟩ | ⟨pending, _, hstarted, _, hactive, hbegin⟩ := drain_cases self
  · rw [hsame]
    exact hself
  · rw [hbegin]
    exact hself.begin hstarted hactive hretry hauthentication hterminal pending

theorem pending (hself : Consistent self) (hstarted : self.started) (pending : Option Pending) :
    Consistent { self with pending } :=
  { hself with stopped := by simp [hstarted] }

theorem publish (hself : Consistent self) (status : Status) : Consistent (self.publish status) :=
  { hself with }

theorem queue (hself : Consistent self) (cycle : Cycle) (reason : Reason) (explicit : Bool) :
    Consistent (self.queue cycle reason explicit) := by
  obtain ⟨_, hsame⟩ | ⟨hstarted, next, _, _,
      ⟨_, hqueue⟩ | ⟨_, _, hqueue⟩ | ⟨_, hauthentication, hterminal, hactive, hretry, hqueue⟩⟩ :=
    queue_cases self cycle reason explicit
  · rw [hsame]
    exact hself
  · rw [hqueue]
    exact (hself.pending hstarted _).publish _
  · rw [hqueue]
    exact hself.pending hstarted _
  · rw [hqueue]
    exact hself.begin hstarted hactive hretry hauthentication hterminal next

theorem unblock (hself : Consistent self) :
    Consistent { self with authenticationBlocked := false, terminalBlocked := false } :=
  { hself with blocked := by simp }

theorem cancelRetry (hself : Consistent self) : Consistent self.cancelRetry := by
  obtain ⟨retryAttempt, hcancelled⟩ := cancelRetry_eq self
  rw [hcancelled]
  exact
    { hself with
      stopped := fun hstopped => by simp [hself.stopped hstopped]
      retry := by simp
      blocked := fun hstarted hblocked => ⟨(hself.blocked hstarted hblocked).1, rfl⟩ }

theorem requestSync (hself : Consistent self) (reason : Reason) : Consistent (self.requestSync reason) :=
  hself.unblock.cancelRetry.queue _ _ _

theorem resumeAfterAuthentication (hself : Consistent self) : Consistent self.resumeAfterAuthentication :=
  hself.unblock.cancelRetry.queue _ _ _

theorem schedulePeriodic (hself : Consistent self) : Consistent self.schedulePeriodic := by
  unfold Scheduler.schedulePeriodic
  split
  · exact hself
  · rename_i hstarted
    simp only [not_or, not_not] at hstarted
    exact { hself with stopped := by simp [hstarted.1] }

theorem report (hself : Consistent self) (event : SourceEvent) : Consistent (self.report event) := by
  cases event with
  | hint => exact hself.queue _ _ _
  | failure => exact hself.schedulePeriodic

theorem reports (hself : Consistent self) (events : List SourceEvent) :
    Consistent (events.foldl Scheduler.report self) := by
  induction events generalizing self with
  | nil => exact hself
  | cons event events ih => exact ih (hself.report event)

theorem startInvalidations (hself : Consistent self) (events : List SourceEvent) :
    Consistent (self.startInvalidations options events) := by
  unfold Scheduler.startInvalidations
  split
  · exact hself
  · exact { hself.reports events with }

/-- Going offline disarms the retry, which alone depends on being online. -/
theorem offline (hself : Consistent self) (hstarted : self.started) (pending : Option Pending) :
    Consistent ({ self with online := false, pending }.cancelRetry) := by
  obtain ⟨retryAttempt, hcancelled⟩ := cancelRetry_eq { self with online := false, pending }
  rw [hcancelled]
  exact
    { hself with
      stopped := by simp [hstarted]
      retry := by simp
      blocked := fun hstarted hblocked => ⟨(hself.blocked hstarted hblocked).1, rfl⟩ }

theorem setOnline (hself : Consistent self) (online : Bool) (events : List SourceEvent) :
    Consistent (self.setOnline options online events) := by
  obtain ⟨_, hsame⟩ | ⟨hstarted, _, _, pending, _, hoffline⟩ | ⟨hstarted, _, _, honline⟩ :=
    setOnline_cases options self online events
  · rw [hsame]
    exact hself
  · rw [hoffline]
    exact { hself.offline hstarted pending with }
  · rw [honline]
    have hconnected : Consistent { self with online := true } :=
      { hself with retry := fun harmed => ⟨hstarted, rfl, (hself.retry harmed).2.2⟩ }
    exact (hconnected.startInvalidations events).queue _ _ _

/-- A start begins its own generation, so no unsettled call is of it. -/
theorem restarted (hself : Consistent self) (hstopped : self.started = false) (online : Bool) :
    Consistent { self with
      started := true
      generation := self.generation + 1
      authenticationBlocked := false
      terminalBlocked := false
      online := online } := by
  obtain ⟨hactive, _, hretry, _⟩ := hself.stopped hstopped
  have hearlier : ∀ call ∈ self.calls, call.generation < self.generation + 1 := by
    intro call hcall
    have := hself.generations call hcall
    omega
  exact
    { hself with
      generations := fun call hcall => (hearlier call hcall).le
      tracked := fun _ call hcall hcurrent => absurd hcurrent (hearlier call hcall).ne
      running := by simp [hactive]
      stopped := by simp
      retry := by simp [hretry]
      blocked := by simp }

/-- What connectivity reports one change after another. -/
theorem changes (options : Options) (hself : Consistent self) (notified : List (Bool × List SourceEvent)) :
    Consistent (notified.foldl (fun self change => Scheduler.setOnline options self change.1 change.2) self) := by
  induction notified generalizing self with
  | nil => exact hself
  | cons change notified ih => exact ih (hself.setOnline change.1 change.2)

end Consistent

@[simp]
theorem queue_started (self : Scheduler) (cycle : Cycle) (reason : Reason) (explicit : Bool) :
    (self.queue cycle reason explicit).started = self.started := by
  obtain ⟨_, hqueue⟩ | ⟨_, _, _, _, ⟨_, hqueue⟩ | ⟨_, _, hqueue⟩ | ⟨_, _, _, _, _, hqueue⟩⟩ :=
    queue_cases self cycle reason explicit
  all_goals simp [hqueue, publish, begin]

@[simp]
theorem report_started (self : Scheduler) (event : SourceEvent) : (self.report event).started = self.started := by
  cases event with
  | hint => exact queue_started self _ _ _
  | failure =>
    simp only [report, schedulePeriodic]
    split <;> rfl

theorem reports_started (self : Scheduler) (events : List SourceEvent) :
    (events.foldl report self).started = self.started := by
  induction events generalizing self with
  | nil => rfl
  | cons event events ih => simpa using ih (self.report event)

@[simp]
theorem startInvalidations_started (self : Scheduler) (events : List SourceEvent) :
    (self.startInvalidations options events).started = self.started := by
  unfold startInvalidations
  split
  · rfl
  · exact reports_started self events

@[simp]
theorem cancelRetry_started (self : Scheduler) : self.cancelRetry.started = self.started := by
  obtain ⟨_, hcancelled⟩ := cancelRetry_eq self
  rw [hcancelled]

@[simp]
theorem setOnline_started (self : Scheduler) (online : Bool) (events : List SourceEvent) :
    (self.setOnline options online events).started = self.started := by
  obtain ⟨_, hsame⟩ | ⟨_, _, _, _, _, hoffline⟩ | ⟨_, _, _, honline⟩ :=
    setOnline_cases options self online events
  · rw [hsame]
  · simp [hoffline, publish, stopInvalidationSource]
  · simp [honline]

theorem changes_started (self : Scheduler) (notified : List (Bool × List SourceEvent)) :
    (notified.foldl (fun self change => setOnline options self change.1 change.2) self).started = self.started := by
  induction notified generalizing self with
  | nil => rfl
  | cons change notified ih => simpa using ih (self.setOnline options change.1 change.2)

namespace Consistent

theorem start (hself : Consistent self) (current : Option Bool) (notified : List (Bool × List SourceEvent))
    (events : List SourceEvent) : Consistent (self.start options current notified events) := by
  unfold Scheduler.start
  split
  · exact hself
  · rename_i hstopped
    rw [Bool.not_eq_true] at hstopped
    have hchanged := changes options (hself.restarted hstopped (decide (current ≠ some false))) notified
    dsimp only
    split
    · exact (hchanged.pending (changes_started _ notified) _).publish _
    · exact (hchanged.startInvalidations events).queue _ _ _

theorem stop (hself : Consistent self) : Consistent self.stop := by
  unfold Scheduler.stop
  split
  · exact hself
  · obtain ⟨retryAttempt, hcancelled⟩ :=
      cancelRetry_eq { self with started := false, pending := none, active := none }
    unfold clearTimers
    rw [hcancelled]
    exact
      { hself with
        tracked := by simp [Scheduler.publish, stopInvalidationSource]
        running := by simp [Scheduler.publish, stopInvalidationSource]
        stopped := by simp [Scheduler.publish, stopInvalidationSource]
        retry := by simp [Scheduler.publish, stopInvalidationSource]
        blocked := by simp [Scheduler.publish, stopInvalidationSource] }

end Consistent

/-- The failures that stop the cycle: nothing begins again by itself. -/
def Halting (failure : HttpError) : Prop := failure.kind ≠ .aborted ∧ retryable failure = false

instance (failure : HttpError) : Decidable (Halting failure) := by unfold Halting; infer_instance

/-- A failure that asks for new credentials is not retried. -/
theorem halting_of_authenticationStatus {failure : HttpError} {status : Nat}
    (hstatus : authenticationStatus failure = some status) : Halting failure := by
  unfold authenticationStatus at hstatus
  split at hstatus
  · rename_i hrefused
    obtain ⟨hkind, hstatus | hstatus⟩ := hrefused
    all_goals simp [Halting, retryable, hkind, hstatus]
  · cases hstatus

/-- What a rejected call of this start leaves. -/
theorem fail_cases (options : Options) (self : Scheduler) (call : Call) (error : Option HttpError) (now : Nat) (sample : Option ℚ) :
    (self.online = false ∧ self.fail options call error now sample =
        { self with pending := prefer self.pending call.pending, status := .offline }) ∨
      (self.online ∧ (normalize error).kind = .aborted ∧ self.fail options call error now sample = self) ∨
      (∃ status, self.online ∧ Halting (normalize error) ∧ self.fail options call error now sample =
        { self with authenticationBlocked := true, status := .authentication_required status }) ∨
      (self.online ∧ Halting (normalize error) ∧ self.fail options call error now sample =
        { self with terminalBlocked := true, pending := none, status := .failed (normalize error) }) ∨
      (∃ attempt retryAt, self.online ∧ ¬ Halting (normalize error) ∧ self.fail options call error now sample =
        { self with
          pending := prefer self.pending ⟨call.pending.cycle, .retry⟩
          retryAttempt := attempt
          status := .backoff attempt retryAt
          retryTimer := true }) := by
  generalize hleft : self.fail options call error now sample = left
  unfold fail at hleft
  split at hleft
  · rename_i hoffline
    exact .inl ⟨by simpa using hoffline, hleft.symm⟩
  · rename_i honline
    rw [not_not] at honline
    right
    dsimp only at hleft
    split at hleft
    · rename_i haborted
      exact .inl ⟨honline, haborted, hleft.symm⟩
    · rename_i haborted
      right
      split at hleft
      · rename_i status hstatus
        exact .inl ⟨status, honline, halting_of_authenticationStatus hstatus, hleft.symm⟩
      · right
        split at hleft
        · rename_i hterminal
          exact .inl ⟨honline, ⟨haborted, by simpa using hterminal⟩, hleft.symm⟩
        · rename_i hretryable
          rw [not_not] at hretryable
          exact .inr ⟨_, _, honline, by simp [Halting, hretryable], hleft.symm⟩

theorem resume_ok (hstarted : self.started) {call : Call} (hcurrent : call.generation = self.generation) (now : Nat)
    (sample : Option ℚ) :
    self.resume options call (.ok ()) now sample =
      { self with retryAttempt := 0, status := .idle now, periodicTimer := true } := by
  unfold resume
  rw [if_neg (by simp [hstarted, hcurrent])]
  dsimp only [schedulePeriodic, publish]
  split
  · rename_i harmed
    simp only [hstarted, not_true_eq_false, false_or] at harmed
    rw [← harmed]
  · rfl

theorem resume_error (hstarted : self.started) {call : Call} (hcurrent : call.generation = self.generation)
    (error : Option HttpError) (now : Nat) (sample : Option ℚ) :
    self.resume options call (.error error) now sample = self.fail options call error now sample := by
  unfold resume
  rw [if_neg (by simp [hstarted, hcurrent])]

theorem resume_of_stale {call : Call} (hstale : self.started = false ∨ call.generation ≠ self.generation)
    (result : Except (Option HttpError) Unit) (now : Nat) (sample : Option ℚ) :
    self.resume options call result now sample = self :=
  if_pos (by simpa using hstale)

/-- The call that runs is not read by what its settling leaves. -/
theorem resume_active (self : Scheduler) (active : Option Active) (call : Call)
    (result : Except (Option HttpError) Unit) (now : Nat) (sample : Option ℚ) :
    { self.resume options call result now sample with active } =
      { self with active }.resume options call result now sample := by
  unfold resume fail schedulePeriodic scheduleRetry publish
  split
  · rfl
  · split
    · split <;> rfl
    · split
      · rfl
      · dsimp only
        split
        · rfl
        · split
          · rfl
          · split <;> rfl

theorem resume_keeps (options : Options) (self : Scheduler) (call : Call) (result : Except (Option HttpError) Unit) (now : Nat)
    (sample : Option ℚ) :
    (self.resume options call result now sample).active = self.active ∧
      (self.resume options call result now sample).started = self.started ∧
      (self.resume options call result now sample).online = self.online ∧
      (self.resume options call result now sample).generation = self.generation ∧
      (self.resume options call result now sample).controllers = self.controllers := by
  by_cases hstale : self.started = false ∨ call.generation ≠ self.generation
  · rw [resume_of_stale hstale]
    exact ⟨rfl, rfl, rfl, rfl, rfl⟩
  · simp only [not_or, Bool.not_eq_false, not_not] at hstale
    cases result with
    | ok =>
      rw [resume_ok hstale.1 hstale.2]
      exact ⟨rfl, rfl, rfl, rfl, rfl⟩
    | error error =>
      rw [resume_error hstale.1 hstale.2]
      obtain ⟨_, hfail⟩ | ⟨_, _, hfail⟩ | ⟨_, _, _, hfail⟩ | ⟨_, _, hfail⟩ | ⟨_, _, _, _, hfail⟩ :=
        fail_cases options self call error now sample
      all_goals
        rw [hfail]
        exact ⟨rfl, rfl, rfl, rfl, rfl⟩

theorem release_of_running {call : Call} (hstarted : self.started) (hcurrent : call.generation = self.generation)
    (hrunning : self.active.map (·.controller) = some call.controller) :
    ((self.retryTimer ∨ self.authenticationBlocked ∨ self.terminalBlocked) ∧
        self.release call = { self with active := none }) ∨
      (self.retryTimer = false ∧ self.authenticationBlocked = false ∧ self.terminalBlocked = false ∧
        self.release call = { self with active := none }.drain) := by
  unfold release
  rw [if_pos hrunning]
  by_cases hfree : self.retryTimer = false ∧ self.authenticationBlocked = false ∧ self.terminalBlocked = false
  · right
    exact ⟨hfree.1, hfree.2.1, hfree.2.2, if_pos (by simp [hstarted, hcurrent, hfree])⟩
  · left
    refine ⟨?_, if_neg fun hdrains => hfree (by simpa using hdrains.2.2)⟩
    by_contra hheld
    simp only [not_or, Bool.not_eq_true] at hheld
    exact hfree hheld

/-- The scheduler when this call is no longer awaited. -/
def Scheduler.withoutCall (self : Scheduler) (call : Call) : Scheduler :=
  { self with calls := self.calls.filter fun other => other.controller ≠ call.controller }

/-- Only the running call is of this start: any other that settles is just dropped. -/
theorem settle_cases (options : Options) (hself : Consistent self) {call : Call} (hcall : call ∈ self.calls)
    (result : Except (Option HttpError) Unit) (now : Nat) (sample : Option ℚ) :
    ((self.started = false ∨ call.generation ≠ self.generation) ∧
        (∀ active, self.active = some active → active.controller ≠ call.controller) ∧
        self.settle options call result now sample = self.withoutCall call) ∨
      (self.started ∧ call.generation = self.generation ∧
        self.active = some ⟨call.controller, call.pending.cycle⟩ ∧ ∃ resumed : Scheduler,
          resumed = { self.withoutCall call with active := none }.resume options call result now sample ∧
          (((resumed.retryTimer ∨ resumed.authenticationBlocked ∨ resumed.terminalBlocked) ∧
              self.settle options call result now sample = resumed) ∨
            (resumed.retryTimer = false ∧ resumed.authenticationBlocked = false ∧ resumed.terminalBlocked = false ∧
              self.settle options call result now sample = resumed.drain))) := by
  by_cases hcurrent : self.started ∧ call.generation = self.generation
  · right
    obtain ⟨hstarted, hgeneration⟩ := hcurrent
    have hactive := hself.tracked hstarted call hcall hgeneration
    refine ⟨hstarted, hgeneration, hactive, _, rfl, ?_⟩
    rw [← resume_active]
    obtain ⟨hresumedActive, hresumedStarted, _, hresumedGeneration, _⟩ :=
      resume_keeps options (self.withoutCall call) call result now sample
    exact release_of_running (hresumedStarted.trans hstarted) (hgeneration.trans hresumedGeneration.symm)
      (by rw [hresumedActive]; exact congrArg (Option.map Active.controller) hactive)
  · left
    have hother : ∀ active, self.active = some active → active.controller ≠ call.controller := by
      intro active hactive hsame
      obtain ⟨running, hrunning, hgeneration, hcontroller⟩ := hself.running active hactive
      have hequal : running = call :=
        hself.eq_of_controller hrunning hcall (hcontroller.trans hsame)
      have hstarted : self.started := by
        by_contra hstopped
        rw [Bool.not_eq_true] at hstopped
        simp [(hself.stopped hstopped).1] at hactive
      exact hcurrent ⟨hstarted, hequal ▸ hgeneration⟩
    have hstale : self.started = false ∨ call.generation ≠ self.generation := by
      by_cases hstarted : self.started
      · exact .inr fun hgeneration => hcurrent ⟨hstarted, hgeneration⟩
      · exact .inl (by simpa using hstarted)
    refine ⟨hstale, hother, ?_⟩
    change release ((self.withoutCall call).resume options call result now sample) call = _
    rw [@resume_of_stale options (self.withoutCall call) call hstale]
    unfold release
    have hkept : (self.withoutCall call).active.map (·.controller) ≠ some call.controller := by
      intro hsame
      obtain ⟨active, hactive, hcontroller⟩ := Option.map_eq_some_iff.mp hsame
      exact hother active hactive hcontroller
    rw [if_neg hkept]
    exact if_neg fun hfree => hcurrent ⟨hfree.1, hfree.2.1⟩

namespace Consistent

theorem withoutCall (hself : Consistent self) {call : Call}
    (hother : ∀ active, self.active = some active → active.controller ≠ call.controller) :
    Consistent (self.withoutCall call) := by
  have hkept : ∀ other ∈ (self.withoutCall call).calls, other ∈ self.calls :=
    fun other hmem => List.mem_of_mem_filter hmem
  exact
    { hself with
      fresh := fun other hmem => hself.fresh other (hkept other hmem)
      distinct := hself.distinct.sublist (List.filter_sublist.map _)
      generations := fun other hmem => hself.generations other (hkept other hmem)
      tracked := fun hstarted other hmem => hself.tracked hstarted other (hkept other hmem)
      running := by
        intro active hactive
        obtain ⟨running, hrunning, hgeneration, hcontroller⟩ := hself.running active hactive
        refine ⟨running, List.mem_filter.mpr ⟨hrunning, ?_⟩, hgeneration, hcontroller⟩
        simpa [hcontroller] using hother active hactive }

/-- When the running call is no longer awaited, nothing runs. -/
theorem withoutRunning (hself : Consistent self) {call : Call}
    (hrunning : self.active = some ⟨call.controller, call.pending.cycle⟩) :
    Consistent { self.withoutCall call with active := none } := by
  have hkept : ∀ other ∈ (self.withoutCall call).calls, other ∈ self.calls ∧ other.controller ≠ call.controller := by
    intro other hmem
    simpa using List.mem_filter.mp hmem
  exact
    { hself with
      fresh := fun other hmem => hself.fresh other (hkept other hmem).1
      distinct := hself.distinct.sublist (List.filter_sublist.map _)
      generations := fun other hmem => hself.generations other (hkept other hmem).1
      tracked := by
        intro hstarted other hmem hcurrent
        have htracked := hself.tracked hstarted other (hkept other hmem).1 hcurrent
        rw [hrunning] at htracked
        simp only [Option.some.injEq, Active.mk.injEq] at htracked
        exact absurd htracked.1.symm (hkept other hmem).2
      running := by simp
      stopped := fun hstopped => ⟨rfl, (hself.stopped hstopped).2⟩
      retry := fun harmed => ⟨(hself.retry harmed).1, (hself.retry harmed).2.1, rfl⟩
      blocked := fun hstarted hblocked => ⟨rfl, (hself.blocked hstarted hblocked).2⟩ }

theorem resume (hself : Consistent self) (hstarted : self.started) (hactive : self.active = none)
    (hretry : self.retryTimer = false) (hauthentication : self.authenticationBlocked = false)
    (hterminal : self.terminalBlocked = false) {call : Call} (hcurrent : call.generation = self.generation)
    (result : Except (Option HttpError) Unit) (now : Nat) (sample : Option ℚ) :
    Consistent (self.resume options call result now sample) := by
  cases result with
  | ok =>
    rw [resume_ok hstarted hcurrent]
    exact { hself with stopped := by simp [hstarted] }
  | error error =>
    rw [resume_error hstarted hcurrent]
    obtain ⟨_, hfail⟩ | ⟨_, _, hfail⟩ | ⟨_, _, _, hfail⟩ | ⟨_, _, hfail⟩ | ⟨_, _, honline, hhalting, hfail⟩ :=
      fail_cases options self call error now sample
    all_goals rw [hfail]
    · exact { hself with stopped := by simp [hstarted] }
    · exact hself
    · exact { hself with blocked := fun _ _ => ⟨hactive, hretry⟩ }
    · exact { hself with stopped := by simp [hstarted], blocked := fun _ _ => ⟨hactive, hretry⟩ }
    · exact
        { hself with
          stopped := by simp [hstarted]
          retry := fun _ => ⟨hstarted, honline, hactive⟩
          blocked := by simp [hauthentication, hterminal] }

/-- While a call runs, no retry is armed and nothing is blocked. -/
theorem free_of_running (hself : Consistent self) (hstarted : self.started) {active : Active}
    (hrunning : self.active = some active) :
    self.retryTimer = false ∧ self.authenticationBlocked = false ∧ self.terminalBlocked = false := by
  refine ⟨?_, ?_, ?_⟩
  · by_contra harmed
    rw [Bool.not_eq_false] at harmed
    simp [(hself.retry harmed).2.2] at hrunning
  · by_contra hblocked
    rw [Bool.not_eq_false] at hblocked
    simp [(hself.blocked hstarted (.inl hblocked)).1] at hrunning
  · by_contra hblocked
    rw [Bool.not_eq_false] at hblocked
    simp [(hself.blocked hstarted (.inr hblocked)).1] at hrunning

theorem settle (hself : Consistent self) {call : Call} (hcall : call ∈ self.calls)
    (result : Except (Option HttpError) Unit) (now : Nat) (sample : Option ℚ) :
    Consistent (self.settle options call result now sample) := by
  obtain ⟨_, hother, hdropped⟩ | ⟨hstarted, hcurrent, hrunning, resumed, hresumed, hsettled⟩ :=
    settle_cases options hself hcall result now sample
  · rw [hdropped]
    exact hself.withoutCall hother
  · obtain ⟨hretry, hfresh, hlive⟩ := hself.free_of_running hstarted hrunning
    have hkeeps : Consistent resumed := by
      rw [hresumed]
      exact (hself.withoutRunning hrunning).resume hstarted rfl hretry hfresh hlive hcurrent result now sample
    obtain ⟨_, hsame⟩ | ⟨hdisarmed, hauthentication, hterminal, hdrained⟩ := hsettled
    · rw [hsame]
      exact hkeeps
    · rw [hdrained]
      exact hkeeps.drain hdisarmed hauthentication hterminal

end Consistent

theorem consistent_of_step {event : Event} {next : Scheduler} (hstep : Step options self event next)
    (hself : Consistent self) : Consistent next := by
  cases hstep with
  | start current notified events => exact hself.start current notified events
  | stop => exact hself.stop
  | requestSync reason => exact hself.requestSync reason
  | requestPull reason => exact hself.queue _ _ _
  | resumeAfterAuthentication => exact hself.resumeAfterAuthentication
  | connectivity online events => exact hself.setOnline online events
  | source event => exact hself.report event
  | retryTimer harmed =>
    obtain ⟨hstarted, _, hactive⟩ := hself.retry harmed
    have hfree : ¬ (self.authenticationBlocked ∨ self.terminalBlocked) := by
      intro hblocked
      simp [(hself.blocked hstarted hblocked).2] at harmed
    simp only [not_or, Bool.not_eq_true] at hfree
    have hfired : Consistent { self with retryTimer := false } :=
      { hself with
        stopped := by simp [hstarted]
        retry := by simp
        blocked := fun _ _ => ⟨hactive, rfl⟩ }
    exact hfired.drain rfl hfree.1 hfree.2
  | periodicTimer harmed =>
    have hfired : Consistent { self with periodicTimer := false } :=
      { hself with stopped := fun hstopped => by simp [hself.stopped hstopped] }
    exact hfired.queue _ _ _
  | settled hcall result now sample => exact hself.settle hcall result now sample

theorem progresses_of_step {event : Event} {next : Scheduler} (hstep : Step options self event next)
    (hconsistent : Consistent self) (hself : Progresses self) : Progresses next := by
  cases hstep with
  | start current notified events =>
    unfold start
    split
    · exact hself
    · dsimp only
      split
      · rename_i hoffline
        intro _ honline
        exact absurd honline hoffline
      · exact progresses_queue _ _ _ _
  | stop =>
    unfold stop
    split
    · exact hself
    · intro hstarted
      simp [publish, stopInvalidationSource, clearTimers] at hstarted
  | requestSync reason => exact progresses_queue _ _ _ _
  | requestPull reason => exact progresses_queue _ _ _ _
  | resumeAfterAuthentication => exact progresses_queue _ _ _ _
  | connectivity online events =>
    obtain ⟨_, hsame⟩ | ⟨_, _, _, pending, _, hoffline⟩ | ⟨_, _, _, honline⟩ :=
      setOnline_cases options self online events
    · rw [hsame]
      exact hself
    · intro _ honline
      obtain ⟨_, hcancelled⟩ := cancelRetry_eq { self with online := false, pending }
      simp [hoffline, publish, stopInvalidationSource, hcancelled] at honline
    · rw [honline]
      exact progresses_queue _ _ _ _
  | source event =>
    cases event with
    | hint => exact progresses_queue _ _ _ _
    | failure =>
      change Progresses self.schedulePeriodic
      unfold schedulePeriodic
      split
      · exact hself
      · exact hself
  | retryTimer harmed => exact progresses_drain _
  | periodicTimer harmed => exact progresses_queue _ _ _ _
  | settled hcall result now sample =>
    obtain ⟨_, _, hdropped⟩ | ⟨_, _, _, resumed, _, ⟨hheld, hsame⟩ | ⟨_, _, _, hdrained⟩⟩ :=
      settle_cases options hconsistent hcall result now sample
    · rw [hdropped]
      exact hself
    · rw [hsame]
      intro _ _ hauthentication hterminal _
      rw [hauthentication, hterminal] at hheld
      exact .inr (by simpa using hheld)
    · rw [hdrained]
      exact progresses_drain _

end react_native_surrealdb.sync_scheduler
