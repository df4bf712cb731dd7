import SurrealSync.Package.SchedulerWork

namespace react_native_surrealdb.sync_scheduler

open Scheduler

variable {options : Options} {self : Scheduler}

/-- The events that let a halted scheduler begin calls again. -/
def Lifts (self : Scheduler) : Event → Prop
  | .start .. => self.started = false
  | .requestSync _ | .resumeAfterAuthentication => True
  | _ => False

/-- A scheduler that begins no call by itself: it was stopped, or a failure halted it. -/
def Halted (self : Scheduler) : Prop :=
  self.started → self.authenticationBlocked ∨ self.terminalBlocked

/-- While halted, a request waits. -/
theorem queue_of_halted (hhalted : Halted self) (cycle : Cycle) (reason : Reason) (explicit : Bool) :
    Halted (self.queue cycle reason explicit) ∧
      (self.queue cycle reason explicit).controllers = self.controllers := by
  obtain ⟨_, hqueue⟩ | ⟨hstarted, _, _, _, ⟨_, hqueue⟩ | ⟨_, _, hqueue⟩ | ⟨_, hauthentication, hterminal, _⟩⟩ :=
    queue_cases self cycle reason explicit
  · rw [hqueue]
    exact ⟨hhalted, rfl⟩
  · rw [hqueue]
    exact ⟨hhalted, rfl⟩
  · rw [hqueue]
    exact ⟨hhalted, rfl⟩
  · simpa [hauthentication, hterminal] using hhalted hstarted

theorem report_of_halted (hhalted : Halted self) (event : SourceEvent) :
    Halted (self.report event) ∧ (self.report event).controllers = self.controllers := by
  cases event with
  | hint => exact queue_of_halted hhalted _ _ _
  | failure =>
    change Halted self.schedulePeriodic ∧ self.schedulePeriodic.controllers = _
    unfold schedulePeriodic
    split
    · exact ⟨hhalted, rfl⟩
    · exact ⟨hhalted, rfl⟩

theorem reports_of_halted (hhalted : Halted self) (events : List SourceEvent) :
    Halted (events.foldl report self) ∧ (events.foldl report self).controllers = self.controllers := by
  induction events generalizing self with
  | nil => exact ⟨hhalted, rfl⟩
  | cons event events ih =>
    obtain ⟨hreported, hcontrollers⟩ := report_of_halted hhalted event
    obtain ⟨hrest, hsame⟩ := ih hreported
    exact ⟨hrest, hsame.trans hcontrollers⟩

theorem startInvalidations_of_halted (options : Options) (hhalted : Halted self) (events : List SourceEvent) :
    Halted (self.startInvalidations options events) ∧
      (self.startInvalidations options events).controllers = self.controllers := by
  unfold startInvalidations
  split
  · exact ⟨hhalted, rfl⟩
  · exact reports_of_halted hhalted events

/-- A halted scheduler begins no call and stays halted until something lifts it. -/
theorem halted_of_step {event : Event} {next : Scheduler} (hstep : Step options self event next)
    (hconsistent : Consistent self) (hhalted : Halted self) (hheld : ¬ Lifts self event) :
    Halted next ∧ next.controllers = self.controllers := by
  cases hstep with
  | start current notified events =>
    have hstarted : self.started := by simpa [Lifts] using hheld
    rw [start, if_pos hstarted]
    exact ⟨hhalted, rfl⟩
  | stop =>
    unfold stop
    split
    · exact ⟨hhalted, rfl⟩
    · obtain ⟨_, hcancelled⟩ := cancelRetry_eq { self with started := false, pending := none, active := none }
      unfold clearTimers
      rw [hcancelled]
      exact ⟨by simp [Halted, publish, stopInvalidationSource], rfl⟩
  | requestSync reason => exact absurd trivial hheld
  | requestPull reason => exact queue_of_halted hhalted _ _ _
  | resumeAfterAuthentication => exact absurd trivial hheld
  | connectivity online events =>
    obtain ⟨_, hsame⟩ | ⟨_, _, _, pending, _, hoffline⟩ | ⟨_, _, _, honline⟩ :=
      setOnline_cases options self online events
    · rw [hsame]
      exact ⟨hhalted, rfl⟩
    · obtain ⟨_, hcancelled⟩ := cancelRetry_eq { self with online := false, pending }
      rw [hoffline, hcancelled]
      exact ⟨hhalted, rfl⟩
    · rw [honline]
      obtain ⟨hreported, hcontrollers⟩ :=
        @startInvalidations_of_halted { self with online := true } options hhalted events
      obtain ⟨hqueued, hsame⟩ := queue_of_halted hreported .sync .online false
      exact ⟨hqueued, hsame.trans hcontrollers⟩
  | source event => exact report_of_halted hhalted event
  | retryTimer harmed =>
    obtain ⟨hstarted, _⟩ := hconsistent.retry harmed
    simp [(hconsistent.blocked hstarted (hhalted hstarted)).2] at harmed
  | periodicTimer harmed =>
    exact @queue_of_halted { self with periodicTimer := false } hhalted _ _ _
  | settled hcall result now sample =>
    obtain ⟨_, _, hdropped⟩ | ⟨hstarted, _, hrunning, _⟩ :=
      settle_cases options hconsistent hcall result now sample
    · rw [hdropped]
      exact ⟨hhalted, rfl⟩
    · simp [(hconsistent.blocked hstarted (hhalted hstarted)).1] at hrunning

theorem halted_of_run {edges : List (Trace.Edge Scheduler Event)} {last : Scheduler}
    (hrun : Run options self edges last) (hconsistent : Consistent self) (hhalted : Halted self)
    (hheld : ∀ edge ∈ edges, ¬ Lifts edge.source edge.label) : last.controllers = self.controllers := by
  have hkeeps : Consistent last ∧ Halted last ∧ last.controllers = self.controllers := by
    refine hrun.preserves_along (P := fun scheduler =>
      Consistent scheduler ∧ Halted scheduler ∧ scheduler.controllers = self.controllers) ?_ ⟨hconsistent, hhalted, rfl⟩
    rintro edge hedge ⟨hconsistent, hhalted, hcontrollers⟩
    have hstep := hrun.step_of_mem hedge
    obtain ⟨hnext, hsame⟩ := halted_of_step hstep hconsistent hhalted (hheld edge hedge)
    exact ⟨consistent_of_step hstep hconsistent, hnext, hsame.trans hcontrollers⟩
  exact hkeeps.2.2

/-- The failure of the running call halts the scheduler, and no call begins with it. -/
theorem halted_of_failure (options : Options) (hself : Consistent self) {call : Call} (hcall : call ∈ self.calls)
    (hstarted : self.started) (honline : self.online) (hcurrent : call.generation = self.generation)
    {error : Option HttpError} (hhalting : Halting (normalize error)) (now : Nat) (sample : Option ℚ) :
    Halted (self.settle options call (.error error) now sample) ∧
      (self.settle options call (.error error) now sample).controllers = self.controllers := by
  obtain ⟨hstale, _⟩ | ⟨_, _, _, resumed, hresumed, hsettled⟩ :=
    settle_cases options hself hcall (.error error) now sample
  · simp [hstarted, hcurrent] at hstale
  · have hblocked : (resumed.authenticationBlocked ∨ resumed.terminalBlocked) ∧
        resumed.controllers = self.controllers := by
      rw [hresumed, @resume_error options { self.withoutCall call with active := none } hstarted call hcurrent]
      obtain ⟨hoffline, _⟩ | ⟨_, haborted, _⟩ | ⟨_, _, _, hfail⟩ | ⟨_, _, hfail⟩ | ⟨_, _, _, hretried, _⟩ :=
        fail_cases options { self.withoutCall call with active := none } call error now sample
      · simp [withoutCall, honline] at hoffline
      · exact absurd haborted hhalting.1
      · rw [hfail]
        exact ⟨.inl rfl, rfl⟩
      · rw [hfail]
        exact ⟨.inr rfl, rfl⟩
      · exact absurd hhalting hretried
    obtain ⟨_, hsame⟩ | ⟨_, hauthentication, hterminal, _⟩ := hsettled
    · rw [hsame]
      exact ⟨fun _ => hblocked.1, hblocked.2⟩
    · simp [hauthentication, hterminal] at hblocked

/-- A sync is pending, or it was begun after the first `begun` calls and still runs. -/
def Kept (begun : Nat) (self : Scheduler) : Prop :=
  self.pending.map (·.cycle) = some .sync ∨ self.active.map (·.cycle) = some .sync ∧ begun < self.controllers

theorem prefer_of_sync {current : Option Pending} (hsync : current.map (·.cycle) = some .sync) (incoming : Pending) :
    prefer current incoming = current := by
  obtain ⟨pending, rfl, hcycle⟩ := Option.map_eq_some_iff.mp hsync
  simp [prefer, hcycle]

/-- No request puts a pull in the place of a sync. -/
theorem Kept.queue {begun : Nat} (hkept : Kept begun self) (hbegun : begun ≤ self.controllers) {cycle : Cycle}
    {explicit : Bool} (hweak : explicit = false ∨ cycle = .sync) (reason : Reason) :
    Kept begun (self.queue cycle reason explicit) := by
  obtain ⟨_, hqueue⟩ | ⟨_, next, _, hnext, ⟨_, hqueue⟩ | ⟨_, _, hqueue⟩ | ⟨_, _, _, hactive, _, hqueue⟩⟩ :=
    queue_cases self cycle reason explicit
  · rw [hqueue]
    exact hkept
  · rw [hqueue]
    exact hkept.imp (fun hsync => congrArg some (hnext hsync hweak)) id
  · rw [hqueue]
    exact hkept.imp (fun hsync => congrArg some (hnext hsync hweak)) id
  · rw [hqueue]
    rcases hkept with hsync | ⟨hrunning, _⟩
    · exact .inr ⟨congrArg some (hnext hsync hweak), Nat.lt_succ_of_le hbegun⟩
    · simp [hactive] at hrunning

theorem Kept.drain {begun : Nat} (hkept : Kept begun self) (hbegun : begun ≤ self.controllers) :
    Kept begun self.drain := by
  obtain ⟨hsame, _⟩ | ⟨pending, hpending, _, _, hactive, hbegin⟩ := drain_cases self
  · rw [hsame]
    exact hkept
  · rw [hbegin]
    rcases hkept with hsync | ⟨hrunning, _⟩
    · refine .inr ⟨?_, Nat.lt_succ_of_le hbegun⟩
      rw [hpending] at hsync
      exact hsync
    · simp [hactive] at hrunning

theorem Kept.cancelRetry {begun : Nat} (hkept : Kept begun self) (hbegun : begun ≤ self.controllers) :
    Kept begun self.cancelRetry ∧ begun ≤ self.cancelRetry.controllers := by
  obtain ⟨_, hcancelled⟩ := cancelRetry_eq self
  rw [hcancelled]
  exact ⟨hkept, hbegun⟩

theorem controllers_le_queue (self : Scheduler) (cycle : Cycle) (reason : Reason) (explicit : Bool) :
    self.controllers ≤ (self.queue cycle reason explicit).controllers := by
  obtain ⟨_, hqueue⟩ | ⟨_, _, _, _, ⟨_, hqueue⟩ | ⟨_, _, hqueue⟩ | ⟨_, _, _, _, _, hqueue⟩⟩ :=
    queue_cases self cycle reason explicit
  all_goals simp [hqueue, publish, begin]

theorem Kept.report {begun : Nat} (hkept : Kept begun self) (hbegun : begun ≤ self.controllers) (event : SourceEvent) :
    Kept begun (self.report event) ∧ begun ≤ (self.report event).controllers := by
  cases event with
  | hint =>
    exact ⟨hkept.queue hbegun (.inl rfl) _, hbegun.trans (controllers_le_queue self .pull .invalidation false)⟩
  | failure =>
    change Kept begun self.schedulePeriodic ∧ begun ≤ self.schedulePeriodic.controllers
    unfold schedulePeriodic
    split
    · exact ⟨hkept, hbegun⟩
    · exact ⟨hkept, hbegun⟩

theorem Kept.startInvalidations {begun : Nat} (hkept : Kept begun self) (hbegun : begun ≤ self.controllers)
    (events : List SourceEvent) :
    Kept begun (self.startInvalidations options events) ∧
      begun ≤ (self.startInvalidations options events).controllers := by
  unfold Scheduler.startInvalidations
  split
  · exact ⟨hkept, hbegun⟩
  · have hreported : Kept begun (events.foldl Scheduler.report self) ∧
        begun ≤ (events.foldl Scheduler.report self).controllers := by
      clear * - hkept hbegun
      induction events generalizing self with
      | nil => exact ⟨hkept, hbegun⟩
      | cons event events ih => exact ih (hkept.report hbegun event).1 (hkept.report hbegun event).2
    exact hreported

/-- A pending sync stays pending or is begun, unless a stop or a failure that halts the scheduler drops it. -/
theorem kept_of_step {event : Event} {next : Scheduler} (hstep : Step options self event next)
    (hself : Consistent self) (hsync : self.pending.map (·.cycle) = some .sync) :
    Kept self.controllers next ∨ event = .stop ∨
      ∃ call error now sample, event = .settled call (.error error) now sample ∧ Halting (normalize error) ∧
        next.terminalBlocked := by
  have hkept : Kept self.controllers self := .inl hsync
  cases hstep with
  | start current notified events =>
    left
    unfold start
    split
    · exact hkept
    · rename_i hstopped
      rw [Bool.not_eq_true] at hstopped
      simp [(hself.stopped hstopped).2.1] at hsync
  | stop => exact .inr (.inl rfl)
  | requestSync reason =>
    left
    have hlifted : Kept self.controllers { self with authenticationBlocked := false, terminalBlocked := false } :=
      .inl hsync
    exact (hlifted.cancelRetry le_rfl).1.queue (hlifted.cancelRetry le_rfl).2 (.inr rfl) _
  | requestPull reason => exact .inl (hkept.queue le_rfl (.inl rfl) _)
  | resumeAfterAuthentication =>
    left
    have hlifted : Kept self.controllers { self with authenticationBlocked := false, terminalBlocked := false } :=
      .inl hsync
    exact (hlifted.cancelRetry le_rfl).1.queue (hlifted.cancelRetry le_rfl).2 (.inr rfl) _
  | connectivity online events =>
    left
    obtain ⟨_, hsame⟩ | ⟨_, _, _, pending, hpending, hoffline⟩ | ⟨_, _, _, honline⟩ :=
      setOnline_cases options self online events
    · rw [hsame]
      exact hkept
    · obtain ⟨_, hcancelled⟩ := cancelRetry_eq { self with online := false, pending }
      rw [hoffline, hcancelled]
      exact .inl ((congrArg _ (hpending hsync)).trans hsync)
    · rw [honline]
      have hconnected : Kept self.controllers { self with online := true } := .inl hsync
      obtain ⟨hreported, hbegun⟩ := hconnected.startInvalidations le_rfl events
      exact hreported.queue hbegun (.inl rfl) _
  | source event => exact .inl (hkept.report le_rfl event).1
  | retryTimer harmed =>
    have hfired : Kept self.controllers { self with retryTimer := false } := .inl hsync
    exact .inl (hfired.drain le_rfl)
  | periodicTimer harmed =>
    have hfired : Kept self.controllers { self with periodicTimer := false } := .inl hsync
    exact .inl (hfired.queue le_rfl (.inl rfl) _)
  | @settled call hcall result now sample =>
    obtain ⟨_, _, hdropped⟩ | ⟨hstarted, hcurrent, _, resumed, hresumed, hsettled⟩ :=
      settle_cases options hself hcall result now sample
    · rw [hdropped]
      exact .inl (.inl hsync)
    · have hdrains : Kept self.controllers resumed → Kept self.controllers (self.settle options call result now sample) := by
        intro hkept
        have hbegun : resumed.controllers = self.controllers := by
          rw [hresumed]
          exact (resume_keeps options _ call result now sample).2.2.2.2
        obtain ⟨_, hsame⟩ | ⟨_, _, _, hdrained⟩ := hsettled
        · rw [hsame]
          exact hkept
        · rw [hdrained]
          exact hkept.drain hbegun.ge
      cases result with
      | ok =>
        left
        apply hdrains
        rw [hresumed, @resume_ok options { self.withoutCall call with active := none } hstarted call hcurrent]
        exact .inl hsync
      | error error =>
        rw [@resume_error options { self.withoutCall call with active := none } hstarted call hcurrent] at hresumed
        obtain ⟨_, hfail⟩ | ⟨_, _, hfail⟩ | ⟨_, _, _, hfail⟩ | ⟨_, hhalting, hfail⟩ | ⟨_, _, _, _, hfail⟩ :=
          fail_cases options { self.withoutCall call with active := none } call error now sample
        all_goals rw [hfail] at hresumed
        · left
          apply hdrains
          rw [hresumed]
          exact .inl ((congrArg _ (prefer_of_sync hsync _)).trans hsync)
        · left
          apply hdrains
          rw [hresumed]
          exact .inl hsync
        · left
          apply hdrains
          rw [hresumed]
          exact .inl hsync
        · right
          right
          refine ⟨call, error, now, sample, rfl, hhalting, ?_⟩
          obtain ⟨_, hsame⟩ | ⟨_, _, hterminal, _⟩ := hsettled
          · rw [hsame, hresumed]
          · simp [hresumed] at hterminal
        · left
          apply hdrains
          rw [hresumed]
          exact .inl ((congrArg _ (prefer_of_sync hsync _)).trans hsync)

theorem consistent_of_run {edges : List (Trace.Edge Scheduler Event)} (hrun : Run options .new edges self) :
    Consistent self ∧ Progresses self := by
  refine hrun.preserves (P := fun scheduler => Consistent scheduler ∧ Progresses scheduler) ?_
    ⟨consistent_new, fun hstarted => by simp [Scheduler.new] at hstarted⟩
  rintro before event after hstep ⟨hconsistent, hprogresses⟩
  exact ⟨consistent_of_step hstep hconsistent, progresses_of_step hstep hconsistent hprogresses⟩

/-- At most one unsettled call is of this start. -/
theorem Consistent.calls_le_one (hself : Consistent self) (hstarted : self.started) :
    (self.calls.filter fun call => call.generation = self.generation).length ≤ 1 := by
  have hdistinct : ((self.calls.filter fun call => call.generation = self.generation).map (·.controller)).Nodup :=
    hself.distinct.sublist (List.filter_sublist.map _)
  have hrunning : ∀ call ∈ self.calls.filter fun call => call.generation = self.generation,
      self.active = some ⟨call.controller, call.pending.cycle⟩ := by
    intro call hcall
    obtain ⟨hcall, hcurrent⟩ := List.mem_filter.mp hcall
    exact hself.tracked hstarted call hcall (by simpa using hcurrent)
  cases hcalls : self.calls.filter fun call => call.generation = self.generation with
  | nil => simp
  | cons first rest =>
    cases rest with
    | nil => simp
    | cons second rest =>
      rw [hcalls] at hdistinct hrunning
      have hfirst := hrunning first (by simp)
      have hsecond := hrunning second (by simp)
      rw [hfirst] at hsecond
      simp_all

/-- Work neither overlaps nor gets lost, and nothing resurrects it: in every state of every run, one call of the
present start is awaited at most, and it is the running one; what is pending and may run has a call or a retry
before it; timers and pending work end with a stop; a failure that halts the scheduler, of a call of the present
start and while online, is the last thing that happens to its calls until something lifts it; and a pending sync
stays pending or is begun. -/
theorem work_of_run {edges : List (Trace.Edge Scheduler Event)} (hrun : Run options .new edges self) :
    (self.started →
      (self.calls.filter fun call => call.generation = self.generation).length ≤ 1 ∧
        (self.active.isSome ↔ ∃ call ∈ self.calls, call.generation = self.generation)) ∧
      (self.started → self.online → self.authenticationBlocked = false → self.terminalBlocked = false →
        self.pending.isSome → (∃ call ∈ self.calls, call.generation = self.generation) ∨ self.retryTimer) ∧
      (self.retryTimer → self.started ∧ self.online ∧ self.active = none) ∧
      (self.started = false → self.retryTimer = false ∧ self.periodicTimer = false ∧ self.pending = none) ∧
      (∀ call error now sample next later last, self.started → self.online → call.generation = self.generation →
        Halting (normalize error) → Step options self (.settled call (.error error) now sample) next →
        Run options next later last → (∀ edge ∈ later, ¬ Lifts edge.source edge.label) →
        last.controllers = self.controllers) ∧
      ∀ event next, Step options self event next → self.pending.map (·.cycle) = some .sync →
        Kept self.controllers next ∨ event = .stop ∨
          ∃ call error now sample, event = .settled call (.error error) now sample ∧ Halting (normalize error) ∧
            next.terminalBlocked := by
  obtain ⟨hconsistent, hprogresses⟩ := consistent_of_run hrun
  have hactive : self.started → (self.active.isSome ↔ ∃ call ∈ self.calls, call.generation = self.generation) := by
    intro hstarted
    constructor
    · intro hactive
      obtain ⟨active, hactive⟩ := Option.isSome_iff_exists.mp hactive
      obtain ⟨call, hcall, hgeneration, _⟩ := hconsistent.running active hactive
      exact ⟨call, hcall, hgeneration⟩
    · rintro ⟨call, hcall, hgeneration⟩
      simp [hconsistent.tracked hstarted call hcall hgeneration]
  refine ⟨fun hstarted => ⟨hconsistent.calls_le_one hstarted, hactive hstarted⟩, ?_, hconsistent.retry, ?_, ?_, ?_⟩
  · intro hstarted honline hauthentication hterminal hpending
    rw [← hactive hstarted]
    exact hprogresses hstarted honline hauthentication hterminal hpending
  · intro hstopped
    obtain ⟨_, hpending, hretry, hperiodic⟩ := hconsistent.stopped hstopped
    exact ⟨hretry, hperiodic, hpending⟩
  · intro call error now sample next later last hstarted honline hcurrent hhalting hstep hlater hheld
    have hnext := consistent_of_step hstep hconsistent
    cases hstep with
    | settled hcall =>
      obtain ⟨hhalted, hsame⟩ :=
        halted_of_failure options hconsistent hcall hstarted honline hcurrent hhalting now sample
      exact (halted_of_run hlater hnext hhalted hheld).trans hsame
  · intro event next hstep hsync
    exact kept_of_step hstep hconsistent hsync

/-- The first call of a start is refused, and the hint after it begins no other. -/
theorem work_of_refused_start :
    (((Scheduler.new.start ⟨1000, 60000, true⟩ none [] []).settle ⟨1000, 60000, true⟩ ⟨0, 1, ⟨.sync, .startup⟩⟩
      (.error (some ⟨.http, some 401⟩)) 0 none).report .hint).controllers = 1 ∧
      ((Scheduler.new.start ⟨1000, 60000, true⟩ none [] []).calls.filter fun call => call.generation = 1).length ≤ 1 := by
  have hwork := @work_of_run ⟨1000, 60000, true⟩ _ _ (.cons (.start none [] []) (.nil _))
  obtain ⟨hcalls, _, _, _, hfailure, _⟩ := hwork
  refine ⟨?_, (hcalls (by decide)).1⟩
  refine hfailure ⟨0, 1, ⟨.sync, .startup⟩⟩ (some ⟨.http, some 401⟩) 0 none _ _ _ (by decide) (by decide) (by decide)
    (by decide) (.settled (by decide) _ _ _) (.cons (.source .hint) (.nil _)) ?_
  intro edge hedge
  rw [List.mem_singleton] at hedge
  simp [hedge, Lifts]

/-- A call is refused while offline and is begun again, with no request in between. -/
theorem refused_offline_begun_again :
    ∃ (options : Options) (edges : List (Trace.Edge Scheduler Event)) (self : Scheduler) (call : Call) (next : Scheduler)
      (later : List (Trace.Edge Scheduler Event)) (last : Scheduler),
      Run options .new edges self ∧ self.started ∧
        Step options self (.settled call (.error (some ⟨.http, some 401⟩)) 0 none) next ∧
        authenticationStatus ⟨.http, some 401⟩ = some 401 ∧ Run options next later last ∧
        (∀ edge ∈ later, ¬ Lifts edge.source edge.label) ∧ self.controllers < last.controllers := by
  let options : Options := ⟨1000, 60000, false⟩
  let begun := Scheduler.new.start options none [] []
  let offline := begun.setOnline options false []
  let call : Call := ⟨0, 1, ⟨.sync, .startup⟩⟩
  let refused := offline.settle options call (.error (some ⟨.http, some 401⟩)) 0 none
  refine ⟨options, _, offline, call, refused, _, refused.setOnline options true [], .cons (.start none [] [])
    (.cons (.connectivity false []) (.nil _)), by decide, .settled (by decide) _ _ _, by decide,
    .cons (.connectivity true []) (.nil _), ?_, by decide⟩
  intro edge hedge
  rw [List.mem_singleton] at hedge
  simp [hedge, Lifts]

end react_native_surrealdb.sync_scheduler
