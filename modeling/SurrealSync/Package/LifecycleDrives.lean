import SurrealSync.Package.LifecycleRuns

namespace react_native_surrealdb.sync_lifecycle

open EventLog (Separated)
open sync_scheduler (Scheduler)
open sync_scheduler.Scheduler

/-! ### Whether the scheduler is started -/

section Scheduler

variable {schedule : sync_scheduler.Options} {scheduler next : Scheduler}

@[simp]
theorem drain_started : scheduler.drain.started = scheduler.started := by
  unfold Scheduler.drain
  split
  · rfl
  · split <;> rfl

theorem fail_started (call : sync_scheduler.Call) (error : Option sync_scheduler.HttpError) (now : Nat)
    (sample : Option ℚ) : (scheduler.fail schedule call error now sample).started = scheduler.started := by
  unfold Scheduler.fail
  split
  · rfl
  · dsimp only
    split
    · rfl
    · split
      · rfl
      · split <;> rfl

theorem resume_started (call : sync_scheduler.Call) (result : Except (Option sync_scheduler.HttpError) Unit)
    (now : Nat) (sample : Option ℚ) :
    (scheduler.resume schedule call result now sample).started = scheduler.started := by
  unfold Scheduler.resume
  split
  · rfl
  · split
    · unfold Scheduler.schedulePeriodic
      split <;> rfl
    · exact fail_started call _ now sample

theorem release_started (call : sync_scheduler.Call) : (scheduler.release call).started = scheduler.started := by
  unfold Scheduler.release
  dsimp only
  split <;> split <;> simp

theorem start_started (startup : Startup) :
    (scheduler.start schedule startup.current startup.notified startup.events).started := by
  unfold Scheduler.start
  split
  · assumption
  · dsimp only
    split
    · simp [Scheduler.publish, sync_scheduler.changes_started]
    · simp [sync_scheduler.changes_started]

theorem stop_started : scheduler.stop.started = false := by
  unfold Scheduler.stop
  split
  · rename_i hstopped
    exact Bool.eq_false_of_not_eq_true hstopped
  · simp [Scheduler.publish, Scheduler.stopInvalidationSource, Scheduler.clearTimers]

theorem resumeAfterAuthentication_started :
    scheduler.resumeAfterAuthentication.started = scheduler.started := by
  simp [Scheduler.resumeAfterAuthentication]

/-- Only `start` and `stop` change whether the scheduler is started. -/
theorem outside_started {event : sync_scheduler.Event} (houtside : Outside event)
    (hstep : sync_scheduler.Step schedule scheduler event next) : next.started = scheduler.started := by
  cases hstep with
  | start current notified events => exact houtside.elim
  | stop => exact houtside.elim
  | requestSync reason => simp [Scheduler.requestSync]
  | requestPull reason => simp [Scheduler.requestPull]
  | resumeAfterAuthentication => exact houtside.elim
  | connectivity online events => simp
  | source event => simp
  | retryTimer harmed => simp
  | periodicTimer harmed => simp [Scheduler.requestPull]
  | settled hcall result now sample =>
    rw [Scheduler.settle, release_started, resume_started]

end Scheduler

/-! ### What the coordinator drives -/

variable {options : Options} {self next : World}

/-- What stays when a status is published or a refresh is begun or aborted. -/
structure Stays (before after : World) : Prop where
  started : after.coordinator.started = before.coordinator.started
  active : after.coordinator.active = before.coordinator.active
  subscribed : after.coordinator.subscribedLifecycle = before.coordinator.subscribedLifecycle
  scheduler : after.scheduler = before.scheduler
  application : after.application = before.application

theorem Stays.refl (world : World) : Stays world world := ⟨rfl, rfl, rfl, rfl, rfl⟩

theorem Stays.trans {last : World} (hfirst : Stays self next) (hsecond : Stays next last) : Stays self last where
  started := hsecond.started.trans hfirst.started
  active := hsecond.active.trans hfirst.active
  subscribed := hsecond.subscribed.trans hfirst.subscribed
  scheduler := hsecond.scheduler.trans hfirst.scheduler
  application := hsecond.application.trans hfirst.application

theorem stays_abort : Stays self self.abort := by
  unfold World.abort
  split <;> exact ⟨rfl, rfl, rfl, rfl, rfl⟩

theorem stays_begin (status : Nat) : Stays self (self.beginAuthenticationRefresh options status) := by
  unfold World.beginAuthenticationRefresh
  split <;> exact ⟨rfl, rfl, rfl, rfl, rfl⟩

theorem stays_onSchedulerStatus (status : sync_scheduler.Status) :
    Stays self (self.onSchedulerStatus options status) := by
  unfold World.onSchedulerStatus
  split
  · exact ⟨rfl, rfl, rfl, rfl, rfl⟩
  · exact { stays_begin _ with }
  all_goals exact .refl self

theorem stays_publish (published : List sync_scheduler.Status) : Stays self (self.publish options published) := by
  have hstatuses : Stays self (published.foldl (World.onSchedulerStatus options) self) := by
    induction published generalizing self with
    | nil => exact .refl self
    | cons status published ih => exact (stays_onSchedulerStatus status).trans ih
  unfold World.publish
  split
  · exact hstatuses
  · exact .refl self

/-- The scheduler is started when the coordinator is active, which it is only while started. -/
structure Coupled (world : World) : Prop where
  scheduler : world.scheduler.started = world.coordinator.active
  active : world.coordinator.active → world.coordinator.started

theorem Stays.coupled (hstays : Stays self next) (hcoupled : Coupled self) : Coupled next where
  scheduler := by rw [hstays.scheduler, hstays.active, hcoupled.scheduler]
  active := by
    rw [hstays.active, hstays.started]
    exact hcoupled.active

/-- The scheduler is started or stopped, and nothing else changes in what the coordinator drives. -/
structure Turns (on : Bool) (before after : World) : Prop where
  started : after.coordinator.started = before.coordinator.started
  active : after.coordinator.active = before.coordinator.active
  subscribed : after.coordinator.subscribedLifecycle = before.coordinator.subscribedLifecycle
  scheduler : after.scheduler.started = on
  application : after.application = before.application

theorem turns_startScheduler (startup : Startup) : Turns true self (self.startScheduler options startup) := by
  have hpublished := @stays_publish options { self with
    scheduler := self.scheduler.start options.scheduler startup.current startup.notified startup.events }
    startup.published
  exact ⟨hpublished.started, hpublished.active, hpublished.subscribed,
    (congrArg Scheduler.started hpublished.scheduler).trans (start_started startup), hpublished.application⟩

theorem turns_stopScheduler (startup : Startup) : Turns false self (self.stopScheduler options startup) := by
  have hpublished := @stays_publish options { self with scheduler := self.scheduler.stop } startup.published
  exact ⟨hpublished.started, hpublished.active, hpublished.subscribed,
    (congrArg Scheduler.started hpublished.scheduler).trans stop_started, hpublished.application⟩

/-- What the coordinator drives after it was told a state. -/
structure Told (state : ApplicationState) (before after : World) : Prop where
  coupled : Coupled after
  active : before.coordinator.started → after.coordinator.active = decide (state = .active)
  started : after.coordinator.started = before.coordinator.started
  subscribed : after.coordinator.subscribedLifecycle = before.coordinator.subscribedLifecycle
  application : after.application = before.application

theorem Turns.told {state : ApplicationState} {changed aborted : World} {on : Bool} (hturns : Turns on aborted next)
    (haborted : Stays changed aborted) (hon : changed.coordinator.active = on)
    (hactive : changed.coordinator.active = decide (state = .active)) (hstarted : changed.coordinator.started)
    (hsame : changed.coordinator.started = self.coordinator.started)
    (hsubscribed : changed.coordinator.subscribedLifecycle = self.coordinator.subscribedLifecycle)
    (happlication : changed.application = self.application) : Told state self next where
  coupled := {
    scheduler := by rw [hturns.scheduler, hturns.active, haborted.active, hon]
    active := fun _ => by rw [hturns.started, haborted.started, hstarted] }
  active _ := by rw [hturns.active, haborted.active, hactive]
  started := by rw [hturns.started, haborted.started, hsame]
  subscribed := by rw [hturns.subscribed, haborted.subscribed, hsubscribed]
  application := by rw [hturns.application, haborted.application, happlication]

theorem told_setApplicationState (hcoupled : Coupled self) (state : ApplicationState) (startup : Startup) :
    Told state self (self.setApplicationState options state startup) := by
  unfold World.setApplicationState
  split
  · rename_i hstopped
    exact ⟨hcoupled, fun hstarted => absurd hstarted hstopped, rfl, rfl, rfl⟩
  · rename_i hstarted
    rw [Decidable.not_not] at hstarted
    dsimp only
    split
    · rename_i hsame
      exact ⟨hcoupled, fun _ => hsame.symm, rfl, rfl, rfl⟩
    · split
      · rename_i hactive
        exact (turns_startScheduler startup).told stays_abort hactive rfl hstarted rfl rfl rfl
      · rename_i hactive
        exact (turns_stopScheduler startup).told stays_abort (Bool.eq_false_of_not_eq_true hactive) rfl hstarted rfl rfl rfl

/-- The scheduler is started exactly while the coordinator is started and the application is active. -/
structure Drives (world : World) : Prop extends Coupled world where
  subscribed : world.coordinator.subscribedLifecycle = world.coordinator.started
  application : world.coordinator.started →
    world.coordinator.active = decide (world.application = some .active)

theorem Stays.drives (hstays : Stays self next) (hdrives : Drives self) : Drives next where
  toCoupled := hstays.coupled hdrives.toCoupled
  subscribed := by rw [hstays.subscribed, hstays.started, hdrives.subscribed]
  application := by
    rw [hstays.started, hstays.active, hstays.application]
    exact hdrives.application

theorem drives_report (hcoupled : Coupled self)
    (hsubscribed : self.coordinator.subscribedLifecycle = self.coordinator.started) (state : ApplicationState)
    (startup : Startup) : Drives (self.report options state startup) := by
  have hreported : Coupled { self with application := some state } := { hcoupled with }
  unfold World.report
  dsimp only
  split
  · rename_i hlistens
    have htold := @told_setApplicationState options _ hreported state startup
    refine ⟨htold.coupled, by rw [htold.subscribed, htold.started]; exact hsubscribed, fun _ => ?_⟩
    rw [htold.active (hsubscribed ▸ hlistens), htold.application]
    simp
  · rename_i hdeaf
    refine ⟨hreported, hsubscribed, fun hstarted => ?_⟩
    exact absurd (hsubscribed.trans hstarted) hdeaf

theorem report_started (hcoupled : Coupled self) (state : ApplicationState) (startup : Startup) :
    (self.report options state startup).coordinator.started = self.coordinator.started := by
  have hreported : Coupled { self with application := some state } := { hcoupled with }
  unfold World.report
  dsimp only
  split
  · exact (told_setApplicationState hreported state startup).started
  · rfl

theorem coupled_reports (hcoupled : Coupled self)
    (hsubscribed : self.coordinator.subscribedLifecycle = self.coordinator.started)
    (notified : List (ApplicationState × Startup)) :
    Coupled (notified.foldl (fun self change => World.report options self change.1 change.2) self) ∧
      (notified.foldl (fun self change => World.report options self change.1 change.2) self).coordinator.started =
        self.coordinator.started ∧
      (notified.foldl
          (fun self change => World.report options self change.1 change.2) self).coordinator.subscribedLifecycle =
        self.coordinator.subscribedLifecycle := by
  induction notified generalizing self with
  | nil => exact ⟨hcoupled, rfl, rfl⟩
  | cons change notified ih =>
    have hdrives := @drives_report options _ hcoupled hsubscribed change.1 change.2
    have hsame := @report_started options _ hcoupled change.1 change.2
    obtain ⟨hlast, hstarted, hlistens⟩ := ih hdrives.toCoupled hdrives.subscribed
    exact ⟨hlast, hstarted.trans hsame, by
      rw [List.foldl_cons, hlistens, hdrives.subscribed, hsame, hsubscribed]⟩

theorem drives_start (hdrives : Drives self) (notified : List (ApplicationState × Startup)) (startup : Startup) :
    Drives (self.start options notified startup) := by
  unfold World.start
  split
  · exact hdrives
  · have hfirst : Coupled { self with coordinator := { self.coordinator with
        started := true
        generation := self.coordinator.generation + 1
        subscribedScheduler := true } } := ⟨hdrives.scheduler, fun _ => rfl⟩
    have hstatus := @stays_onSchedulerStatus options { self with coordinator := { self.coordinator with
        started := true
        generation := self.coordinator.generation + 1
        subscribedScheduler := true } } self.scheduler.status
    have htold := hstatus.coupled hfirst
    dsimp only
    generalize World.onSchedulerStatus options { self with coordinator := { self.coordinator with
        started := true
        generation := self.coordinator.generation + 1
        subscribedScheduler := true } } self.scheduler.status = told at hstatus htold ⊢
    have hlistens : Coupled { told with coordinator := { told.coordinator with subscribedLifecycle := true } } :=
      ⟨htold.scheduler, htold.active⟩
    obtain ⟨hcoupled, hstarted, hsubscribed⟩ :=
      @coupled_reports options _ hlistens hstatus.started.symm notified
    generalize notified.foldl (fun self change => World.report options self change.1 change.2)
      { told with coordinator := { told.coordinator with subscribedLifecycle := true } } = reported
      at hcoupled hstarted hsubscribed ⊢
    have hstarted : reported.coordinator.started = true := hstarted.trans hstatus.started
    have hfinal := @told_setApplicationState options _ hcoupled (reported.application.getD .unknown) startup
    refine ⟨hfinal.coupled, ?_, fun _ => ?_⟩
    · rw [hfinal.subscribed, hfinal.started, hsubscribed, hstarted]
    · rw [hfinal.active hstarted, hfinal.application]
      cases reported.application <;> simp

theorem drives_stop (hdrives : Drives self) : Drives self.stop := by
  unfold World.stop
  split
  · exact hdrives
  · have haborted : Stays { self with
        coordinator := { self.coordinator with
          started := false
          active := false
          generation := self.coordinator.generation + 1
          refreshAttempted := false
          lastAuthenticationStatus := none }
        log := self.log ++ [.stop] } _ := stays_abort
    refine ⟨⟨?_, fun hactive => ?_⟩, ?_, fun hstarted => ?_⟩
    · exact stop_started.trans haborted.active.symm
    · exact absurd (haborted.active.symm.trans hactive) (by simp)
    · exact haborted.started.symm
    · exact absurd (haborted.started.symm.trans hstarted) (by simp)

theorem stays_retryAuthentication : Stays self (self.retryAuthentication options) := by
  unfold World.retryAuthentication
  dsimp only
  split
  · exact ⟨rfl, rfl, rfl, rfl, rfl⟩
  · split
    · exact ⟨rfl, rfl, rfl, rfl, rfl⟩
    · exact { stays_begin _ with }

theorem stays_settle {refresh : Nat} {changed : Option Bool} (hsettle : self.settle refresh changed = some next) :
    Stays self next := by
  obtain ⟨call, _, hnext⟩ := Option.bind_eq_some_iff.mp hsettle
  split at hnext
  · cases changed <;> cases hnext <;> exact ⟨rfl, rfl, rfl, rfl, rfl⟩
  · cases hnext

theorem stays_cleanup {refresh : Nat} (hcleanup : self.cleanup refresh = some next) : Stays self next := by
  obtain ⟨call, _, hnext⟩ := Option.bind_eq_some_iff.mp hcleanup
  split at hnext
  · dsimp only at hnext
    split at hnext <;> cases hnext <;> exact ⟨rfl, rfl, rfl, rfl, rfl⟩
  · cases hnext

/-- The scheduler goes on without being started or stopped. -/
theorem drives_scheduler (hdrives : Drives self) {scheduler : Scheduler}
    (hstarted : scheduler.started = self.scheduler.started) : Drives { self with scheduler } where
  __ := hdrives
  scheduler := hstarted.trans hdrives.scheduler

theorem drives_react (hdrives : Drives self) {refresh : Nat} {published : List sync_scheduler.Status}
    (hreact : self.react options refresh published = some next) : Drives next := by
  obtain ⟨call, _, hnext⟩ := Option.bind_eq_some_iff.mp hreact
  have hadvanced : Drives (self.advance refresh .reacted) := { hdrives with }
  split at hnext
  · dsimp only at hnext
    split at hnext
    · cases hnext
      have hresumed : Drives { self.advance refresh .reacted with
          scheduler := self.scheduler.resumeAfterAuthentication
          log := self.log ++ [.resumeAfterAuthentication refresh] } :=
        { drives_scheduler hadvanced resumeAfterAuthentication_started with }
      exact (stays_publish published).drives hresumed
    · cases hnext
      exact hadvanced
  · dsimp only at hnext
    split at hnext
    · cases hnext
      exact { hadvanced with }
    · cases hnext
      exact hadvanced
  all_goals cases hnext

theorem drives_step {move : Move} (hdrives : Drives self) (hstep : Interleaving options self move next) :
    Drives next := by
  cases move with
  | start notified startup =>
    cases hstep
    exact drives_start hdrives notified startup
  | stop =>
    cases hstep
    exact drives_stop hdrives
  | retryAuthentication =>
    cases hstep
    exact stays_retryAuthentication.drives hdrives
  | application state startup =>
    cases hstep
    exact drives_report hdrives.toCoupled hdrives.subscribed state startup
  | scheduler event published =>
    obtain ⟨houtside, scheduler, hscheduler, rfl⟩ := hstep
    exact (stays_publish published).drives (drives_scheduler hdrives (outside_started houtside hscheduler))
  | settle refresh changed => exact (stays_settle hstep).drives hdrives
  | react refresh published => exact drives_react hdrives hstep
  | cleanup refresh => exact (stays_cleanup hstep).drives hdrives

theorem orderly_step {move : Move} (horderly : Orderly self) (hstep : Interleaving options self move next) :
    Orderly next := by
  cases move with
  | start notified startup =>
    cases hstep
    exact horderly.start notified startup
  | stop =>
    cases hstep
    exact horderly.stop
  | retryAuthentication =>
    cases hstep
    exact horderly.retryAuthentication
  | application state startup =>
    cases hstep
    exact horderly.report state startup
  | scheduler event published =>
    obtain ⟨_, scheduler, _, rfl⟩ := hstep
    have hscheduler : Orderly { self with scheduler } := { horderly with }
    exact hscheduler.publish published
  | settle refresh changed => exact horderly.settle hstep
  | react refresh published => exact horderly.react hstep
  | cleanup refresh => exact horderly.cleanup hstep

theorem drives_new (application : Option ApplicationState) : Drives (World.new application) where
  scheduler := rfl
  active hactive := by cases hactive
  subscribed := rfl
  application hstarted := by cases hstarted

/-- The scheduler runs exactly while the coordinator is started and the application is active; at most one refresh that
was not aborted is unsettled; between two refreshes there is a reset; and only a refresh of this period that returned
true and was not aborted resumes the scheduler. -/
theorem credential_refresh_single_flight {application : Option ApplicationState} {world : World}
    {edges : List (Trace.Edge World Move)} (hrun : Trace.Run (Interleaving options) (.new application) edges world) :
    (world.scheduler.started ↔ world.coordinator.started ∧ world.application = some .active) ∧
      (∀ (first second : Nat) (call other : Refresh), world.refreshes[first]? = some call → world.refreshes[second]? = some other →
        call.chain = .unsettled → call.aborted = false → other.chain = .unsettled → other.aborted = false →
          first = second) ∧
      Separated Entry.Refreshes Entry.Resets world.log ∧
      ∀ before refresh after, world.log = before ++ .resumeAfterAuthentication refresh :: after →
        Justified before refresh := by
  have hdrives : Drives world := Trace.Run.preserves (P := Drives)
    (fun _ _ _ hstep hsource => drives_step hsource hstep) hrun (drives_new application)
  have horderly : Orderly world := Trace.Run.preserves (P := Orderly)
    (fun _ _ _ hstep hsource => orderly_step hsource hstep) hrun (orderly_new application)
  refine ⟨?_, fun first second call other hcall hother hunsettled hkept hwaits hlives => ?_, horderly.separated,
    horderly.resumed⟩
  · rw [hdrives.scheduler]
    constructor
    · intro hactive
      have hstarted := hdrives.active hactive
      exact ⟨hstarted, by simpa [hactive] using (hdrives.application hstarted).symm⟩
    · rintro ⟨hstarted, happlication⟩
      rw [hdrives.application hstarted, happlication]
      rfl
  · have hfirst := horderly.single first call hcall hkept (by simp [hunsettled])
    rw [horderly.single second other hother hlives (by simp [hwaits])] at hfirst
    exact (Option.some.inj hfirst).symm

/-- The first sync is refused, the credentials are refreshed, and the scheduler resumes. -/
theorem credential_refresh_resumes : ∃ edges world,
    Trace.Run (Interleaving ⟨true, ⟨1, 1, false⟩⟩) (.new (some .active)) edges world ∧
      world.log = [.applicationState, .refreshAuthentication 0, .settled 0 (some true), .resumeAfterAuthentication 0] ∧
      world.scheduler.started ∧ Separated Entry.Refreshes Entry.Resets world.log ∧
      Justified [.applicationState, .refreshAuthentication 0, .settled 0 (some true)] 0 := by
  let options : Options := ⟨true, ⟨1, 1, false⟩⟩
  let started := World.start options (.new (some .active)) [] ⟨none, [], [], [.syncing .startup]⟩
  let call : sync_scheduler.Call := ⟨0, 1, ⟨.sync, .startup⟩⟩
  let refused := World.publish options { started with
    scheduler := started.scheduler.settle options.scheduler call (.error (some ⟨.http, some 401⟩)) 0 none }
    [.authentication_required 401]
  obtain ⟨settled, hsettled⟩ : ∃ settled, refused.settle 0 (some true) = some settled := ⟨_, rfl⟩
  obtain ⟨resumed, hresumed⟩ : ∃ resumed,
      settled.react options 0 [.syncing .authentication_refresh] = some resumed := by
    cases hsettled
    exact ⟨_, rfl⟩
  have hstart : Interleaving options (.new (some .active)) (.start [] ⟨none, [], [], [.syncing .startup]⟩) started := rfl
  have hrefused : Interleaving options started
      (.scheduler (.settled call (.error (some ⟨.http, some 401⟩)) 0 none) [.authentication_required 401]) refused :=
    ⟨trivial, _, .settled (by decide) _ _ _, rfl⟩
  have hsettle : Interleaving options refused (.settle 0 (some true)) settled := hsettled
  have hreact : Interleaving options settled (.react 0 [.syncing .authentication_refresh]) resumed := hresumed
  have hrun := Trace.Run.cons hstart (.cons hrefused (.cons hsettle (.cons hreact (.nil _))))
  obtain ⟨hscheduler, _, hseparated, hjustified⟩ := credential_refresh_single_flight hrun
  have hlog : resumed.log =
      [.applicationState, .refreshAuthentication 0, .settled 0 (some true), .resumeAfterAuthentication 0] := by
    cases hsettled
    cases hresumed
    rfl
  refine ⟨_, resumed, hrun, hlog, hscheduler.mpr ?_, hseparated, hjustified _ 0 [] hlog⟩
  cases hsettled
  cases hresumed
  exact ⟨rfl, rfl⟩

end react_native_surrealdb.sync_lifecycle
