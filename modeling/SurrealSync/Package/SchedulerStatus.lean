import SurrealSync.Package.SchedulerRuns

namespace react_native_surrealdb.sync_scheduler

open Scheduler

variable {options : Options} {self : Scheduler}

/-- The published status says what the scheduler does. -/
structure Truthful (scheduler : Scheduler) : Prop where
  stopped : scheduler.status = .stopped ↔ scheduler.started = false
  offline : scheduler.started → scheduler.online = false → scheduler.status = .offline
  syncing : scheduler.started → scheduler.online → scheduler.active.isSome →
    ∃ reason, scheduler.status = .syncing reason
  backoff : scheduler.started → scheduler.online → scheduler.active = none → scheduler.retryTimer →
    ∃ attempt retryAt, scheduler.status = .backoff attempt retryAt
  authentication_required : scheduler.started → scheduler.online → scheduler.active = none →
    scheduler.authenticationBlocked → ∃ status, scheduler.status = .authentication_required status
  failed : scheduler.started → scheduler.online → scheduler.active = none → scheduler.terminalBlocked →
    ∃ error, scheduler.status = .failed error

theorem truthful_new : Truthful .new := by
  constructor <;> simp [Scheduler.new]

/-- Whatever is published offline is true, as long as the scheduler is started. -/
theorem truthful_offline (hstarted : self.started) (honline : self.online = false) :
    Truthful (self.publish .offline) := by
  constructor <;> simp [publish, hstarted, honline]

/-- A scheduler that only awaits work owes no status. -/
theorem truthful_idle (hstarted : self.started) (hstatus : self.status ≠ .stopped) (honline : self.online)
    (hactive : self.active = none) (hretry : self.retryTimer = false)
    (hauthentication : self.authenticationBlocked = false) (hterminal : self.terminalBlocked = false) :
    Truthful self := by
  constructor <;> simp [hstarted, hstatus, honline, hactive, hretry, hauthentication, hterminal]

theorem truthful_begin (hstarted : self.started) (honline : self.online) (pending : Pending) :
    Truthful (self.begin pending) := by
  constructor <;> simp [Scheduler.begin, publish, hstarted, honline]

namespace Truthful

theorem status_ne_stopped (hself : Truthful self) (hstarted : self.started) : self.status ≠ .stopped := by
  intro hstatus
  simp [hself.stopped.mp hstatus] at hstarted

theorem drain (hself : Truthful self) : Truthful self.drain := by
  obtain ⟨hsame, _⟩ | ⟨pending, _, hstarted, honline, _, hbegin⟩ := drain_cases self
  · rw [hsame]
    exact hself
  · rw [hbegin]
    exact truthful_begin hstarted honline pending

theorem queue (hself : Truthful self) (cycle : Cycle) (reason : Reason) (explicit : Bool) :
    Truthful (self.queue cycle reason explicit) := by
  obtain ⟨_, hqueue⟩ | ⟨hstarted, next, _, _, ⟨hoffline, hqueue⟩ | ⟨_, _, hqueue⟩ | ⟨honline, _, _, _, _, hqueue⟩⟩ :=
    queue_cases self cycle reason explicit
  all_goals rw [hqueue]
  · exact hself
  · exact @truthful_offline { self with pending := some next } hstarted hoffline
  · exact { hself with }
  · exact truthful_begin hstarted honline next

theorem unblock (hself : Truthful self) :
    Truthful { self with authenticationBlocked := false, terminalBlocked := false } :=
  { hself with authentication_required := by simp, failed := by simp }

theorem cancelRetry (hself : Truthful self) : Truthful self.cancelRetry := by
  obtain ⟨_, hcancelled⟩ := cancelRetry_eq self
  rw [hcancelled]
  exact { hself with backoff := by simp }

theorem schedulePeriodic (hself : Truthful self) : Truthful self.schedulePeriodic := by
  unfold Scheduler.schedulePeriodic
  split
  · exact hself
  · exact { hself with }

theorem report (hself : Truthful self) (event : SourceEvent) : Truthful (self.report event) := by
  cases event with
  | hint => exact hself.queue _ _ _
  | failure => exact hself.schedulePeriodic

theorem reports (hself : Truthful self) (events : List SourceEvent) :
    Truthful (events.foldl Scheduler.report self) := by
  induction events generalizing self with
  | nil => exact hself
  | cons event events ih => exact ih (hself.report event)

theorem startInvalidations (hself : Truthful self) (events : List SourceEvent) :
    Truthful (self.startInvalidations options events) := by
  unfold Scheduler.startInvalidations
  split
  · exact hself
  · exact { hself.reports events with }

end Truthful

/-- How often these reports of the connectivity go from offline to online. -/
def reconnections : Bool → List Bool → Nat
  | _, [] => 0
  | online, change :: changes => (if change && !online then 1 else 0) + reconnections change changes

/-- The steps after which the status is wrong: a call of the present start succeeds while offline; the scheduler
goes online while a call is still awaited or a failure halts it; or it is told so within a start. -/
def Misleads (self : Scheduler) : Event → Prop
  | .settled call (.ok ()) _ _ => self.started ∧ call.generation = self.generation ∧ self.online = false
  | .connectivity online _ => self.started ∧ self.online = false ∧ online ∧
      (self.active.isSome ∨ self.authenticationBlocked ∨ self.terminalBlocked)
  | .start current notified _ =>
      let online := decide (current ≠ some false)
      self.started = false ∧ (notified.map (·.1)).getLastD online = true ∧ 2 ≤ reconnections online (notified.map (·.1))
  | _ => False

/-- A call is awaited, or a failure halts the scheduler. -/
def Engaged (self : Scheduler) : Prop := self.active.isSome ∨ self.authenticationBlocked ∨ self.terminalBlocked

/-- Nothing that the status is about has changed, and the status has not. -/
structure Stays (before after : Scheduler) : Prop where
  status : after.status = before.status
  started : after.started = before.started
  online : after.online = before.online
  active : after.active = before.active
  retryTimer : after.retryTimer = before.retryTimer
  authenticationBlocked : after.authenticationBlocked = before.authenticationBlocked
  terminalBlocked : after.terminalBlocked = before.terminalBlocked

namespace Stays

variable {before after last : Scheduler}

theorem refl (self : Scheduler) : Stays self self := ⟨rfl, rfl, rfl, rfl, rfl, rfl, rfl⟩

theorem trans (hfirst : Stays before after) (hsecond : Stays after last) : Stays before last where
  status := hsecond.status.trans hfirst.status
  started := hsecond.started.trans hfirst.started
  online := hsecond.online.trans hfirst.online
  active := hsecond.active.trans hfirst.active
  retryTimer := hsecond.retryTimer.trans hfirst.retryTimer
  authenticationBlocked := hsecond.authenticationBlocked.trans hfirst.authenticationBlocked
  terminalBlocked := hsecond.terminalBlocked.trans hfirst.terminalBlocked

theorem engaged (hstays : Stays before after) (hengaged : Engaged before) : Engaged after := by
  unfold Engaged
  rwa [hstays.active, hstays.authenticationBlocked, hstays.terminalBlocked]

end Stays

/-- While engaged and online, a request only waits: it publishes nothing. -/
theorem queue_of_engaged (honline : self.online) (hengaged : Engaged self) (cycle : Cycle) (reason : Reason)
    (explicit : Bool) : Stays self (self.queue cycle reason explicit) := by
  obtain ⟨_, hqueue⟩ | ⟨_, next, _, _,
      ⟨hoffline, _⟩ | ⟨_, _, hqueue⟩ | ⟨_, hauthentication, hterminal, hidle, _⟩⟩ :=
    queue_cases self cycle reason explicit
  · rw [hqueue]
    exact .refl self
  · simp [honline] at hoffline
  · rw [hqueue]
    exact ⟨rfl, rfl, rfl, rfl, rfl, rfl, rfl⟩
  · simp [Engaged, hauthentication, hterminal, hidle] at hengaged

theorem reports_of_engaged (honline : self.online) (hengaged : Engaged self) (events : List SourceEvent) :
    Stays self (events.foldl report self) := by
  induction events generalizing self with
  | nil => exact .refl self
  | cons event events ih =>
    have hreported : Stays self (self.report event) := by
      cases event with
      | hint => exact queue_of_engaged honline hengaged _ _ _
      | failure =>
        change Stays self self.schedulePeriodic
        unfold schedulePeriodic
        split
        · exact .refl self
        · exact ⟨rfl, rfl, rfl, rfl, rfl, rfl, rfl⟩
    exact hreported.trans (ih (hreported.online.trans honline) (hreported.engaged hengaged))

/-- Going online while engaged leaves the status as it was. -/
theorem connected_of_engaged (options : Options) (honline : self.online) (hengaged : Engaged self)
    (events : List SourceEvent) (reason : Reason) (explicit : Bool) :
    Stays self ((self.startInvalidations options events).queue .sync reason explicit) := by
  have hstarted : Stays self (self.startInvalidations options events) := by
    unfold startInvalidations
    split
    · exact .refl self
    · exact { reports_of_engaged honline hengaged events with }
  exact hstarted.trans (queue_of_engaged (hstarted.online.trans honline) (hstarted.engaged hengaged) _ _ _)

/-- A scheduler that is engaged, online and published offline misleads. -/
theorem not_truthful_of_engaged (hstarted : self.started) (honline : self.online) (hengaged : Engaged self)
    (hstatus : self.status = .offline) : ¬ Truthful self := by
  intro hself
  cases hactive : self.active with
  | some active =>
    obtain ⟨reason, hsyncing⟩ := hself.syncing hstarted honline (by simp [hactive])
    simp [hstatus] at hsyncing
  | none =>
    rcases hengaged with hrunning | hauthentication | hterminal
    · simp [hactive] at hrunning
    · obtain ⟨status, hrequired⟩ := hself.authentication_required hstarted honline hactive hauthentication
      simp [hstatus] at hrequired
    · obtain ⟨error, hfailed⟩ := hself.failed hstarted honline hactive hterminal
      simp [hstatus] at hfailed

/-- A started scheduler with nothing in the way of its next call, whose call, if there is one, is published. -/
structure Ready (scheduler : Scheduler) : Prop where
  started : scheduler.started
  online : scheduler.online
  retryTimer : scheduler.retryTimer = false
  authenticationBlocked : scheduler.authenticationBlocked = false
  terminalBlocked : scheduler.terminalBlocked = false
  syncing : scheduler.active.isSome → ∃ reason, scheduler.status = .syncing reason

namespace Ready

theorem queue (hself : Ready self) (cycle : Cycle) (reason : Reason) (explicit : Bool) :
    Ready (self.queue cycle reason explicit) ∧ (self.queue cycle reason explicit).active.isSome := by
  obtain ⟨hstopped, _⟩ | ⟨_, next, _, _, ⟨hoffline, _⟩ | ⟨_, hbusy, hqueue⟩ | ⟨_, _, _, _, _, hqueue⟩⟩ :=
    queue_cases self cycle reason explicit
  · simp [hself.started] at hstopped
  · simp [hself.online] at hoffline
  · rw [hqueue]
    simp only [hself.authenticationBlocked, hself.terminalBlocked, hself.retryTimer, Bool.false_eq_true, false_or,
      or_false] at hbusy
    exact ⟨{ hself with }, hbusy⟩
  · rw [hqueue]
    exact ⟨{ hself with syncing := fun _ => ⟨next.reason, rfl⟩ }, rfl⟩

theorem truthful (hself : Ready self) (hactive : self.active.isSome) : Truthful self := by
  obtain ⟨reason, hstatus⟩ := hself.syncing hactive
  have hrunning : self.active ≠ none := Option.isSome_iff_ne_none.mp hactive
  constructor <;> simp [hself.started, hself.online, hrunning, hstatus]

theorem reports (hself : Ready self) (events : List SourceEvent) : Ready (events.foldl Scheduler.report self) := by
  induction events generalizing self with
  | nil => exact hself
  | cons event events ih =>
    apply ih
    cases event with
    | hint => exact (hself.queue _ _ _).1
    | failure =>
      change Ready self.schedulePeriodic
      unfold schedulePeriodic
      split
      · exact hself
      · exact { hself with }

/-- Going online begins a call, if none is awaited. -/
theorem connected (hself : Ready self) (events : List SourceEvent) (reason : Reason) (explicit : Bool) :
    Ready ((self.startInvalidations options events).queue .sync reason explicit) ∧
      ((self.startInvalidations options events).queue .sync reason explicit).active.isSome := by
  have hstarted : Ready (self.startInvalidations options events) := by
    unfold startInvalidations
    split
    · exact hself
    · exact { hself.reports events with }
  exact hstarted.queue _ _ _

end Ready

/-- What a start has been told so far: it went online `count` times, the first time began a call, and the second
time left the status offline. -/
structure Told (count : Nat) (scheduler : Scheduler) : Prop where
  started : scheduler.started
  retryTimer : scheduler.retryTimer = false
  authenticationBlocked : scheduler.authenticationBlocked = false
  terminalBlocked : scheduler.terminalBlocked = false
  waiting : count = 0 → scheduler.active = none
  running : 0 < count → scheduler.active.isSome
  syncing : count = 1 → scheduler.online → ∃ reason, scheduler.status = .syncing reason
  offline : 0 < count → scheduler.online = false → scheduler.status = .offline
  misled : 1 < count → scheduler.status = .offline

theorem Told.setOnline (options : Options) {count : Nat} (hself : Told count self) (online : Bool)
    (events : List SourceEvent) :
    Told (count + if online && !self.online then 1 else 0) (self.setOnline options online events) ∧
      (self.setOnline options online events).online = online := by
  obtain ⟨hstopped | hsame, hsetOnline⟩ | ⟨_, honline, rfl, pending, _, hsetOnline⟩ | ⟨_, hoffline, rfl, hsetOnline⟩ :=
    setOnline_cases options self online events
  · simp [hself.started] at hstopped
  · rw [hsetOnline]
    refine ⟨?_, hsame⟩
    rw [if_neg (by simp [hsame])]
    exact hself
  · obtain ⟨_, hcancelled⟩ := cancelRetry_eq { self with online := false, pending }
    rw [hsetOnline, hcancelled]
    exact ⟨{ hself with retryTimer := rfl, syncing := by simp [publish, stopInvalidationSource], offline := fun _ _ => rfl, misled := fun _ => rfl }, rfl⟩
  · rw [hsetOnline, if_pos (by simp [hoffline])]
    cases count with
    | zero =>
      have hready : Ready { self with online := true } :=
        ⟨hself.started, rfl, hself.retryTimer, hself.authenticationBlocked, hself.terminalBlocked,
          by simp [hself.waiting rfl]⟩
      obtain ⟨hconnected, hactive⟩ := @Ready.connected options _ hready events .online false
      refine ⟨?_, hconnected.online⟩
      exact ⟨hconnected.started, hconnected.retryTimer, hconnected.authenticationBlocked, hconnected.terminalBlocked,
        by simp, fun _ => hactive, fun _ _ => hconnected.syncing hactive,
        fun _ hoffline => absurd hconnected.online (by simp [hoffline]), by simp⟩
    | succ count =>
      have hrunning := hself.running (by omega)
      have hstays := @connected_of_engaged { self with online := true } options rfl (.inl hrunning) events .online false
      have hstatus := hstays.status.trans (hself.offline (by omega) hoffline)
      refine ⟨?_, hstays.online⟩
      exact
        { started := hstays.started.trans hself.started
          retryTimer := hstays.retryTimer.trans hself.retryTimer
          authenticationBlocked := hstays.authenticationBlocked.trans hself.authenticationBlocked
          terminalBlocked := hstays.terminalBlocked.trans hself.terminalBlocked
          waiting := by omega
          running := fun _ => by rw [hstays.active]; exact hrunning
          syncing := by omega
          offline := fun _ _ => hstatus
          misled := fun _ => hstatus }

theorem Told.changes (options : Options) {count : Nat} (hself : Told count self)
    (notified : List (Bool × List SourceEvent)) :
    let told := notified.foldl (fun self change => Scheduler.setOnline options self change.1 change.2) self
    Told (count + reconnections self.online (notified.map (·.1))) told ∧
      told.online = (notified.map (·.1)).getLastD self.online := by
  induction notified generalizing self count with
  | nil => exact ⟨hself, rfl⟩
  | cons change notified ih =>
    obtain ⟨htold, honline⟩ := hself.setOnline options change.1 change.2
    obtain ⟨hrest, hlast⟩ := ih htold
    rw [honline] at hrest hlast
    refine ⟨?_, ?_⟩
    · simpa [reconnections, Nat.add_assoc] using hrest
    · rw [List.map_cons, List.getLastD_cons]
      exact hlast

/-- A start tells the truth unless it was brought online twice. -/
theorem truthful_start_iff (options : Options) (hself : Consistent self) (hstopped : self.started = false)
    (current : Option Bool) (notified : List (Bool × List SourceEvent)) (events : List SourceEvent) :
    Truthful (self.start options current notified events) ↔
      ¬ Misleads self (.start current notified events) := by
  obtain ⟨hactive, _, hretry, _⟩ := hself.stopped hstopped
  unfold start
  rw [if_neg (by simp [hstopped])]
  generalize hbegins : ({ self with
    started := true
    generation := self.generation + 1
    authenticationBlocked := false
    terminalBlocked := false
    online := decide (current ≠ some false) } : Scheduler) = begins
  have htold : Told 0 begins := by
    rw [← hbegins]
    exact ⟨rfl, hretry, rfl, rfl, fun _ => hactive, by omega, by omega, by omega, by omega⟩
  have hcurrent : begins.online = decide (current ≠ some false) := by rw [← hbegins]
  obtain ⟨htold, hlast⟩ := htold.changes options notified
  rw [hcurrent, Nat.zero_add] at htold
  rw [hcurrent] at hlast
  dsimp only
  generalize notified.foldl (fun self change => Scheduler.setOnline options self change.1 change.2) begins = told
    at htold hlast ⊢
  have hmisleads : Misleads self (.start current notified events) ↔
      told.online ∧ 2 ≤ reconnections (decide (current ≠ some false)) (notified.map (·.1)) := by
    rw [hlast]
    simp only [Misleads, hstopped, true_and]
  rw [hmisleads]
  by_cases honline : told.online
  · rw [if_neg (by simp [honline])]
    simp only [honline, true_and, Nat.not_le]
    constructor
    · intro htruthful
      by_contra htwice
      rw [Nat.not_lt] at htwice
      have hrunning := htold.running (by omega)
      have hstays := connected_of_engaged options honline (.inl hrunning) events .startup true
      exact not_truthful_of_engaged (hstays.started.trans htold.started) (hstays.online.trans honline)
        (hstays.engaged (.inl hrunning)) (hstays.status.trans (htold.misled (by omega))) htruthful
    · intro hlt
      have hready : Ready told :=
        ⟨htold.started, honline, htold.retryTimer, htold.authenticationBlocked, htold.terminalBlocked, by
          intro hrunning
          refine htold.syncing ?_ honline
          by_contra hcount
          simp [htold.waiting (by omega)] at hrunning⟩
      obtain ⟨hconnected, hrunning⟩ := @Ready.connected options _ hready events .startup true
      exact hconnected.truthful hrunning
  · rw [if_pos honline]
    have htruthful := @truthful_offline { told with pending := some ⟨.sync, .startup⟩ } htold.started
      (by simpa using honline)
    exact iff_of_true htruthful fun hmisleads => honline hmisleads.1

/-- What a settled call of this start leaves is told truly, unless it succeeded while offline. -/
theorem truthful_resume_iff (options : Options) (hself : Truthful self) (hstarted : self.started)
    (hactive : self.active = none) (hretry : self.retryTimer = false)
    (hauthentication : self.authenticationBlocked = false) (hterminal : self.terminalBlocked = false) {call : Call}
    (hcurrent : call.generation = self.generation) (result : Except (Option HttpError) Unit) (now : Nat)
    (sample : Option ℚ) :
    Truthful (self.resume options call result now sample) ↔ ¬ (result = .ok () ∧ self.online = false) := by
  cases result with
  | ok =>
    rw [resume_ok hstarted hcurrent]
    by_cases honline : self.online
    · refine iff_of_true ?_ (by simp [honline])
      exact truthful_idle hstarted (by simp) honline hactive hretry hauthentication hterminal
    · rw [Bool.not_eq_true] at honline
      refine iff_of_false ?_ (by simp [honline])
      intro htruthful
      simpa using htruthful.offline hstarted honline
  | error error =>
    refine iff_of_true ?_ (by simp)
    rw [resume_error hstarted hcurrent]
    have hstatus := hself.status_ne_stopped hstarted
    obtain ⟨hoffline, hfail⟩ | ⟨_, _, hfail⟩ | ⟨_, _, _, hfail⟩ | ⟨_, _, hfail⟩ | ⟨_, _, _, _, hfail⟩ :=
      fail_cases options self call error now sample
    all_goals rw [hfail]
    · exact @truthful_offline { self with pending := prefer self.pending call.pending } hstarted hoffline
    · exact hself
    all_goals constructor <;> simp_all

/-- A drain publishes only what it begins. -/
theorem Truthful.of_drain (hdrain : Truthful self.drain) (honline : self.online = false) : Truthful self := by
  obtain ⟨hsame, _⟩ | ⟨_, _, _, hconnected, _⟩ := drain_cases self
  · rwa [hsame] at hdrain
  · simp [honline] at hconnected

theorem truthful_settle_iff (options : Options) (hself : Consistent self) (htruthful : Truthful self) {call : Call}
    (hcall : call ∈ self.calls) (result : Except (Option HttpError) Unit) (now : Nat) (sample : Option ℚ) :
    Truthful (self.settle options call result now sample) ↔ ¬ Misleads self (.settled call result now sample) := by
  have hmisleads : Misleads self (.settled call result now sample) ↔
      result = .ok () ∧ self.started ∧ call.generation = self.generation ∧ self.online = false := by
    cases result with
    | ok => simp [Misleads]
    | error error => simp [Misleads]
  rw [hmisleads]
  obtain ⟨hstale, _, hdropped⟩ | ⟨hstarted, hcurrent, hrunning, resumed, hresumed, hsettled⟩ :=
    settle_cases options hself hcall result now sample
  · rw [hdropped]
    refine iff_of_true { htruthful with } ?_
    rintro ⟨_, hstarted, hcurrent, _⟩
    simp [hstarted, hcurrent] at hstale
  · obtain ⟨hretry, hauthentication, hterminal⟩ := hself.free_of_running hstarted hrunning
    have hwithout : Truthful { self.withoutCall call with active := none } :=
      { htruthful with
        syncing := by simp
        backoff := fun _ _ _ harmed => absurd harmed (by simp [withoutCall, hretry])
        authentication_required := fun _ _ _ hblocked => absurd hblocked (by simp [withoutCall, hauthentication])
        failed := fun _ _ _ hblocked => absurd hblocked (by simp [withoutCall, hterminal]) }
    have hkeeps := resume_keeps options { self.withoutCall call with active := none } call result now sample
    have hiff := truthful_resume_iff options hwithout hstarted rfl hretry hauthentication hterminal hcurrent result now
      sample
    rw [← hresumed] at hiff hkeeps
    have hsame : Truthful (self.settle options call result now sample) ↔ Truthful resumed := by
      obtain ⟨_, hsame⟩ | ⟨_, _, _, hdrained⟩ := hsettled
      · rw [hsame]
      · rw [hdrained]
        refine ⟨fun hdrain => ?_, Truthful.drain⟩
        by_cases honline : self.online
        · exact hiff.mpr (by simp [withoutCall, honline])
        · exact hdrain.of_drain (hkeeps.2.2.1.trans (by simpa [withoutCall] using honline))
    rw [hsame, hiff]
    simp [hstarted, hcurrent, withoutCall]

/-- A step keeps the status true exactly when it is not one of the misleading ones. -/
theorem truthful_step_iff {event : Event} {next : Scheduler} (hstep : Step options self event next)
    (hconsistent : Consistent self) (hself : Truthful self) : Truthful next ↔ ¬ Misleads self event := by
  cases hstep with
  | start current notified events =>
    by_cases hstarted : self.started
    · rw [start, if_pos hstarted]
      exact iff_of_true hself fun hmisleads => by simp [hmisleads.1] at hstarted
    · exact truthful_start_iff options hconsistent (by simpa using hstarted) current notified events
  | stop =>
    refine iff_of_true ?_ id
    unfold stop
    split
    · exact hself
    · constructor <;> simp [publish, stopInvalidationSource, clearTimers]
  | requestSync reason => exact iff_of_true (hself.unblock.cancelRetry.queue _ _ _) id
  | requestPull reason => exact iff_of_true (hself.queue _ _ _) id
  | resumeAfterAuthentication => exact iff_of_true (hself.unblock.cancelRetry.queue _ _ _) id
  | connectivity online events =>
    obtain ⟨hignored, hsame⟩ | ⟨hstarted, hconnected, rfl, pending, _, hoffline⟩ | ⟨hstarted, hoffline, rfl, honline⟩ :=
      setOnline_cases options self online events
    · rw [hsame]
      refine iff_of_true hself ?_
      rintro ⟨hstarted, hoffline, honline, _⟩
      simp [hstarted, hoffline, honline] at hignored
    · rw [hoffline]
      obtain ⟨_, hcancelled⟩ := cancelRetry_eq { self with online := false, pending }
      refine iff_of_true ?_ (by simp [Misleads])
      rw [hcancelled]
      exact truthful_offline hstarted rfl
    · rw [honline]
      have hmisleads : Misleads self (.connectivity true events) ↔ Engaged self :=
        ⟨fun h => h.2.2.2, fun h => ⟨hstarted, hoffline, rfl, h⟩⟩
      rw [hmisleads]
      by_cases hengaged : Engaged self
      · refine iff_of_false ?_ (not_not_intro hengaged)
        have hstays := @connected_of_engaged { self with online := true } options rfl hengaged events .online false
        exact not_truthful_of_engaged (hstays.started.trans hstarted) (hstays.online.trans rfl)
          (hstays.engaged hengaged) (hstays.status.trans (hself.offline hstarted hoffline))
      · refine iff_of_true ?_ hengaged
        simp only [Engaged, not_or, Bool.not_eq_true, Option.isSome_eq_false_iff, Option.isNone_iff_eq_none] at hengaged
        have hdisarmed : self.retryTimer = false := by
          by_contra harmed
          rw [Bool.not_eq_false] at harmed
          simp [(hconsistent.retry harmed).2.1] at hoffline
        have hconnected : Truthful { self with online := true } :=
          truthful_idle hstarted (hself.status_ne_stopped hstarted) rfl hengaged.1 hdisarmed hengaged.2.1 hengaged.2.2
        exact (hconnected.startInvalidations events).queue _ _ _
  | source event => exact iff_of_true (hself.report event) id
  | retryTimer harmed =>
    have hfired : Truthful { self with retryTimer := false } := { hself with backoff := by simp }
    exact iff_of_true hfired.drain id
  | periodicTimer harmed =>
    have hfired : Truthful { self with periodicTimer := false } := { hself with }
    exact iff_of_true (hfired.queue _ _ _) id
  | settled hcall result now sample => exact truthful_settle_iff options hconsistent hself hcall result now sample

/-- Every state of a run tells the truth exactly when no step of it is a misleading one. -/
theorem truthful_run_iff {edges : List (Trace.Edge Scheduler Event)} (hrun : Run options .new edges self) :
    (∀ edge ∈ edges, Truthful edge.target) ↔ ∀ edge ∈ edges, ¬ Misleads edge.source edge.label := by
  suffices hfrom : ∀ first, Run options first edges self → Consistent first → Truthful first →
      ((∀ edge ∈ edges, Truthful edge.target) ↔ ∀ edge ∈ edges, ¬ Misleads edge.source edge.label) from
    hfrom .new hrun consistent_new truthful_new
  clear hrun
  intro first hrun
  induction hrun with
  | nil => simp
  | cons hstep hrest ih =>
    intro hconsistent htruthful
    have hiff := truthful_step_iff hstep hconsistent htruthful
    simp only [List.forall_mem_cons]
    constructor
    · rintro ⟨hnext, hlater⟩
      exact ⟨hiff.mp hnext, (ih (consistent_of_step hstep hconsistent) hnext).mp hlater⟩
    · rintro ⟨hfirst, hlater⟩
      have hnext := hiff.mpr hfirst
      exact ⟨hnext, (ih (consistent_of_step hstep hconsistent) hnext).mpr hlater⟩

/-- A start of an idle scheduler misleads nobody. -/
theorem truthful_run_of_start :
    (Scheduler.new.start ⟨1000, 60000, false⟩ none [] []).started = true ∧
      Truthful (Scheduler.new.start ⟨1000, 60000, false⟩ none [] []) := by
  have hrun : Run ⟨1000, 60000, false⟩ .new
      [⟨Scheduler.new, .start none [] [], Scheduler.new.start ⟨1000, 60000, false⟩ none [] []⟩]
      (Scheduler.new.start ⟨1000, 60000, false⟩ none [] []) := .cons (.start none [] []) (.nil _)
  have hedges := (truthful_run_iff hrun).mpr (by simp [Misleads, reconnections])
  exact ⟨by decide, hedges _ (List.mem_singleton_self _)⟩

/-- The credentials of a started scheduler expire, the device goes offline and comes back: the application is told
that it is offline, and not that it has to log in. -/
theorem authentication_required_hidden_online :
    ∃ (options : Options) (edges : List (Trace.Edge Scheduler Event)) (self : Scheduler),
      Run options .new edges self ∧ self.started ∧ self.online ∧ self.active = none ∧ self.authenticationBlocked ∧
        self.status = .offline := by
  let options : Options := ⟨1000, 60000, false⟩
  let begun := Scheduler.new.start options none [] []
  let refused := begun.settle options ⟨0, 1, ⟨.sync, .startup⟩⟩ (.error (some ⟨.http, some 401⟩)) 0 none
  let offline := refused.setOnline options false []
  refine ⟨options, _, offline.setOnline options true [], .cons (.start none [] [])
    (.cons (.settled (by decide) _ _ _) (.cons (.connectivity false []) (.cons (.connectivity true []) (.nil _)))),
    by decide⟩

end react_native_surrealdb.sync_scheduler
