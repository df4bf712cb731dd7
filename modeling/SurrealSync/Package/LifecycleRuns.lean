import SurrealSync.Package.Lifecycle
import SurrealSync.Package.SchedulerWork

namespace react_native_surrealdb.sync_lifecycle

open EventLog (Cleared Separated)

variable {options : Options} {self : World} {entry : Entry} {index : Nat} {call : Refresh}

def Entry.Refreshes : Entry → Prop
  | .refreshAuthentication _ => True
  | _ => False

/-- What may come between two refreshes. -/
def Entry.Resets : Entry → Prop
  | .idle | .applicationState | .stop | .retryAuthentication => True
  | _ => False

/-- What ends a period in which the application is active. -/
def Entry.EndsPeriod : Entry → Prop
  | .applicationState | .stop => True
  | _ => False

/-- The log up to a resumption for a refresh: it was begun in this period, returned true and was not aborted. -/
def Justified (log : List Entry) (index : Nat) : Prop :=
  ∃ before between, log = before ++ .refreshAuthentication index :: between ∧
    .settled index (some true) ∈ between ∧ .aborted index ∉ between ∧ ∀ entry ∈ between, ¬ entry.EndsPeriod

/-- What the log says of a refresh. -/
def Begun (generation : Nat) (log : List Entry) (index : Nat) (call : Refresh) : Prop :=
  ∃ before between, log = before ++ .refreshAuthentication index :: between ∧
    (∀ changed, call.chain = .resolved changed → .settled index (some changed) ∈ between) ∧
    (call.aborted = false → .aborted index ∉ between) ∧
    (call.generation = generation → ∀ entry ∈ between, ¬ entry.EndsPeriod)

theorem Begun.push {generation : Nat} {log : List Entry} (hbegun : Begun generation log index call)
    (haborted : entry = .aborted index → call.aborted)
    (hends : call.generation = generation → ¬ entry.EndsPeriod) : Begun generation (log ++ [entry]) index call := by
  obtain ⟨before, between, rfl, hsettled, hkept, hperiod⟩ := hbegun
  refine ⟨before, between ++ [entry], by simp, fun changed hchain => ?_, fun hnot hmem => ?_, fun hcurrent other hother => ?_⟩
  · exact List.mem_append_left _ (hsettled changed hchain)
  · rcases List.mem_append.mp hmem with hin | hlast
    · exact hkept hnot hin
    · have hnow := haborted (List.mem_singleton.mp hlast).symm
      rw [hnot] at hnow
      cases hnow
  · rcases List.mem_append.mp hother with hin | hlast
    · exact hperiod hcurrent other hin
    · rw [List.mem_singleton.mp hlast]
      exact hends hcurrent

theorem Begun.justified {generation : Nat} {log : List Entry} (hbegun : Begun generation log index call)
    (hchain : call.chain = .resolved true) (haborted : call.aborted = false) (hcurrent : call.generation = generation) :
    Justified log index := by
  obtain ⟨before, between, hlog, hsettled, hkept, hperiod⟩ := hbegun
  exact ⟨before, between, hlog, hsettled true hchain, hkept haborted, hperiod hcurrent⟩

/-- The refreshes of a coordinator and the log of its calls. -/
structure Orderly (world : World) : Prop where
  separated : Separated Entry.Refreshes Entry.Resets world.log
  cleared : world.coordinator.refreshAttempted = false → Cleared Entry.Refreshes Entry.Resets world.log
  single : ∀ index call, world.refreshes[index]? = some call → call.aborted = false → call.chain ≠ .done →
    world.coordinator.refresh = some index
  generations : ∀ (index : Nat) (call : Refresh), world.refreshes[index]? = some call → call.generation ≤ world.coordinator.generation
  begun : ∀ index call, world.refreshes[index]? = some call →
    Begun world.coordinator.generation world.log index call
  resumed : ∀ before index after, world.log = before ++ .resumeAfterAuthentication index :: after →
    Justified before index

/-- An event is logged, and the coordinator may change: a new attempt is allowed only after a reset, and the end of a
period begins a new generation. -/
theorem Orderly.push (horderly : Orderly self) {coordinator : Coordinator} (hmark : ¬ entry.Refreshes)
    (haborted : ∀ index, entry ≠ .aborted index)
    (hresumed : ∀ index, entry = .resumeAfterAuthentication index → Justified self.log index)
    (hrefresh : coordinator.refresh = self.coordinator.refresh)
    (hattempted : coordinator.refreshAttempted = false → self.coordinator.refreshAttempted = false ∨ entry.Resets)
    (hgeneration : coordinator.generation = self.coordinator.generation ∧ ¬ entry.EndsPeriod ∨
      self.coordinator.generation < coordinator.generation) :
    Orderly { self with coordinator, log := self.log ++ [entry] } where
  separated := horderly.separated.push fun h => absurd h hmark
  cleared hnot := by
    rcases hattempted hnot with hbefore | hresets
    · exact (horderly.cleared hbefore).push hmark
    · exact EventLog.cleared_push hresets hmark
  single index call hcall haborted hchain := hrefresh ▸ horderly.single index call hcall haborted hchain
  generations index call hcall := by
    have hle := horderly.generations index call hcall
    rcases hgeneration with ⟨hsame, _⟩ | hlt
    · exact hsame ▸ hle
    · exact Nat.le_of_lt (Nat.lt_of_le_of_lt hle hlt)
  begun index call hcall := by
    have hle := horderly.generations index call hcall
    have hbegun := horderly.begun index call hcall
    rcases hgeneration with ⟨hsame, hends⟩ | hlt
    · simp only [hsame]
      exact hbegun.push (fun h => absurd h (haborted index)) fun _ => hends
    · obtain ⟨before, between, hlog, hsettled, hkept, _⟩ := hbegun
      have hstale : Begun coordinator.generation self.log index call :=
        ⟨before, between, hlog, hsettled, hkept, fun hcurrent => by omega⟩
      exact hstale.push (fun h => absurd h (haborted index)) fun hcurrent => by omega
  resumed before index after hlog := by
    rcases EventLog.append_singleton_eq hlog with ⟨_, hentry, hbefore⟩ | ⟨rest, _, hbefore⟩
    · rw [hbefore]
      exact hresumed index hentry.symm
    · exact horderly.resumed before index rest hbefore

/-- A start begins a new generation, and what the coordinator keeps otherwise stays. -/
theorem Orderly.coordinate (horderly : Orderly self) {coordinator : Coordinator}
    (hrefresh : coordinator.refresh = self.coordinator.refresh)
    (hattempted : coordinator.refreshAttempted = false → Cleared Entry.Refreshes Entry.Resets self.log)
    (hgeneration : self.coordinator.generation ≤ coordinator.generation) : Orderly { self with coordinator } where
  separated := horderly.separated
  cleared := hattempted
  single index call hcall haborted hchain := hrefresh ▸ horderly.single index call hcall haborted hchain
  generations index call hcall := Nat.le_trans (horderly.generations index call hcall) hgeneration
  begun index call hcall := by
    obtain ⟨before, between, hlog, hsettled, hkept, hperiod⟩ := horderly.begun index call hcall
    refine ⟨before, between, hlog, hsettled, hkept, fun hcurrent => hperiod ?_⟩
    have hle := horderly.generations index call hcall
    simp only at hcurrent
    omega
  resumed := horderly.resumed

/-- A call of a list after a change at one index. -/
theorem getElem?_modify_cases {calls : List Refresh} {changed : Refresh → Refresh} {other : Nat}
    (hcall : (calls.modify index changed)[other]? = some call) :
    ∃ before, calls[other]? = some before ∧ (other = index ∧ call = changed before ∨ other ≠ index ∧ call = before) := by
  rw [List.getElem?_modify] at hcall
  obtain ⟨before, hbefore, hcall⟩ := Option.map_eq_some_iff.mp hcall
  by_cases hsame : index = other
  · exact ⟨before, hbefore, .inl ⟨hsame.symm, by simpa [hsame] using hcall.symm⟩⟩
  · exact ⟨before, hbefore, .inr ⟨fun h => hsame h.symm, by simpa [hsame] using hcall.symm⟩⟩

/-- The chain of a refresh goes on. -/
theorem Orderly.advance (horderly : Orderly self) {chain : Chain}
    (hopen : ∀ before, self.refreshes[index]? = some before → before.chain ≠ .done)
    (hresolved : ∀ changed, chain = .resolved changed → ∀ before between,
      self.log = before ++ .refreshAuthentication index :: between → .settled index (some changed) ∈ between) :
    Orderly (self.advance index chain) where
  separated := horderly.separated
  cleared := horderly.cleared
  single other call hcall haborted hchain := by
    obtain ⟨before, hbefore, ⟨rfl, rfl⟩ | ⟨_, rfl⟩⟩ := getElem?_modify_cases hcall
    · exact horderly.single other before hbefore haborted (hopen before hbefore)
    · exact horderly.single other call hbefore haborted hchain
  generations other call hcall := by
    obtain ⟨before, hbefore, ⟨_, rfl⟩ | ⟨_, rfl⟩⟩ := getElem?_modify_cases hcall
    · exact horderly.generations other before hbefore
    · exact horderly.generations other call hbefore
  begun other call hcall := by
    obtain ⟨before, hbefore, ⟨rfl, rfl⟩ | ⟨_, rfl⟩⟩ := getElem?_modify_cases hcall
    · obtain ⟨earlier, between, hlog, _, hkept, hperiod⟩ := horderly.begun other before hbefore
      exact ⟨earlier, between, hlog, fun changed hchain => hresolved changed hchain earlier between hlog, hkept, hperiod⟩
    · exact horderly.begun other call hbefore
  resumed := horderly.resumed

/-- A refresh settles. -/
theorem Orderly.settle (horderly : Orderly self) {changed : Option Bool} {next : World}
    (hsettle : self.settle index changed = some next) : Orderly next := by
  obtain ⟨settled, hsettled, hnext⟩ := Option.bind_eq_some_iff.mp hsettle
  split at hnext
  on_goal 2 => cases hnext
  rename_i hunsettled
  have hpushed : Orderly { self with log := self.log ++ [Entry.settled index changed] } :=
    horderly.push (by simp [Entry.Refreshes]) (by simp) (by simp) rfl .inl (.inl ⟨rfl, by simp [Entry.EndsPeriod]⟩)
  have hopen (before : Refresh) (hbefore : self.refreshes[index]? = some before) : before.chain ≠ .done := by
    rw [hsettled] at hbefore
    cases hbefore
    simp [hunsettled]
  have hlast (before between : List Entry)
      (hlog : self.log ++ [Entry.settled index changed] = before ++ .refreshAuthentication index :: between) :
      .settled index changed ∈ between := by
    rcases EventLog.append_singleton_eq hlog with ⟨_, hentry, _⟩ | ⟨rest, rfl, _⟩
    · cases hentry
    · simp
  cases changed with
  | none =>
    cases hnext
    exact hpushed.advance hopen fun changed hchain => by cases hchain
  | some changed =>
    cases hnext
    exact hpushed.advance hopen fun other hchain => by
      cases hchain
      exact hlast

theorem Orderly.abort (horderly : Orderly self) : Orderly self.abort := by
  unfold World.abort
  split
  · exact horderly
  · rename_i index hrefresh
    refine ⟨?_, fun hnot => ?_, fun other call hcall haborted hchain => ?_, fun other call hcall => ?_,
      fun other call hcall => ?_, fun before other after hlog => ?_⟩
    · exact horderly.separated.push (by simp [Entry.Refreshes])
    · exact (horderly.cleared hnot).push (by simp [Entry.Refreshes])
    · obtain ⟨before, hbefore, ⟨_, rfl⟩ | ⟨hother, rfl⟩⟩ := getElem?_modify_cases hcall
      · cases haborted
      · have hsame := horderly.single other call hbefore haborted hchain
        rw [hrefresh] at hsame
        exact absurd (Option.some.inj hsame).symm hother
    · obtain ⟨before, hbefore, ⟨_, rfl⟩ | ⟨_, rfl⟩⟩ := getElem?_modify_cases hcall
      · exact horderly.generations other before hbefore
      · exact horderly.generations other call hbefore
    · obtain ⟨before, hbefore, ⟨rfl, rfl⟩ | ⟨hother, rfl⟩⟩ := getElem?_modify_cases hcall
      · obtain ⟨earlier, between, hlog, hsettled, _, hperiod⟩ := horderly.begun other before hbefore
        have hbegun : Begun self.coordinator.generation self.log other { before with aborted := true } :=
          ⟨earlier, between, hlog, hsettled, fun h => (by cases h), hperiod⟩
        exact hbegun.push (fun _ => rfl) fun _ => by simp [Entry.EndsPeriod]
      · refine (horderly.begun other call hbefore).push (fun h => ?_) fun _ => by simp [Entry.EndsPeriod]
        cases h
        exact absurd rfl hother
    · rcases EventLog.append_singleton_eq hlog with ⟨_, hentry, _⟩ | ⟨rest, _, hbefore⟩
      · cases hentry
      · exact horderly.resumed before other rest hbefore

theorem Orderly.begin (horderly : Orderly self) (status : Nat) :
    Orderly (self.beginAuthenticationRefresh options status) := by
  unfold World.beginAuthenticationRefresh
  split
  · exact horderly
  · rename_i hbegins
    obtain ⟨_, _, _, hattempted, hrefresh⟩ : self.coordinator.started ∧ self.coordinator.active ∧
        options.refreshAuthentication ∧ self.coordinator.refreshAttempted = false ∧ self.coordinator.refresh = none := by
      simpa [not_or] using hbegins
    have hcalls {other : Nat} {call : Refresh} {fresh : Refresh}
        (hcall : (self.refreshes ++ [fresh])[other]? = some call) :
        self.refreshes[other]? = some call ∨ other = self.refreshes.length ∧ call = fresh := by
      rw [List.getElem?_append] at hcall
      split at hcall
      · exact .inl hcall
      · have hindex := (List.getElem?_eq_some_iff.mp hcall).1
        have hzero : other - self.refreshes.length = 0 := by simpa using hindex
        rw [hzero] at hcall
        exact .inr ⟨by omega, by simpa using hcall.symm⟩
    refine ⟨?_, fun hnot => ?_, fun other call hcall haborted hchain => ?_, fun other call hcall => ?_,
      fun other call hcall => ?_, fun before other after hlog => ?_⟩
    · exact horderly.separated.push fun _ => horderly.cleared hattempted
    · cases hnot
    · rcases hcalls hcall with hbefore | ⟨rfl, _⟩
      · have hsame := horderly.single other call hbefore haborted hchain
        rw [hrefresh] at hsame
        cases hsame
      · rfl
    · rcases hcalls hcall with hbefore | ⟨_, rfl⟩
      · exact horderly.generations other call hbefore
      · exact Nat.le_refl _
    · rcases hcalls hcall with hbefore | ⟨rfl, rfl⟩
      · exact (horderly.begun other call hbefore).push (fun h => by cases h) fun _ => by simp [Entry.EndsPeriod]
      · exact ⟨self.log, [], rfl, fun _ h => (by cases h), by simp, by simp⟩
    · rcases EventLog.append_singleton_eq hlog with ⟨_, hentry, _⟩ | ⟨rest, _, hbefore⟩
      · cases hentry
      · exact horderly.resumed before other rest hbefore

theorem Orderly.onSchedulerStatus (horderly : Orderly self) (status : sync_scheduler.Status) :
    Orderly (self.onSchedulerStatus options status) := by
  unfold World.onSchedulerStatus
  split
  · exact horderly.push (by simp [Entry.Refreshes]) (by simp) (by simp) rfl (fun _ => .inr trivial)
      (.inl ⟨rfl, by simp [Entry.EndsPeriod]⟩)
  · rename_i status
    have hknown : Orderly
        { self with coordinator := { self.coordinator with lastAuthenticationStatus := some status } } :=
      horderly.coordinate rfl horderly.cleared (Nat.le_refl _)
    exact hknown.begin status
  all_goals exact horderly

theorem Orderly.publish (horderly : Orderly self) (published : List sync_scheduler.Status) :
    Orderly (self.publish options published) := by
  have hstatuses : Orderly (published.foldl (World.onSchedulerStatus options) self) := by
    induction published generalizing self with
    | nil => exact horderly
    | cons status published ih => exact ih (horderly.onSchedulerStatus status)
  unfold World.publish
  split
  · exact hstatuses
  · exact horderly

theorem Orderly.startScheduler (horderly : Orderly self) (startup : Startup) :
    Orderly (self.startScheduler options startup) := by
  have hstarted : Orderly { self with
      scheduler := self.scheduler.start options.scheduler startup.current startup.notified startup.events } :=
    { horderly with }
  exact hstarted.publish startup.published

theorem Orderly.stopScheduler (horderly : Orderly self) (startup : Startup) :
    Orderly (self.stopScheduler options startup) := by
  have hstopped : Orderly { self with scheduler := self.scheduler.stop } := { horderly with }
  exact hstopped.publish startup.published

theorem Orderly.setApplicationState (horderly : Orderly self) (state : ApplicationState) (startup : Startup) :
    Orderly (self.setApplicationState options state startup) := by
  unfold World.setApplicationState
  split
  · exact horderly
  · dsimp only
    split
    · exact horderly
    · have hchanged : Orderly { self with
          coordinator := { self.coordinator with
            active := decide (state = .active)
            generation := self.coordinator.generation + 1
            refreshAttempted := false }
          log := self.log ++ [.applicationState] } :=
        horderly.push (by simp [Entry.Refreshes]) (by simp) (by simp) rfl (fun _ => .inr trivial)
          (.inr (Nat.lt_succ_self _))
      split
      · exact hchanged.abort.startScheduler startup
      · exact hchanged.abort.stopScheduler startup

theorem Orderly.report (horderly : Orderly self) (state : ApplicationState) (startup : Startup) :
    Orderly (self.report options state startup) := by
  have hstate : Orderly { self with application := some state } := { horderly with }
  unfold World.report
  dsimp only
  split
  · exact hstate.setApplicationState state startup
  · exact hstate

theorem Orderly.start (horderly : Orderly self) (notified : List (ApplicationState × Startup)) (startup : Startup) :
    Orderly (self.start options notified startup) := by
  have hreports {self : World} (horderly : Orderly self) :
      Orderly (notified.foldl (fun self change => World.report options self change.1 change.2) self) := by
    induction notified generalizing self with
    | nil => exact horderly
    | cons change notified ih => exact ih (horderly.report change.1 change.2)
  unfold World.start
  split
  · exact horderly
  · have hstarted : Orderly { self with coordinator := { self.coordinator with
        started := true
        generation := self.coordinator.generation + 1
        subscribedScheduler := true } } := horderly.coordinate rfl horderly.cleared (Nat.le_succ _)
    have htold := @Orderly.onSchedulerStatus options _ hstarted self.scheduler.status
    have hsubscribed := @Orderly.coordinate _ htold
      { (World.onSchedulerStatus options { self with coordinator := { self.coordinator with
        started := true
        generation := self.coordinator.generation + 1
        subscribedScheduler := true } } self.scheduler.status).coordinator with subscribedLifecycle := true }
      rfl htold.cleared (Nat.le_refl _)
    exact (hreports hsubscribed).setApplicationState _ startup

theorem Orderly.stop (horderly : Orderly self) : Orderly self.stop := by
  unfold World.stop
  split
  · exact horderly
  · have hstopped : Orderly { self with
        coordinator := { self.coordinator with
          started := false
          active := false
          generation := self.coordinator.generation + 1
          refreshAttempted := false
          lastAuthenticationStatus := none }
        log := self.log ++ [.stop] } :=
      horderly.push (by simp [Entry.Refreshes]) (by simp) (by simp) rfl (fun _ => .inr trivial)
        (.inr (Nat.lt_succ_self _))
    exact { hstopped.abort.coordinate rfl hstopped.abort.cleared (Nat.le_refl _) with }

theorem Orderly.retryAuthentication (horderly : Orderly self) : Orderly (self.retryAuthentication options) := by
  have hretried : Orderly { self with log := self.log ++ [.retryAuthentication] } :=
    horderly.push (by simp [Entry.Refreshes]) (by simp) (by simp) rfl .inl (.inl ⟨rfl, by simp [Entry.EndsPeriod]⟩)
  unfold World.retryAuthentication
  dsimp only
  split
  · exact hretried
  · split
    · exact hretried
    · rename_i status _
      have hallowed : Orderly { self with
          coordinator := { self.coordinator with refreshAttempted := false }
          log := self.log ++ [.retryAuthentication] } :=
        hretried.coordinate rfl (fun _ => EventLog.cleared_push trivial (by simp [Entry.Refreshes])) (Nat.le_refl _)
      exact hallowed.begin status

theorem Orderly.resumeAfterAuthentication (horderly : Orderly self) (hjustified : Justified self.log index)
    (published : List sync_scheduler.Status) : Orderly (self.resumeAfterAuthentication options index published) := by
  have hresumed : Orderly { self with log := self.log ++ [.resumeAfterAuthentication index] } :=
    horderly.push (by simp [Entry.Refreshes]) (by simp) (fun other hother => by cases hother; exact hjustified) rfl .inl
      (.inl ⟨rfl, by simp [Entry.EndsPeriod]⟩)
  have hqueued : Orderly { self with
      scheduler := self.scheduler.resumeAfterAuthentication
      log := self.log ++ [.resumeAfterAuthentication index] } := { hresumed with }
  exact hqueued.publish published

theorem Orderly.react (horderly : Orderly self) {published : List sync_scheduler.Status} {next : World}
    (hreact : self.react options index published = some next) : Orderly next := by
  obtain ⟨call, hcall, hnext⟩ := Option.bind_eq_some_iff.mp hreact
  have hadvanced (hopen : call.chain ≠ .done) : Orderly (self.advance index .reacted) := by
    refine horderly.advance (fun before hbefore => ?_) fun changed hchain => by cases hchain
    rw [hcall] at hbefore
    cases hbefore
    exact hopen
  split at hnext
  · rename_i changed hchain
    have hreacted := hadvanced (by simp [hchain])
    dsimp only at hnext
    split at hnext
    · rename_i hresumes
      obtain ⟨hchanged, haborted, _, _, hcurrent⟩ := hresumes
      have hjustified : Justified self.log index :=
        (horderly.begun index call hcall).justified (by rw [hchain, hchanged]) (by simpa using haborted) hcurrent
      cases hnext
      exact hreacted.resumeAfterAuthentication hjustified published
    · cases hnext
      exact hreacted
  · rename_i hchain
    have hreacted := hadvanced (by simp [hchain])
    dsimp only at hnext
    split at hnext
    · cases hnext
      exact hreacted.push (by simp [Entry.Refreshes]) (by simp) (by simp) rfl .inl
        (.inl ⟨rfl, by simp [Entry.EndsPeriod]⟩)
    · cases hnext
      exact hreacted
  all_goals cases hnext

theorem Orderly.cleanup (horderly : Orderly self) {next : World} (hcleanup : self.cleanup index = some next) :
    Orderly next := by
  obtain ⟨call, hcall, hnext⟩ := Option.bind_eq_some_iff.mp hcleanup
  split at hnext
  on_goal 2 => cases hnext
  rename_i hchain
  have hdone : Orderly (self.advance index .done) := by
    refine horderly.advance (fun before hbefore => ?_) fun changed hdone => by cases hdone
    rw [hcall] at hbefore
    cases hbefore
    simp [hchain]
  dsimp only at hnext
  split at hnext
  · rename_i hrefresh
    cases hnext
    refine { hdone with single := fun other call hother haborted hopen => ?_ }
    obtain ⟨before, hbefore, ⟨_, rfl⟩ | ⟨hne, rfl⟩⟩ := getElem?_modify_cases hother
    · exact absurd rfl hopen
    · have hsame := horderly.single other call hbefore haborted hopen
      have hrefresh : self.coordinator.refresh = some index := hrefresh
      rw [hrefresh] at hsame
      exact absurd (Option.some.inj hsame).symm hne
  · cases hnext
    exact hdone

theorem orderly_new (application : Option ApplicationState) : Orderly (World.new application) where
  separated := EventLog.separated_nil
  cleared _ := EventLog.cleared_nil
  single index call hcall := by simp [World.new] at hcall
  generations index call hcall := by simp [World.new] at hcall
  begun index call hcall := by simp [World.new] at hcall
  resumed before index after hlog := by simp [World.new] at hlog

end react_native_surrealdb.sync_lifecycle
