import SurrealSync.Package.LiveSubscriptionDelivery

namespace react_native_surrealdb.subscription

variable {N E : Type} {self : LiveSubscription N E} {after : After}

/-! ### The end of the pump -/

def Frame.resumes : Frame N → After
  | .store _ _ after => after
  | .notification _ _ after => after

/-- The pump has called `close` when it waits for it, has ended, or is to end after an emission. -/
structure ClosesQuery (subscription : LiveSubscription N E) : Prop where
  pump : subscription.pump = .closing ∨ subscription.pump = .ended → 0 < subscription.closeCalls
  emissions : ∀ frame ∈ subscription.frames, frame.resumes = .ended → 0 < subscription.closeCalls

theorem closesQuery_resume (hcloses : ClosesQuery self) (hafter : after = .ended → 0 < self.closeCalls) :
    ClosesQuery (self.resume after) := by
  fun_cases LiveSubscription.resume self after with
  | case1 => exact ⟨fun _ => Nat.succ_pos _, fun _ _ _ => Nat.succ_pos _⟩
  | case2 => exact ⟨by simp [LiveSubscription.callNext], hcloses.emissions⟩
  | case3 => exact ⟨fun _ => Nat.succ_pos _, fun _ _ _ => Nat.succ_pos _⟩
  | case4 => exact ⟨fun _ => hafter rfl, hcloses.emissions⟩
  | case5 => exact ⟨fun _ => Nat.succ_pos _, fun _ _ _ => Nat.succ_pos _⟩

theorem closesQuery_emitNotification {frames : List (Frame N)} (hcloses : ClosesQuery { self with frames })
    (hafter : after = .ended → 0 < self.closeCalls) (index : Nat) (notification : N) :
    ClosesQuery (self.emitNotification frames index notification after) := by
  unfold LiveSubscription.emitNotification
  split
  · exact ⟨hcloses.pump, List.forall_mem_cons.mpr ⟨hafter, hcloses.emissions⟩⟩
  · exact closesQuery_resume hcloses hafter

theorem closesQuery_emitStore {frames : List (Frame N)} (hcloses : ClosesQuery { self with frames })
    (hafter : after = .ended → 0 < self.closeCalls) (index : Nat) (notification : Option N) :
    ClosesQuery (self.emitStore frames index notification after) := by
  unfold LiveSubscription.emitStore
  split
  · exact ⟨hcloses.pump, List.forall_mem_cons.mpr ⟨hafter, hcloses.emissions⟩⟩
  · split
    · exact closesQuery_emitNotification hcloses hafter 0 _
    · exact closesQuery_resume hcloses hafter

theorem closesQuery_emit (hcloses : ClosesQuery self) (hafter : after = .ended → 0 < self.closeCalls)
    (notification : Option N) : ClosesQuery (self.emit notification after) :=
  @closesQuery_emitStore _ _ { self with emissions := self.emissions + 1 } after self.frames { hcloses with } hafter 0
    notification

theorem closesQuery_setClosed (hcloses : ClosesQuery self) (hafter : after = .ended → 0 < self.closeCalls) :
    ClosesQuery (self.setClosed after) := by
  unfold LiveSubscription.setClosed
  split
  · exact closesQuery_resume hcloses hafter
  · refine closesQuery_emit ?_ ?_ none
    · exact { hcloses with }
    · exact hafter

theorem closesQuery_setError (hcloses : ClosesQuery self) (hafter : after = .ended → 0 < self.closeCalls)
    (error : E) : ClosesQuery (self.setError error after) := by
  unfold LiveSubscription.setError
  split
  · exact closesQuery_resume hcloses hafter
  · refine closesQuery_emit ?_ ?_ none
    · exact { hcloses with }
    · exact hafter

theorem ClosesQuery.emitting (hcloses : ClosesQuery self) : ClosesQuery { self with pump := .emitting } where
  pump := by simp
  emissions := hcloses.emissions

theorem ClosesQuery.start (hcloses : ClosesQuery self) : ClosesQuery self.start := by
  unfold LiveSubscription.start
  split
  · exact hcloses
  · exact ⟨by simp [LiveSubscription.callNext], hcloses.emissions⟩

theorem ClosesQuery.returned {frame : Frame N} {frames : List (Frame N)} (hcloses : ClosesQuery self)
    (hframes : self.frames = frame :: frames) :
    ClosesQuery { self with frames } ∧ (frame.resumes = .ended → 0 < self.closeCalls) := by
  have hemissions := hcloses.emissions
  rw [hframes] at hemissions
  obtain ⟨hfirst, hrest⟩ := List.forall_mem_cons.mp hemissions
  exact ⟨⟨hcloses.pump, hrest⟩, hfirst⟩

theorem ClosesQuery.step {next : LiveSubscription N E} {move : LiveSubscription.Move N E} (hcloses : ClosesQuery self)
    (hstep : Interleaving self move next) : ClosesQuery next := by
  cases move with
  | subscribe listener =>
    cases hstep
    have hadded : ClosesQuery { self with storeListeners := self.storeListeners.add listener } := { hcloses with }
    exact hadded.start
  | unsubscribe listener =>
    cases hstep
    exact { hcloses with }
  | onNotification listener =>
    cases hstep
    have hadded : ClosesQuery { self with notificationListeners := self.notificationListeners.add listener } :=
      { hcloses with }
    exact hadded.start
  | offNotification listener =>
    cases hstep
    exact { hcloses with }
  | close =>
    cases hstep
    rw [LiveSubscription.close]
    split
    · exact hcloses
    · exact closesQuery_setClosed hcloses (by simp)
  | returned =>
    simp only [Interleaving, LiveSubscription.step, LiveSubscription.returned] at hstep
    split at hstep
    · cases hstep
    · rename_i hframes
      cases hstep
      obtain ⟨hrest, hafter⟩ := hcloses.returned hframes
      exact closesQuery_emitStore hrest hafter _ _
    · rename_i hframes
      cases hstep
      obtain ⟨hrest, hafter⟩ := hcloses.returned hframes
      exact closesQuery_emitNotification hrest hafter _ _
  | settleNext settled =>
    simp only [Interleaving, LiveSubscription.step] at hstep
    split at hstep <;> cases hstep
    cases settled with
    | notification notification =>
      refine closesQuery_emit ?_ (by simp) (some notification)
      exact { hcloses.emitting with }
    | ended => exact closesQuery_setClosed hcloses.emitting (by simp)
    | error error => exact closesQuery_setError hcloses.emitting (by simp) error
  | settleClose failure =>
    simp only [Interleaving, LiveSubscription.step] at hstep
    split at hstep
    on_goal 2 => cases hstep
    rename_i hwaits
    cases hstep
    have hclosed : 0 < self.closeCalls := hcloses.pump (.inl hwaits.2)
    cases failure with
    | none => exact ⟨fun _ => hclosed, hcloses.emissions⟩
    | some error => exact closesQuery_setError hcloses.emitting (fun _ => hclosed) error

theorem closesQuery_new : ClosesQuery (LiveSubscription.new : LiveSubscription N E) :=
  ⟨by simp [LiveSubscription.new], by simp [LiveSubscription.new]⟩

/-! ### The subscription in every run -/

/-- From the first of two states to the second: a closed subscription stays closed; each notification yielded is told
once and in order to a notification listener that stays registered, and one that leaves was told the first of them;
and the pump has not ended without a call of `close`. -/
def Keeps (first second : LiveSubscription N E) : Prop :=
  (first.isClosed → StaysClosed first second) ∧
  (first.frames = [] → second.frames = [] → ∀ entry listener,
    first.notificationListeners[entry]? = some (some listener) →
      (second.notificationListeners[entry]? = some (some listener) ∧
        second.deliveredTo entry listener =
          first.deliveredTo entry listener ++ second.yielded.drop first.yielded.length) ∨
      (second.notificationListeners[entry]? = some none ∧
        second.deliveredTo entry listener <+:
          first.deliveredTo entry listener ++ second.yielded.drop first.yielded.length)) ∧
  (second.pump = .ended → 0 < second.closeCalls)

theorem isClosed_settled_notification {next : LiveSubscription N E} {notification : N}
    (hstep : Interleaving self (.settleNext (.notification notification)) next) : next.isClosed = false := by
  simp only [Interleaving, LiveSubscription.step] at hstep
  split at hstep <;> cases hstep
  rw [LiveSubscription.settleNext, LiveSubscription.isClosed_eq (emitted_emit _).snapshot]
  rfl

theorem inTime_of_keeps {next : LiveSubscription N E} {move : LiveSubscription.Move N E}
    (hstep : Interleaving self move next) (hkeeps : self.isClosed → StaysClosed self next) : InTime self move := by
  match move with
  | .settleNext (.notification notification) =>
    by_contra hclosed
    rw [InTime, Bool.not_eq_false] at hclosed
    have hstays := (hkeeps hclosed).closed
    rw [isClosed_settled_notification hstep] at hstays
    cases hstays
  | .settleNext .ended | .settleNext (.error _) | .subscribe _ | .unsubscribe _ | .onNotification _
  | .offNotification _ | .close | .returned | .settleClose _ => trivial

theorem staysClosed_run {edges : List (Trace.Edge (LiveSubscription N E) (LiveSubscription.Move N E))}
    {last : LiveSubscription N E} (hrun : Trace.Run Interleaving self edges last)
    (htime : ∀ edge ∈ edges, InTime edge.source edge.label) (hclosed : self.isClosed) : StaysClosed self last := by
  induction hrun with
  | nil _ => exact .refl hclosed
  | cons hstep _ ih =>
    obtain ⟨hfirst, hrest⟩ := List.forall_mem_cons.mp htime
    have hstays := staysClosed_step hclosed hfirst hstep
    exact hstays.trans (ih hrest hstays.closed)

theorem live_subscription_keeps_iff {edges : List (Trace.Edge (LiveSubscription N E) (LiveSubscription.Move N E))}
    {last : LiveSubscription N E} (hrun : Trace.Run Interleaving .new edges last) :
    (∀ before between rest first second, edges = before ++ between ++ rest →
        Trace.Run Interleaving .new before first → Trace.Run Interleaving first between second → Keeps first second) ↔
      ∀ edge ∈ edges, InTime edge.source edge.label := by
  constructor
  · intro hkeeps edge hedge
    obtain ⟨before, rest, rfl⟩ := List.append_of_mem hedge
    obtain ⟨hbefore, hstep, _⟩ := hrun.split_edge
    have hone := hkeeps before [edge] rest edge.source edge.target (by simp) hbefore (.cons hstep (.nil _))
    exact inTime_of_keeps hstep hone.1
  · rintro htime before between rest first second rfl hbefore hbetween
    refine ⟨fun hclosed => ?_, fun hfirst hsecond entry listener hlive => ?_, ?_⟩
    · exact staysClosed_run hbetween (fun edge hedge => htime edge (by simp [hedge])) hclosed
    · obtain ⟨_, hregistered, hdue, hdead⟩ := delivers_run hbetween hlive hfirst
      rcases hregistered with hstays | hgone
      · refine .inl ⟨hstays, ?_⟩
        have hall := hdue hstays
        rwa [LiveSubscription.due, hsecond, List.filterMap_nil, List.append_nil] at hall
      · exact .inr ⟨hgone, hdead hgone⟩
    · intro hended
      have hcloses := hbetween.preserves (fun _ _ _ hstep hcloses => hcloses.step hstep)
        (hbefore.preserves (fun _ _ _ hstep hcloses => hcloses.step hstep) closesQuery_new)
      exact hcloses.pump (.inr hended)

/-- A listener is told, the subscription is closed while the pump waits, and its `next` call ends with the stream. -/
theorem live_subscription_keeps_closed : ∃ edges, ∃ last : LiveSubscription Nat Nat,
    Trace.Run Interleaving .new edges last ∧ last.calls = [.notification 0 7 5] ∧ last.isClosed ∧ Keeps .new last := by
  obtain ⟨⟨edges, last⟩, hexecute, htime, hcalls, hclosed⟩ : ∃ executed,
      Trace.execute LiveSubscription.step (.new : LiveSubscription Nat Nat)
        [.onNotification 7, .settleNext (.notification 5), .returned, .close, .settleNext .ended, .settleClose none] =
          some executed ∧
        (∀ edge ∈ executed.1, InTime edge.source edge.label) ∧
        executed.2.calls = [.notification 0 7 5] ∧ executed.2.isClosed :=
    Trace.exists_of_any (by decide)
  have hrun := Trace.run_of_execute hexecute
  have hkeeps := (live_subscription_keeps_iff hrun).mpr htime [] edges [] .new last (by simp) (.nil _) hrun
  exact ⟨edges, last, hrun, hcalls, hclosed, hkeeps⟩

/-- A notification that settles the pending `next` call of a closed subscription opens it again: a listener is told and
the pump calls `next`. -/
theorem live_subscription_reopens : ∃ before between, ∃ first second : LiveSubscription Nat Nat,
    Trace.Run Interleaving .new before first ∧ Trace.Run Interleaving first between second ∧ first.isClosed ∧
      second.isClosed = false ∧ first.frames = [] ∧ second.calls ≠ first.calls ∧ first.nextCalls < second.nextCalls ∧
      ¬ Keeps first second := by
  obtain ⟨⟨before, first⟩, hbefore, hclosed, hframes, ⟨between, second⟩, hbetween, hopen, hcalls, hnext⟩ : ∃ executed,
      Trace.execute LiveSubscription.step (.new : LiveSubscription Nat Nat) [.onNotification 7, .close] =
          some executed ∧
        executed.2.isClosed ∧ executed.2.frames = [] ∧
        ∃ later, Trace.execute LiveSubscription.step executed.2 [.settleNext (.notification 5), .returned] =
            some later ∧
          later.2.isClosed = false ∧ later.2.calls ≠ executed.2.calls ∧ executed.2.nextCalls < later.2.nextCalls :=
    ⟨_, rfl, rfl, rfl, Trace.exists_of_any (by decide)⟩
  refine ⟨before, between, first, second, Trace.run_of_execute hbefore, Trace.run_of_execute hbetween, hclosed, hopen,
    hframes, hcalls, hnext, fun hkeeps => ?_⟩
  have hstays := (hkeeps.1 hclosed).closed
  rw [hopen] at hstays
  cases hstays

end react_native_surrealdb.subscription
