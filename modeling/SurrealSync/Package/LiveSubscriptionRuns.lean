import SurrealSync.Package.LiveSubscription

namespace react_native_surrealdb.subscription

namespace LiveSubscription

variable {N E : Type} {self : LiveSubscription N E} {after : After}

/-! ### What follows an emission -/

@[simp]
theorem resume_snapshot : (self.resume after).snapshot = self.snapshot := by
  fun_cases resume self after <;> rfl

@[simp]
theorem resume_frames : (self.resume after).frames = self.frames := by
  fun_cases resume self after <;> rfl

@[simp]
theorem resume_calls : (self.resume after).calls = self.calls := by
  fun_cases resume self after <;> rfl

@[simp]
theorem resume_yielded : (self.resume after).yielded = self.yielded := by
  fun_cases resume self after <;> rfl

@[simp]
theorem resume_emissions : (self.resume after).emissions = self.emissions := by
  fun_cases resume self after <;> rfl

@[simp]
theorem resume_notificationListeners : (self.resume after).notificationListeners = self.notificationListeners := by
  fun_cases resume self after <;> rfl

theorem resume_nextCalls (hclosed : self.isClosed) : (self.resume after).nextCalls = self.nextCalls := by
  fun_cases resume self after with
  | case1 => rfl
  | case2 hopen => exact absurd hclosed hopen
  | case3 => rfl
  | case4 => rfl
  | case5 => rfl

theorem isClosed_eq {next : LiveSubscription N E} (hsnapshot : next.snapshot = self.snapshot) :
    next.isClosed = self.isClosed := by
  rw [isClosed, isClosed, hsnapshot]

end LiveSubscription

variable {N E : Type} {self : LiveSubscription N E} {after : After}

/-! ### The loops of an emission -/

/-- What the loops of an emission leave as it is, and that they call `next` only when the subscription is open. -/
structure Emitted (source : LiveSubscription N E) (frames : List (Frame N)) (next : LiveSubscription N E) : Prop where
  snapshot : next.snapshot = source.snapshot
  yielded : next.yielded = source.yielded
  emissions : next.emissions = source.emissions
  notificationListeners : next.notificationListeners = source.notificationListeners
  nextCalls : source.isClosed → next.nextCalls = source.nextCalls
  depth : next.frames.length ≤ frames.length + 1

theorem emitted_resume (frames : List (Frame N)) :
    Emitted self frames (LiveSubscription.resume { self with frames } after) where
  snapshot := LiveSubscription.resume_snapshot
  yielded := LiveSubscription.resume_yielded
  emissions := LiveSubscription.resume_emissions
  notificationListeners := LiveSubscription.resume_notificationListeners
  nextCalls hclosed := LiveSubscription.resume_nextCalls hclosed
  depth := by simp

theorem emitted_emitNotification (frames : List (Frame N)) (index : Nat) (notification : N) :
    Emitted self frames (self.emitNotification frames index notification after) := by
  unfold LiveSubscription.emitNotification
  split
  · exact ⟨rfl, rfl, rfl, rfl, fun _ => rfl, by simp⟩
  · exact emitted_resume frames

theorem emitted_emitStore (frames : List (Frame N)) (index : Nat) (notification : Option N) :
    Emitted self frames (self.emitStore frames index notification after) := by
  unfold LiveSubscription.emitStore
  split
  · exact ⟨rfl, rfl, rfl, rfl, fun _ => rfl, by simp⟩
  · split
    · exact emitted_emitNotification frames 0 _
    · exact emitted_resume frames

/-! ### After the closing -/

/-- A closed subscription goes on and stays closed: no `next` call, no emission, and no call of a listener that is not of
an emission under way. -/
structure StaysClosed (source next : LiveSubscription N E) : Prop where
  closed : next.isClosed
  nextCalls : next.nextCalls = source.nextCalls
  emissions : next.emissions = source.emissions
  depth : next.frames.length ≤ source.frames.length
  calls : source.frames = [] → next.calls = source.calls

theorem StaysClosed.refl (hclosed : self.isClosed) : StaysClosed self self :=
  ⟨hclosed, rfl, rfl, Nat.le_refl _, fun _ => rfl⟩

theorem StaysClosed.trans {next last : LiveSubscription N E} (hfirst : StaysClosed self next)
    (hsecond : StaysClosed next last) : StaysClosed self last where
  closed := hsecond.closed
  nextCalls := hsecond.nextCalls.trans hfirst.nextCalls
  emissions := hsecond.emissions.trans hfirst.emissions
  depth := Nat.le_trans hsecond.depth hfirst.depth
  calls hframes := by
    have hnone : next.frames = [] := by
      have hlength := hfirst.depth
      rw [hframes] at hlength
      exact List.length_eq_zero_iff.mp (Nat.le_zero.mp hlength)
    rw [hsecond.calls hnone, hfirst.calls hframes]

theorem staysClosed_resume (hclosed : self.isClosed) : StaysClosed self (self.resume after) where
  closed := by rw [LiveSubscription.isClosed_eq LiveSubscription.resume_snapshot]; exact hclosed
  nextCalls := LiveSubscription.resume_nextCalls hclosed
  emissions := LiveSubscription.resume_emissions
  depth := Nat.le_of_eq (congrArg List.length LiveSubscription.resume_frames)
  calls _ := LiveSubscription.resume_calls

theorem staysClosed_setClosed (hclosed : self.isClosed) : StaysClosed self (self.setClosed after) := by
  rw [LiveSubscription.setClosed, if_pos hclosed]
  exact staysClosed_resume hclosed

theorem staysClosed_setError (hclosed : self.isClosed) (error : E) : StaysClosed self (self.setError error after) := by
  rw [LiveSubscription.setError, if_pos hclosed]
  exact staysClosed_resume hclosed

theorem StaysClosed.of_pump {next : LiveSubscription N E} {pump : Pump}
    (hstays : StaysClosed { self with pump } next) : StaysClosed self next where
  __ := hstays

theorem StaysClosed.of_returned {next : LiveSubscription N E} {frame : Frame N} {frames : List (Frame N)}
    (hclosed : self.isClosed) (hframes : self.frames = frame :: frames) (hemitted : Emitted self frames next) :
    StaysClosed self next where
  closed := by rw [LiveSubscription.isClosed_eq hemitted.snapshot]; exact hclosed
  nextCalls := hemitted.nextCalls hclosed
  emissions := hemitted.emissions
  depth := by
    rw [hframes]
    exact hemitted.depth
  calls hnone := by
    rw [hnone] at hframes
    cases hframes

/-- No notification settles a `next` call of a closed subscription. -/
def InTime (self : LiveSubscription N E) : LiveSubscription.Move N E → Prop
  | .settleNext (.notification _) => self.isClosed = false
  | _ => True

instance (self : LiveSubscription N E) : DecidablePred (InTime self)
  | .settleNext (.notification _) => inferInstanceAs (Decidable (self.isClosed = false))
  | .settleNext .ended | .settleNext (.error _) | .subscribe _ | .unsubscribe _ | .onNotification _
  | .offNotification _ | .close | .returned | .settleClose _ => .isTrue trivial

theorem staysClosed_step {next : LiveSubscription N E} {move : LiveSubscription.Move N E} (hclosed : self.isClosed)
    (htime : InTime self move) (hstep : Interleaving self move next) : StaysClosed self next := by
  cases move with
  | subscribe listener =>
    cases hstep
    rw [LiveSubscription.subscribe, LiveSubscription.start, if_pos (.inr hclosed)]
    exact ⟨hclosed, rfl, rfl, Nat.le_refl _, fun _ => rfl⟩
  | unsubscribe listener =>
    cases hstep
    exact ⟨hclosed, rfl, rfl, Nat.le_refl _, fun _ => rfl⟩
  | onNotification listener =>
    cases hstep
    rw [LiveSubscription.onNotification, LiveSubscription.start, if_pos (.inr hclosed)]
    exact ⟨hclosed, rfl, rfl, Nat.le_refl _, fun _ => rfl⟩
  | offNotification listener =>
    cases hstep
    exact ⟨hclosed, rfl, rfl, Nat.le_refl _, fun _ => rfl⟩
  | close =>
    cases hstep
    rw [LiveSubscription.close]
    split
    · exact .refl hclosed
    · exact staysClosed_setClosed hclosed
  | returned =>
    simp only [Interleaving, LiveSubscription.step, LiveSubscription.returned] at hstep
    split at hstep
    · cases hstep
    · rename_i hframes
      cases hstep
      exact .of_returned hclosed hframes (emitted_emitStore _ _ _)
    · rename_i hframes
      cases hstep
      exact .of_returned hclosed hframes (emitted_emitNotification _ _ _)
  | settleNext settled =>
    simp only [Interleaving, LiveSubscription.step] at hstep
    split at hstep <;> cases hstep
    cases settled with
    | notification notification =>
      rw [InTime, hclosed] at htime
      cases htime
    | ended => exact .of_pump (staysClosed_setClosed hclosed)
    | error error => exact .of_pump (@staysClosed_setError _ _ { self with pump := .emitting } _ hclosed error)
  | settleClose failure =>
    simp only [Interleaving, LiveSubscription.step] at hstep
    split at hstep <;> cases hstep
    cases failure with
    | none => exact ⟨hclosed, rfl, rfl, Nat.le_refl _, fun _ => rfl⟩
    | some error => exact .of_pump (@staysClosed_setError _ _ { self with pump := .emitting } _ hclosed error)

end react_native_surrealdb.subscription
