import SurrealSync.Package.LiveSubscriptionRuns

namespace react_native_surrealdb.subscription

variable {N E : Type} {self : LiveSubscription N E} {after : After} {entry listener : Nat}

def Called.toldTo (entry listener : Nat) : Called N → Option N
  | .store _ => none
  | .notification found told message => if found = entry ∧ told = listener then some message else none

/-- The notification that an emission under way still has for an entry. -/
def Frame.pending (entry : Nat) : Frame N → Option N
  | .store _ message _ => message
  | .notification index message _ => if index ≤ entry then some message else none

namespace LiveSubscription

/-- What the listener of an entry was told, in order. -/
def deliveredTo (self : LiveSubscription N E) (entry listener : Nat) : List N :=
  self.calls.filterMap (Called.toldTo entry listener)

/-- What it was told, and what the emissions under way will tell it. -/
def due (self : LiveSubscription N E) (entry listener : Nat) : List N :=
  self.deliveredTo entry listener ++ self.frames.filterMap (Frame.pending entry)

end LiveSubscription

/-! ### The loops of an emission -/

theorem deliveredTo_resume (frames : List (Frame N)) :
    (LiveSubscription.resume { self with frames } after).deliveredTo entry listener = self.deliveredTo entry listener := by
  rw [LiveSubscription.deliveredTo, LiveSubscription.resume_calls]
  rfl

theorem due_resume (frames : List (Frame N)) :
    (LiveSubscription.resume { self with frames } after).due entry listener =
      self.deliveredTo entry listener ++ frames.filterMap (Frame.pending entry) := by
  rw [LiveSubscription.due, deliveredTo_resume, LiveSubscription.resume_frames]

theorem due_emitNotification (hlive : self.notificationListeners[entry]? = some (some listener))
    (frames : List (Frame N)) (index : Nat) (notification : N) :
    (self.emitNotification frames index notification after).due entry listener =
      self.deliveredTo entry listener ++
        (Frame.notification index notification after :: frames).filterMap (Frame.pending entry) := by
  unfold LiveSubscription.emitNotification
  split
  · rename_i found told hnext
    obtain ⟨hle, hfound, hskipped⟩ := LiveSet.next_eq_some hnext
    simp only [LiveSubscription.due, LiveSubscription.deliveredTo, List.filterMap_append, List.filterMap_cons,
      List.filterMap_nil, Called.toldTo, Frame.pending]
    by_cases hentry : found = entry
    · subst hentry
      have htold : told = listener := by
        rw [hfound] at hlive
        simpa using hlive
      simp [htold, hle, Nat.not_succ_le_self]
    · by_cases hbefore : index ≤ entry
      · have hafter : found + 1 ≤ entry := by
          by_contra hnot
          have hdead := hskipped entry hbefore (by omega)
          rw [hlive] at hdead
          cases hdead
        simp [hentry, hbefore, hafter]
      · have hafter : ¬ found + 1 ≤ entry := by omega
        simp [hentry, hbefore, hafter]
  · rename_i hnext
    have hbefore : ¬ index ≤ entry := by
      intro hle
      obtain ⟨hbound, _⟩ := List.getElem?_eq_some_iff.mp hlive
      have hdead := LiveSet.next_eq_none hnext hle hbound
      rw [hlive] at hdead
      cases hdead
    rw [due_resume]
    simp [Frame.pending, hbefore]

theorem deliveredTo_emitNotification (hdead : self.notificationListeners[entry]? = some none)
    (frames : List (Frame N)) (index : Nat) (notification : N) :
    (self.emitNotification frames index notification after).deliveredTo entry listener =
      self.deliveredTo entry listener := by
  unfold LiveSubscription.emitNotification
  split
  · rename_i found told hnext
    obtain ⟨_, hfound, _⟩ := LiveSet.next_eq_some hnext
    have hentry : found ≠ entry := by
      rintro rfl
      rw [hfound] at hdead
      cases hdead
    simp [LiveSubscription.deliveredTo, Called.toldTo, hentry]
  · exact deliveredTo_resume frames

theorem due_emitStore (hlive : self.notificationListeners[entry]? = some (some listener))
    (frames : List (Frame N)) (index : Nat) (notification : Option N) :
    (self.emitStore frames index notification after).due entry listener =
      self.deliveredTo entry listener ++
        (Frame.store index notification after :: frames).filterMap (Frame.pending entry) := by
  unfold LiveSubscription.emitStore
  split
  · simp [LiveSubscription.due, LiveSubscription.deliveredTo, Called.toldTo, Frame.pending, List.filterMap_cons]
  · split
    · rw [due_emitNotification hlive]
      simp [Frame.pending, List.filterMap_cons]
    · rw [due_resume]
      simp [Frame.pending, List.filterMap_cons]

theorem deliveredTo_emitStore (hdead : self.notificationListeners[entry]? = some none)
    (frames : List (Frame N)) (index : Nat) (notification : Option N) :
    (self.emitStore frames index notification after).deliveredTo entry listener = self.deliveredTo entry listener := by
  unfold LiveSubscription.emitStore
  split
  · simp [LiveSubscription.deliveredTo, Called.toldTo]
  · split
    · exact deliveredTo_emitNotification hdead frames 0 _
    · exact deliveredTo_resume frames

/-! ### Steps -/

/-- A step in which the query yields `new`: it becomes due for a listener that is registered. -/
structure Tells (entry listener : Nat) (new : List N) (source next : LiveSubscription N E) : Prop where
  yielded : next.yielded = source.yielded ++ new
  grows : LiveSet.Grows source.notificationListeners next.notificationListeners
  due : source.notificationListeners[entry]? = some (some listener) →
    next.due entry listener = source.due entry listener ++ new
  deliveredTo : source.notificationListeners[entry]? = some none →
    next.deliveredTo entry listener = source.deliveredTo entry listener

theorem tells_nothing {next : LiveSubscription N E} (hcalls : next.calls = self.calls)
    (hframes : next.frames = self.frames) (hyielded : next.yielded = self.yielded)
    (hgrows : LiveSet.Grows self.notificationListeners next.notificationListeners) :
    Tells entry listener [] self next where
  yielded := by rw [hyielded, List.append_nil]
  grows := hgrows
  due _ := by rw [LiveSubscription.due, LiveSubscription.due, LiveSubscription.deliveredTo, hcalls, hframes,
    List.append_nil, LiveSubscription.deliveredTo]
  deliveredTo _ := by rw [LiveSubscription.deliveredTo, hcalls, LiveSubscription.deliveredTo]

theorem tells_resume : Tells entry listener [] self (self.resume after) := by
  refine tells_nothing LiveSubscription.resume_calls LiveSubscription.resume_frames LiveSubscription.resume_yielded ?_
  rw [LiveSubscription.resume_notificationListeners]
  exact .refl _

theorem emitted_emit (notification : Option N) :
    Emitted { self with emissions := self.emissions + 1 } self.frames (self.emit notification after) :=
  emitted_emitStore self.frames 0 notification

theorem due_emit (hlive : self.notificationListeners[entry]? = some (some listener)) (notification : Option N) :
    (self.emit notification after).due entry listener =
      self.deliveredTo entry listener ++
        (Frame.store 0 notification after :: self.frames).filterMap (Frame.pending entry) :=
  @due_emitStore _ _ { self with emissions := self.emissions + 1 } after _ _ hlive self.frames 0 notification

theorem deliveredTo_emit (hdead : self.notificationListeners[entry]? = some none) (notification : Option N) :
    (self.emit notification after).deliveredTo entry listener = self.deliveredTo entry listener :=
  @deliveredTo_emitStore _ _ { self with emissions := self.emissions + 1 } after _ _ hdead self.frames 0 notification

theorem tells_emit_none : Tells entry listener [] self (self.emit none after) where
  yielded := by rw [(emitted_emit none).yielded, List.append_nil]
  grows := by
    rw [(emitted_emit none).notificationListeners]
    exact .refl _
  due hlive := by
    rw [due_emit hlive, List.append_nil, LiveSubscription.due]
    rfl
  deliveredTo hdead := deliveredTo_emit hdead none

theorem tells_setClosed : Tells entry listener [] self (self.setClosed after) := by
  unfold LiveSubscription.setClosed
  split
  · exact tells_resume
  · exact { tells_emit_none with }

theorem tells_setError (error : E) : Tells entry listener [] self (self.setError error after) := by
  unfold LiveSubscription.setError
  split
  · exact tells_resume
  · exact { tells_emit_none with }

/-- A notification comes when no emission is under way, so that it is the only one that is due. -/
theorem tells_emit_some {before : LiveSubscription N E} {notification : N} (hframes : before.frames = [])
    (hself : self.frames = before.frames) (hcalls : self.calls = before.calls)
    (hyielded : self.yielded = before.yielded ++ [notification])
    (hlisteners : self.notificationListeners = before.notificationListeners) :
    Tells entry listener [notification] before (self.emit (some notification) after) where
  yielded := by rw [(emitted_emit _).yielded, hyielded]
  grows := by
    rw [(emitted_emit _).notificationListeners, hlisteners]
    exact .refl _
  due hlive := by
    rw [← hlisteners] at hlive
    rw [due_emit hlive, LiveSubscription.due, hself, hframes, LiveSubscription.deliveredTo, hcalls,
      LiveSubscription.deliveredTo, List.filterMap_nil, List.append_nil]
    rfl
  deliveredTo hdead := by
    rw [← hlisteners] at hdead
    rw [deliveredTo_emit hdead, LiveSubscription.deliveredTo, hcalls, LiveSubscription.deliveredTo]

theorem Tells.of_returned {next : LiveSubscription N E} {frame : Frame N} {frames : List (Frame N)}
    (hframes : self.frames = frame :: frames) (hemitted : Emitted self frames next)
    (hdue : self.notificationListeners[entry]? = some (some listener) →
      next.due entry listener = self.deliveredTo entry listener ++ (frame :: frames).filterMap (Frame.pending entry))
    (hdelivered : self.notificationListeners[entry]? = some none →
      next.deliveredTo entry listener = self.deliveredTo entry listener) : Tells entry listener [] self next where
  yielded := by rw [hemitted.yielded, List.append_nil]
  grows := by
    rw [hemitted.notificationListeners]
    exact .refl _
  due hlive := by rw [hdue hlive, List.append_nil, LiveSubscription.due, hframes]
  deliveredTo := hdelivered

theorem exists_tells {next : LiveSubscription N E} {move : LiveSubscription.Move N E}
    (hstep : Interleaving self move next) : ∃ new, Tells entry listener new self next := by
  cases move with
  | subscribe added =>
    cases hstep
    rw [LiveSubscription.subscribe, LiveSubscription.start]
    split
    · exact ⟨[], tells_nothing rfl rfl rfl (.refl _)⟩
    · exact ⟨[], tells_nothing rfl rfl rfl (.refl _)⟩
  | unsubscribe listener =>
    cases hstep
    exact ⟨[], tells_nothing rfl rfl rfl (.refl _)⟩
  | onNotification added =>
    cases hstep
    rw [LiveSubscription.onNotification, LiveSubscription.start]
    split
    · exact ⟨[], tells_nothing rfl rfl rfl (LiveSet.grows_add _ _)⟩
    · exact ⟨[], tells_nothing rfl rfl rfl (LiveSet.grows_add _ _)⟩
  | offNotification listener =>
    cases hstep
    exact ⟨[], tells_nothing rfl rfl rfl (LiveSet.grows_delete _ _)⟩
  | close =>
    cases hstep
    rw [LiveSubscription.close]
    split
    · exact ⟨[], tells_nothing rfl rfl rfl (.refl _)⟩
    · exact ⟨[], tells_setClosed⟩
  | returned =>
    simp only [Interleaving, LiveSubscription.step, LiveSubscription.returned] at hstep
    split at hstep
    · cases hstep
    · rename_i hframes
      cases hstep
      exact ⟨[], .of_returned hframes (emitted_emitStore _ _ _) (due_emitStore · _ _ _) (deliveredTo_emitStore · _ _ _)⟩
    · rename_i hframes
      cases hstep
      exact ⟨[], .of_returned hframes (emitted_emitNotification _ _ _) (due_emitNotification · _ _ _)
        (deliveredTo_emitNotification · _ _ _)⟩
  | settleNext settled =>
    simp only [Interleaving, LiveSubscription.step] at hstep
    split at hstep
    on_goal 2 => cases hstep
    rename_i hwaits
    cases hstep
    cases settled with
    | notification notification => exact ⟨[notification], tells_emit_some hwaits.1 rfl rfl rfl rfl⟩
    | ended => exact ⟨[], { @tells_setClosed _ _ { self with pump := .emitting } .finish _ _ with }⟩
    | error error => exact ⟨[], { @tells_setError _ _ { self with pump := .emitting } .finish _ _ error with }⟩
  | settleClose failure =>
    simp only [Interleaving, LiveSubscription.step] at hstep
    split at hstep <;> cases hstep
    cases failure with
    | none => exact ⟨[], tells_nothing rfl rfl rfl (.refl _)⟩
    | some error => exact ⟨[], { @tells_setError _ _ { self with pump := .emitting } .ended _ _ error with }⟩

/-! ### Runs -/

/-- What the query has yielded since it had yielded `count` was told after `told`, as long as the listener stays
registered. -/
structure Delivers (told : List N) (count entry listener : Nat) (subscription : LiveSubscription N E) : Prop where
  bound : count ≤ subscription.yielded.length
  registered : subscription.notificationListeners[entry]? = some (some listener) ∨
    subscription.notificationListeners[entry]? = some none
  live : subscription.notificationListeners[entry]? = some (some listener) →
    subscription.due entry listener = told ++ subscription.yielded.drop count
  dead : subscription.notificationListeners[entry]? = some none →
    subscription.deliveredTo entry listener <+: told ++ subscription.yielded.drop count

theorem delivers_start (hlive : self.notificationListeners[entry]? = some (some listener)) (hframes : self.frames = []) :
    Delivers (self.deliveredTo entry listener) self.yielded.length entry listener self where
  bound := Nat.le_refl _
  registered := .inl hlive
  live _ := by rw [LiveSubscription.due, hframes, List.filterMap_nil, List.drop_length]
  dead hdead := by
    rw [hlive] at hdead
    cases hdead

theorem Tells.delivers {next : LiveSubscription N E} {new told : List N} {count : Nat}
    (htells : Tells entry listener new self next) (hdelivers : Delivers told count entry listener self) :
    Delivers told count entry listener next := by
  obtain ⟨hcount, hentry, hlive, hdead⟩ := hdelivers
  have hdrop : next.yielded.drop count = self.yielded.drop count ++ new := by
    rw [htells.yielded, List.drop_append_of_le_length hcount]
  have hbound : entry < self.notificationListeners.length := by
    rcases hentry with h | h <;> exact (List.getElem?_eq_some_iff.mp h).1
  have hdue (hbefore : self.notificationListeners[entry]? = some (some listener)) :
      next.due entry listener = told ++ next.yielded.drop count := by
    rw [htells.due hbefore, hlive hbefore, hdrop, List.append_assoc]
  refine ⟨?_, ?_, fun hafter => ?_, fun hafter => ?_⟩
  · rw [htells.yielded, List.length_append]
    exact Nat.le_add_right_of_le hcount
  · rcases htells.grows.entries entry hbound with hsame | hgone
    · rw [hsame]
      exact hentry
    · exact .inr hgone
  · rcases hentry with hbefore | hbefore
    · exact hdue hbefore
    · rcases htells.grows.entries entry hbound with hsame | hgone
      · rw [hsame, hbefore] at hafter
        cases hafter
      · rw [hgone] at hafter
        cases hafter
  · rcases hentry with hbefore | hbefore
    · rw [← hdue hbefore, LiveSubscription.due]
      exact List.prefix_append _ _
    · rw [htells.deliveredTo hbefore, hdrop, ← List.append_assoc]
      exact (hdead hbefore).trans (List.prefix_append _ _)

theorem delivers_run {edges : List (Trace.Edge (LiveSubscription N E) (LiveSubscription.Move N E))}
    {last : LiveSubscription N E} (hrun : Trace.Run Interleaving self edges last)
    (hlive : self.notificationListeners[entry]? = some (some listener)) (hframes : self.frames = []) :
    Delivers (self.deliveredTo entry listener) self.yielded.length entry listener last := by
  refine hrun.preserves (fun before move next hstep hdelivers => ?_) (delivers_start hlive hframes)
  obtain ⟨new, htells⟩ := exists_tells hstep
  exact htells.delivers hdelivers

end react_native_surrealdb.subscription
