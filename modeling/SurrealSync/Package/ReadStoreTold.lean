import SurrealSync.Basic.Trace
import SurrealSync.Package.ReadStore

open surrealdb_sync_client
open surrealdb_rn_core.sync_read (Cursor Bootstrap Changes Cell CellStep Committed Recorded)

namespace react_native_surrealdb.sync_read

variable {V : Type}

/-! ### What a listener was told -/

/-- The last snapshot that a sequence of events shows. -/
def lastShown (events : List (SyncReadEvent V)) : Option (ReadSnapshotV1 V) :=
  (events.filterMap SyncReadEvent.shown).getLast?

/-- Each batch is applied to the snapshot shown before it. -/
def Chained (events : List (SyncReadEvent V)) : Prop :=
  ∀ earlier snapshot batch later, events = earlier ++ .batch snapshot batch :: later →
    ∃ before, lastShown earlier = some before ∧ before.metadata.revision = batch.before_revision ∧
      applySyncReadBatch before batch = .ok snapshot

theorem lastShown_append (events : List (SyncReadEvent V)) (event : SyncReadEvent V) :
    lastShown (events ++ [event]) = event.shown.or (lastShown events) := by
  unfold lastShown
  rw [List.filterMap_append]
  cases event <;> simp [SyncReadEvent.shown]

theorem Chained.nil : Chained ([] : List (SyncReadEvent V)) := by
  intro earlier snapshot batch later heq
  simp at heq

theorem Chained.append {events : List (SyncReadEvent V)} {event : SyncReadEvent V} (hchained : Chained events)
    (hevent : ∀ snapshot batch, event = .batch snapshot batch → ∃ before, lastShown events = some before ∧
      before.metadata.revision = batch.before_revision ∧ applySyncReadBatch before batch = .ok snapshot) :
    Chained (events ++ [event]) := by
  intro earlier snapshot batch later heq
  rcases List.eq_nil_or_concat later with rfl | ⟨rest, last, rfl⟩
  · obtain ⟨rfl, hsame⟩ := List.append_inj' heq rfl
    exact hevent snapshot batch (List.singleton_inj.mp hsame)
  · have hsplit : events ++ [event] = (earlier ++ .batch snapshot batch :: rest) ++ [last] := by simpa using heq
    obtain ⟨rfl, -⟩ := List.append_inj' hsplit rfl
    exact hchained earlier snapshot batch rest rfl

/-- An applied batch starts at the revision of its snapshot. -/
theorem before_revision_of_apply {snapshot next : ReadSnapshotV1 V} {batch : CommittedReadBatchV1 V}
    (happly : applySyncReadBatch snapshot batch = .ok next) :
    batch.before_revision = snapshot.metadata.revision ∧
      next = ⟨1, batch.metadata, apply_read_batch snapshot.rows batch⟩ := by
  obtain ⟨_, hvalid, heq⟩ := Except.bind_eq_ok_iff.mp happly
  obtain ⟨_, hmatches, _⟩ := Except.bind_eq_ok_iff.mp hvalid
  simp only [Except.refuse_eq_ok_iff, not_or, ne_eq, not_not] at hmatches
  cases heq
  exact ⟨hmatches.2.1, rfl⟩

namespace ExperimentalSyncReadStore

/-- The events of one listener. -/
def events (store : ExperimentalSyncReadStore V) (listener : Nat) : List (SyncReadEvent V) :=
  store.log.filterMap fun entry => if entry.1 = listener then some entry.2 else none

/-- The snapshots shown so far, with the listeners they were shown to. -/
def shown (store : ExperimentalSyncReadStore V) : List (Nat × SyncReadEvent V) :=
  store.log.filter (·.2.shown.isSome)

/-- The scope was withdrawn or the store closed. -/
def Withdrawn (store : ExperimentalSyncReadStore V) : Prop :=
  store.closed = true ∨ store.scopeBlocked.isSome

/-- What every operation of the store keeps. -/
structure Told (store : ExperimentalSyncReadStore V) : Prop where
  nodup : store.listeners.Nodup
  listeners_lt : ∀ listener ∈ store.listeners, listener < store.watched
  log_lt : ∀ entry ∈ store.log, entry.1 < store.watched
  aborted_lt : ∀ controller ∈ store.aborted, controller < store.controllers
  running : ∀ controller, store.controller = some controller → controller ∉ store.aborted ∧
    controller < store.controllers
  chained : ∀ listener, Chained (store.events listener)
  withdrawn : store.Withdrawn → store.snapshot = none ∧ store.controller = none

/-- Every listener was shown the present snapshot last. -/
def Live (store : ExperimentalSyncReadStore V) : Prop :=
  ∃ snapshot, store.snapshot = some snapshot ∧
    ∀ listener ∈ store.listeners, lastShown (store.events listener) = some snapshot

variable {store : ExperimentalSyncReadStore V} {event : SyncReadEvent V}

theorem filterMap_listeners {listeners : List Nat} (hnodup : listeners.Nodup) (event : SyncReadEvent V)
    (listener : Nat) :
    (listeners.map (·, event)).filterMap (fun entry => if entry.1 = listener then some entry.2 else none) =
      if listener ∈ listeners then [event] else [] := by
  induction listeners with
  | nil => rfl
  | cons first listeners ih =>
    obtain ⟨hfirst, hnodup⟩ := List.nodup_cons.mp hnodup
    rw [List.map_cons, List.filterMap_cons, ih hnodup]
    by_cases hsame : first = listener
    · subst hsame
      simp [hfirst]
    · have hne : listener ≠ first := fun heq => hsame heq.symm
      simp [hsame, hne]

/-- What one listener gets of an event. -/
theorem events_emitted (hnodup : store.listeners.Nodup) (event : SyncReadEvent V) (listener : Nat) :
    ({ store with log := store.log ++ store.listeners.map (·, event) } : ExperimentalSyncReadStore V).events listener =
      store.events listener ++ if listener ∈ store.listeners then [event] else [] := by
  unfold events
  rw [List.filterMap_append, filterMap_listeners hnodup]

/-! ### The operations of the application -/

/-- What a call of the application does to a store: a pump that still runs is a new one, or the one that ran
and whose listeners are all up to date if they were; a withdrawn store shows nothing any more. -/
structure Moves (store next : ExperimentalSyncReadStore V) : Prop where
  told : next.Told
  controllers : store.controllers ≤ next.controllers
  snapshot : ∀ snapshot, next.snapshot = some snapshot → store.snapshot = some snapshot
  running : ∀ controller, next.controller = some controller →
    store.controllers ≤ controller ∨ store.controller = some controller ∧ (store.Live → next.Live)
  withdrawn : store.Withdrawn → next.Withdrawn ∧ next.shown = store.shown

theorem Told.moves_self (htold : store.Told) : Moves store store where
  told := htold
  controllers := Nat.le_refl _
  snapshot _ hsnapshot := hsnapshot
  running _ hcontroller := .inr ⟨hcontroller, id⟩
  withdrawn hwithdrawn := ⟨hwithdrawn, rfl⟩

theorem Told.stop (htold : store.Told) : store.stop.Told := by
  refine { htold with aborted_lt := ?_, running := ?_, withdrawn := fun h => ⟨(htold.withdrawn h).1, rfl⟩ }
  · intro controller haborted
    rcases List.mem_append.mp haborted with hcurrent | hbefore
    · exact (htold.running controller (Option.mem_toList.mp hcurrent)).2
    · exact htold.aborted_lt controller hbefore
  · intro controller hcontroller
    cases hcontroller

theorem Told.start (htold : store.Told) (hopen : ¬ store.Withdrawn) : store.start.Told := by
  refine { htold with aborted_lt := ?_, running := ?_, withdrawn := fun h => absurd h hopen }
  · intro controller haborted
    have hlt := htold.aborted_lt controller haborted
    change controller < store.controllers + 1
    omega
  · rintro controller ⟨⟩
    refine ⟨fun haborted => ?_, Nat.lt_succ_self _⟩
    exact Nat.lt_irrefl _ (htold.aborted_lt _ haborted)

/-- A listener with a new number has no events yet. -/
theorem Told.events_watched (htold : store.Told) : store.events store.watched = [] := by
  unfold events
  rw [List.filterMap_eq_nil_iff]
  intro entry hentry
  have hlt := htold.log_lt entry hentry
  rw [if_neg (by omega)]

/-- The store with one more listener. -/
def joined (store : ExperimentalSyncReadStore V) : ExperimentalSyncReadStore V :=
  { store with listeners := store.listeners ++ [store.watched], watched := store.watched + 1 }

theorem Told.joined (htold : store.Told) : store.joined.Told := by
  refine { htold with nodup := ?_, listeners_lt := ?_, log_lt := ?_ }
  · refine List.nodup_append.mpr ⟨htold.nodup, List.nodup_singleton _, ?_⟩
    rintro listener hlistener _ hwatched rfl
    have hlt := htold.listeners_lt listener hlistener
    rw [List.mem_singleton] at hwatched
    omega
  · intro listener hlistener
    change listener < store.watched + 1
    rcases List.mem_append.mp hlistener with hold | hnew
    · have hlt := htold.listeners_lt listener hold
      omega
    · rw [List.mem_singleton] at hnew
      omega
  · intro entry hentry
    have hlt := htold.log_lt entry hentry
    change entry.1 < store.watched + 1
    omega

theorem events_notify (listener told : Nat) (event : SyncReadEvent V) :
    (store.notify told event).events listener =
      store.events listener ++ if told = listener then [event] else [] := by
  unfold events notify
  rw [List.filterMap_append, List.filterMap_cons, List.filterMap_nil]
  split <;> simp_all

/-- A listener that joins a running pump is shown the snapshot the others were shown. -/
theorem Told.moves_primed (htold : store.Told) (hopen : ¬ store.Withdrawn) {snapshot : ReadSnapshotV1 V}
    (hsnapshot : store.snapshot = some snapshot) :
    Moves store (store.joined.notify store.watched (.snapshot snapshot)) := by
  have hfresh : store.joined.events store.watched = [] := htold.events_watched
  refine ⟨{ htold.joined with log_lt := ?_, chained := ?_ }, Nat.le_refl _, fun _ h => h,
    fun controller hcontroller => .inr ⟨hcontroller, ?_⟩, fun h => absurd h hopen⟩
  · intro entry hentry
    rcases List.mem_append.mp hentry with hold | hnew
    · exact htold.joined.log_lt entry hold
    · rw [List.mem_singleton] at hnew
      rw [hnew]
      exact Nat.lt_succ_self _
  · intro listener
    rw [events_notify]
    split
    · exact (htold.joined.chained listener).append fun _ _ heq => nomatch heq
    · rw [List.append_nil]
      exact htold.joined.chained listener
  · rintro ⟨current, hcurrent, hlast⟩
    rw [hsnapshot, Option.some.injEq] at hcurrent
    subst hcurrent
    refine ⟨snapshot, hsnapshot, fun listener hlistener => ?_⟩
    rw [events_notify]
    split
    · rw [lastShown_append]
      rfl
    · rename_i hne
      rw [List.append_nil]
      rcases List.mem_append.mp hlistener with hold | hnew
      · exact hlast listener hold
      · exact absurd (List.mem_singleton.mp hnew).symm hne

theorem not_withdrawn (hclosed : ¬ store.closed = true) (hscope : store.scopeBlocked = none) : ¬ store.Withdrawn := by
  rintro (h | h)
  · exact hclosed h
  · rw [hscope] at h
    cases h

theorem Told.moves_watchCollection (htold : store.Told) {next : ExperimentalSyncReadStore V} {listener : Nat}
    (hwatch : store.watchCollection = .ok (next, listener)) : Moves store next := by
  unfold watchCollection at hwatch
  split at hwatch
  · cases hwatch
  · rename_i hclosed
    split at hwatch
    · cases hwatch
    · rename_i hscope
      have hopen := not_withdrawn hclosed hscope
      dsimp only at hwatch
      split at hwatch
      · rename_i _ snapshot hcontroller hsnapshot
        cases hwatch
        exact htold.moves_primed hopen hsnapshot
      · rename_i hcontroller hsnapshot
        cases hwatch
        refine ⟨htold.joined, Nat.le_refl _, fun _ h => h, fun controller h => .inr ⟨h, ?_⟩, fun h => absurd h hopen⟩
        rintro ⟨snapshot, hpresent, _⟩
        change store.snapshot = none at hsnapshot
        rw [hsnapshot] at hpresent
        cases hpresent
      · cases hwatch
        refine ⟨htold.joined.start hopen, Nat.le_succ _, fun _ h => h, ?_, fun h => absurd h hopen⟩
        rintro controller ⟨⟩
        exact .inl (Nat.le_refl _)

theorem Told.moves_unsubscribe (htold : store.Told) (listener : Nat) : Moves store (store.unsubscribe listener) := by
  have hless : ({ store with listeners := store.listeners.filter (· ≠ listener) } : ExperimentalSyncReadStore V).Told :=
    { htold with
      nodup := htold.nodup.filter _
      listeners_lt := fun other hother => htold.listeners_lt other (List.mem_of_mem_filter hother) }
  unfold unsubscribe
  dsimp only
  split
  · exact ⟨hless.stop, Nat.le_refl _, fun _ h => h, fun _ h => (nomatch h), fun h => ⟨h, rfl⟩⟩
  · refine ⟨hless, Nat.le_refl _, fun _ h => h, fun _ h => .inr ⟨h, ?_⟩, fun h => ⟨h, rfl⟩⟩
    rintro ⟨snapshot, hsnapshot, hlast⟩
    exact ⟨snapshot, hsnapshot, fun other hother => hlast other (List.mem_of_mem_filter hother)⟩

theorem Told.moves_refresh (htold : store.Told) {next : ExperimentalSyncReadStore V}
    (hrefresh : store.refresh = .ok next) : Moves store next := by
  unfold refresh at hrefresh
  split at hrefresh
  · cases hrefresh
  · rename_i hclosed
    split at hrefresh
    · cases hrefresh
    · rename_i hscope
      have hopen := not_withdrawn hclosed hscope
      cases hrefresh
      split
      · exact ⟨htold.stop, Nat.le_refl _, fun _ h => h, fun _ h => (nomatch h), fun h => absurd h hopen⟩
      · refine ⟨htold.stop.start hopen, Nat.le_succ _, fun _ h => h, ?_, fun h => absurd h hopen⟩
        rintro controller ⟨⟩
        exact .inl (Nat.le_refl _)

variable [DecidableEq V]

theorem emit_eq_of_note (hnote : event.shown = none) :
    store.emit event = { store with log := store.log ++ store.listeners.map (·, event) } := by
  unfold emit
  rw [if_neg (by simp [hnote])]

/-- An event that shows nothing. -/
theorem Told.emit_note (htold : store.Told) (hnote : event.shown = none) : (store.emit event).Told := by
  rw [emit_eq_of_note hnote]
  refine { htold with log_lt := ?_, chained := ?_ }
  · intro entry hentry
    rcases List.mem_append.mp hentry with hold | hnew
    · exact htold.log_lt entry hold
    · obtain ⟨listener, hlistener, rfl⟩ := List.mem_map.mp hnew
      exact htold.listeners_lt listener hlistener
  · intro listener
    rw [events_emitted htold.nodup]
    split
    · refine (htold.chained listener).append fun snapshot batch heq => ?_
      rw [heq] at hnote
      cases hnote
    · rw [List.append_nil]
      exact htold.chained listener

/-- The event for a snapshot, when the store shows one. -/
theorem emit_installed (hopen : ¬ store.Withdrawn) {snapshot : ReadSnapshotV1 V} (hshown : event.shown = some snapshot) :
    store.install snapshot event =
      { store with snapshot := some snapshot, log := store.log ++ store.listeners.map (·, event) } := by
  unfold Withdrawn at hopen
  unfold install emit
  rw [if_neg]
  simp only [hshown, not_and, not_or, ne_eq, not_not]
  intro _
  exact ⟨fun h => hopen (.inl h), fun h => hopen (.inr h), trivial⟩

/-- Every listener gets the snapshot that is installed. -/
theorem Told.install (htold : store.Told) (hopen : ¬ store.Withdrawn) {snapshot : ReadSnapshotV1 V}
    (hshown : event.shown = some snapshot)
    (hfollows : ∀ next batch, event = .batch next batch → ∃ before, store.snapshot = some before ∧ store.Live ∧
      applySyncReadBatch before batch = .ok next) :
    (store.install snapshot event).Told ∧ (store.install snapshot event).Live := by
  rw [emit_installed hopen hshown]
  have hevents : ∀ listener,
      ({ store with snapshot := some snapshot, log := store.log ++ store.listeners.map (·, event) } :
        ExperimentalSyncReadStore V).events listener =
      store.events listener ++ if listener ∈ store.listeners then [event] else [] := events_emitted htold.nodup event
  constructor
  · refine { htold with log_lt := ?_, chained := ?_, withdrawn := fun h => absurd h hopen }
    · intro entry hentry
      rcases List.mem_append.mp hentry with hold | hnew
      · exact htold.log_lt entry hold
      · obtain ⟨listener, hlistener, rfl⟩ := List.mem_map.mp hnew
        exact htold.listeners_lt listener hlistener
    · intro listener
      rw [hevents]
      split
      · rename_i hlistener
        refine (htold.chained listener).append fun next batch heq => ?_
        obtain ⟨before, hbefore, ⟨current, hcurrent, hlast⟩, happly⟩ := hfollows next batch heq
        rw [hbefore, Option.some.injEq] at hcurrent
        subst hcurrent
        exact ⟨before, hlast listener hlistener, (before_revision_of_apply happly).1.symm, happly⟩
      · rw [List.append_nil]
        exact htold.chained listener
  · refine ⟨snapshot, rfl, fun listener hlistener => ?_⟩
    rw [hevents, if_pos hlistener, lastShown_append, hshown, Option.some_or]

theorem shown_emit_note (hnote : event.shown = none) : (store.emit event).shown = store.shown := by
  have hnone : (store.listeners.map (·, event)).filter (·.2.shown.isSome) = [] := by
    rw [List.filter_eq_nil_iff]
    intro entry hentry
    obtain ⟨listener, -, rfl⟩ := List.mem_map.mp hentry
    simp [hnote]
  rw [emit_eq_of_note hnote]
  unfold shown
  rw [List.filter_append, hnone, List.append_nil]

/-- A store that is withdrawn and says so. -/
theorem Told.moves_withdraw (htold : store.Told) (closed : Bool) (scopeBlocked : Option SyncReadScopeError)
    (hwithdrawn : closed = true ∨ scopeBlocked.isSome) (hnote : event.shown = none) :
    Moves store (({ store with closed, scopeBlocked } : ExperimentalSyncReadStore V).withdraw.emit event) := by
  have hcleared : ({ store with closed, scopeBlocked } : ExperimentalSyncReadStore V).withdraw.Told :=
    { htold.stop with withdrawn := fun _ => ⟨rfl, rfl⟩ }
  have htold' := hcleared.emit_note hnote
  have hshown := @shown_emit_note _ ({ store with closed, scopeBlocked } : ExperimentalSyncReadStore V).withdraw
    event _ hnote
  rw [emit_eq_of_note hnote] at htold' hshown ⊢
  exact ⟨htold', Nat.le_refl _, fun _ h => (nomatch h), fun _ h => (nomatch h), fun _ => ⟨hwithdrawn, hshown⟩⟩

theorem Told.moves_close (htold : store.Told) : Moves store store.close := by
  unfold close
  split
  · exact htold.moves_self
  · have hmoves := @Told.moves_withdraw _ _ .closed _ htold true store.scopeBlocked (.inl rfl) rfl
    rw [emit_eq_of_note rfl] at hmoves ⊢
    exact ⟨{ hmoves.told with nodup := List.nodup_nil, listeners_lt := fun _ h => (nomatch h) }, hmoves.controllers,
      hmoves.snapshot, fun _ h => (nomatch h), hmoves.withdrawn⟩

theorem Told.moves_invalidateScope (htold : store.Told) (error : SyncReadScopeError) :
    Moves store (store.invalidateScope error) := by
  unfold invalidateScope
  split
  · exact htold.moves_self
  · exact htold.moves_withdraw store.closed (some error) (.inr rfl) rfl

theorem withdrawn_close (store : ExperimentalSyncReadStore V) : store.close.Withdrawn := by
  unfold close
  split
  · rename_i hclosed
    exact .inl hclosed
  · rw [emit_eq_of_note rfl]
    exact .inl rfl

theorem withdrawn_invalidateScope (store : ExperimentalSyncReadStore V) (error : SyncReadScopeError) :
    (store.invalidateScope error).Withdrawn := by
  unfold invalidateScope
  split
  · rename_i hwithdrawn
    exact hwithdrawn
  · rw [emit_eq_of_note rfl]
    exact .inr rfl

/-! ### The segments of a pump -/

/-- What a segment of a pump does. Only the current pump changes the store, it goes on only with every listener
up to date, and it shows what the runtimes in `past` committed. -/
structure Pumps (past : List (ClientRuntime V)) (store : ExperimentalSyncReadStore V) (controller : Nat)
    (result : ExperimentalSyncReadStore V × Await) : Prop where
  told : result.1.Told
  controllers : store.controllers ≤ result.1.controllers
  stale : ¬ store.current controller → result = (store, .finished)
  running : store.current controller → ∀ other, result.1.controller = some other → other = controller ∧ result.1.Live
  committed : (∀ snapshot, store.snapshot = some snapshot → Committed past snapshot) →
    ∀ snapshot, result.1.snapshot = some snapshot → Committed past snapshot

omit [DecidableEq V] in
theorem Told.controller_ne (htold : store.Told) {controller : Nat} (hstale : ¬ store.current controller) :
    store.controller ≠ some controller := by
  intro hcontroller
  have haborted := (htold.running controller hcontroller).1
  cases hclosed : store.closed with
  | true =>
    have hnone := (htold.withdrawn (.inl hclosed)).2
    rw [hcontroller] at hnone
    cases hnone
  | false => exact hstale ⟨haborted, hcontroller, hclosed⟩

omit [DecidableEq V] in
theorem Told.not_withdrawn_of_current (htold : store.Told) {controller : Nat} (hcurrent : store.current controller) :
    ¬ store.Withdrawn := by
  intro hwithdrawn
  have hnone := (htold.withdrawn hwithdrawn).2
  rw [hcurrent.2.1] at hnone
  cases hnone

omit [DecidableEq V] in
theorem Told.finish (htold : store.Told) (controller : Nat) : (store.finish controller).Told := by
  unfold ExperimentalSyncReadStore.finish
  split
  · exact { htold with
      running := fun _ h => (nomatch h)
      withdrawn := fun h => ⟨(htold.withdrawn h).1, rfl⟩ }
  · exact htold

omit [DecidableEq V] in
theorem finish_eq_self {controller : Nat} (hne : store.controller ≠ some controller) :
    store.finish controller = store := by
  unfold finish
  rw [if_neg hne]

omit [DecidableEq V] in
/-- The pump that ends is no longer there. -/
theorem controller_finish (controller : Nat) : (store.finish controller).controller ≠ some controller := by
  unfold finish
  split
  · exact fun h => (nomatch h)
  · assumption

variable {past : List (ClientRuntime V)} {controller : Nat}

omit [DecidableEq V] in
theorem finish_stale (htold : store.Told) (hstale : ¬ store.current controller) : store.finish controller = store :=
  finish_eq_self (htold.controller_ne hstale)

/-- A pump that ends after some work of its own. -/
theorem pumps_finish {worked : ExperimentalSyncReadStore V} (htold : worked.Told) (hcurrent : store.current controller)
    (hcontrollers : store.controllers ≤ worked.controllers)
    (hcontroller : ∀ other, worked.controller = some other → other = controller)
    (hcommitted : (∀ snapshot, store.snapshot = some snapshot → Committed past snapshot) →
      ∀ snapshot, worked.snapshot = some snapshot → Committed past snapshot) :
    Pumps past store controller (worked.finish controller, .finished) := by
  have hsame : (worked.finish controller).snapshot = worked.snapshot ∧
      (worked.finish controller).controllers = worked.controllers ∧
      ((worked.finish controller).controller = none ∨ (worked.finish controller).controller = worked.controller) := by
    unfold finish
    split
    · exact ⟨rfl, rfl, .inl rfl⟩
    · exact ⟨rfl, rfl, .inr rfl⟩
  obtain ⟨hsnapshot, hnumbers, hended⟩ := hsame
  refine ⟨htold.finish controller, by rw [hnumbers]; exact hcontrollers, fun h => absurd hcurrent h,
    fun _ other hother => ?_, fun h snapshot hpresent => hcommitted h snapshot (by rw [← hsnapshot]; exact hpresent)⟩
  rcases hended with hended | hended
  · rw [hended] at hother
    cases hother
  · rw [hended] at hother
    obtain rfl := hcontroller other hother
    rw [← hended] at hother
    exact absurd hother (controller_finish other)

theorem Told.pumps_fail (htold : store.Told) (error : Failure) :
    Pumps past store controller (store.fail controller error) := by
  unfold fail caught
  by_cases hcurrent : store.current controller
  · rw [if_pos hcurrent]
    cases error with
    | scope blocked =>
      have hmoves := htold.moves_invalidateScope blocked
      have hnone := (hmoves.told.withdrawn (withdrawn_invalidateScope store blocked)).2
      refine pumps_finish hmoves.told hcurrent hmoves.controllers (fun other hother => ?_) fun h snapshot hsnapshot =>
        h snapshot (hmoves.snapshot snapshot hsnapshot)
      rw [hnone] at hother
      cases hother
    | other message =>
      have hemitted := @Told.emit_note _ _ (.error (.other message) false) _ htold rfl
      dsimp only
      rw [emit_eq_of_note rfl] at hemitted ⊢
      refine pumps_finish hemitted hcurrent (Nat.le_refl _) (fun other hother => ?_) fun h => h
      change store.controller = some other at hother
      rw [hcurrent.2.1] at hother
      exact (Option.some.inj hother).symm
  · rw [if_neg hcurrent, finish_stale htold hcurrent]
    exact ⟨htold, Nat.le_refl _, fun _ => rfl, fun h => absurd h hcurrent, fun h => h⟩

/-- A pump that finds itself stopped. -/
theorem Told.pumps_stale (htold : store.Told) (hstale : ¬ store.current controller) :
    Pumps past store controller (store.finish controller, .finished) := by
  rw [finish_stale htold hstale]
  exact ⟨htold, Nat.le_refl _, fun _ => rfl, fun h => absurd h hstale, fun h => h⟩

theorem current_install {snapshot : ReadSnapshotV1 V} (hopen : ¬ store.Withdrawn) (hshown : event.shown = some snapshot) :
    (store.install snapshot event).current controller ↔ store.current controller := by
  rw [emit_installed hopen hshown]
  rfl

theorem controller_install {snapshot : ReadSnapshotV1 V} (hopen : ¬ store.Withdrawn)
    (hshown : event.shown = some snapshot) : (store.install snapshot event).controller = store.controller := by
  rw [emit_installed hopen hshown]

theorem snapshot_install {snapshot : ReadSnapshotV1 V} (hopen : ¬ store.Withdrawn)
    (hshown : event.shown = some snapshot) : (store.install snapshot event).snapshot = some snapshot := by
  rw [emit_installed hopen hshown]

theorem controllers_install {snapshot : ReadSnapshotV1 V} (hopen : ¬ store.Withdrawn)
    (hshown : event.shown = some snapshot) : (store.install snapshot event).controllers = store.controllers := by
  rw [emit_installed hopen hshown]

/-- The current pump installs a snapshot and waits again. -/
theorem Told.pumps_install (htold : store.Told) (hcurrent : store.current controller) {snapshot : ReadSnapshotV1 V}
    (hcommitted : Committed past snapshot) (await : Await) :
    Pumps past store controller (store.install snapshot (.snapshot snapshot), await) := by
  have hopen := htold.not_withdrawn_of_current hcurrent
  obtain ⟨htold', hlive⟩ := @Told.install _ _ (.snapshot snapshot) _ htold hopen snapshot rfl fun _ _ heq => (nomatch heq)
  refine ⟨htold', ?_, fun h => absurd hcurrent h, fun _ other hother => ?_, fun _ shown hshown => ?_⟩
  · exact Nat.le_of_eq (controllers_install hopen rfl).symm
  · change (store.install snapshot (.snapshot snapshot)).controller = some other at hother
    rw [controller_install hopen rfl, hcurrent.2.1] at hother
    exact ⟨(Option.some.inj hother).symm, hlive⟩
  · change (store.install snapshot (.snapshot snapshot)).snapshot = some shown at hshown
    rw [snapshot_install hopen rfl, Option.some.injEq] at hshown
    rw [← hshown]
    exact hcommitted

theorem Told.pumps_afterReadSnapshot (htold : store.Told) {initial : Except Failure (Bootstrap V)}
    (hinitial : ∀ bootstrap, initial = .ok bootstrap → Committed past bootstrap.snapshot) :
    Pumps past store controller (store.afterReadSnapshot controller initial) := by
  unfold afterReadSnapshot
  split
  · exact htold.pumps_fail _
  · rename_i bootstrap
    split
    · rename_i hstale
      exact htold.pumps_stale hstale
    · rename_i hcurrent
      rw [not_not] at hcurrent
      split
      · exact htold.pumps_fail _
      · have hopen := htold.not_withdrawn_of_current hcurrent
        unfold again
        rw [if_pos ((current_install hopen rfl).mpr hcurrent)]
        exact htold.pumps_install hcurrent (hinitial bootstrap rfl) _

/-- A recorded batch leads from the committed snapshot it is applied to, to the next one. -/
theorem committed_of_apply {snapshot next : ReadSnapshotV1 V} {batch : CommittedReadBatchV1 V}
    (hunique : ∀ one ∈ past, ∀ other ∈ past, one.state.revision = other.state.revision → one = other)
    (hcommitted : Committed past snapshot) (hrecorded : Recorded past batch)
    (happly : applySyncReadBatch snapshot batch = .ok next) : Committed past next := by
  obtain ⟨runtime, hruntime, rfl⟩ := hcommitted
  obtain ⟨before, hbefore, after, hafter, hbetween⟩ := hrecorded
  obtain ⟨hrevision, rfl⟩ := before_revision_of_apply happly
  have hsame : before = runtime :=
    hunique before hbefore runtime hruntime (hbetween.before_revision.symm.trans hrevision)
  subst hsame
  refine ⟨after, hafter, ?_⟩
  rw [hbetween.metadata, hbetween.replays]
  rfl

/-- What the loop over the batches keeps. -/
structure Follows (past : List (ClientRuntime V)) (store : ExperimentalSyncReadStore V) (controller : Nat)
    (next : ExperimentalSyncReadStore V) : Prop where
  told : next.Told
  live : next.Live
  current : next.current controller
  controllers : next.controllers = store.controllers
  committed : (∀ snapshot, store.snapshot = some snapshot → Committed past snapshot) →
    ∀ snapshot, next.snapshot = some snapshot → Committed past snapshot

theorem follows_installBatches
    (hunique : ∀ one ∈ past, ∀ other ∈ past, one.state.revision = other.state.revision → one = other)
    {batches : List (CommittedReadBatchV1 V)} (htold : store.Told) (hlive : store.Live)
    (hcurrent : store.current controller) (hrecorded : ∀ batch ∈ batches, Recorded past batch) :
    Follows past store controller (store.installBatches controller batches).1 := by
  induction batches generalizing store with
  | nil => exact ⟨htold, hlive, hcurrent, rfl, fun h => h⟩
  | cons batch batches ih =>
    obtain ⟨hbatch, hbatches⟩ := List.forall_mem_cons.mp hrecorded
    have hopen := htold.not_withdrawn_of_current hcurrent
    have hself : Follows past store controller store := ⟨htold, hlive, hcurrent, rfl, fun h => h⟩
    unfold installBatches
    rw [if_neg (not_not.mpr hcurrent)]
    split
    · exact hself
    · rename_i snapshot hsnapshot
      split
      · exact hself
      · rename_i next happly
        obtain ⟨htold', hlive'⟩ := @Told.install _ _ (.batch next batch) _ htold hopen next rfl (by
          rintro _ _ ⟨⟩
          exact ⟨snapshot, hsnapshot, hlive, happly⟩)
        have hrest := ih htold' hlive' ((current_install hopen rfl).mpr hcurrent) hbatches
        refine { hrest with
          controllers := hrest.controllers.trans (controllers_install hopen rfl)
          committed := fun h => hrest.committed fun shown hshown => ?_ }
        rw [snapshot_install hopen rfl, Option.some.injEq] at hshown
        rw [← hshown]
        exact committed_of_apply hunique (h snapshot hsnapshot) hbatch happly

/-- A pump that fails after it has installed some batches. -/
theorem Follows.pumps_fail {next : ExperimentalSyncReadStore V} (hfollows : Follows past store controller next)
    (hcurrent : store.current controller) (error : Failure) :
    Pumps past store controller (next.fail controller error) := by
  have hpumps := @Told.pumps_fail _ next _ past controller hfollows.told error
  exact {
    told := hpumps.told
    controllers := hfollows.controllers ▸ hpumps.controllers
    stale := fun h => absurd hcurrent h
    running := fun _ => hpumps.running hfollows.current
    committed := fun h => hpumps.committed (hfollows.committed h) }

theorem Follows.pumps_await {next : ExperimentalSyncReadStore V} (hfollows : Follows past store controller next)
    (hcurrent : store.current controller) (await : Await) : Pumps past store controller (next, await) where
  told := hfollows.told
  controllers := Nat.le_of_eq hfollows.controllers.symm
  stale h := absurd hcurrent h
  running _ other hother := by
    have hcontroller := hfollows.current.2.1
    change next.controller = some other at hother
    rw [hcontroller] at hother
    exact ⟨(Option.some.inj hother).symm, hfollows.live⟩
  committed := hfollows.committed

theorem Told.pumps_afterReadChanges
    (hunique : ∀ one ∈ past, ∀ other ∈ past, one.state.revision = other.state.revision → one = other)
    (htold : store.Told) (hlive : store.current controller → store.Live) {cursor : Cursor}
    {result : Except Failure (Changes V)} (hserved : ∀ changes, result = .ok changes → changes.Served past) :
    Pumps past store controller (store.afterReadChanges controller cursor result) := by
  unfold afterReadChanges
  split
  · exact htold.pumps_fail _
  · rename_i changes
    split
    · rename_i hstale
      exact htold.pumps_stale hstale
    · rename_i hcurrent
      rw [not_not] at hcurrent
      split
      · rename_i snapshot next
        split
        · exact htold.pumps_fail _
        · exact htold.pumps_install hcurrent (hserved _ rfl) _
      · rename_i batches next
        split
        · exact htold.pumps_fail _
        · split
          · exact htold.pumps_fail _
          · split
            · exact htold.pumps_fail _
            · split
              · exact htold.pumps_fail _
              · split
                · exact htold.pumps_fail _
                · have hfollows := follows_installBatches hunique htold (hlive hcurrent) hcurrent (hserved _ rfl)
                  split
                  · rename_i worked error hworked
                    rw [hworked] at hfollows
                    exact hfollows.pumps_fail hcurrent error
                  · rename_i worked hworked
                    rw [hworked] at hfollows
                    refine pumps_finish hfollows.told hcurrent (Nat.le_of_eq hfollows.controllers.symm)
                      (fun other hother => ?_) hfollows.committed
                    have hcontroller := hfollows.current.2.1
                    change worked.controller = some other at hother
                    rw [hcontroller] at hother
                    exact (Option.some.inj hother).symm
                  · rename_i worked hworked
                    rw [hworked] at hfollows
                    split
                    · exact hfollows.pumps_fail hcurrent _
                    · split
                      · exact hfollows.pumps_await hcurrent _
                      · unfold again
                        rw [if_pos hfollows.current]
                        exact hfollows.pumps_await hcurrent _

end ExperimentalSyncReadStore

end react_native_surrealdb.sync_read
