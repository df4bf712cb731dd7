import SurrealSync.Basic.Withdrawal
import SurrealSync.Package.ReadStoreTold
import SurrealSync.Package.SyncClient

open surrealdb_sync_client
open surrealdb_rn_core.sync_read (Cursor Bootstrap Changes)
open react_native_surrealdb.sync_read
open react_native_surrealdb.sync_window

namespace react_native_surrealdb.sync_read.ExperimentalSyncReadStore

variable {V : Type}

/-- A withdrawn read store has no snapshot and no pump. -/
def withdrawal : Withdrawal (ExperimentalSyncReadStore V) (List (Nat × SyncReadEvent V)) where
  Valid store := store.Withdrawn → store.snapshot = none ∧ store.controller = none
  Withdrawn store := store.Withdrawn
  shown store := store.shown

variable {store next : ExperimentalSyncReadStore V}

/-- What leaves the flags of an open store alone leaves it open. -/
theorem keeps_of_open (hopen : ¬ store.Withdrawn) (hclosed : next.closed = store.closed)
    (hscope : next.scopeBlocked = store.scopeBlocked) : withdrawal.Keeps store next := by
  refine Withdrawal.Keeps.of_open hopen fun _ hwithdrawn => ?_
  unfold Withdrawn at hopen hwithdrawn
  rw [hclosed, hscope] at hwithdrawn
  exact absurd hwithdrawn hopen

theorem keeps_stop (store : ExperimentalSyncReadStore V) : withdrawal.Keeps store store.stop :=
  ⟨fun hvalid hwithdrawn => ⟨(hvalid hwithdrawn).1, rfl⟩, fun _ hwithdrawn => ⟨hwithdrawn, rfl⟩⟩

theorem keeps_finish (store : ExperimentalSyncReadStore V) (controller : Nat) :
    withdrawal.Keeps store (store.finish controller) := by
  unfold finish
  split
  · exact ⟨fun hvalid hwithdrawn => ⟨(hvalid hwithdrawn).1, rfl⟩, fun _ hwithdrawn => ⟨hwithdrawn, rfl⟩⟩
  · exact Withdrawal.Keeps.refl store

theorem keeps_watchCollection (store : ExperimentalSyncReadStore V) :
    withdrawal.Keeps store (match store.watchCollection with
      | .ok (next, _) => next
      | .error _ => store) := by
  by_cases hwithdrawn : store.Withdrawn
  · have hrefused : ∃ error, store.watchCollection = .error error := by
      unfold watchCollection
      split
      · exact ⟨_, rfl⟩
      · rename_i hclosed
        obtain ⟨error, hscope⟩ := Option.isSome_iff_exists.mp (hwithdrawn.resolve_left hclosed)
        rw [hscope]
        exact ⟨_, rfl⟩
    obtain ⟨error, hrefused⟩ := hrefused
    rw [hrefused]
    exact Withdrawal.Keeps.refl store
  · split
    · rename_i next listener hwatch
      unfold watchCollection at hwatch
      split at hwatch
      · cases hwatch
      · split at hwatch
        · cases hwatch
        · dsimp only at hwatch
          split at hwatch <;> cases hwatch <;> exact keeps_of_open hwithdrawn rfl rfl
    · exact Withdrawal.Keeps.refl store

theorem keeps_unsubscribe (store : ExperimentalSyncReadStore V) (listener : Nat) :
    withdrawal.Keeps store (store.unsubscribe listener) := by
  have hfewer : withdrawal.Keeps store { store with listeners := store.listeners.filter (· ≠ listener) } :=
    ⟨fun hvalid => hvalid, fun _ hwithdrawn => ⟨hwithdrawn, rfl⟩⟩
  unfold unsubscribe
  dsimp only
  split
  · exact hfewer.trans (keeps_stop _)
  · exact hfewer

theorem keeps_refresh (store : ExperimentalSyncReadStore V) :
    withdrawal.Keeps store (match store.refresh with
      | .ok next => next
      | .error _ => store) := by
  by_cases hwithdrawn : store.Withdrawn
  · have hrefused : ∃ error, store.refresh = .error error := by
      unfold refresh
      split
      · exact ⟨_, rfl⟩
      · rename_i hclosed
        obtain ⟨error, hscope⟩ := Option.isSome_iff_exists.mp (hwithdrawn.resolve_left hclosed)
        rw [hscope]
        exact ⟨_, rfl⟩
    obtain ⟨error, hrefused⟩ := hrefused
    rw [hrefused]
    exact Withdrawal.Keeps.refl store
  · split
    · rename_i next hrefresh
      unfold refresh at hrefresh
      split at hrefresh
      · cases hrefresh
      · split at hrefresh
        · cases hrefresh
        · cases hrefresh
          split <;> exact keeps_of_open hwithdrawn rfl rfl
    · exact Withdrawal.Keeps.refl store

variable [DecidableEq V]

/-- A store that is withdrawn and says so. -/
theorem keeps_withdraw (store : ExperimentalSyncReadStore V) (closed : Bool) (scopeBlocked : Option SyncReadScopeError)
    (hwithdrawn : closed = true ∨ scopeBlocked.isSome) {event : SyncReadEvent V} (hnote : event.shown = none) :
    withdrawal.Keeps store (({ store with closed, scopeBlocked } : ExperimentalSyncReadStore V).withdraw.emit event) := by
  have hshown := @shown_emit_note _ ({ store with closed, scopeBlocked } : ExperimentalSyncReadStore V).withdraw
    event _ hnote
  rw [emit_eq_of_note hnote] at hshown ⊢
  exact ⟨fun _ _ => ⟨rfl, rfl⟩, fun _ _ => ⟨hwithdrawn, hshown⟩⟩

theorem keeps_close (store : ExperimentalSyncReadStore V) : withdrawal.Keeps store store.close := by
  unfold close
  split
  · exact Withdrawal.Keeps.refl store
  · have hkeeps := @keeps_withdraw _ _ store true store.scopeBlocked (.inl rfl) .closed rfl
    rw [emit_eq_of_note rfl] at hkeeps ⊢
    exact ⟨hkeeps.valid, hkeeps.frozen⟩

theorem keeps_invalidateScope (store : ExperimentalSyncReadStore V) (error : SyncReadScopeError) :
    withdrawal.Keeps store (store.invalidateScope error) := by
  unfold invalidateScope
  split
  · exact Withdrawal.Keeps.refl store
  · exact keeps_withdraw store store.closed (some error) (.inr rfl) rfl

omit [DecidableEq V] in
theorem open_of_current (hvalid : withdrawal.Valid store) {controller : Nat} (hcurrent : store.current controller) :
    ¬ store.Withdrawn := by
  intro hwithdrawn
  have hnone := (hvalid hwithdrawn).2
  rw [hcurrent.2.1] at hnone
  cases hnone

theorem keeps_fail (store : ExperimentalSyncReadStore V) (controller : Nat) (error : Failure) :
    withdrawal.Keeps store (store.fail controller error).1 := by
  have hcaught : withdrawal.Keeps store (store.caught controller error) := by
    unfold caught
    split
    · rename_i hcurrent
      cases error with
      | scope blocked => exact keeps_invalidateScope store blocked
      | other message =>
        dsimp only
        rw [emit_eq_of_note rfl]
        refine ⟨fun hvalid hwithdrawn => hvalid hwithdrawn, fun hvalid hwithdrawn => ?_⟩
        exact absurd hwithdrawn (open_of_current hvalid hcurrent)
    · exact Withdrawal.Keeps.refl store
  exact hcaught.trans (keeps_finish _ controller)

omit [DecidableEq V] in
theorem keeps_again (store : ExperimentalSyncReadStore V) (controller : Nat) (cursor : Cursor) :
    withdrawal.Keeps store (store.again controller cursor).1 := by
  unfold again
  split
  · exact Withdrawal.Keeps.refl store
  · exact keeps_finish store controller

theorem flags_install (store : ExperimentalSyncReadStore V) (snapshot : ReadSnapshotV1 V) (event : SyncReadEvent V) :
    (store.install snapshot event).closed = store.closed ∧
      (store.install snapshot event).scopeBlocked = store.scopeBlocked := by
  unfold install emit
  split <;> exact ⟨rfl, rfl⟩

omit [DecidableEq V] in
/-- The current pump of a store that is valid. -/
theorem keeps_of_current {controller : Nat} (hcurrent : store.current controller) (hclosed : next.closed = store.closed)
    (hscope : next.scopeBlocked = store.scopeBlocked) : withdrawal.Keeps store next := by
  refine ⟨fun hvalid => ?_, fun hvalid hwithdrawn => absurd hwithdrawn (open_of_current hvalid hcurrent)⟩
  exact (keeps_of_open (open_of_current hvalid hcurrent) hclosed hscope).valid hvalid

theorem keeps_afterReadSnapshot (store : ExperimentalSyncReadStore V) (controller : Nat)
    (initial : Except Failure (Bootstrap V)) : withdrawal.Keeps store (store.afterReadSnapshot controller initial).1 := by
  unfold afterReadSnapshot
  split
  · exact keeps_fail store controller _
  · rename_i bootstrap
    split
    · exact keeps_finish store controller
    · rename_i hcurrent
      split
      · exact keeps_fail store controller _
      · obtain ⟨hclosed, hscope⟩ := flags_install store bootstrap.snapshot (.snapshot bootstrap.snapshot)
        exact (keeps_of_current (not_not.mp hcurrent) hclosed hscope).trans (keeps_again _ controller _)

theorem flags_installBatches (store : ExperimentalSyncReadStore V) (controller : Nat)
    (batches : List (CommittedReadBatchV1 V)) :
    (store.installBatches controller batches).1.closed = store.closed ∧
      (store.installBatches controller batches).1.scopeBlocked = store.scopeBlocked := by
  induction batches generalizing store with
  | nil => exact ⟨rfl, rfl⟩
  | cons batch batches ih =>
    unfold installBatches
    split
    · exact ⟨rfl, rfl⟩
    · split
      · exact ⟨rfl, rfl⟩
      · split
        · exact ⟨rfl, rfl⟩
        · rename_i next _
          obtain ⟨hclosed, hscope⟩ := flags_install store next (.batch next batch)
          obtain ⟨hclosed', hscope'⟩ := ih (store.install next (.batch next batch))
          exact ⟨hclosed'.trans hclosed, hscope'.trans hscope⟩

theorem keeps_afterReadChanges (store : ExperimentalSyncReadStore V) (controller : Nat) (cursor : Cursor)
    (result : Except Failure (Changes V)) :
    withdrawal.Keeps store (store.afterReadChanges controller cursor result).1 := by
  unfold afterReadChanges
  split
  · exact keeps_fail store controller _
  · split
    · exact keeps_finish store controller
    · rename_i hcurrent
      rw [not_not] at hcurrent
      split
      · rename_i snapshot _
        split
        · exact keeps_fail store controller _
        · obtain ⟨hclosed, hscope⟩ := flags_install store snapshot (.snapshot snapshot)
          exact keeps_of_current hcurrent hclosed hscope
      · rename_i batches _
        have hflags := flags_installBatches store controller batches
        have hbatches := keeps_of_current hcurrent hflags.1 hflags.2
        split
        · exact keeps_fail store controller _
        · split
          · exact keeps_fail store controller _
          · split
            · exact keeps_fail store controller _
            · split
              · exact keeps_fail store controller _
              · split
                · exact keeps_fail store controller _
                · split
                  · rename_i worked error hworked
                    rw [hworked] at hbatches
                    exact hbatches.trans (keeps_fail worked controller error)
                  · rename_i worked hworked
                    rw [hworked] at hbatches
                    exact hbatches.trans (keeps_finish worked controller)
                  · rename_i worked hworked
                    rw [hworked] at hbatches
                    split
                    · exact hbatches.trans (keeps_fail worked controller _)
                    · split
                      · exact hbatches
                      · exact hbatches.trans (keeps_again worked controller _)

end react_native_surrealdb.sync_read.ExperimentalSyncReadStore

namespace react_native_surrealdb.sync_window.ExperimentalSyncWindowStore

variable {W : Type}

def Withdrawn (store : ExperimentalSyncWindowStore W) : Prop :=
  store.closed = true ∨ store.blocked = true

/-- The events that show a frame. -/
def shown (store : ExperimentalSyncWindowStore W) : List (Nat × WindowEvent W) :=
  store.log.filter (·.2.shown.isSome)

/-- A withdrawn window store has no frame and no pump. -/
def withdrawal : Withdrawal (ExperimentalSyncWindowStore W) (List (Nat × WindowEvent W)) where
  Valid store := store.Withdrawn → store.frame = none ∧ store.controller = none
  Withdrawn store := store.Withdrawn
  shown store := store.shown

variable {store next : ExperimentalSyncWindowStore W}

theorem keeps_of_open (hopen : ¬ store.Withdrawn) (hclosed : next.closed = store.closed)
    (hblocked : next.blocked = store.blocked) : withdrawal.Keeps store next := by
  refine Withdrawal.Keeps.of_open hopen fun _ hwithdrawn => ?_
  unfold Withdrawn at hopen hwithdrawn
  rw [hclosed, hblocked] at hwithdrawn
  exact absurd hwithdrawn hopen

theorem keeps_stop (store : ExperimentalSyncWindowStore W) : withdrawal.Keeps store store.stop :=
  ⟨fun hvalid hwithdrawn => ⟨(hvalid hwithdrawn).1, rfl⟩, fun _ hwithdrawn => ⟨hwithdrawn, rfl⟩⟩

theorem keeps_subscribe (store : ExperimentalSyncWindowStore W) :
    withdrawal.Keeps store (match store.subscribe with
      | .ok (next, _) => next
      | .error _ => store) := by
  split
  · rename_i next listener hsubscribe
    unfold subscribe at hsubscribe
    split at hsubscribe
    · cases hsubscribe
    · rename_i hopen
      dsimp only at hsubscribe
      split at hsubscribe <;> cases hsubscribe <;> exact keeps_of_open hopen rfl rfl
  · exact Withdrawal.Keeps.refl store

theorem keeps_unsubscribe (store : ExperimentalSyncWindowStore W) (listener : Nat) :
    withdrawal.Keeps store (store.unsubscribe listener) := by
  have hfewer : withdrawal.Keeps store { store with listeners := store.listeners.filter (· ≠ listener) } :=
    ⟨fun hvalid => hvalid, fun _ hwithdrawn => ⟨hwithdrawn, rfl⟩⟩
  unfold unsubscribe
  dsimp only
  split
  · exact hfewer.trans (keeps_stop _)
  · exact hfewer

theorem open_of_current {controller : Nat} (hcurrent : store.current controller) : ¬ store.Withdrawn := by
  obtain ⟨-, -, hclosed, hblocked⟩ := hcurrent
  unfold Withdrawn
  simp [hclosed, hblocked]

variable [DecidableEq W]

theorem flags_emit (store : ExperimentalSyncWindowStore W) (event : WindowEvent W) :
    (store.emit event).closed = store.closed ∧ (store.emit event).blocked = store.blocked := by
  unfold emit
  split <;> exact ⟨rfl, rfl⟩

theorem flags_refresh (store : ExperimentalSyncWindowStore W) :
    store.refresh.closed = store.closed ∧ store.refresh.blocked = store.blocked := by
  unfold refresh
  split
  · exact ⟨rfl, rfl⟩
  · have hflags := flags_emit ({ store.stop with frame := none } : ExperimentalSyncWindowStore W) .loading
    dsimp only
    split <;> exact hflags

theorem keeps_refresh (store : ExperimentalSyncWindowStore W) : withdrawal.Keeps store store.refresh := by
  by_cases hwithdrawn : store.Withdrawn
  · have hsame : store.refresh = store := by
      unfold refresh
      exact if_pos hwithdrawn
    rw [hsame]
    exact Withdrawal.Keeps.refl store
  · exact keeps_of_open hwithdrawn (flags_refresh store).1 (flags_refresh store).2

/-- A store that is withdrawn and says so. -/
theorem keeps_withdraw (store : ExperimentalSyncWindowStore W) (closed blocked : Bool)
    (hwithdrawn : closed = true ∨ blocked = true) {event : WindowEvent W} (hnote : event.shown = none) :
    withdrawal.Keeps store (({ store with closed, blocked } : ExperimentalSyncWindowStore W).withdraw event) := by
  have hnone : (store.listeners.map (·, event)).filter (·.2.shown.isSome) = [] := by
    rw [List.filter_eq_nil_iff]
    intro entry hentry
    obtain ⟨listener, -, rfl⟩ := List.mem_map.mp hentry
    simp [hnote]
  unfold withdraw emit
  rw [if_neg (by simp [hnote])]
  refine ⟨fun _ _ => ⟨rfl, rfl⟩, fun _ _ => ⟨hwithdrawn, ?_⟩⟩
  change (store.log ++ store.listeners.map (·, event)).filter (·.2.shown.isSome) = store.shown
  rw [List.filter_append, hnone, List.append_nil]
  rfl

theorem keeps_invalidateScope (store : ExperimentalSyncWindowStore W) (error : Failure) :
    withdrawal.Keeps store (store.invalidateScope error) := by
  unfold invalidateScope
  split
  · exact Withdrawal.Keeps.refl store
  · exact keeps_withdraw store store.closed true (.inr rfl) rfl

theorem keeps_close (store : ExperimentalSyncWindowStore W) : withdrawal.Keeps store store.close := by
  unfold close
  split
  · exact Withdrawal.Keeps.refl store
  · have hkeeps := @keeps_withdraw _ _ store true store.blocked (.inl rfl) .closed rfl
    exact ⟨hkeeps.valid, hkeeps.frozen⟩

omit [DecidableEq W] in
theorem keeps_finish (store : ExperimentalSyncWindowStore W) (controller : Nat) :
    withdrawal.Keeps store (store.finish controller) := by
  unfold finish
  split
  · exact ⟨fun hvalid hwithdrawn => ⟨(hvalid hwithdrawn).1, rfl⟩, fun _ hwithdrawn => ⟨hwithdrawn, rfl⟩⟩
  · exact Withdrawal.Keeps.refl store

theorem keeps_fail (store : ExperimentalSyncWindowStore W) (controller : Nat) (error : Failure) :
    withdrawal.Keeps store (store.fail controller error).1 := by
  have hcaught : withdrawal.Keeps store (store.caught controller error) := by
    unfold caught
    split
    · rename_i hcurrent
      cases error with
      | scope blocked => exact keeps_invalidateScope store (.scope blocked)
      | other message =>
        obtain ⟨hclosed, hblocked⟩ := flags_emit store (.error (.other message) false)
        exact keeps_of_open (open_of_current hcurrent) hclosed hblocked
    · exact Withdrawal.Keeps.refl store
  exact hcaught.trans (keeps_finish _ controller)

omit [DecidableEq W] in
theorem keeps_again (store : ExperimentalSyncWindowStore W) (controller : Nat) (cursor : WindowCursor) :
    withdrawal.Keeps store (store.again controller cursor).1 := by
  unfold again
  split
  · exact Withdrawal.Keeps.refl store
  · exact keeps_finish store controller

theorem keeps_install {controller : Nat} (hcurrent : store.current controller) (frame : WindowFrame W) :
    withdrawal.Keeps store (store.install frame) := by
  obtain ⟨hclosed, hblocked⟩ :=
    flags_emit ({ store with frame := some frame } : ExperimentalSyncWindowStore W) (.frame frame)
  exact keeps_of_open (open_of_current hcurrent) hclosed hblocked

theorem keeps_afterSnapshot (store : ExperimentalSyncWindowStore W) (controller : Nat)
    (initial : Except Failure (WindowFrame W)) : withdrawal.Keeps store (store.afterSnapshot controller initial).1 := by
  unfold afterSnapshot
  split
  · exact keeps_fail store controller _
  · split
    · exact keeps_finish store controller
    · rename_i hcurrent
      exact (keeps_install (not_not.mp hcurrent) _).trans (keeps_again _ controller _)

theorem keeps_installBatches (store : ExperimentalSyncWindowStore W) (controller : Nat) (cursor : WindowCursor)
    (batches : List (WindowBatch W)) :
    withdrawal.Keeps store (store.installBatches controller cursor batches).1 := by
  induction batches generalizing store with
  | nil => exact Withdrawal.Keeps.refl store
  | cons batch batches ih =>
    unfold installBatches
    split
    · exact Withdrawal.Keeps.refl store
    · rename_i hcurrent
      exact (keeps_install (not_not.mp hcurrent) _).trans (ih _)

theorem keeps_afterChanges (store : ExperimentalSyncWindowStore W) (controller : Nat)
    (result : Except Failure (WindowChanges W)) : withdrawal.Keeps store (store.afterChanges controller result).1 := by
  unfold afterChanges
  split
  · exact keeps_fail store controller _
  · split
    · exact keeps_finish store controller
    · rename_i hcurrent
      split
      · exact keeps_install (not_not.mp hcurrent) _
      · rename_i cursor batches
        have hbatches := keeps_installBatches store controller cursor batches
        split
        · rename_i worked hworked
          rw [hworked] at hbatches
          exact hbatches.trans (keeps_finish worked controller)
        · rename_i worked hworked
          rw [hworked] at hbatches
          split
          · exact hbatches
          · exact hbatches.trans (keeps_again worked controller cursor)

end react_native_surrealdb.sync_window.ExperimentalSyncWindowStore
