import SurrealSync.Package.ReadStoreTold

open surrealdb_sync_client
open surrealdb_rn_core.sync_read (Cursor Bootstrap Changes Cell CellStep Committed Recorded NativeSyncError ReadJournal)

namespace react_native_surrealdb.sync_read

variable {V : Type} [DecidableEq V]

/-- A pump at an await. A source call has its answer from the moment the native side gives it, and the pump
goes on at any later time. -/
inductive Pump (V : Type) where
  | readSnapshot (answer : Option (Except Failure (Bootstrap V)))
  | readChanges (cursor : Cursor) (answer : Option (Except Failure (Changes V)))
  | readPollDelay (cursor : Cursor)
  | finished

def Await.pump : Await → Pump V
  | .readSnapshot => .readSnapshot none
  | .readChanges cursor => .readChanges cursor none
  | .readPollDelay cursor => .readPollDelay cursor
  | .finished => .finished

/-- The pump has installed its first snapshot and goes on. -/
def Pump.Started : Pump V → Prop
  | .readSnapshot _ => False
  | .readChanges .. => True
  | .readPollDelay _ => True
  | .finished => False

/-- One store, the pumps of its controllers, and the native cell they read. -/
structure System (V : Type) [DecidableEq V] where
  cell : Cell V
  store : ExperimentalSyncReadStore V
  pumps : Nat → Pump V

inductive Act (V : Type) [DecidableEq V] where
  | watchCollection
  | unsubscribe (listener : Nat)
  | refresh
  | close
  | invalidateScope (error : SyncReadScopeError)
  | native (step : CellStep V)
  /-- The native side reads for a source call. -/
  | answer (controller : Nat)
  /-- A source call fails. -/
  | reject (controller : Nat) (error : Failure)
  /-- A pump goes on after its await. -/
  | resume (controller : Nat)

def failure : NativeSyncError → Failure
  | .InvalidInput => .other "InvalidInput"
  | .Internal => .other "Internal"
  | .RecoveryRequired => .other "RecoveryRequired"
  | .ReadOutputTooLarge => .other "ReadOutputTooLarge"

namespace System

def new (runtime : ClientRuntime V) (journal : ReadJournal V) (store : ExperimentalSyncReadStore V) : System V where
  cell := ⟨runtime, { journal with batches := [], bytes := 0 }, [runtime]⟩
  store
  pumps := fun _ => .readSnapshot none

/-- The answer of the native side to the call a pump waits for. -/
def answered (system : System V) : Pump V → Pump V
  | .readSnapshot none => .readSnapshot (some (.ok (system.cell.journal.bootstrap system.cell.runtime)))
  | .readChanges cursor none =>
    .readChanges cursor
      (some ((system.cell.journal.changes system.cell.runtime cursor system.store.maxBatches).mapError failure))
  | pump => pump

def rejected (error : Failure) : Pump V → Pump V
  | .readSnapshot none => .readSnapshot (some (.error error))
  | .readChanges cursor none => .readChanges cursor (some (.error error))
  | pump => pump

def resume (system : System V) (controller : Nat) : Option (ExperimentalSyncReadStore V × Await) :=
  match system.pumps controller with
  | .readSnapshot (some initial) => some (system.store.afterReadSnapshot controller initial)
  | .readChanges cursor (some result) => some (system.store.afterReadChanges controller cursor result)
  | .readPollDelay cursor => some (system.store.again controller cursor)
  | _ => none

def step (encoded : CommittedReadBatchV1 V → Option Nat) (system : System V) : Act V → System V
  | .watchCollection =>
    match system.store.watchCollection with
    | .ok (store, _) => { system with store }
    | .error _ => system
  | .unsubscribe listener => { system with store := system.store.unsubscribe listener }
  | .refresh =>
    match system.store.refresh with
    | .ok store => { system with store }
    | .error _ => system
  | .close => { system with store := system.store.close }
  | .invalidateScope error => { system with store := system.store.invalidateScope error }
  | .native step => { system with cell := system.cell.step encoded step }
  | .answer controller =>
    if controller < system.store.controllers then
      { system with pumps := Function.update system.pumps controller (system.answered (system.pumps controller)) }
    else system
  | .reject controller error =>
    if controller < system.store.controllers then
      { system with pumps := Function.update system.pumps controller (rejected error (system.pumps controller)) }
    else system
  | .resume controller =>
    match system.resume controller with
    | some (store, await) => { system with store, pumps := Function.update system.pumps controller await.pump }
    | none => system

abbrev Run (encoded : CommittedReadBatchV1 V → Option Nat) (first : System V)
    (edges : List (Trace.Edge (System V) (Act V))) (last : System V) : Prop :=
  Trace.Run (fun system act next => next = system.step encoded act) first edges last

/-- What every step keeps. -/
structure Valid (system : System V) : Prop where
  cell : system.cell.Valid
  told : system.store.Told
  unmade : ∀ controller, system.store.controllers ≤ controller → system.pumps controller = .readSnapshot none
  live : ∀ controller, system.store.controller = some controller → (system.pumps controller).Started →
    system.store.Live
  shown : ∀ snapshot, system.store.snapshot = some snapshot → Committed system.cell.past snapshot
  bootstraps : ∀ controller bootstrap, system.pumps controller = .readSnapshot (some (.ok bootstrap)) →
    Committed system.cell.past bootstrap.snapshot
  changes : ∀ controller cursor changes, system.pumps controller = .readChanges cursor (some (.ok changes)) →
    changes.Served system.cell.past

variable {encoded : CommittedReadBatchV1 V → Option Nat} {system : System V}

theorem valid_new (runtime : ClientRuntime V) (journal : ReadJournal V) (maxBatches : Nat)
    (bounded : 1 ≤ maxBatches ∧ maxBatches ≤ 128) :
    (System.new runtime journal (.new maxBatches bounded)).Valid where
  cell := {
    present := List.mem_singleton_self _
    latest := fun other hother => by
      rw [List.mem_singleton.mp hother]
      exact UInt64.le_refl _
    unique := fun one hone other hother _ => by
      rw [List.mem_singleton.mp hone, List.mem_singleton.mp hother]
    batches := fun _ h => (nomatch h) }
  told := {
    nodup := List.nodup_nil
    listeners_lt := fun _ h => (nomatch h)
    log_lt := fun _ h => (nomatch h)
    aborted_lt := fun _ h => (nomatch h)
    running := fun _ h => (nomatch h)
    chained := fun _ => Chained.nil
    withdrawn := fun _ => ⟨rfl, rfl⟩ }
  unmade _ _ := rfl
  live _ h := (nomatch h)
  shown _ h := (nomatch h)
  bootstraps _ _ h := (nomatch h)
  changes _ _ _ h := (nomatch h)

/-- A call of the application. -/
theorem Valid.moves (hvalid : system.Valid) {store : ExperimentalSyncReadStore V} (hmoves : system.store.Moves store) :
    ({ system with store } : System V).Valid := by
  refine { hvalid with
    told := hmoves.told
    unmade := fun controller hle => hvalid.unmade controller (Nat.le_trans hmoves.controllers hle)
    live := ?_
    shown := fun snapshot hsnapshot => hvalid.shown snapshot (hmoves.snapshot snapshot hsnapshot) }
  intro controller hcontroller hstarted
  rcases hmoves.running controller hcontroller with hfresh | ⟨hsame, hlive⟩
  · change (system.pumps controller).Started at hstarted
    rw [hvalid.unmade controller hfresh] at hstarted
    exact hstarted.elim
  · exact hlive (hvalid.live controller hsame hstarted)

/-- The native side moves on. -/
theorem Valid.native (hvalid : system.Valid) (step : CellStep V) :
    ({ system with cell := system.cell.step encoded step } : System V).Valid := by
  have hsubset := @Cell.past_subset_step V _ encoded system.cell step
  exact { hvalid with
    cell := hvalid.cell.step step
    shown := fun snapshot h => (hvalid.shown snapshot h).mono hsubset
    bootstraps := fun controller bootstrap h => (hvalid.bootstraps controller bootstrap h).mono hsubset
    changes := fun controller cursor changes h => (hvalid.changes controller cursor changes h).mono hsubset }

/-- A pump that gets an answer to its call, and no more. -/
theorem Valid.settle (hvalid : system.Valid) {controller : Nat} (hmade : controller < system.store.controllers)
    {pump : Pump V} (hstarted : pump.Started → (system.pumps controller).Started)
    (hbootstrap : ∀ bootstrap, pump = .readSnapshot (some (.ok bootstrap)) →
      Committed system.cell.past bootstrap.snapshot)
    (hchanges : ∀ cursor changes, pump = .readChanges cursor (some (.ok changes)) → changes.Served system.cell.past) :
    ({ system with pumps := Function.update system.pumps controller pump } : System V).Valid := by
  have hpump : ∀ other, Function.update system.pumps controller pump other =
      if other = controller then pump else system.pumps other := fun other => Function.update_apply _ _ _ _
  refine { hvalid with unmade := ?_, live := ?_, bootstraps := ?_, changes := ?_ }
  · intro other hle
    have hne : other ≠ controller := by
      rintro rfl
      exact absurd hmade (Nat.not_lt.mpr hle)
    change Function.update system.pumps controller pump other = _
    rw [hpump, if_neg hne]
    exact hvalid.unmade other hle
  · intro other hother hstart
    change (Function.update system.pumps controller pump other).Started at hstart
    rw [hpump] at hstart
    split at hstart
    · rename_i heq
      subst heq
      exact hvalid.live other hother (hstarted hstart)
    · exact hvalid.live other hother hstart
  · intro other bootstrap heq
    change Function.update system.pumps controller pump other = _ at heq
    rw [hpump] at heq
    split at heq
    · exact hbootstrap bootstrap heq
    · exact hvalid.bootstraps other bootstrap heq
  · intro other cursor changes heq
    change Function.update system.pumps controller pump other = _ at heq
    rw [hpump] at heq
    split at heq
    · exact hchanges cursor changes heq
    · exact hvalid.changes other cursor changes heq

theorem Valid.answer (hvalid : system.Valid) (controller : Nat) :
    (system.step encoded (.answer controller)).Valid := by
  simp only [step]
  split
  · rename_i hmade
    cases hpump : system.pumps controller with
    | readSnapshot answer =>
      cases answer with
      | none =>
        refine hvalid.settle hmade (fun h => h.elim) ?_ fun _ _ h => (nomatch h)
        rintro bootstrap ⟨⟩
        exact hvalid.cell.bootstrap
      | some answer =>
        refine hvalid.settle hmade (fun h => h.elim) ?_ fun _ _ h => (nomatch h)
        rintro bootstrap ⟨⟩
        exact hvalid.bootstraps controller bootstrap hpump
    | readChanges cursor answer =>
      cases answer with
      | none =>
        refine hvalid.settle hmade (fun _ => by rw [hpump]; trivial) (fun _ h => (nomatch h)) ?_
        intro next changes heq
        simp only [answered, Pump.readChanges.injEq, Option.some.injEq] at heq
        obtain ⟨-, hanswer⟩ := heq
        cases hchanges : system.cell.journal.changes system.cell.runtime cursor system.store.maxBatches with
        | error error =>
          rw [hchanges] at hanswer
          cases hanswer
        | ok served =>
          rw [hchanges] at hanswer
          cases hanswer
          exact hvalid.cell.changes hchanges
      | some answer =>
        refine hvalid.settle hmade (fun _ => by rw [hpump]; trivial) (fun _ h => (nomatch h)) ?_
        rintro next changes ⟨⟩
        exact hvalid.changes controller cursor changes hpump
    | readPollDelay cursor =>
      exact hvalid.settle hmade (fun _ => by rw [hpump]; trivial) (fun _ h => (nomatch h)) fun _ _ h => (nomatch h)
    | finished => exact hvalid.settle hmade (fun h => h.elim) (fun _ h => (nomatch h)) fun _ _ h => (nomatch h)
  · exact hvalid

theorem Valid.reject (hvalid : system.Valid) (controller : Nat) (error : Failure) :
    (system.step encoded (.reject controller error)).Valid := by
  simp only [step]
  split
  · rename_i hmade
    cases hpump : system.pumps controller with
    | readSnapshot answer =>
      cases answer with
      | none => exact hvalid.settle hmade (fun h => h.elim) (fun _ h => (nomatch h)) fun _ _ h => (nomatch h)
      | some answer =>
        refine hvalid.settle hmade (fun h => h.elim) ?_ fun _ _ h => (nomatch h)
        rintro bootstrap ⟨⟩
        exact hvalid.bootstraps controller bootstrap hpump
    | readChanges cursor answer =>
      cases answer with
      | none =>
        exact hvalid.settle hmade (fun _ => by rw [hpump]; trivial) (fun _ h => (nomatch h)) fun _ _ h => (nomatch h)
      | some answer =>
        refine hvalid.settle hmade (fun _ => by rw [hpump]; trivial) (fun _ h => (nomatch h)) ?_
        rintro next changes ⟨⟩
        exact hvalid.changes controller cursor changes hpump
    | readPollDelay cursor =>
      exact hvalid.settle hmade (fun _ => by rw [hpump]; trivial) (fun _ h => (nomatch h)) fun _ _ h => (nomatch h)
    | finished => exact hvalid.settle hmade (fun h => h.elim) (fun _ h => (nomatch h)) fun _ _ h => (nomatch h)
  · exact hvalid

theorem live_of_current (hvalid : system.Valid) {controller : Nat} (hstarted : (system.pumps controller).Started)
    (hcurrent : system.store.current controller) : system.store.Live :=
  hvalid.live controller hcurrent.2.1 hstarted

/-- The segment a pump goes on with. -/
theorem Valid.pumps (hvalid : system.Valid) {controller : Nat} {result : ExperimentalSyncReadStore V × Await}
    (hresume : system.resume controller = some result) :
    system.store.Pumps system.cell.past controller result := by
  unfold resume at hresume
  split at hresume
  · rename_i initial hpump
    cases hresume
    refine hvalid.told.pumps_afterReadSnapshot fun bootstrap heq => ?_
    rw [heq] at hpump
    exact hvalid.bootstraps controller bootstrap hpump
  · rename_i cursor answer hpump
    cases hresume
    refine hvalid.told.pumps_afterReadChanges hvalid.cell.unique (live_of_current hvalid (by rw [hpump]; trivial))
      fun changes heq => ?_
    rw [heq] at hpump
    exact hvalid.changes controller cursor changes hpump
  · rename_i cursor hpump
    cases hresume
    unfold ExperimentalSyncReadStore.again
    split
    · rename_i hcurrent
      have hlive := live_of_current hvalid (by rw [hpump]; trivial) hcurrent
      refine ⟨hvalid.told, Nat.le_refl _, fun h => absurd hcurrent h, fun _ other hother => ?_, fun h => h⟩
      change system.store.controller = some other at hother
      rw [hcurrent.2.1] at hother
      exact ⟨(Option.some.inj hother).symm, hlive⟩
    · rename_i hstale
      exact hvalid.told.pumps_stale hstale
  · cases hresume

theorem Valid.resume (hvalid : system.Valid) (controller : Nat) :
    (system.step encoded (.resume controller)).Valid := by
  simp only [step]
  split
  · rename_i store await hresume
    have hpumps := hvalid.pumps hresume
    have hmade : controller < system.store.controllers := by
      by_contra hunmade
      have hpump := hvalid.unmade controller (Nat.not_lt.mp hunmade)
      simp [System.resume, hpump] at hresume
    have hpump : ∀ other, Function.update system.pumps controller await.pump other =
        if other = controller then await.pump else system.pumps other := fun other => Function.update_apply _ _ _ _
    refine ⟨hvalid.cell, hpumps.told, ?_, ?_, hpumps.committed hvalid.shown, ?_, ?_⟩
    · intro other hle
      have hcontrollers : system.store.controllers ≤ other := Nat.le_trans hpumps.controllers hle
      change Function.update system.pumps controller await.pump other = _
      rw [hpump, if_neg (by omega)]
      exact hvalid.unmade other hcontrollers
    · intro other hother hstarted
      change (Function.update system.pumps controller await.pump other).Started at hstarted
      rw [hpump] at hstarted
      by_cases hcurrent : system.store.current controller
      · exact (hpumps.running hcurrent other hother).2
      · obtain ⟨rfl, rfl⟩ := Prod.mk.inj (hpumps.stale hcurrent)
        split at hstarted
        · exact hstarted.elim
        · exact hvalid.live other hother hstarted
    · intro other bootstrap heq
      change Function.update system.pumps controller await.pump other = _ at heq
      rw [hpump] at heq
      split at heq
      · cases await <;> cases heq
      · exact hvalid.bootstraps other bootstrap heq
    · intro other cursor changes heq
      change Function.update system.pumps controller await.pump other = _ at heq
      rw [hpump] at heq
      split at heq
      · cases await <;> cases heq
      · exact hvalid.changes other cursor changes heq
  · exact hvalid

theorem Valid.step (hvalid : system.Valid) (act : Act V) : (system.step encoded act).Valid := by
  cases act with
  | watchCollection =>
    simp only [System.step]
    split
    · rename_i store listener hwatch
      exact hvalid.moves (hvalid.told.moves_watchCollection hwatch)
    · exact hvalid
  | unsubscribe listener => exact hvalid.moves (hvalid.told.moves_unsubscribe listener)
  | refresh =>
    simp only [System.step]
    split
    · rename_i store hrefresh
      exact hvalid.moves (hvalid.told.moves_refresh hrefresh)
    · exact hvalid
  | close => exact hvalid.moves hvalid.told.moves_close
  | invalidateScope error => exact hvalid.moves (hvalid.told.moves_invalidateScope error)
  | native step => exact hvalid.native step
  | answer controller => exact hvalid.answer controller
  | reject controller error => exact hvalid.reject controller error
  | resume controller => exact hvalid.resume controller

theorem Valid.run {edges : List (Trace.Edge (System V) (Act V))} {last : System V} (hvalid : system.Valid)
    (hrun : Run encoded system edges last) : last.Valid := by
  refine hrun.preserves (fun current act next hnext hcurrent => ?_) hvalid
  rw [hnext]
  exact hcurrent.step act

/-- A withdrawn store stays withdrawn and shows nothing more. -/
theorem Valid.withdrawn_step (hvalid : system.Valid) (hwithdrawn : system.store.Withdrawn) (act : Act V) :
    (system.step encoded act).store.Withdrawn ∧ (system.step encoded act).store.shown = system.store.shown := by
  have hself : system.store.Withdrawn ∧ system.store.shown = system.store.shown := ⟨hwithdrawn, rfl⟩
  cases act with
  | watchCollection =>
    simp only [System.step]
    split
    · rename_i store listener hwatch
      exact (hvalid.told.moves_watchCollection hwatch).withdrawn hwithdrawn
    · exact hself
  | unsubscribe listener => exact (hvalid.told.moves_unsubscribe listener).withdrawn hwithdrawn
  | refresh =>
    simp only [System.step]
    split
    · rename_i store hrefresh
      exact (hvalid.told.moves_refresh hrefresh).withdrawn hwithdrawn
    · exact hself
  | close => exact hvalid.told.moves_close.withdrawn hwithdrawn
  | invalidateScope error => exact (hvalid.told.moves_invalidateScope error).withdrawn hwithdrawn
  | native step => exact hself
  | answer controller =>
    simp only [System.step]
    split
    · exact hself
    · exact hself
  | reject controller error =>
    simp only [System.step]
    split
    · exact hself
    · exact hself
  | resume controller =>
    simp only [System.step]
    split
    · rename_i store await hresume
      have hstale : ¬ system.store.current controller := fun hcurrent =>
        hvalid.told.not_withdrawn_of_current hcurrent hwithdrawn
      obtain ⟨rfl, -⟩ := Prod.mk.inj ((hvalid.pumps hresume).stale hstale)
      exact hself
    · exact hself

theorem Valid.withdrawn_run {edges : List (Trace.Edge (System V) (Act V))} {last : System V} (hvalid : system.Valid)
    (hwithdrawn : system.store.Withdrawn) (hrun : Run encoded system edges last) :
    last.store.snapshot = none ∧ last.store.shown = system.store.shown := by
  have hkept : last.Valid ∧ last.store.Withdrawn ∧ last.store.shown = system.store.shown := by
    refine hrun.preserves (P := fun current => current.Valid ∧ current.store.Withdrawn ∧
      current.store.shown = system.store.shown) (fun current act next hnext hcurrent => ?_) ⟨hvalid, hwithdrawn, rfl⟩
    obtain ⟨hvalid, hwithdrawn, hshown⟩ := hcurrent
    rw [hnext]
    obtain ⟨hwithdrawn', hshown'⟩ := @Valid.withdrawn_step _ _ encoded current hvalid hwithdrawn act
    exact ⟨hvalid.step act, hwithdrawn', hshown'.trans hshown⟩
  exact ⟨(hkept.1.told.withdrawn hkept.2.1).1, hkept.2.2⟩

/-- What the application sees of a store. -/
structure ReadsCommitted (encoded : CommittedReadBatchV1 V → Option Nat) (system : System V) : Prop where
  committed : ∀ snapshot, system.store.getSnapshot = some snapshot →
    Committed system.cell.past snapshot ∧ ∀ runtime ∈ system.cell.past,
      runtime.state.revision = snapshot.metadata.revision → runtime.read_snapshot = snapshot
  follows : ∀ listener, Chained (system.store.events listener)
  one_pump : ∀ one other, system.store.current one → system.store.current other → one = other
  stale : ∀ controller, ¬ system.store.current controller →
    (system.step encoded (.resume controller)).store = system.store
  close : (system.step encoded .close).store.Withdrawn
  invalidateScope : ∀ error, (system.step encoded (.invalidateScope error)).store.Withdrawn
  withdrawn : system.store.Withdrawn → ∀ edges last, Run encoded system edges last →
    last.store.getSnapshot = none ∧ last.store.shown = system.store.shown

/-- Whatever is called and in whatever order the source calls settle, a store shows committed snapshots, each
batch after the snapshot it is applied to, and nothing once it is withdrawn. -/
theorem reads_committed {maxBatches : Nat} {bounded : 1 ≤ maxBatches ∧ maxBatches ≤ 128} {runtime : ClientRuntime V}
    {journal : ReadJournal V} {edges : List (Trace.Edge (System V) (Act V))} {last : System V}
    (hrun : Run encoded (System.new runtime journal (.new maxBatches bounded)) edges last) :
    ReadsCommitted encoded last := by
  have hvalid := (valid_new runtime journal maxBatches bounded).run hrun
  refine ⟨?_, hvalid.told.chained, ?_, ?_, ?_, ?_, ?_⟩
  · intro snapshot hsnapshot
    have hcommitted := hvalid.shown snapshot hsnapshot
    refine ⟨hcommitted, fun other hother hrevision => ?_⟩
    obtain ⟨shown, hshown, rfl⟩ := hcommitted
    rw [hvalid.cell.unique other hother shown hshown hrevision]
  · intro one other hone hother
    have hsame := hone.2.1.symm.trans hother.2.1
    exact Option.some.inj hsame
  · intro controller hstale
    simp only [System.step]
    split
    · rename_i store await hresume
      exact (Prod.mk.inj ((hvalid.pumps hresume).stale hstale)).1
    · rfl
  · exact last.store.withdrawn_close
  · exact last.store.withdrawn_invalidateScope
  · intro hwithdrawn edges later hlater
    exact hvalid.withdrawn_run hwithdrawn hlater

/-- A commit that is installed between two reads reaches a listener as a batch. -/
theorem reads_committed_of_commit :
    ∃ last : System String, last.store.getSnapshot.map (·.metadata.revision) = some 1 ∧
      (last.store.events 0).map (·.shown.map (·.metadata.revision)) = [some 0, some 1] ∧
      ReadsCommitted (fun _ => some 100) last := by
  obtain ⟨edges, hrun, -⟩ := Trace.Run.exists_of_function (System.step fun _ => some 100)
    (System.new transitions.opened ⟨⟨"journal", 0⟩, [], 0⟩ (.new 32 (by decide))) [
    .watchCollection, .answer 0, .resume 0,
    .native (.install (.Enqueue (transitions.commit "one" [transitions.upsert "a" "x" none]))), .answer 0, .resume 0]
  exact ⟨_, by decide +kernel, by decide +kernel, reads_committed hrun⟩

end System

end react_native_surrealdb.sync_read
