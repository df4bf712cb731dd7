import SurrealSync.Package.StoreWithdrawal

open surrealdb_sync_client
open react_native_surrealdb.sync_read
open react_native_surrealdb.sync_window

namespace react_native_surrealdb.sync_window.ExperimentalSyncWindowClient

variable {W : Type}

/-- The stores of a closed or blocked window client are all withdrawn. -/
def withdrawal : Withdrawal (ExperimentalSyncWindowClient W) (List (List (Nat × WindowEvent W))) where
  Valid client := (∀ store ∈ client.stores, ExperimentalSyncWindowStore.withdrawal.Valid store) ∧
    (client.closed = true ∨ client.blocked.isSome → ∀ store ∈ client.stores, store.Withdrawn)
  Withdrawn client := client.blocked.isSome
  shown client := client.stores.map (·.shown)

/-- A change of the stores one by one, with the flags as they were. -/
theorem keeps_stores (client : ExperimentalSyncWindowClient W) {stores : List (ExperimentalSyncWindowStore W)}
    (hstores : List.Forall₂ ExperimentalSyncWindowStore.withdrawal.Keeps client.stores stores) :
    withdrawal.Keeps client { client with stores } := by
  refine ⟨fun hvalid => ⟨Withdrawal.forall_valid hstores hvalid.1, fun hgone => ?_⟩, fun hvalid hblocked => ⟨hblocked, ?_⟩⟩
  · exact (Withdrawal.forall_frozen hstores hvalid.1 (hvalid.2 hgone)).1
  · exact (Withdrawal.forall_frozen hstores hvalid.1 (hvalid.2 (.inr hblocked))).2

theorem keeps_createStore {client next : ExperimentalSyncWindowClient W} {subscriptionId : String}
    (hcreate : client.createStore subscriptionId = .ok next) : withdrawal.Keeps client next := by
  obtain ⟨_, hcheck, hnext⟩ := Except.bind_eq_ok_iff.mp hcreate
  cases hnext
  have hopen : ¬ (client.closed = true ∨ client.blocked.isSome) := by
    unfold check at hcheck
    split at hcheck
    · cases hcheck
    · rename_i hclosed
      split at hcheck
      · cases hcheck
      · rename_i hblocked
        simp [hclosed, hblocked]
  refine Withdrawal.Keeps.of_open (fun hblocked => hopen (.inr hblocked)) fun hvalid => ⟨?_, fun hgone => absurd hgone hopen⟩
  intro store hstore
  rcases List.mem_append.mp hstore with hold | hnew
  · exact hvalid.1 store hold
  · cases List.mem_singleton.mp hnew
    exact fun _ => ⟨rfl, rfl⟩

variable [DecidableEq W]

theorem keeps_refresh (client : ExperimentalSyncWindowClient W) (operation : WindowOperation) :
    withdrawal.Keeps client (client.refresh operation) := by
  refine keeps_stores client (Withdrawal.forall₂_map (fun store => ?_) client.stores)
  split
  · exact store.keeps_refresh
  · exact Withdrawal.Keeps.refl store

theorem withdrawn_invalidateScope (store : ExperimentalSyncWindowStore W) (error : Failure) :
    (store.invalidateScope error).Withdrawn := by
  unfold ExperimentalSyncWindowStore.invalidateScope
  split
  · rename_i hgone
    exact hgone
  · obtain ⟨-, hblocked⟩ := ExperimentalSyncWindowStore.flags_emit
      ({ ({ store with blocked := true } : ExperimentalSyncWindowStore W).stop with frame := none } :
        ExperimentalSyncWindowStore W) (.error error true)
    exact .inr hblocked

theorem keeps_invalidateScope (client : ExperimentalSyncWindowClient W) (error : Failure) :
    withdrawal.Keeps client (client.invalidateScope error) := by
  have hstores := Withdrawal.forall₂_map (fun store => ExperimentalSyncWindowStore.keeps_invalidateScope store error)
    client.stores
  refine ⟨fun hvalid => ⟨Withdrawal.forall_valid hstores hvalid.1, fun _ store hstore => ?_⟩, fun hvalid hblocked => ⟨rfl, ?_⟩⟩
  · obtain ⟨old, -, rfl⟩ := List.mem_map.mp hstore
    exact withdrawn_invalidateScope old error
  · exact (Withdrawal.forall_frozen hstores hvalid.1 (hvalid.2 (.inr hblocked))).2

theorem keeps_close (client : ExperimentalSyncWindowClient W) : withdrawal.Keeps client client.close := by
  have hstores := Withdrawal.forall₂_map ExperimentalSyncWindowStore.keeps_close client.stores
  refine ⟨fun hvalid => ⟨Withdrawal.forall_valid hstores hvalid.1, fun _ store hstore => ?_⟩,
    fun hvalid hblocked => ⟨hblocked, ?_⟩⟩
  · obtain ⟨old, -, rfl⟩ := List.mem_map.mp hstore
    unfold ExperimentalSyncWindowStore.close
    split
    · rename_i hclosed
      exact .inl hclosed
    · have hflags := ExperimentalSyncWindowStore.flags_emit
        ({ ({ old with closed := true } : ExperimentalSyncWindowStore W).stop with frame := none } :
          ExperimentalSyncWindowStore W) .closed
      exact .inl hflags.1
  · exact (Withdrawal.forall_frozen hstores hvalid.1 (hvalid.2 (.inr hblocked))).2

end react_native_surrealdb.sync_window.ExperimentalSyncWindowClient

namespace react_native_surrealdb.sync.ExperimentalSyncClient

variable {V W : Type} [DecidableEq V] [DecidableEq W]

/-- What a read store showed, by its number. A store that is not there yet has shown nothing. -/
def shownRead (client : ExperimentalSyncClient V W) (store : Nat) : List (Nat × SyncReadEvent V) :=
  (client.readStores.map (·.shown))[store]?.getD []

/-- What a store of a window client showed. -/
def shownWindow (client : ExperimentalSyncClient V W) (window store : Nat) : List (Nat × WindowEvent W) :=
  ((client.windowClients.map ExperimentalSyncWindowClient.withdrawal.shown)[window]?.getD [])[store]?.getD []

/-- Once the scope is blocked, every store and every window client is withdrawn. -/
def withdrawal : Withdrawal (ExperimentalSyncClient V W)
    ((Nat → List (Nat × SyncReadEvent V)) × (Nat → Nat → List (Nat × WindowEvent W))) where
  Valid client := (∀ store ∈ client.readStores, ExperimentalSyncReadStore.withdrawal.Valid store) ∧
    (∀ window ∈ client.windowClients, ExperimentalSyncWindowClient.withdrawal.Valid window) ∧
    (client.scopeBlocked.isSome → (∀ store ∈ client.readStores, store.Withdrawn) ∧
      ∀ window ∈ client.windowClients, window.blocked.isSome)
  Withdrawn client := client.scopeBlocked.isSome
  shown client := (client.shownRead, client.shownWindow)

omit [DecidableEq V] [DecidableEq W] in
/-- A change of the stores and window clients one by one. -/
theorem keeps_of_forall₂ {before after : ExperimentalSyncClient V W} (hscope : after.scopeBlocked = before.scopeBlocked)
    (hstores : List.Forall₂ ExperimentalSyncReadStore.withdrawal.Keeps before.readStores after.readStores)
    (hwindows : List.Forall₂ ExperimentalSyncWindowClient.withdrawal.Keeps before.windowClients after.windowClients) :
    withdrawal.Keeps before after := by
  constructor
  · rintro ⟨hread, hwindow, hgone⟩
    refine ⟨Withdrawal.forall_valid hstores hread, Withdrawal.forall_valid hwindows hwindow, fun hblocked => ?_⟩
    rw [hscope] at hblocked
    obtain ⟨hreadGone, hwindowGone⟩ := hgone hblocked
    exact ⟨(Withdrawal.forall_frozen hstores hread hreadGone).1, (Withdrawal.forall_frozen hwindows hwindow hwindowGone).1⟩
  · rintro ⟨hread, hwindow, hgone⟩ hblocked
    obtain ⟨hreadGone, hwindowGone⟩ := hgone hblocked
    have hreadShown := (Withdrawal.forall_frozen hstores hread hreadGone).2
    have hwindowShown := (Withdrawal.forall_frozen hwindows hwindow hwindowGone).2
    refine ⟨?_, Prod.ext ?_ ?_⟩
    · change after.scopeBlocked.isSome
      rw [hscope]
      exact hblocked
    · funext store
      exact congrArg (fun shown => shown[store]?.getD []) hreadShown
    · funext window store
      exact congrArg (fun shown => (shown[window]?.getD [])[store]?.getD []) hwindowShown

theorem keeps_readFailure (client : ExperimentalSyncClient V W) (error : Failure) :
    withdrawal.Keeps client (client.readFailure error) := by
  cases error with
  | other message => exact Withdrawal.Keeps.refl client
  | scope blocked =>
    have hstores := Withdrawal.forall₂_map (fun store => ExperimentalSyncReadStore.keeps_invalidateScope store blocked)
      client.readStores
    have hwindows := Withdrawal.forall₂_map
      (fun window => ExperimentalSyncWindowClient.keeps_invalidateScope window (.scope blocked)) client.windowClients
    have hkeeps := @keeps_of_forall₂ V W client
      { client.readFailure (.scope blocked) with scopeBlocked := client.scopeBlocked } rfl hstores hwindows
    refine ⟨fun hvalid => ⟨(hkeeps.valid hvalid).1, (hkeeps.valid hvalid).2.1, fun _ => ⟨?_, ?_⟩⟩,
      fun hvalid hblocked => ⟨rfl, (hkeeps.frozen hvalid hblocked).2⟩⟩
    · intro store hstore
      obtain ⟨old, -, rfl⟩ := List.mem_map.mp hstore
      exact ExperimentalSyncReadStore.withdrawn_invalidateScope old blocked
    · intro window hwindow
      obtain ⟨old, -, rfl⟩ := List.mem_map.mp hwindow
      rfl

theorem keeps_close (client : ExperimentalSyncClient V W) : withdrawal.Keeps client client.close :=
  keeps_of_forall₂ rfl (Withdrawal.forall₂_map ExperimentalSyncReadStore.keeps_close client.readStores)
    (Withdrawal.forall₂_map ExperimentalSyncWindowClient.keeps_close client.windowClients)

omit [DecidableEq V] [DecidableEq W] in
/-- A change of one read store. -/
theorem keeps_setRead (client : ExperimentalSyncClient V W) {index : Nat} {store next : ExperimentalSyncReadStore V}
    (hstore : client.readStores[index]? = some store) (hkeeps : ExperimentalSyncReadStore.withdrawal.Keeps store next) :
    withdrawal.Keeps client { client with readStores := client.readStores.set index next } :=
  keeps_of_forall₂ rfl (Withdrawal.forall₂_set hstore hkeeps) (Withdrawal.forall₂_refl _)

omit [DecidableEq V] [DecidableEq W] in
theorem keeps_setWindow (client : ExperimentalSyncClient V W) {index : Nat} {window next : ExperimentalSyncWindowClient W}
    (hwindow : client.windowClients[index]? = some window)
    (hkeeps : ExperimentalSyncWindowClient.withdrawal.Keeps window next) :
    withdrawal.Keeps client { client with windowClients := client.windowClients.set index next } :=
  keeps_of_forall₂ rfl (Withdrawal.forall₂_refl _) (Withdrawal.forall₂_set hwindow hkeeps)

omit [DecidableEq V] [DecidableEq W] in
theorem keeps_modifyWindow (client : ExperimentalSyncClient V W) (index : Nat)
    {change : ExperimentalSyncWindowClient W → ExperimentalSyncWindowClient W}
    (hkeeps : ∀ window, ExperimentalSyncWindowClient.withdrawal.Keeps window (change window)) :
    withdrawal.Keeps client { client with windowClients := client.windowClients.modify index change } :=
  keeps_of_forall₂ rfl (Withdrawal.forall₂_refl _) (Withdrawal.forall₂_modify hkeeps _ index)

/-- A store that showed nothing is read like one that is not there. -/
theorem getD_append_nil {E : Type} (shown : List (List E)) (index : Nat) :
    (shown ++ [[]])[index]?.getD [] = shown[index]?.getD [] := by
  rcases lt_trichotomy index shown.length with hlt | heq | hgt
  · rw [List.getElem?_append_left hlt]
  · subst heq
    rw [List.getElem?_concat_length, List.getElem?_eq_none le_rfl]
    rfl
  · rw [List.getElem?_eq_none (by simp; omega), List.getElem?_eq_none (by omega)]

omit [DecidableEq W] in
theorem keeps_createReadStore (client : ExperimentalSyncClient V W) (maxBatches : Nat)
    (bounded : 1 ≤ maxBatches ∧ maxBatches ≤ 128) :
    withdrawal.Keeps client (client.createReadStore maxBatches bounded) := by
  obtain ⟨store, hcreate, hvalid, hgone, hshown⟩ : ∃ store : ExperimentalSyncReadStore V,
      client.createReadStore maxBatches bounded = { client with readStores := client.readStores ++ [store] } ∧
        ExperimentalSyncReadStore.withdrawal.Valid store ∧ (client.scopeBlocked.isSome → store.Withdrawn) ∧
        store.shown = [] := by
    unfold createReadStore
    cases hscope : client.scopeBlocked with
    | none => exact ⟨_, rfl, fun _ => ⟨rfl, rfl⟩, fun h => (nomatch h), rfl⟩
    | some blocked =>
      refine ⟨_, rfl, (ExperimentalSyncReadStore.keeps_invalidateScope _ blocked).valid fun _ => ⟨rfl, rfl⟩, fun _ => ?_, rfl⟩
      exact ExperimentalSyncReadStore.withdrawn_invalidateScope _ blocked
  rw [hcreate]
  constructor
  · rintro ⟨hread, hwindow, hold⟩
    refine ⟨List.forall_mem_append.mpr ⟨hread, List.forall_mem_singleton.mpr hvalid⟩, hwindow, fun hblocked => ⟨?_, (hold hblocked).2⟩⟩
    exact List.forall_mem_append.mpr ⟨(hold hblocked).1, List.forall_mem_singleton.mpr (hgone hblocked)⟩
  · rintro - hblocked
    refine ⟨hblocked, Prod.ext (funext fun index => ?_) rfl⟩
    change ((client.readStores ++ [store]).map (·.shown))[index]?.getD [] = client.shownRead index
    rw [List.map_append, List.map_singleton, hshown]
    exact getD_append_nil _ index

omit [DecidableEq V] in
theorem keeps_createWindowClient (client : ExperimentalSyncClient V W) :
    withdrawal.Keeps client client.createWindowClient := by
  obtain ⟨window, hcreate, hstores, hgone⟩ : ∃ window : ExperimentalSyncWindowClient W,
      client.createWindowClient = { client with windowClients := client.windowClients ++ [window] } ∧
        window.stores = [] ∧ (client.scopeBlocked.isSome → window.blocked.isSome) := by
    unfold createWindowClient
    cases hscope : client.scopeBlocked with
    | none => exact ⟨_, rfl, rfl, fun h => (nomatch h)⟩
    | some blocked => exact ⟨_, rfl, rfl, fun _ => rfl⟩
  have hvalid : ExperimentalSyncWindowClient.withdrawal.Valid window := by
    unfold ExperimentalSyncWindowClient.withdrawal
    dsimp only
    rw [hstores]
    exact ⟨fun _ h => (nomatch h), fun _ _ h => (nomatch h)⟩
  rw [hcreate]
  constructor
  · rintro ⟨hread, hwindow, hold⟩
    refine ⟨hread, List.forall_mem_append.mpr ⟨hwindow, List.forall_mem_singleton.mpr hvalid⟩, fun hblocked => ⟨(hold hblocked).1, ?_⟩⟩
    exact List.forall_mem_append.mpr ⟨(hold hblocked).2, List.forall_mem_singleton.mpr (hgone hblocked)⟩
  · rintro - hblocked
    refine ⟨hblocked, Prod.ext rfl (funext fun index => funext fun store => ?_)⟩
    change (((client.windowClients ++ [window]).map ExperimentalSyncWindowClient.withdrawal.shown)[index]?.getD [])[store]?.getD
      [] = client.shownWindow index store
    have hshown : ExperimentalSyncWindowClient.withdrawal.shown window = [] := by
      unfold ExperimentalSyncWindowClient.withdrawal
      dsimp only
      rw [hstores]
      rfl
    rw [List.map_append, List.map_singleton, hshown, getD_append_nil]
    rfl

theorem keeps_settleWindow (client : ExperimentalSyncClient V W) (index : Nat) (operation : WindowOperation)
    (outcome : Except Failure (Payload V W)) :
    withdrawal.Keeps client (client.settleWindow index operation outcome).1 := by
  unfold settleWindow
  split
  · exact Withdrawal.Keeps.refl client
  · split
    · exact keeps_modifyWindow client index fun window => window.keeps_refresh operation
    · rename_i blocked _
      have hmodify := keeps_modifyWindow client index fun window => window.keeps_invalidateScope (.scope blocked)
      exact hmodify.trans (keeps_readFailure _ (.scope blocked))
    · rename_i message _
      exact keeps_readFailure client (.other message)

theorem keeps_settle (client : ExperimentalSyncClient V W) (kind : Kind) (outcome : Except Failure (Payload V W))
    (unavailable : Bool) : withdrawal.Keeps client (client.settle kind outcome unavailable).1 := by
  unfold settle
  split
  · exact keeps_settleWindow client _ _ outcome
  · exact keeps_readFailure client _
  · split
    · exact Withdrawal.Keeps.refl client
    · split <;> exact Withdrawal.Keeps.refl client
  · split
    · exact Withdrawal.Keeps.refl client
    · split <;> exact Withdrawal.Keeps.refl client
  · split
    · exact Withdrawal.Keeps.refl client
    · split <;> exact Withdrawal.Keeps.refl client
  · split <;> exact Withdrawal.Keeps.refl client

end react_native_surrealdb.sync.ExperimentalSyncClient

namespace react_native_surrealdb.sync.System

open ExperimentalSyncClient (withdrawal)

variable {V W : Type}

theorem client_launchWindows (system : System V W) (index : Nat)
    (stores : List ((ExperimentalSyncWindowStore W × ExperimentalSyncWindowStore W) × Nat)) :
    (system.launchWindows index stores).client = system.client := by
  unfold launchWindows
  induction stores generalizing system with
  | nil => rfl
  | cons entry stores ih =>
    rw [List.foldl_cons, ih]
    split <;> rfl

theorem keeps_withRead (system : System V W) (index : Nat)
    {operation : ExperimentalSyncReadStore V → ExperimentalSyncReadStore V}
    (hkeeps : ∀ store, ExperimentalSyncReadStore.withdrawal.Keeps store (operation store)) :
    withdrawal.Keeps system.client (system.withRead index operation).client := by
  unfold withRead
  split
  · exact Withdrawal.Keeps.refl _
  · rename_i store hstore
    dsimp only
    split <;> exact ExperimentalSyncClient.keeps_setRead system.client hstore (hkeeps store)

theorem keeps_withWindow (system : System V W) (index store : Nat)
    {operation : ExperimentalSyncWindowStore W → ExperimentalSyncWindowStore W}
    (hkeeps : ∀ store, ExperimentalSyncWindowStore.withdrawal.Keeps store (operation store)) :
    withdrawal.Keeps system.client (system.withWindow index store operation).client := by
  unfold withWindow
  split
  · exact Withdrawal.Keeps.refl _
  · rename_i window hwindow
    split
    · exact Withdrawal.Keeps.refl _
    · rename_i old hold
      have hstores := window.keeps_stores (Withdrawal.forall₂_set hold (hkeeps old))
      dsimp only
      split <;> exact ExperimentalSyncClient.keeps_setWindow system.client hwindow hstores

variable [DecidableEq V] [DecidableEq W]

omit [DecidableEq W] in
theorem keeps_resumeRead (system : System V W) (index : Nat) :
    withdrawal.Keeps system.client (system.resumeRead index).client := by
  unfold resumeRead
  split
  · exact Withdrawal.Keeps.refl _
  · rename_i pump _
    split
    · exact Withdrawal.Keeps.refl _
    · rename_i store hstore
      split
      · exact Withdrawal.Keeps.refl _
      · rename_i next await hsegment
        have hkeeps : ExperimentalSyncReadStore.withdrawal.Keeps store next := by
          unfold readSegment at hsegment
          split at hsegment
          · obtain ⟨result, -, hnext⟩ := Option.map_eq_some_iff.mp hsegment
            have hkeeps := ExperimentalSyncReadStore.keeps_afterReadSnapshot store pump.controller (bootstrapOf result)
            rw [hnext] at hkeeps
            exact hkeeps
          · rename_i cursor _
            obtain ⟨result, -, hnext⟩ := Option.map_eq_some_iff.mp hsegment
            have hkeeps := ExperimentalSyncReadStore.keeps_afterReadChanges store pump.controller cursor (changesOf result)
            rw [hnext] at hkeeps
            exact hkeeps
          · rename_i cursor _
            have hkeeps := ExperimentalSyncReadStore.keeps_again store pump.controller cursor
            rw [Option.some.inj hsegment] at hkeeps
            exact hkeeps
          · cases hsegment
        dsimp only
        split <;> exact ExperimentalSyncClient.keeps_setRead system.client hstore hkeeps

omit [DecidableEq V] in
theorem keeps_resumeWindow (system : System V W) (index : Nat) :
    withdrawal.Keeps system.client (system.resumeWindow index).client := by
  unfold resumeWindow
  split
  · exact Withdrawal.Keeps.refl _
  · rename_i pump _
    split
    · exact Withdrawal.Keeps.refl _
    · rename_i window hwindow
      split
      · exact Withdrawal.Keeps.refl _
      · rename_i store hstore
        split
        · exact Withdrawal.Keeps.refl _
        · rename_i next await hsegment
          have hkeeps : ExperimentalSyncWindowStore.withdrawal.Keeps store next := by
            unfold windowSegment at hsegment
            split at hsegment
            · obtain ⟨result, -, hnext⟩ := Option.map_eq_some_iff.mp hsegment
              have hkeeps := ExperimentalSyncWindowStore.keeps_afterSnapshot store pump.controller (frameOf result)
              rw [hnext] at hkeeps
              exact hkeeps
            · obtain ⟨result, -, hnext⟩ := Option.map_eq_some_iff.mp hsegment
              have hkeeps := ExperimentalSyncWindowStore.keeps_afterChanges store pump.controller (windowChangesOf result)
              rw [hnext] at hkeeps
              exact hkeeps
            · rename_i cursor _
              have hkeeps := ExperimentalSyncWindowStore.keeps_again store pump.controller cursor
              rw [Option.some.inj hsegment] at hkeeps
              exact hkeeps
            · cases hsegment
          have hstores := window.keeps_stores (Withdrawal.forall₂_set hstore hkeeps)
          dsimp only
          split <;> exact ExperimentalSyncClient.keeps_setWindow system.client hwindow hstores

theorem keeps_settle (system : System V W) (index : Nat) (outcome : Except Failure (Payload V W)) (unavailable : Bool) :
    withdrawal.Keeps system.client (system.settle index outcome unavailable).client := by
  unfold settle
  split
  · rename_i kind _
    have hkeeps := ExperimentalSyncClient.keeps_settle system.client kind outcome unavailable
    dsimp only
    split
    · rw [client_launchWindows]
      exact hkeeps
    · exact hkeeps
  · exact Withdrawal.Keeps.refl _

/-- No step shows anything once the scope is blocked. -/
theorem keeps_step (system : System V W) (act : Act V W) :
    withdrawal.Keeps system.client (system.step act).client := by
  cases act with
  | call kind refused => exact Withdrawal.Keeps.refl _
  | settle call outcome unavailable => exact keeps_settle system call outcome unavailable
  | createReadStore maxBatches bounded => exact ExperimentalSyncClient.keeps_createReadStore system.client maxBatches bounded
  | watchCollection store => exact keeps_withRead system store ExperimentalSyncReadStore.keeps_watchCollection
  | unsubscribeRead store listener => exact keeps_withRead system store fun store => store.keeps_unsubscribe listener
  | refreshRead store => exact keeps_withRead system store ExperimentalSyncReadStore.keeps_refresh
  | closeRead store => exact keeps_withRead system store ExperimentalSyncReadStore.keeps_close
  | invalidateRead store error => exact keeps_withRead system store fun store => store.keeps_invalidateScope error
  | createWindowClient => exact ExperimentalSyncClient.keeps_createWindowClient system.client
  | createStore client subscriptionId =>
    simp only [step]
    split
    · exact Withdrawal.Keeps.refl _
    · rename_i window hwindow
      split
      · rename_i next hcreate
        exact ExperimentalSyncClient.keeps_setWindow system.client hwindow
          (ExperimentalSyncWindowClient.keeps_createStore hcreate)
      · exact Withdrawal.Keeps.refl _
  | subscribe client store => exact keeps_withWindow system client store ExperimentalSyncWindowStore.keeps_subscribe
  | unsubscribeWindow client store listener =>
    exact keeps_withWindow system client store fun store => store.keeps_unsubscribe listener
  | refreshWindow client store => exact keeps_withWindow system client store ExperimentalSyncWindowStore.keeps_refresh
  | closeStore client store => exact keeps_withWindow system client store ExperimentalSyncWindowStore.keeps_close
  | closeWindow client =>
    exact ExperimentalSyncClient.keeps_modifyWindow system.client client ExperimentalSyncWindowClient.keeps_close
  | invalidateWindow client error =>
    exact ExperimentalSyncClient.keeps_modifyWindow system.client client fun window => window.keeps_invalidateScope error
  | close => exact ExperimentalSyncClient.keeps_close system.client
  | resumeRead pump => exact keeps_resumeRead system pump
  | resumeWindow pump => exact keeps_resumeWindow system pump

end react_native_surrealdb.sync.System
