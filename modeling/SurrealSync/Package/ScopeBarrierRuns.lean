import SurrealSync.Package.ScopeBarrier

open surrealdb_sync_client
open react_native_surrealdb.sync_read
open react_native_surrealdb.sync_window
open surrealdb_rn_core.sync_read (Bootstrap)

namespace react_native_surrealdb.sync

variable {V W : Type}

/-- The reads that a withdrawn scope has to refuse. -/
def Kind.guarded : Kind → Bool
  | .readView | .readSnapshot | .readChanges | .readRecord | .pendingWindow => true
  | .window _ .request | .window _ .snapshot | .window _ .changes => true
  | .window _ .start | .window _ .applyResponse | .window _ (.cancel _) => false
  | .enqueueBounded | .applyPullResponse => false

/-- The reads that do not look at the scope again after their await. -/
def Kind.unchecked : Kind → Bool
  | .readSnapshot | .readChanges | .readRecord => true
  | .readView | .pendingWindow | .enqueueBounded | .applyPullResponse | .window _ _ => false

/-- A call of the client was rejected because of its scope. -/
def CallState.scopeRejected (state : CallState V W) : Prop :=
  ∃ blocked, state = .settled (.error (.scope blocked))

/-- No native call resolves for an unchecked read once the scope is blocked, and the application does not block a
window client over a scope that no native call has refused. -/
def System.Careful (system : System V W) : Act V W → Prop
  | .settle index (.ok payload) _ => system.client.scopeBlocked.isSome → ∀ kind,
      system.calls[index]? = some ⟨kind, .inFlight⟩ → kind.unchecked → kind.decodes payload = false
  | .invalidateWindow _ (.scope _) => system.client.scopeBlocked.isSome
  | _ => True

namespace System

/-- A window client blocked over its scope was so before, unless the client itself is blocked. -/
def Inherits (before after : ExperimentalSyncClient V W) : Prop :=
  ∀ window ∈ after.windowClients, ∀ blocked, window.blocked = some (.scope blocked) →
    after.scopeBlocked.isSome ∨ ∃ old ∈ before.windowClients, old.blocked = some (.scope blocked)

/-- New calls of a client. Those it refuses at once are refused for a reason it has. -/
def Begun (client : ExperimentalSyncClient V W) (before after : List (Call V W)) : Prop :=
  ∃ added, after = before ++ added ∧ ∀ call ∈ added, ∀ result, call.state = .settled result →
    ∃ error, result = .error error ∧ ∀ blocked, error = .scope blocked → client.scopeBlocked.isSome ∨
      ∃ window ∈ client.windowClients, window.blocked = some (.scope blocked)

/-- A step that settles no native call. -/
structure Moves (before after : System V W) : Prop where
  scope : after.client.scopeBlocked = before.client.scopeBlocked
  windows : Inherits before.client after.client
  calls : Begun after.client before.calls after.calls

theorem Inherits.refl (client : ExperimentalSyncClient V W) : Inherits client client :=
  fun window hwindow _ hblocked => .inr ⟨window, hwindow, hblocked⟩

theorem Inherits.of_forall {before after : ExperimentalSyncClient V W}
    (hold : ∀ window ∈ after.windowClients, ∃ old ∈ before.windowClients, window.blocked = old.blocked) :
    Inherits before after := by
  intro window hwindow blocked hblocked
  obtain ⟨old, hmem, hsame⟩ := hold window hwindow
  exact .inr ⟨old, hmem, hsame ▸ hblocked⟩

theorem Begun.refl (client : ExperimentalSyncClient V W) (calls : List (Call V W)) : Begun client calls calls :=
  ⟨[], (List.append_nil calls).symm, fun _ h => (nomatch h)⟩

theorem Begun.trans {client : ExperimentalSyncClient V W} {first second third : List (Call V W)}
    (hfirst : Begun client first second) (hsecond : Begun client second third) : Begun client first third := by
  obtain ⟨added, rfl, hadded⟩ := hfirst
  obtain ⟨more, rfl, hmore⟩ := hsecond
  exact ⟨added ++ more, List.append_assoc _ _ _, List.forall_mem_append.mpr ⟨hadded, hmore⟩⟩

/-- A window client says for itself why it refuses. -/
theorem check_scope {window : ExperimentalSyncWindowClient W} {allowBlocked : Bool} {blocked : SyncReadScopeError}
    (hcheck : window.check allowBlocked = .error (.scope blocked)) : window.blocked = some (.scope blocked) := by
  unfold ExperimentalSyncWindowClient.check at hcheck
  split at hcheck
  · cases hcheck
  · split at hcheck
    · split at hcheck
      · cases hcheck
      · cases hcheck
        assumption
    · cases hcheck

/-- The client refuses its own calls over a scope only when it is blocked itself. -/
theorem begin_scope {client : ExperimentalSyncClient V W} {kind : Kind} {blocked : SyncReadScopeError}
    (hbegin : client.begin kind = .error (.scope blocked)) : client.scopeBlocked.isSome ∨
      ∃ window ∈ client.windowClients, window.blocked = some (.scope blocked) := by
  cases hscope : client.scopeBlocked with
  | some _ => exact .inl rfl
  | none =>
    right
    cases kind with
    | window index operation =>
      unfold ExperimentalSyncClient.begin at hbegin
      dsimp only at hbegin
      split at hbegin
      · rename_i window hwindow
        exact ⟨window, List.mem_of_getElem? hwindow, check_scope hbegin⟩
      · cases hbegin
    | readView | pendingWindow | enqueueBounded =>
      simp only [ExperimentalSyncClient.begin, hscope] at hbegin
      split at hbegin <;> cases hbegin
    | readSnapshot | readChanges | readRecord =>
      simp only [ExperimentalSyncClient.begin, hscope] at hbegin
      cases hbegin
    | applyPullResponse =>
      simp only [ExperimentalSyncClient.begin] at hbegin
      cases hbegin

theorem begun_begun (system : System V W) (kind : Kind) (refused : Bool) :
    Begun system.client system.calls (system.begun kind refused).calls := by
  refine ⟨_, rfl, List.forall_mem_singleton.mpr fun result hresult => ?_⟩
  dsimp only at hresult
  split at hresult
  · cases hresult
    exact ⟨_, rfl, fun _ h => (nomatch h)⟩
  · split at hresult
    · cases hresult
    · rename_i error hbegin
      cases hresult
      exact ⟨error, rfl, fun blocked herror => begin_scope (herror ▸ hbegin)⟩

theorem begun_launchWindows (system : System V W) (index : Nat)
    (stores : List ((ExperimentalSyncWindowStore W × ExperimentalSyncWindowStore W) × Nat)) :
    Begun system.client system.calls (system.launchWindows index stores).calls := by
  unfold launchWindows
  induction stores generalizing system with
  | nil => exact Begun.refl _ _
  | cons entry stores ih =>
    rw [List.foldl_cons]
    split
    · exact (begun_begun system (.window index .snapshot) false).trans (ih (system.launchWindow index entry.2 entry.1.1.controllers))
    · exact ih system

theorem Moves.refl (system : System V W) : Moves system system :=
  ⟨rfl, Inherits.refl _, Begun.refl _ _⟩

theorem moves_withRead (system : System V W) (index : Nat)
    (operation : ExperimentalSyncReadStore V → ExperimentalSyncReadStore V) :
    Moves system (system.withRead index operation) := by
  unfold withRead
  split
  · exact Moves.refl system
  · dsimp only
    split
    · exact ⟨rfl, Inherits.refl system.client, begun_begun (System.mk _ system.calls _ _) .readSnapshot false⟩
    · exact ⟨rfl, Inherits.refl system.client, Begun.refl _ _⟩

/-- One window client is replaced by one that is blocked alike. -/
theorem inherits_set {client : ExperimentalSyncClient V W} {index : Nat} {window next : ExperimentalSyncWindowClient W}
    (hwindow : client.windowClients[index]? = some window) (hblocked : next.blocked = window.blocked) :
    Inherits client { client with windowClients := client.windowClients.set index next } := by
  refine Inherits.of_forall fun other hother => ?_
  rcases List.mem_or_eq_of_mem_set hother with hold | rfl
  · exact ⟨other, hold, rfl⟩
  · exact ⟨window, List.mem_of_getElem? hwindow, hblocked⟩

theorem mem_modify {α : Type} {values : List α} {index : Nat} {change : α → α} {value : α}
    (hmem : value ∈ values.modify index change) : value ∈ values ∨ ∃ old ∈ values, value = change old := by
  obtain ⟨position, hget⟩ := List.mem_iff_getElem?.mp hmem
  rw [List.getElem?_modify] at hget
  obtain ⟨old, hold, rfl⟩ := Option.map_eq_some_iff.mp hget
  split
  · exact .inr ⟨old, List.mem_of_getElem? hold, rfl⟩
  · exact .inl (List.mem_of_getElem? hold)

theorem moves_withWindow (system : System V W) (index store : Nat)
    (operation : ExperimentalSyncWindowStore W → ExperimentalSyncWindowStore W) :
    Moves system (system.withWindow index store operation) := by
  unfold withWindow
  split
  · exact Moves.refl system
  · rename_i window hwindow
    split
    · exact Moves.refl system
    · dsimp only
      split
      · exact ⟨rfl, inherits_set hwindow rfl, begun_begun (System.mk _ system.calls _ _) (.window index .snapshot) false⟩
      · exact ⟨rfl, inherits_set hwindow rfl, Begun.refl _ _⟩

variable [DecidableEq V] [DecidableEq W]

omit [DecidableEq W] in
theorem moves_resumeRead (system : System V W) (index : Nat) : Moves system (system.resumeRead index) := by
  unfold resumeRead
  split
  · exact Moves.refl system
  · split
    · exact Moves.refl system
    · split
      · exact Moves.refl system
      · dsimp only
        split
        · exact ⟨rfl, Inherits.refl system.client, begun_begun (System.mk _ system.calls _ _) .readChanges false⟩
        · exact ⟨rfl, Inherits.refl system.client, Begun.refl _ _⟩

omit [DecidableEq V] in
theorem moves_resumeWindow (system : System V W) (index : Nat) : Moves system (system.resumeWindow index) := by
  unfold resumeWindow
  split
  · exact Moves.refl system
  · rename_i pump _
    split
    · exact Moves.refl system
    · rename_i window hwindow
      split
      · exact Moves.refl system
      · split
        · exact Moves.refl system
        · dsimp only
          split
          · exact ⟨rfl, inherits_set hwindow rfl, begun_begun (System.mk _ system.calls _ _) (.window pump.client .changes) false⟩
          · exact ⟨rfl, inherits_set hwindow rfl, Begun.refl _ _⟩

/-- The steps that settle no native call. -/
theorem moves_step {system : System V W} {act : Act V W} (hcareful : system.Careful act)
    (hact : ∀ call outcome unavailable, act ≠ .settle call outcome unavailable) : Moves system (system.step act) := by
  cases act with
  | call kind refused => exact ⟨rfl, Inherits.refl system.client, begun_begun system kind refused⟩
  | settle call outcome unavailable => exact absurd rfl (hact call outcome unavailable)
  | createReadStore maxBatches bounded => exact ⟨rfl, Inherits.refl system.client, Begun.refl _ _⟩
  | watchCollection store => exact moves_withRead system store _
  | unsubscribeRead store listener => exact moves_withRead system store _
  | refreshRead store => exact moves_withRead system store _
  | closeRead store => exact moves_withRead system store _
  | invalidateRead store error => exact moves_withRead system store _
  | createWindowClient =>
    refine ⟨rfl, fun window hwindow blocked hblocked => ?_, Begun.refl _ _⟩
    rcases List.mem_append.mp hwindow with hold | hnew
    · exact .inr ⟨window, hold, hblocked⟩
    · cases List.mem_singleton.mp hnew
      change system.client.scopeBlocked.isSome ∨ _
      cases hscope : system.client.scopeBlocked with
      | some _ => exact .inl rfl
      | none =>
        rw [hscope] at hblocked
        cases hblocked
  | createStore client subscriptionId =>
    simp only [step]
    split
    · exact Moves.refl system
    · rename_i window hwindow
      split
      · rename_i next hcreate
        obtain ⟨_, -, hnext⟩ := Except.bind_eq_ok_iff.mp hcreate
        cases hnext
        exact ⟨rfl, inherits_set hwindow rfl, Begun.refl _ _⟩
      · exact Moves.refl system
  | subscribe client store => exact moves_withWindow system client store _
  | unsubscribeWindow client store listener => exact moves_withWindow system client store _
  | refreshWindow client store => exact moves_withWindow system client store _
  | closeStore client store => exact moves_withWindow system client store _
  | closeWindow client =>
    refine ⟨rfl, Inherits.of_forall fun window hwindow => ?_, Begun.refl _ _⟩
    rcases mem_modify hwindow with hold | ⟨old, hold, rfl⟩
    · exact ⟨window, hold, rfl⟩
    · exact ⟨old, hold, rfl⟩
  | invalidateWindow client error =>
    refine ⟨rfl, fun window hwindow blocked hblocked => ?_, Begun.refl _ _⟩
    rcases mem_modify hwindow with hold | ⟨old, hold, rfl⟩
    · exact .inr ⟨window, hold, hblocked⟩
    · cases hblocked
      exact .inl hcareful
  | close =>
    refine ⟨rfl, Inherits.of_forall fun window hwindow => ?_, Begun.refl _ _⟩
    obtain ⟨old, hold, rfl⟩ := List.mem_map.mp hwindow
    exact ⟨old, hold, rfl⟩
  | resumeRead pump => exact moves_resumeRead system pump
  | resumeWindow pump => exact moves_resumeWindow system pump

/-! ### A settled native call -/

theorem scopeBlocked_readFailure (client : ExperimentalSyncClient V W) (blocked : SyncReadScopeError) :
    (client.readFailure (.scope blocked)).scopeBlocked.isSome :=
  rfl

theorem inherits_readFailure (client : ExperimentalSyncClient V W) (error : Failure) :
    Inherits client (client.readFailure error) := by
  cases error with
  | other message => exact Inherits.refl client
  | scope blocked => exact fun _ _ _ _ => .inl rfl

theorem inherits_settle (client : ExperimentalSyncClient V W) (kind : Kind) (outcome : Except Failure (Payload V W))
    (unavailable : Bool) : Inherits client (client.settle kind outcome unavailable).1 := by
  unfold ExperimentalSyncClient.settle
  split
  · unfold ExperimentalSyncClient.settleWindow
    split
    · exact Inherits.refl client
    · split
      · refine Inherits.of_forall fun window hwindow => ?_
        rcases mem_modify hwindow with hold | ⟨old, hold, rfl⟩
        · exact ⟨window, hold, rfl⟩
        · exact ⟨old, hold, rfl⟩
      · exact fun _ _ _ _ => .inl rfl
      · exact Inherits.refl client
  · exact inherits_readFailure client _
  · split
    · exact Inherits.refl client
    · split <;> exact Inherits.refl client
  · split
    · exact Inherits.refl client
    · split <;> exact Inherits.refl client
  · split
    · exact Inherits.refl client
    · split <;> exact Inherits.refl client
  · split <;> exact Inherits.refl client

/-- Whatever rejects over a scope leaves the client blocked. -/
theorem scopeBlocked_settle {client : ExperimentalSyncClient V W} {kind : Kind} {outcome : Except Failure (Payload V W)}
    {unavailable : Bool} {blocked : SyncReadScopeError}
    (hresult : (client.settle kind outcome unavailable).2 = .error (.scope blocked)) :
    (client.settle kind outcome unavailable).1.scopeBlocked.isSome := by
  unfold ExperimentalSyncClient.settle at hresult ⊢
  split at hresult
  · unfold ExperimentalSyncClient.settleWindow at hresult ⊢
    split at hresult
    · cases hresult
    · split at hresult
      · cases hresult
      · rfl
      · cases hresult
  · cases hresult
    rfl
  · split at hresult
    · rename_i hscope
      exact Option.isSome_of_eq_some hscope
    · split at hresult <;> cases hresult
  · split at hresult
    · rename_i hscope
      exact Option.isSome_of_eq_some hscope
    · split at hresult <;> cases hresult
  · split at hresult
    · rename_i hscope
      exact Option.isSome_of_eq_some hscope
    · split at hresult <;> cases hresult
  · split at hresult <;> cases hresult

omit [DecidableEq V] [DecidableEq W] in
/-- A window client that is blocked lets nothing but a cancellation through. -/
theorem windowResult_blocked {window : ExperimentalSyncWindowClient W} (hblocked : window.blocked.isSome)
    (index : Nat) {operation : WindowOperation} (hoperation : operation.allowBlocked = false)
    (outcome : Except Failure (Payload V W)) :
    ∃ error, ExperimentalSyncClient.windowResult window index operation outcome = .error error := by
  cases hresult : ExperimentalSyncClient.windowResult window index operation outcome with
  | error error => exact ⟨error, rfl⟩
  | ok payload =>
    obtain ⟨_, -, hdecodes⟩ := Except.bind_eq_ok_iff.mp hresult
    obtain ⟨_, -, hchecked⟩ := Except.bind_eq_ok_iff.mp hdecodes
    obtain ⟨_, hcheck, -⟩ := Except.bind_eq_ok_iff.mp hchecked
    obtain ⟨error, hsome⟩ := Option.isSome_iff_exists.mp hblocked
    unfold ExperimentalSyncWindowClient.check at hcheck
    rw [hsome, hoperation] at hcheck
    split at hcheck <;> cases hcheck

/-- The reads of a blocked client reject, except an unchecked one whose native call resolves. -/
theorem settle_rejected {client : ExperimentalSyncClient V W} (hvalid : ExperimentalSyncClient.withdrawal.Valid client)
    (hblocked : client.scopeBlocked.isSome) {kind : Kind} (hguarded : kind.guarded)
    {outcome : Except Failure (Payload V W)}
    (hcareful : ∀ payload, outcome = .ok payload → kind.unchecked → kind.decodes payload = false) (unavailable : Bool) :
    ∃ error, (client.settle kind outcome unavailable).2 = .error error := by
  obtain ⟨blocked, hscope⟩ := Option.isSome_iff_exists.mp hblocked
  unfold ExperimentalSyncClient.settle
  split
  · rename_i index operation
    have hoperation : operation.allowBlocked = false := by
      cases operation with
      | cancel subscriptionId => cases hguarded
      | request | snapshot | changes | start | applyResponse => rfl
    unfold ExperimentalSyncClient.settleWindow
    split
    · exact ⟨_, rfl⟩
    · rename_i window hwindow
      have hgone := (hvalid.2.2 hblocked).2 window (List.mem_of_getElem? hwindow)
      obtain ⟨error, hresult⟩ := windowResult_blocked hgone index hoperation outcome
      rw [hresult]
      cases error with
      | scope blocked => exact ⟨_, rfl⟩
      | other message => exact ⟨_, rfl⟩
  · exact ⟨_, rfl⟩
  · rw [hscope]
    exact ⟨_, rfl⟩
  · rw [hscope]
    exact ⟨_, rfl⟩
  · rw [hscope]
    exact ⟨_, rfl⟩
  · rename_i payload hwindow hview hpending henqueue
    have hunchecked : kind.unchecked := by
      cases kind with
      | readSnapshot | readChanges | readRecord => rfl
      | readView => exact (hview rfl).elim
      | pendingWindow => exact (hpending rfl).elim
      | enqueueBounded => exact (henqueue rfl).elim
      | applyPullResponse => cases hguarded
      | window index operation => exact (hwindow _ _ rfl).elim
    rw [hcareful payload rfl hunchecked]
    exact ⟨_, rfl⟩

/-! ### Runs -/

/-- The client is blocked as soon as a call or a window client is, over the scope. -/
structure Scoped (system : System V W) : Prop where
  valid : ExperimentalSyncClient.withdrawal.Valid system.client
  windows : ∀ window ∈ system.client.windowClients, ∀ blocked, window.blocked = some (.scope blocked) →
    system.client.scopeBlocked.isSome
  calls : ∀ call ∈ system.calls, call.state.scopeRejected → system.client.scopeBlocked.isSome

/-- The guarded calls that were settled meanwhile were rejected. -/
def Rejects (before after : List (Call V W)) : Prop :=
  ∀ (index : Nat) (kind : Kind) (result : Except Failure (Payload V W)), kind.guarded →
    after[index]? = some ⟨kind, .settled result⟩ →
    before[index]? = some ⟨kind, .settled result⟩ ∨ ∃ error, result = .error error

omit [DecidableEq V] [DecidableEq W] in
theorem Rejects.trans {first second third : List (Call V W)} (hfirst : Rejects first second)
    (hsecond : Rejects second third) : Rejects first third := by
  intro index kind result hguarded hsettled
  rcases hsecond index kind result hguarded hsettled with hmiddle | hrejected
  · exact hfirst index kind result hguarded hmiddle
  · exact .inr hrejected

omit [DecidableEq V] [DecidableEq W] in
theorem Rejects.of_begun {client : ExperimentalSyncClient V W} {before after : List (Call V W)}
    (hbegun : Begun client before after) : Rejects before after := by
  obtain ⟨added, rfl, hadded⟩ := hbegun
  intro index kind result _ hsettled
  by_cases hlt : index < before.length
  · rw [List.getElem?_append_left hlt] at hsettled
    exact .inl hsettled
  · rw [List.getElem?_append_right (Nat.le_of_not_lt hlt)] at hsettled
    obtain ⟨error, hresult, -⟩ := hadded _ (List.mem_of_getElem? hsettled) result rfl
    exact .inr ⟨error, hresult⟩

/-- A native call in flight that is settled: the client after it, the result, and the calls that it starts. -/
theorem settle_cases (system : System V W) (index : Nat) (outcome : Except Failure (Payload V W)) (unavailable : Bool) :
    system.settle index outcome unavailable = system ∨ ∃ kind, system.calls[index]? = some ⟨kind, .inFlight⟩ ∧
      (system.settle index outcome unavailable).client = (system.client.settle kind outcome unavailable).1 ∧
      Begun (system.client.settle kind outcome unavailable).1
        (system.calls.set index ⟨kind, .settled (system.client.settle kind outcome unavailable).2⟩)
        (system.settle index outcome unavailable).calls := by
  unfold settle
  split
  · rename_i kind hcall
    refine .inr ⟨kind, hcall, ?_⟩
    dsimp only
    split
    · rename_i window _
      exact ⟨client_launchWindows _ window _, begun_launchWindows (System.mk _ _ _ _) window _⟩
    · exact ⟨rfl, Begun.refl _ _⟩
  · exact .inl rfl

theorem Scoped.step {system : System V W} (hscoped : system.Scoped) {act : Act V W} (hcareful : system.Careful act) :
    (system.step act).Scoped := by
  have hkeeps := keeps_step system act
  by_cases hblocked : system.client.scopeBlocked.isSome
  · have hstill : (system.step act).client.scopeBlocked.isSome := (hkeeps.frozen hscoped.valid hblocked).1
    exact ⟨hkeeps.valid hscoped.valid, fun _ _ _ _ => hstill, fun _ _ _ => hstill⟩
  · -- no window client and no call is blocked yet
    have hwindows : ∀ {next : ExperimentalSyncClient V W}, Inherits system.client next →
        ∀ window ∈ next.windowClients, ∀ blocked, window.blocked = some (.scope blocked) → next.scopeBlocked.isSome := by
      intro next hinherits window hwindow blocked hscope
      rcases hinherits window hwindow blocked hscope with hnext | ⟨old, hold, hscope⟩
      · exact hnext
      · exact absurd (hscoped.windows old hold blocked hscope) hblocked
    have hcalls : ∀ {next : ExperimentalSyncClient V W} {before after : List (Call V W)}, Inherits system.client next →
        Begun next before after → (∀ call ∈ before, call.state.scopeRejected → next.scopeBlocked.isSome) →
        ∀ call ∈ after, call.state.scopeRejected → next.scopeBlocked.isSome := by
      rintro next before - hinherits ⟨added, rfl, hadded⟩ hbefore call hcall hrejected
      rcases List.mem_append.mp hcall with hold | hnew
      · exact hbefore call hold hrejected
      · obtain ⟨blocked, hstate⟩ := hrejected
        obtain ⟨error, herror, hreason⟩ := hadded call hnew _ hstate
        cases herror
        rcases hreason blocked rfl with hnext | ⟨window, hwindow, hscope⟩
        · exact hnext
        · exact hwindows hinherits window hwindow blocked hscope
    have hold : ∀ call ∈ system.calls, ¬ call.state.scopeRejected :=
      fun call hcall hrejected => hblocked (hscoped.calls call hcall hrejected)
    by_cases hact : ∃ call outcome unavailable, act = .settle call outcome unavailable
    · obtain ⟨index, outcome, unavailable, rfl⟩ := hact
      rcases settle_cases system index outcome unavailable with hsame | ⟨kind, -, hclient, hbegun⟩
      · change (system.settle index outcome unavailable).Scoped
        rw [hsame]
        exact hscoped
      · have hinherits := inherits_settle system.client kind outcome unavailable
        refine ⟨hkeeps.valid hscoped.valid, ?_, ?_⟩
        · change ∀ window ∈ (system.settle index outcome unavailable).client.windowClients, _
          rw [show (system.step (.settle index outcome unavailable)).client = _ from hclient, hclient]
          exact hwindows hinherits
        · rw [show (system.step (.settle index outcome unavailable)).client = _ from hclient]
          refine hcalls hinherits hbegun fun call hcall hrejected => ?_
          rcases List.mem_or_eq_of_mem_set hcall with hmem | rfl
          · exact absurd hrejected (hold call hmem)
          · obtain ⟨blocked, hstate⟩ := hrejected
            exact scopeBlocked_settle (CallState.settled.inj hstate)
    · have hmoves := moves_step hcareful fun call outcome unavailable h => hact ⟨call, outcome, unavailable, h⟩
      exact ⟨hkeeps.valid hscoped.valid, hwindows hmoves.windows,
        hcalls hmoves.windows hmoves.calls fun call hcall hrejected => absurd hrejected (hold call hcall)⟩

theorem rejects_step {system : System V W} (hscoped : system.Scoped) (hblocked : system.client.scopeBlocked.isSome)
    {act : Act V W} (hcareful : system.Careful act) : Rejects system.calls (system.step act).calls := by
  by_cases hact : ∃ call outcome unavailable, act = .settle call outcome unavailable
  · obtain ⟨index, outcome, unavailable, rfl⟩ := hact
    rcases settle_cases system index outcome unavailable with hsame | ⟨kind, hcall, -, hbegun⟩
    · change Rejects system.calls (system.settle index outcome unavailable).calls
      rw [hsame]
      exact fun _ _ _ _ hsettled => .inl hsettled
    · refine Rejects.trans ?_ (Rejects.of_begun hbegun)
      intro position other result hguarded hsettled
      rw [List.getElem?_set] at hsettled
      split at hsettled
      · split at hsettled
        · cases hsettled
          have hpayload : ∀ payload, outcome = .ok payload → kind.unchecked → kind.decodes payload = false := by
            rintro payload rfl
            exact hcareful hblocked kind hcall
          exact .inr (settle_rejected hscoped.valid hblocked hguarded hpayload unavailable)
        · cases hsettled
      · exact .inl hsettled
  · exact Rejects.of_begun
      (moves_step hcareful fun call outcome unavailable h => hact ⟨call, outcome, unavailable, h⟩).calls

omit [DecidableEq V] [DecidableEq W] in
theorem scoped_new : (new : System V W).Scoped :=
  ⟨⟨fun _ h => (nomatch h), fun _ h => (nomatch h), fun h => (nomatch h)⟩, fun _ h => (nomatch h), fun _ h => (nomatch h)⟩

theorem scoped_run {edges : List (Trace.Edge (System V W) (Act V W))} {last : System V W} (hrun : Run new edges last)
    (hcareful : ∀ edge ∈ edges, edge.source.Careful edge.label) : last.Scoped := by
  refine hrun.preserves_along (fun edge hedge hscoped => ?_) scoped_new
  rw [hrun.step_of_mem hedge]
  exact hscoped.step (hcareful edge hedge)

/-- A blocked client stays so, and the reads that settle on the way reject. -/
theorem barrier_run {edges : List (Trace.Edge (System V W) (Act V W))} {first last : System V W}
    (hrun : Run first edges last) (hcareful : ∀ edge ∈ edges, edge.source.Careful edge.label) (hscoped : first.Scoped)
    (hblocked : first.client.scopeBlocked.isSome) :
    last.Scoped ∧ last.client.scopeBlocked.isSome ∧ Rejects first.calls last.calls ∧
      last.client.shownRead = first.client.shownRead ∧ last.client.shownWindow = first.client.shownWindow := by
  induction hrun with
  | nil system => exact ⟨hscoped, hblocked, fun _ _ _ _ hsettled => .inl hsettled, rfl, rfl⟩
  | @cons system next last act edges hstep hrest ih =>
    cases hstep
    obtain ⟨hfirst, hlater⟩ := List.forall_mem_cons.mp hcareful
    obtain ⟨hstill, hshown⟩ := (keeps_step system act).frozen hscoped.valid hblocked
    obtain ⟨hlast, hend, hrejects, hread, hwindow⟩ := ih hlater (hscoped.step hfirst) hstill
    exact ⟨hlast, hend, (rejects_step hscoped hblocked hfirst).trans hrejects,
      hread.trans (congrArg Prod.fst hshown), hwindow.trans (congrArg Prod.snd hshown)⟩

/-- A subscription is cancelled through a window client that is not closed, whatever its scope. -/
theorem cancel_possible {client : ExperimentalSyncClient V W} {index : Nat} {window : ExperimentalSyncWindowClient W}
    (hwindow : client.windowClients[index]? = some window) (hopen : window.closed = false) (subscriptionId : String) :
    client.begin (.window index (.cancel subscriptionId)) = .ok () ∧ ∀ payload unavailable,
      (client.settle (.window index (.cancel subscriptionId)) (.ok payload) unavailable).2 = .ok payload := by
  have hcheck : window.check true = .ok () := by
    unfold ExperimentalSyncWindowClient.check
    rw [hopen]
    cases window.blocked with
    | none => rfl
    | some error => rfl
  constructor
  · simp only [ExperimentalSyncClient.begin, hwindow]
    exact hcheck
  · intro payload unavailable
    have hresult : ExperimentalSyncClient.windowResult window index (.cancel subscriptionId) (.ok payload) = .ok payload :=
      Except.bind_eq_ok_iff.mpr ⟨payload, rfl, Except.bind_eq_ok_iff.mpr
        ⟨(), rfl, Except.bind_eq_ok_iff.mpr ⟨(), hcheck, rfl⟩⟩⟩
    simp only [ExperimentalSyncClient.settle, ExperimentalSyncClient.settleWindow, hwindow, hresult]

/-- A run that begins with an act. -/
theorem run_step (system : System V W) (act : Act V W) {edges : List (Trace.Edge (System V W) (Act V W))}
    {last : System V W} (hrest : Run (system.step act) edges last) :
    Run system (⟨system, act, system.step act⟩ :: edges) last :=
  .cons rfl hrest

/-- A pull is refused over the scope while the first call of the application is in flight. -/
def refusedPull (kind : Kind) : System String String :=
  ((new.step (.call kind false)).step (.call .applyPullResponse false)).step
    (.settle 1 (.error (.scope .needs_new_scope_journal)) false)

theorem run_refusedPull (kind : Kind) : ∃ edges, Run new edges (refusedPull kind) ∧
    ∀ edge ∈ edges, edge.source.Careful edge.label := by
  refine ⟨_, run_step _ (.call kind false) (run_step _ (.call .applyPullResponse false)
    (run_step _ (.settle 1 (.error (.scope .needs_new_scope_journal)) false) (.nil _))), ?_⟩
  simp only [List.forall_mem_cons]
  exact ⟨trivial, trivial, trivial, fun _ h => (nomatch h)⟩

end System

end react_native_surrealdb.sync
