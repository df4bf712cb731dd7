import SurrealSync.Native.OwnerBootstrap
import SurrealSync.Native.OwnerCalls

open Std Except
open surrealdb_sync_protocol surrealdb_sync_protocol.bootstrap_codec
open surrealdb_sync_client
open surrealdb_rn_core.sync_state surrealdb_rn_core.sync_bootstrap_store surrealdb_rn_core.sync_client

namespace surrealdb_rn_core.sync_bootstrap

variable {F V C : Type} [DecidableEq V] {store : Store F V C} {key : SyncStateKey} {bound : Binding}
  {guard later : RuntimeGuard V} {ledger : Ledger V key bound} {first : Content V} {ε ε' α β : Type}
  {P : α → RuntimeGuard V → Ledger V key bound → Prop} {E : ε → Ledger V key bound → Prop}
  {expected : BootstrapContext} {ticket : UInt64}

/-- An error that has left the journal as the call found it. -/
def Unmoved (first : Content V) (_ : ε) (ledger : Ledger V key bound) : Prop := ledger.content = first

omit [DecidableEq V] in
theorem mapError_eq_ok_iff {f : ε → ε'} {result : Except ε α} {a : α} :
    result.mapError f = .ok a ↔ result = .ok a := by
  cases result with
  | ok b => rw [Except.mapError, ok.injEq, ok.injEq]
  | error e => exact ⟨nofun, nofun⟩

theorem runs_mapError {f : ε → ε'} {E : ε' → Ledger V key bound → Prop} {part : Guarded ε V α}
    (hpart : Runs P (fun e ledger => E (f e) ledger) part guard ledger) :
    Runs P E (Async.mapError f part) guard ledger := by
  refine Async.safe_mapError.mpr (Async.Safe.imp hpart fun result guard ledger hends => ?_)
  cases result with
  | ok a =>
    refine ⟨hends.sound, ?_, nofun⟩
    rintro _ ⟨⟩
    exact hends.ok a rfl
  | error e =>
    refine ⟨hends.sound, nofun, ?_⟩
    rintro _ ⟨⟩
    exact hends.error e rfl

/-! ### Access -/

/-- A session that is admitted: the handle answers, and its client is the one that the session expects. -/
structure Admitted (expected : BootstrapContext) (ticket : Option UInt64) (guard : RuntimeGuard V) : Prop where
  live : guard.Live
  client : ∃ runtime, guard.cell.runtime = some runtime ∧ check_context expected runtime.state ∧
    guard.cell.admits expected runtime.state
  bound : guard.cell.bound ticket expected

theorem admitted_of_access {ticket : Option UInt64} {u : Unit}
    (haccess : guard.bootstrap_access expected ticket = .ok u) : Admitted expected ticket guard := by
  unfold RuntimeGuard.bootstrap_access at haccess
  obtain ⟨runtime, hclient, haccess⟩ := bind_eq_ok_iff.mp haccess
  obtain ⟨hlive, hruntime⟩ := client_eq_ok_iff.mp (mapError_eq_ok_iff.mp hclient)
  obtain ⟨_, hcontext, haccess⟩ := bind_eq_ok_iff.mp haccess
  rw [refuse_eq_ok_iff, not_not] at hcontext
  rw [refuse_eq_ok_iff, not_or, not_not, not_not] at haccess
  exact ⟨hlive, ⟨runtime, hruntime, hcontext, haccess.1⟩, haccess.2⟩

/-- An admitted session is one of this key. -/
theorem Admitted.key_eq {ticket : Option UInt64} (hadmitted : Admitted expected ticket guard)
    (hintact : Intact first guard ledger) : BootstrapContext.key expected = key := by
  obtain ⟨runtime, hruntime, hcontext, _⟩ := hadmitted.client
  have hkeyed := ledger.keyed runtime (hintact.content.trans (hintact.agrees runtime hruntime))
  rw [← hkeyed]
  unfold BootstrapContext.key SyncStateKey.of
  rw [hcontext.1, hcontext.2.1]

theorem Admitted.binding (hadmitted : Admitted expected (some ticket) guard) :
    guard.cell.binding = (some expected, ticket) := by
  obtain ⟨hticket, hbinding⟩ := hadmitted.bound ticket rfl
  unfold Cell.binding
  rw [hbinding, hticket]

theorem runs_access_bind {ticket : Option UInt64} {first : Content V}
    {E : NativeBootstrapError → Ledger V key bound → Prop} {rest : Unit → Guarded NativeBootstrapError V α}
    (hintact : Intact first guard ledger) (herror : ∀ e, E e ledger)
    (hrest : Admitted expected ticket guard → Runs P E (rest ()) guard ledger) :
    Runs P E (Async.read (RuntimeGuard.bootstrap_access expected ticket) >>= rest) guard ledger :=
  runs_read_bind hintact.sound (fun _ haccess => hrest (admitted_of_access haccess)) fun e _ => herror e

/-! ### Finishing -/

/-- An operation that went through left the journal alone, and its handle still answers. -/
structure Finished (first : Content V) (cell : Cell V) (guard : RuntimeGuard V) (ledger : Ledger V key bound) : Prop
    extends Intact first guard ledger where
  live : guard.Live
  cell : guard.cell = cell

theorem runs_conclude {result : SyncResult α} (hsound : guard.Sound ledger) (hagrees : guard.Agrees first)
    (hfirst : ledger.content = first) :
    Runs (fun a later ledger => result = .ok a ∧ Finished first guard.cell later ledger) (Unmoved first)
      (BootstrapAccess.conclude result) guard ledger := by
  refine runs_get_bind ?_
  split
  · exact runs_modify_bind (runs_throw hsound.invalidate hfirst)
  · rename_i hgo
    rw [not_or, not_not] at hgo
    have hlive := live_of_isOk hgo.2
    have hdisarmed := hsound.disarm (hfirst ▸ hagrees)
    refine runs_modify_bind (runs_lift hdisarmed (fun a hok => ⟨mapError_eq_ok_iff.mp hok, ?_⟩) fun _ _ => hfirst)
    exact { clean := rfl, agrees := hagrees, content := hfirst, raised := hdisarmed.raised,
            rebinds := hdisarmed.rebinds, live := ⟨hlive.poison_all, hlive.local_closed, hlive.session_ended⟩,
            cell := rfl }

/-- A mutation of the stage of this key. -/
theorem runs_stage_mutation {act : Act V} (hneutral : Act.Neutral act) (hown : act.key = key)
    (hintact : Intact first guard ledger) :
    Runs (fun _ later ledger => Finished first guard.cell later ledger) (Unmoved first)
      (BootstrapAccess.mutate act) guard ledger := by
  refine runs_neutral_bind hneutral hown hintact.sound hintact.agrees hintact.content ?_
  intro reply later next hinterferes hsettled hlater hnext
  refine runs_modify_bind (Async.Safe.imp (runs_conclude hsettled hlater hnext) fun result guard ledger hends => ?_)
  exact ⟨hends.sound, fun a hok => hinterferes.cell ▸ (hends.ok a hok).2, hends.error⟩

theorem runs_check_writable_bind {rest : Unit → Guarded NativeBootstrapError V α}
    {E : NativeBootstrapError → Ledger V key bound → Prop}
    (hintact : Intact first guard ledger) (herror : ∀ e (ledger : Ledger V key bound), ledger.content = first → E e ledger)
    (hrest : ∀ guard ledger, Intact first guard ledger → Runs P E (rest ()) guard ledger) :
    Runs P E (BootstrapAccess.check_writable >>= rest) guard ledger := by
  have hchecked : Runs (fun _ guard ledger => Intact first guard ledger) (Unmoved first)
      (BootstrapAccess.check_writable : Guarded NativeBootstrapError V Unit) guard ledger := by
    refine runs_bind (runs_mapError (P := fun _ guard ledger => Intact first guard ledger) ?_)
      fun _ guard ledger hsound hintact => ?_
    · exact runs_refresh hintact fun _ _ _ hintact => hintact.content
    · exact runs_read_bind hsound (fun _ _ => runs_pure hsound hintact) fun _ _ => hintact.content
  refine runs_bind (Async.Safe.imp hchecked fun result guard ledger hends => ?_)
    fun _ guard ledger _ hintact => hrest guard ledger hintact
  exact ⟨hends.sound, hends.ok, fun e herr => herror e ledger (hends.error e herr)⟩

/-! ### Binding -/

/-- A session is bound: the cell is bound to its context under its ticket. -/
structure SessionBound (first : Content V) (expected : BootstrapContext) (ticket : UInt64) (guard : RuntimeGuard V)
    (ledger : Ledger V key bound) : Prop extends Intact first guard ledger where
  live : guard.Live
  session : guard.cell.binding = (some expected, ticket)

theorem runs_bind_cell {cell : Cell V} (hfinished : Finished first cell guard ledger)
    (hadmits : ∃ state, cell.admits expected state) :
    Runs (SessionBound first expected) (Unmoved first) (BootstrapAccess.bind expected) guard ledger := by
  obtain ⟨state, _, hadmits⟩ := hadmits
  obtain rfl := hfinished.cell
  refine runs_read_bind hfinished.sound (fun cell hbind => runs_modify_bind ?_) fun _ _ => hfinished.content
  unfold Cell.bind at hbind
  split at hbind
  · rename_i hsame
    cases hbind
    exact runs_pure hfinished.sound ⟨hfinished.toIntact, hfinished.live, by rw [Cell.binding, hsame]⟩
  · obtain ⟨next, hnext, hbind⟩ := bind_eq_ok_iff.mp hbind
    cases hbind
    rw [okOr_eq_ok_iff, UInt64.checked_add_eq_some_iff] at hnext
    have hrebind : Rebind guard.cell.binding (some expected, next) := by
      refine .bind hnext fun context hcontext => ?_
      obtain ⟨howner, hrevision⟩ := hadmits context hcontext
      exact ⟨howner, Nat.le_of_not_lt fun hlt => hrevision (UInt64.lt_iff_toNat_lt.mpr hlt)⟩
    have hintact : Intact first { guard with cell := { guard.cell with
        bootstrap_binding := some expected, bootstrap_binding_ticket := next } } ledger :=
      ⟨hfinished.clean, hfinished.agrees, hfinished.content, hfinished.raised,
        hfinished.rebinds.tail hrebind⟩
    have hlive := hfinished.live
    exact runs_pure hintact.sound ⟨hintact, ⟨hlive.poison_all, hlive.local_closed, hlive.session_ended⟩, rfl⟩

theorem runs_bind_bootstrap_session (hintact : Intact first guard ledger) (context : BootstrapContext) :
    Runs (SessionBound first context) (Unmoved first) (bind_bootstrap_session context) guard ledger := by
  refine runs_lift_bind hintact.sound (fun expected hvalidated => ?_) fun _ _ => hintact.content
  obtain rfl : expected = context := by
    obtain ⟨_, _, hvalidated⟩ := bind_eq_ok_iff.mp hvalidated
    obtain ⟨_, _, hvalidated⟩ := bind_eq_ok_iff.mp hvalidated
    cases hvalidated
    rfl
  refine runs_access_bind hintact (fun _ => hintact.content) fun hadmitted => ?_
  refine runs_call_bind (.of_reading hintact.sound (fun asked hasked => ?_) (by simp)) ?_
  · exact (Option.some.inj hasked).symm.trans (hadmitted.key_eq hintact)
  · intro (reply : SyncResult (Option StageInventory)) later next hinterferes hsame hflags
    have hlater := hintact.after_reading hinterferes hsame hflags
    refine runs_bind (runs_mapError (runs_conclude hlater.sound hlater.agrees hlater.content))
      fun _ guard ledger _ hconcluded => ?_
    obtain ⟨runtime, _, _, hadmits⟩ := hadmitted.client
    exact runs_bind_cell hconcluded.2 ⟨runtime.state, hinterferes.cell ▸ hadmits⟩

/-! ### Sessions -/

/-- A session was served: under the binding that its call found, and the journal stayed as it was. -/
structure Served (first : Content V) (expected : BootstrapContext) (ticket : UInt64) (guard : RuntimeGuard V)
    (ledger : Ledger V key bound) : Prop extends Intact first guard ledger where
  live : guard.Live
  session : bound = (some expected, ticket)

namespace NativeBootstrapSession

variable {self : NativeBootstrapSession}

theorem runs_request_start (hintact : Intact first guard ledger) (hbound : guard.cell.binding = bound) :
    Runs (fun _ => Served first self.expected self.ticket) (Unmoved first) self.request_start guard ledger := by
  refine runs_access_bind hintact (fun _ => hintact.content) fun hadmitted => ?_
  refine Async.Safe.imp (runs_conclude hintact.sound hintact.agrees hintact.content) fun result guard ledger hends => ?_
  refine ⟨hends.sound, fun u hok => ?_, hends.error⟩
  obtain ⟨_, hfinished⟩ := hends.ok u hok
  exact ⟨hfinished.toIntact, hfinished.live, hbound.symm.trans hadmitted.binding⟩

/-- The stage of an admitted session is looked up. -/
theorem runs_resume_bind {manifest : Option Bytes} {incarnation : Option UInt64}
    {rest : Option StageInventory → Guarded NativeBootstrapError V α}
    (hintact : Intact first guard ledger) (hbound : guard.cell.binding = bound)
    (hrest : ∀ inventory guard ledger, Served first self.expected self.ticket guard ledger →
      Runs P (Unmoved first) (rest inventory) guard ledger) :
    Runs P (Unmoved first) (do
      Async.read fun guard => guard.bootstrap_access self.expected (some self.ticket)
      let result ← Guarded.resume manifest self.expected incarnation
      let inventory ← BootstrapAccess.conclude result
      rest inventory) guard ledger := by
  refine runs_access_bind hintact (fun _ => hintact.content) fun hadmitted => ?_
  refine runs_call_bind (.of_reading hintact.sound (fun asked hasked => ?_) (by simp)) ?_
  · exact (Option.some.inj hasked).symm.trans (hadmitted.key_eq hintact)
  · intro (reply : SyncResult (Option StageInventory)) later next hinterferes hsame hflags
    have hlater := hintact.after_reading hinterferes hsame hflags
    refine runs_bind (runs_conclude hlater.sound hlater.agrees hlater.content)
      fun inventory guard ledger _ hconcluded => ?_
    exact hrest inventory guard ledger
      ⟨hconcluded.2.toIntact, hconcluded.2.live, hbound.symm.trans hadmitted.binding⟩

theorem runs_request_manifest (hintact : Intact first guard ledger) (hbound : guard.cell.binding = bound)
    (stage : NativeBootstrapStage) :
    Runs (fun _ => Served first self.expected self.ticket) (Unmoved first) (self.request_manifest store stage)
      guard ledger := by
  refine runs_lift_bind hintact.sound (fun _ _ => ?_) fun _ _ => hintact.content
  refine runs_lift_bind hintact.sound (fun manifest _ => ?_) fun _ _ => hintact.content
  refine runs_resume_bind hintact hbound fun inventory guard ledger hserved => ?_
  refine runs_lift_bind hserved.sound (fun _ _ => ?_) fun _ _ => hserved.content
  exact runs_lift_bind hserved.sound (fun _ _ => runs_pure hserved.sound hserved) fun _ _ => hserved.content

theorem runs_progress (hintact : Intact first guard ledger) (hbound : guard.cell.binding = bound) (manifest : Bytes) :
    Runs (fun _ => Served first self.expected self.ticket) (Unmoved first) (self.progress store manifest)
      guard ledger := by
  refine runs_lift_bind hintact.sound (fun _ _ => ?_) fun _ _ => hintact.content
  exact runs_resume_bind hintact hbound fun inventory guard ledger hserved => runs_pure hserved.sound hserved

theorem runs_begin_owned (hintact : Intact first guard ledger) (hbound : guard.cell.binding = bound)
    (start manifest : Bytes) :
    Runs (fun _ => Served first self.expected self.ticket) (Unmoved first) (self.begin_owned store start manifest)
      guard ledger := by
  refine runs_lift_bind hintact.sound (fun _ _ => ?_) fun _ _ => hintact.content
  refine runs_access_bind hintact (fun _ => hintact.content) fun hadmitted => ?_
  have hown := hadmitted.key_eq hintact
  refine runs_check_writable_bind hintact (fun _ _ hsame => hsame) fun guard ledger hintact => ?_
  refine runs_bind (runs_stage_mutation trivial hown hintact) fun told guard ledger hsound hfinished => ?_
  have hserved : Served first self.expected self.ticket guard ledger :=
    ⟨hfinished.toIntact, hfinished.live, hbound.symm.trans hadmitted.binding⟩
  cases told with
  | begun incarnation => exact runs_pure hsound hserved
  | completed completion => exact runs_throw hsound hserved.content
  | done => exact runs_throw hsound hserved.content

theorem runs_page_owned (hintact : Intact first guard ledger) (hbound : guard.cell.binding = bound)
    (stage : NativeBootstrapStage) (bytes : Bytes) :
    Runs (fun _ => Served first self.expected self.ticket) (Unmoved first) (self.page_owned store stage bytes)
      guard ledger := by
  refine runs_lift_bind hintact.sound (fun _ _ => ?_) fun _ _ => hintact.content
  refine runs_access_bind hintact (fun _ => hintact.content) fun hadmitted => ?_
  have hown := hadmitted.key_eq hintact
  refine runs_check_writable_bind hintact (fun _ _ hsame => hsame) fun guard ledger hintact => ?_
  refine runs_bind (runs_stage_mutation trivial hown hintact) fun _ guard ledger hsound hfinished => ?_
  exact runs_pure hsound ⟨hfinished.toIntact, hfinished.live, hbound.symm.trans hadmitted.binding⟩

theorem runs_cancel_owned (hintact : Intact first guard ledger) (hbound : guard.cell.binding = bound)
    (stage : NativeBootstrapStage) :
    Runs (fun _ => Served first self.expected self.ticket) (Unmoved first) (self.cancel_owned stage)
      guard ledger := by
  refine runs_lift_bind hintact.sound (fun _ _ => ?_) fun _ _ => hintact.content
  refine runs_access_bind hintact (fun _ => hintact.content) fun hadmitted => ?_
  refine runs_bind (runs_stage_mutation trivial (hadmitted.key_eq hintact) hintact)
    fun _ guard ledger hsound hfinished => ?_
  exact runs_pure hsound ⟨hfinished.toIntact, hfinished.live, hbound.symm.trans hadmitted.binding⟩

end NativeBootstrapSession

/-! ### Completion -/

/-- The content after a completion: one that applied its snapshot installed it in the journal and in memory, and an
earlier success changes nothing. -/
inductive Concludes (first : Content V) (guard : RuntimeGuard V) (content : Content V) : Bool → Prop where
  | applied {before after : ClientRuntime V} {checkpoint : Checkpoint} {records : List (SnapshotRecord V)}
      (hfirst : first = some before)
      (hstep : surrealdb_sync_client.Step before (.BootstrapSnapshot checkpoint records) after)
      (hcontent : content = some after) (hruntime : guard.cell.runtime = some after) : Concludes first guard content true
  | historical (hcontent : content = first) (hruntime : guard.Agrees first) : Concludes first guard content false

structure Concluded (first : Content V) (expected : BootstrapContext) (ticket : UInt64) (applied : Bool)
    (guard : RuntimeGuard V) (ledger : Ledger V key bound) : Prop where
  clean : guard.mutation_phase = .Clean
  live : guard.Live
  session : bound = (some expected, ticket)
  concludes : Concludes first guard ledger.content applied

/-- What a completion that went through has left. -/
theorem moves_of_done {receipt : Bytes} {incarnation : UInt64} {clock : CompletionClock} {content next : Content V}
    {told : sync_bootstrap_store.Reply V} (hdone : Done (.complete receipt expected incarnation clock) told content next) :
    Moves key content next := by
  cases told with
  | begun _ => exact hdone.elim
  | done => exact hdone.elim
  | completed completion =>
    cases completion with
    | HistoricalSuccess => exact hdone ▸ .refl
    | Applied state =>
      obtain ⟨before, after, checkpoint, records, hstep, _, rfl, rfl⟩ := hdone
      exact .single (.stepped hstep)

theorem runs_refuse_completion (hintact : Intact first guard.disarm_mutation ledger) (failed : SyncStateError) :
    Runs P (Quiet .RecoveryRequired first) (NativeSyncClient.refuse_completion failed : Guarded NativeSyncError V α)
      guard ledger := by
  refine runs_modify_bind (runs_refresh_bind hintact (fun _ _ _ hintact => hintact.quiet) ?_)
  intro guard ledger hintact
  refine runs_get_bind ?_
  split
  · exact runs_throw hintact.sound hintact.quiet
  · exact runs_throw hintact.sound hintact.quiet
  · exact runs_throw hintact.sound hintact.quiet

theorem runs_publish_completion {rotates : Bool} {receipt : Bytes} {incarnation : UInt64} {clock : CompletionClock}
    {completion : Completion V} {latest : DurableClientState V} {barrier : Option ScopeBarrier}
    (hsound : guard.Sound ledger) (hagrees : guard.Agrees first) (hlive : guard.Live)
    (hsession : bound = (some expected, ticket))
    (hdone : Done (.complete receipt expected incarnation clock) (.completed completion) first ledger.content) :
    Runs (Concluded first expected ticket) (Quiet .RecoveryRequired first)
      (NativeSyncClient.publish_completion rotates completion latest barrier) guard ledger := by
  refine runs_get_bind ?_
  cases completion with
  | HistoricalSuccess =>
    have hcontent : ledger.content = first := hdone
    dsimp only
    split
    · exact runs_abandon hsound (.inl rfl)
    · have hdisarmed := hsound.disarm (hcontent ▸ hagrees)
      refine runs_modify_bind (runs_pure ⟨fun _ => hcontent ▸ hagrees, hdisarmed.raised, hdisarmed.rebinds⟩ ?_)
      exact ⟨rfl, ⟨hlive.poison_all, hlive.local_closed, hlive.session_ended⟩, hsession, .historical hcontent hagrees⟩
  | Applied applied =>
    obtain ⟨before, after, checkpoint, records, hstep, hafter, hfirst, hcontent⟩ := hdone
    dsimp only
    split
    · exact runs_abandon hsound (.inl rfl)
    · rename_i hsame
      rw [not_or, not_not] at hsame
      split
      · exact runs_abandon hsound (.inl rfl)
      · rename_i runtime hopen
        split
        · exact runs_abandon hsound (.inl rfl)
        · have hruntime : runtime = after := by
            refine ClientRuntime.eq_of_state ?_
            rw [ClientRuntime.open_eq_ok_iff.mp hopen, hsame.1, hafter]
          subst hruntime
          refine runs_modify_bind (runs_pure ⟨fun _ => ?_, hsound.raised, hsound.rebinds⟩ ?_)
          · rintro _ ⟨⟩
            exact hcontent
          · exact ⟨rfl, ⟨hlive.poison_all, hlive.local_closed, hlive.session_ended⟩, hsession,
              .applied hfirst hstep hcontent rfl⟩

theorem runs_inspect_completion {rotates : Bool} {receipt : Bytes} {incarnation : UInt64} {clock : CompletionClock}
    {completion : Completion V} (hown : BootstrapContext.key expected = key) (hsound : guard.Sound ledger)
    (hagrees : guard.Agrees first) (hsession : bound = (some expected, ticket))
    (hdone : Done (.complete receipt expected incarnation clock) (.completed completion) first ledger.content) :
    Runs (Concluded first expected ticket) (Quiet .RecoveryRequired first)
      (NativeSyncClient.inspect_completion rotates expected completion) guard ledger := by
  refine runs_call_bind (.of_reading hsound (fun asked hasked => ?_) (by simp)) ?_
  · exact (Option.some.inj hasked).symm.trans hown
  · intro reply later next hinterferes heffect hflags
    have hlater := hsound.after_reading hinterferes heffect.1 hflags
    cases reply with
    | error failed => exact runs_abandon hlater (.inl rfl)
    | ok inspected =>
      obtain ⟨state, barrier⟩ := inspected
      cases state with
      | none => exact runs_abandon hlater (.inl rfl)
      | some latest =>
        dsimp only
        refine runs_get_bind ?_
        split
        · exact runs_abandon hlater (.inl rfl)
        · rename_i hsession_ok
          rw [not_not] at hsession_ok
          exact runs_publish_completion hlater (hinterferes.agrees hagrees) (live_of_isOk hsession_ok) hsession
            (heffect.1 ▸ hdone)

theorem runs_complete_bootstrap_bound {rotates : Bool} {receipt : Bytes} {incarnation : UInt64}
    {clock : CompletionClock} (hintact : Intact first guard ledger) (hbound : guard.cell.binding = bound) :
    Runs (Concluded first expected ticket) (Quiet .RecoveryRequired first)
      (NativeSyncClient.complete_bootstrap_bound rotates receipt expected incarnation clock (some ticket))
      guard ledger := by
  refine runs_read_bind hintact.sound (fun _ hticket => ?_) fun _ _ => hintact.quiet
  rw [refuse_eq_ok_iff, not_not] at hticket
  refine runs_read_bind hintact.sound (fun runtime hclient => ?_) fun _ _ => hintact.quiet
  refine runs_lift_bind hintact.sound (fun _ hcontext => ?_) fun _ _ => hintact.quiet
  rw [refuse_eq_ok_iff, not_not] at hcontext
  obtain ⟨hlive, hruntime⟩ := client_eq_ok_iff.mp hclient
  have hown : BootstrapContext.key expected = key := by
    have hkeyed := ledger.keyed runtime (hintact.content.trans (hintact.agrees runtime hruntime))
    rw [← hkeyed]
    unfold BootstrapContext.key SyncStateKey.of
    rw [hcontext.1, hcontext.2.1]
  have hsession : bound = (some expected, ticket) := by
    obtain ⟨hnumber, hbinding⟩ := hticket ticket rfl
    rw [← hbound, Cell.binding, hbinding, hnumber]
  refine runs_modify_bind (runs_transact_bind hintact.sound.arm rfl hown (fun _ _ hdone => moves_of_done hdone) ?_)
  intro result later next hinterferes heffect hflags
  have hsettled := hintact.sound.arm.settle hinterferes hflags
  have hagrees : later.Agrees first := hinterferes.agrees hintact.agrees
  refine runs_modify_bind (runs_get_bind ?_)
  split
  · exact runs_abandon hsettled (.inl rfl)
  · rename_i hgo
    rw [not_or, not_not] at hgo
    rcases heffect with ⟨hsame, failed, rfl⟩ | ⟨told, hdone, rfl | hunknown⟩
    · have hcontent := hsame.trans hintact.content
      refine runs_refuse_completion ?_ failed
      exact ⟨rfl, hagrees, hcontent, hsettled.raised, hsettled.rebinds⟩
    · rw [hintact.content] at hdone
      cases told with
      | begun _ => exact hdone.elim
      | done => exact hdone.elim
      | completed completion => exact runs_inspect_completion hown hsettled hagrees hsession hdone
    · exact absurd hunknown hgo.1

theorem NativeBootstrapSession.runs_complete_owned {self : NativeBootstrapSession} {rotates : Bool}
    {clock : CompletionClock} {reason : Option NativeBootstrapError} (hintact : Intact first guard ledger)
    (hbound : guard.cell.binding = bound) (stage : NativeBootstrapStage) (receipt : Bytes) :
    Runs (fun completion guard ledger => Concluded first self.expected self.ticket (completion = .Applied) guard ledger)
      (Quiet .RecoveryRequired first) (self.complete_owned store rotates clock reason stage receipt) guard ledger := by
  refine runs_lift_bind hintact.sound (fun _ _ => ?_) fun _ _ => hintact.quiet
  have hcompleted : Runs (Concluded first self.expected self.ticket) (Quiet .RecoveryRequired first)
      (NativeSyncClient.complete_bootstrap_bound rotates receipt self.expected stage.incarnation clock
        (some self.ticket)) guard ledger := runs_complete_bootstrap_bound hintact hbound
  refine runs_bind (P := Concluded first self.expected self.ticket) (runs_mapError (Async.Safe.imp hcompleted ?_))
    fun applied guard ledger hsound hconcluded => runs_pure hsound ?_
  · intro result guard ledger hends
    refine ⟨hends.sound, hends.ok, fun e he => ?_⟩
    rcases hends.error e he with rfl | hsame
    · exact .inl (if_pos rfl)
    · exact .inr hsame
  · cases applied with
    | true => exact hconcluded
    | false => exact hconcluded

end surrealdb_rn_core.sync_bootstrap
