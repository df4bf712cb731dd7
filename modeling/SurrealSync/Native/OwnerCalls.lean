import SurrealSync.Native.OwnerSpecs

open Std Except
open surrealdb_sync_protocol surrealdb_sync_protocol.subscription surrealdb_sync_protocol.bootstrap_codec
open surrealdb_sync_client
open surrealdb_rn_core.sync_state surrealdb_rn_core.sync_bootstrap_store

namespace surrealdb_rn_core.sync_client

open sync_codec sync_subscription

variable {F V C : Type} [DecidableEq V] {store : Store F V C} {json : sync_queue.JsonWriter (ClientCommit V)}
  {key : SyncStateKey} {bound : Binding} {guard later : RuntimeGuard V} {ledger : Ledger V key bound} {first : Content V} {ε α β : Type}
  {P : α → RuntimeGuard V → Ledger V key bound → Prop} {E : ε → Ledger V key bound → Prop}

/-! ### Clean guards -/

/-- A guard that has changed nothing yet, over the content that its call began with. -/
structure Intact (first : Content V) (guard : RuntimeGuard V) (ledger : Ledger V key bound) : Prop where
  clean : guard.mutation_phase = .Clean
  agrees : guard.Agrees first
  content : ledger.content = first
  raised : ledger.flags.Raised guard.poison_all guard.local_closed guard.session_ended
  rebinds : Rebinds bound guard.cell.binding

theorem Intact.sound (hintact : Intact first guard ledger) : guard.Sound ledger :=
  ⟨fun _ => hintact.content ▸ hintact.agrees, hintact.raised, hintact.rebinds⟩

theorem Intact.quiet {recovery e : ε} (hintact : Intact first guard ledger) : Quiet recovery first e ledger :=
  .inr hintact.content

/-- The client that a held guard shows is the one in the journal. -/
theorem Intact.content_of_client (hintact : Intact first guard ledger) {runtime : ClientRuntime V}
    (hclient : guard.client = .ok runtime) : first = some runtime :=
  hintact.agrees runtime (client_eq_ok_iff.mp hclient).2

theorem Intact.after_reading {next : Ledger V key bound} (hintact : Intact first guard ledger)
    (hinterferes : guard.Interferes later) (hsame : next.content = ledger.content)
    (hflags : next.flags = later.flags false) : Intact first later next := by
  have hsound := hintact.sound.after_reading hinterferes hsame hflags
  exact ⟨hinterferes.mutation_phase.trans hintact.clean, hinterferes.agrees hintact.agrees, hsame.trans hintact.content,
    hsound.raised, hsound.rebinds⟩

/-- A cell that shows no other client stays a held one. -/
theorem Intact.update (hintact : Intact first guard ledger) (later : RuntimeGuard V)
    (hclean : later.mutation_phase = .Clean)
    (hruntime : later.cell.runtime = guard.cell.runtime) (hflags : later.flags false = guard.flags false)
    (hbinding : later.cell.binding = guard.cell.binding) : Intact first later ledger := by
  have hraised := hintact.raised
  unfold RuntimeGuard.flags at hflags
  simp only [Bool.or_false, Flags.mk.injEq] at hflags
  obtain ⟨hpoison, hclosed, hended⟩ := hflags
  rw [← hpoison, ← hclosed, ← hended] at hraised
  refine ⟨hclean, ?_, hintact.content, hraised, hbinding ▸ hintact.rebinds⟩
  unfold RuntimeGuard.Agrees
  rw [hruntime]
  exact hintact.agrees

/-! ### Transactions that leave the journal alone -/

def Act.Neutral : Act V → Prop
  | .begin .. | .stage_page .. | .cancel .. | .load _ | .save_scope_barrier .. => True
  | .complete .. | .save .. | .apply_transition .. => False

theorem Act.Neutral.done {act : Act V} (hneutral : Act.Neutral act) {told : sync_bootstrap_store.Reply V}
    {content next : Content V} (hdone : Done act told content next) : next = content := by
  cases act with
  | begin | stage_page | cancel | load | save_scope_barrier =>
    cases told with
    | begun => first | exact hdone | exact hdone.elim
    | completed => exact hdone.elim
    | done => first | exact hdone | exact hdone.elim
  | complete | save | apply_transition => exact hneutral.elim

theorem Act.Neutral.effect {act : Act V} (hneutral : Act.Neutral act) {reply : SyncResult (sync_bootstrap_store.Reply V)}
    {content next : Content V} (heffect : ActEffect act reply content next) : next = content := by
  rcases heffect with ⟨hsame, _⟩ | ⟨told, hdone, _⟩
  · exact hsame
  · exact hneutral.done hdone

/-- Such a transaction is sent over a guard that agrees, and leaves it so. -/
theorem runs_neutral_bind {act : Act V} {rest : SyncResult (sync_bootstrap_store.Reply V) → Guarded ε V α}
    (hneutral : Act.Neutral act) (hown : act.key = key) (hsound : guard.Sound ledger) (hagrees : guard.Agrees first)
    (hfirst : ledger.content = first)
    (hrest : ∀ reply (later : RuntimeGuard V) (next : Ledger V key bound), guard.arm_mutation.Interferes later →
      (later.settled_mutation reply).Sound next → later.Agrees first → next.content = first →
      Runs P E (rest reply) later next) :
    Runs P E (Async.modify RuntimeGuard.arm_mutation >>= fun _ => Guarded.transact act >>= rest) guard ledger := by
  refine runs_modify_bind (runs_transact_bind hsound.arm rfl hown (fun told next hdone => ?_) ?_)
  · rw [hneutral.done hdone]
  · intro reply later next hinterferes heffect hflags
    have hsame := hneutral.effect heffect
    exact hrest reply later next hinterferes (hsound.arm.settle hinterferes hflags)
      (hinterferes.agrees hagrees) (hsame.trans hfirst)

/-! ### Mutations -/

/-- The status that a call answers, and the client that it leaves, over a store that takes every state. -/
def FacadeAnswers (codec : Codec V) (json : sync_queue.JsonWriter (ClientCommit V)) (before : ClientRuntime V) :
    FacadeCall V → NativeSyncStatus → ClientRuntime V → Prop
  | .call call, status, after => ∃ prepared, prepare codec before call = .ok prepared ∧
    persist_and_install codec before prepared = .ok (after, status)
  | .enqueue_bounded commit count bytes, status, after =>
    enqueue_bounded codec json before commit count bytes = .ok (after, status)
  | .complete_bootstrap .., _, _ => False

theorem FacadeAnswers.step {before after : ClientRuntime V} {call : FacadeCall V} {status : NativeSyncStatus}
    (hanswers : FacadeAnswers store.codec json before call status after) :
    FacadeStep store.codec json before call after := by
  cases call with
  | call call =>
    obtain ⟨prepared, hprepare, hpersist⟩ := hanswers
    exact ⟨prepared, status, hprepare, hpersist⟩
  | enqueue_bounded commit count bytes => exact ⟨status, hanswers⟩
  | complete_bootstrap => exact hanswers.elim

/-- The call was answered, and the client it left is in the journal and in memory. -/
structure Answered (codec : Codec V) (json : sync_queue.JsonWriter (ClientCommit V)) (call : FacadeCall V)
    (first : Content V) (status : NativeSyncStatus) (guard : RuntimeGuard V) (ledger : Ledger V key bound) : Prop where
  clean : guard.mutation_phase = .Clean
  live : guard.Live
  facade : ∃ before after, first = some before ∧ FacadeAnswers codec json before call status after ∧
    ledger.content = some after ∧ guard.cell.runtime = some after

theorem Installed.answered {before : ClientRuntime V} {call : NativeCall V} {prepared : PreparedTransition V}
    {status : NativeSyncStatus} (hprepare : prepare store.codec before call = .ok prepared)
    (hinstalled : Installed store.codec before prepared status guard ledger) :
    Answered store.codec json (.call call) (some before) status guard ledger := by
  obtain ⟨after, hpersist, hcontent, hruntime⟩ := hinstalled.persisted
  exact ⟨hinstalled.clean, hinstalled.live, before, after, rfl, ⟨prepared, hprepare, hpersist⟩, hcontent, hruntime⟩

/-- A prepared transition of the client in the journal is persisted. -/
theorem runs_persist_prepared {before : ClientRuntime V} {call : NativeCall V} {prepared : PreparedTransition V}
    (hsound : guard.Sound ledger) (hagrees : guard.Agrees (some before)) (hbefore : ledger.content = some before)
    (hprepare : prepare store.codec before call = .ok prepared) :
    Runs (Answered store.codec json (.call call) (some before)) (Quiet .RecoveryRequired (some before))
      (NativeSyncClient.persist_and_install store prepared) guard ledger := by
  obtain ⟨transition, htransition, _⟩ := transition_of_prepare hprepare
  refine Async.Safe.imp (runs_persist_and_install hsound (hbefore ▸ hagrees) hbefore htransition) ?_
  intro result guard ledger hends
  exact ⟨hends.sound, fun status hok => (hends.ok status hok).answered hprepare, hends.error⟩

theorem runs_mutate (hintact : Intact first guard ledger) (call : NativeCall V) :
    Runs (Answered store.codec json (.call call) first) (Quiet .RecoveryRequired first)
      (NativeSyncClient.mutate store call) guard ledger := by
  refine runs_read_bind hintact.sound (fun runtime hclient => ?_) fun _ _ => hintact.quiet
  obtain rfl := hintact.content_of_client hclient
  refine runs_lift_bind hintact.sound (fun prepared hprepare => ?_) fun _ _ => hintact.quiet
  exact runs_persist_prepared hintact.sound hintact.agrees hintact.content hprepare

theorem runs_enqueue_bounded (hintact : Intact first guard ledger) (commit : ClientCommit V) (count bytes : UInt32) :
    Runs (Answered store.codec json (.enqueue_bounded commit count bytes) first) (Quiet .RecoveryRequired first)
      (NativeSyncClient.enqueue_bounded_owned store json commit count bytes) guard ledger := by
  refine runs_lift_bind hintact.sound (fun _ hlimits => ?_) fun _ _ => hintact.quiet
  refine runs_read_bind hintact.sound (fun runtime hclient => ?_) fun _ _ => hintact.quiet
  obtain ⟨hlive, hruntime⟩ := client_eq_ok_iff.mp hclient
  obtain rfl := hintact.content_of_client hclient
  refine runs_lift_bind hintact.sound (fun fingerprinted hfingerprint => ?_) fun _ _ => hintact.quiet
  have henqueue : enqueue_bounded store.codec json runtime commit count bytes =
      enqueue_fingerprinted store.codec json runtime fingerprinted count bytes := by
    unfold enqueue_bounded
    rw [bind_of_ok hlimits, bind_of_ok hfingerprint]
  unfold enqueue_fingerprinted at henqueue
  cases hprior : prior_commit runtime.state fingerprinted.identity.client_commit_id with
  | some prior =>
    rw [hprior] at henqueue
    dsimp only at henqueue ⊢
    refine runs_lift hintact.sound (fun status hstatus => ?_) fun _ _ => hintact.quiet
    split at hstatus
    · cases hstatus
    · rename_i hsame
      rw [if_neg hsame] at henqueue
      refine ⟨hintact.clean, hlive, runtime, runtime, rfl, ?_, hintact.content, hruntime⟩
      exact henqueue.trans (bind_of_ok hstatus)
  | none =>
    rw [hprior] at henqueue
    dsimp only at henqueue ⊢
    refine runs_lift_bind hintact.sound (fun _ hadmits => ?_) fun _ _ => hintact.quiet
    refine runs_lift_bind hintact.sound (fun prepared hprepare => ?_) fun _ _ => hintact.quiet
    rw [bind_of_ok hadmits, bind_of_ok hprepare] at henqueue
    have htransition : runtime.prepare_transition (.Enqueue fingerprinted) = .ok prepared :=
      map_err_eq_ok_iff.mp hprepare
    refine Async.Safe.imp (runs_persist_and_install hintact.sound (hintact.content ▸ hintact.agrees) hintact.content
      htransition) fun result guard ledger hends => ?_
    refine ⟨hends.sound, fun status hok => ?_, hends.error⟩
    obtain ⟨hclean, hlive, after, hpersist, hcontent, hafter⟩ := hends.ok status hok
    exact ⟨hclean, hlive, runtime, after, rfl, henqueue.trans hpersist, hcontent, hafter⟩

/-! ### Scope barriers -/

theorem runs_refresh {E : NativeSyncError → Ledger V key bound → Prop} (hintact : Intact first guard ledger)
    (herror : ∀ e guard (ledger : Ledger V key bound), Intact first guard ledger → E e ledger) :
    Runs (fun _ guard ledger => Intact first guard ledger) E NativeSyncClient.refresh_scope_barrier guard ledger := by
  refine runs_read_bind hintact.sound (fun runtime hclient => ?_) fun e _ => herror e guard ledger hintact
  have hkey := ledger.keyed runtime (hintact.content.trans (hintact.content_of_client hclient))
  have hdroppable : Droppable key (.load_scope_barrier (.of runtime.state)) guard ledger := by
    refine .of_reading hintact.sound (fun asked hasked => ?_) (by simp)
    exact (Option.some.inj hasked).symm.trans hkey
  refine runs_call_bind hdroppable fun reply later next hinterferes heffect hflags => ?_
  have hlater := hintact.after_reading hinterferes heffect hflags
  cases reply with
  | error failed => exact runs_abandon hlater.sound (herror _ later next hlater)
  | ok found =>
    cases found with
    | none => exact runs_pure hlater.sound hlater
    | some barrier =>
      have hblocked := hlater.update (later.block (.from_reason barrier.reason)) hlater.clean rfl rfl rfl
      exact ⟨hblocked.sound, fun _ _ => hblocked, nofun⟩

theorem runs_refresh_bind {E : NativeSyncError → Ledger V key bound → Prop} {rest : Unit → Guarded NativeSyncError V α}
    (hintact : Intact first guard ledger)
    (herror : ∀ e guard (ledger : Ledger V key bound), Intact first guard ledger → E e ledger)
    (hrest : ∀ guard ledger, Intact first guard ledger → Runs P E (rest ()) guard ledger) :
    Runs P E (NativeSyncClient.refresh_scope_barrier >>= rest) guard ledger :=
  runs_bind (runs_refresh hintact herror) fun _ guard ledger _ => hrest guard ledger

/-- The row of a barrier is written beside the journal. -/
theorem runs_save_scope_barrier {runtime : ClientRuntime V} {block : ScopeBlock} {scope : ScopeSnapshot}
    {E : NativeSyncError → Ledger V key bound → Prop} (hsound : guard.Sound ledger) (hagrees : guard.Agrees first)
    (hfirst : ledger.content = first) (hruntime : first = some runtime)
    (herror : ∀ ledger : Ledger V key bound, ledger.content = first → E .RecoveryRequired ledger) :
    Runs (fun _ guard ledger => guard.Agrees first ∧ ledger.content = first) E
      (NativeSyncClient.save_scope_barrier runtime block scope) guard ledger := by
  have hown : SyncStateKey.of runtime.state = key := ledger.keyed runtime (hfirst.trans hruntime)
  refine runs_neutral_bind trivial hown hsound hagrees hfirst ?_
  intro reply later next hinterferes hsettled hlater hnext
  refine runs_modify_bind ?_
  cases reply with
  | error failed => exact runs_abandon hsettled (herror next hnext)
  | ok told => exact runs_pure hsettled ⟨hlater, hnext⟩

theorem prepare_pull_eq_ok {runtime : ClientRuntime V} {response : PullResponse V} {prepared : PreparedTransition V}
    (hvalues : validate_pull_response_values store.codec response = .ok ())
    (hprepare : runtime.prepare_pull_response response = .ok prepared) :
    prepare store.codec runtime (.apply_pull_response response) = .ok prepared := by
  unfold prepare
  exact (bind_of_ok hvalues).trans (map_err_eq_ok_iff.mpr hprepare)

theorem runs_apply_pull_response (hintact : Intact first guard ledger) (response : PullResponse V) :
    Runs (Answered store.codec json (.call (.apply_pull_response response)) first) (Quiet .RecoveryRequired first)
      (NativeSyncClient.apply_pull_response_owned store response) guard ledger := by
  refine runs_lift_bind hintact.sound (fun _ hvalues => ?_) fun _ _ => hintact.quiet
  refine runs_read_bind hintact.sound (fun runtime hclient => ?_) fun _ _ => hintact.quiet
  obtain rfl := hintact.content_of_client hclient
  cases hprepare : runtime.prepare_pull_response response with
  | ok prepared =>
    exact runs_persist_prepared hintact.sound hintact.agrees hintact.content (prepare_pull_eq_ok hvalues hprepare)
  | error refused =>
    have hblocked := hintact.update (guard.with_slot fun slot =>
      { slot with scope_blocked := (ScopeBlock.of_error refused).or slot.scope_blocked }) hintact.clean rfl rfl rfl
    refine runs_modify_bind (runs_get_bind ?_)
    split
    · refine runs_read_bind hblocked.sound (fun current hcurrent => ?_) fun _ _ => hblocked.quiet
      refine runs_bind (runs_save_scope_barrier hblocked.sound hblocked.agrees hblocked.content
        (hblocked.content_of_client hcurrent) fun _ _ => .inl rfl) fun _ guard ledger hsound hkept => ?_
      exact runs_modify_bind (runs_throw (hsound.disarm (hkept.2 ▸ hkept.1)) (.inr hkept.2))
    · exact runs_throw hblocked.sound hblocked.quiet

theorem runs_start_subscription (hintact : Intact first guard ledger) (request : SubscriptionRequest) :
    Runs (Answered store.codec json (.call (.start_subscription request)) first) (Quiet .RecoveryRequired first)
      (NativeSyncClient.start_subscription_owned store request) guard ledger := by
  refine runs_refresh_bind hintact (fun _ _ _ hintact => hintact.quiet) fun guard ledger hintact => ?_
  refine runs_read_bind hintact.sound (fun runtime hread => ?_) fun _ _ => hintact.quiet
  obtain rfl := hintact.agrees runtime (read_client_eq_ok_iff.mp hread).2.1
  refine runs_lift_bind hintact.sound (fun prepared hprepare => ?_) fun _ _ => hintact.quiet
  exact runs_persist_prepared hintact.sound hintact.agrees hintact.content hprepare

theorem runs_cancel_subscription (hintact : Intact first guard ledger) (subscription_id : String)
    (generation : UInt64) :
    Runs (Answered store.codec json (.call (.cancel_subscription subscription_id generation)) first)
      (Quiet .RecoveryRequired first)
      (NativeSyncClient.cancel_subscription_owned store subscription_id generation) guard ledger := by
  refine runs_refresh_bind hintact (fun _ _ _ hintact => hintact.quiet) fun guard ledger hintact => ?_
  refine runs_read_bind hintact.sound (fun runtime hclient => ?_) fun _ _ => hintact.quiet
  obtain rfl := hintact.content_of_client hclient
  refine runs_lift_bind hintact.sound (fun prepared hprepare => ?_) fun _ _ => hintact.quiet
  exact runs_persist_prepared hintact.sound hintact.agrees hintact.content hprepare

theorem runs_withdraw_subscription {runtime : ClientRuntime V} (hintact : Intact (some runtime) guard ledger)
    (response : SubscriptionResponse V) (block : ScopeBlock) (refused : ClientError)
    {P : NativeSyncStatus → RuntimeGuard V → Ledger V key bound → Prop} :
    Runs P (fun _ _ => True) (NativeSyncClient.withdraw_subscription store response block refused) guard ledger := by
  have hblocked := hintact.update (guard.block block) hintact.clean rfl rfl rfl
  refine runs_modify_bind (runs_read_bind hblocked.sound (fun current hcurrent => ?_) fun _ _ => trivial)
  refine runs_bind (runs_save_scope_barrier hblocked.sound hblocked.agrees hblocked.content
    (hblocked.content_of_client hcurrent) fun _ _ => trivial) fun _ guard ledger hsound hkept => ?_
  refine runs_read_bind hsound (fun found hfound => ?_) fun _ _ => trivial
  have hsame := hkept.1 found (client_eq_ok_iff.mp hfound).2
  refine runs_lift_bind hsound (fun cancel hcancel => ?_) fun _ _ => trivial
  have htransition : found.prepare_transition (.CancelSubscription response.subscription_id response.generation) =
      .ok cancel := map_err_eq_ok_iff.mp hcancel
  refine runs_bind (P := fun _ _ _ => True) ?_ fun _ guard ledger hsound _ => runs_throw hsound trivial
  refine Async.Safe.imp (runs_persist_and_install hsound (hkept.2 ▸ hkept.1) (hkept.2.trans hsame) htransition)
    fun result guard ledger hends => ⟨hends.sound, fun _ _ => trivial, fun _ _ => trivial⟩

theorem runs_apply_subscription_response (hintact : Intact first guard ledger) (response : SubscriptionResponse V) :
    Runs (Answered store.codec json (.call (.apply_subscription_response response)) first) (fun _ _ => True)
      (NativeSyncClient.apply_subscription_response_owned store response) guard ledger := by
  refine runs_lift_bind hintact.sound (fun parsed hparsed => ?_) fun _ _ => trivial
  refine runs_refresh_bind hintact (fun _ _ _ _ => trivial) fun guard ledger hintact => ?_
  refine runs_read_bind hintact.sound (fun runtime hread => ?_) fun _ _ => trivial
  obtain rfl := hintact.agrees runtime (read_client_eq_ok_iff.mp hread).2.1
  cases hprepare : runtime.prepare_subscription_response parsed with
  | ok prepared =>
    have hcall : prepare store.codec runtime (.apply_subscription_response response) = .ok prepared := by
      unfold prepare
      exact (bind_of_ok hparsed).trans (map_err_eq_ok_iff.mpr hprepare)
    have hpersisted : Runs (Answered store.codec json (.call (.apply_subscription_response response)) (some runtime))
        (Quiet .RecoveryRequired (some runtime)) (NativeSyncClient.persist_and_install store prepared) guard ledger :=
      runs_persist_prepared hintact.sound hintact.agrees hintact.content hcall
    exact Async.Safe.imp hpersisted fun _ _ _ hends => ⟨hends.sound, hends.ok, fun _ _ => trivial⟩
  | error refused =>
    dsimp only
    split
    · exact runs_withdraw_subscription hintact parsed _ refused
    · exact runs_throw hintact.sound trivial

/-! ### Reads -/

/-- What a read answers from is in the journal, and no other call of the handle had ended it. -/
structure Observed (first : Content V) (runtime : ClientRuntime V) (guard : RuntimeGuard V) (ledger : Ledger V key bound) :
    Prop extends Intact first guard ledger where
  live : guard.Live
  journal : first = some runtime

theorem runs_observe (hintact : Intact first guard ledger) :
    Runs (Observed first) (Quiet .RecoveryRequired first) NativeSyncClient.observe guard ledger := by
  refine ⟨hintact.sound, fun runtime hclient => ?_, fun _ _ => hintact.quiet⟩
  exact ⟨hintact, (client_eq_ok_iff.mp hclient).1, hintact.content_of_client hclient⟩

theorem runs_observe_authorized (hintact : Intact first guard ledger) :
    Runs (fun runtime guard ledger => Observed first runtime guard ledger ∧ guard.cell.scope_blocked = none)
      (Quiet .RecoveryRequired first) NativeSyncClient.observe_authorized guard ledger := by
  refine runs_refresh_bind hintact (fun _ _ _ hintact => hintact.quiet) fun guard ledger hintact => ?_
  refine ⟨hintact.sound, fun runtime hread => ?_, fun _ _ => hintact.quiet⟩
  obtain ⟨hlive, hruntime, hopen⟩ := read_client_eq_ok_iff.mp hread
  exact ⟨⟨hintact, hlive, hintact.agrees runtime hruntime⟩, hopen⟩

end surrealdb_rn_core.sync_client
