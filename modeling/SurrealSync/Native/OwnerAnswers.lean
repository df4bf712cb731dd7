import SurrealSync.Native.OwnerOpening
import SurrealSync.Native.OwnerSessions
import SurrealSync.Native.OwnerSystem

open Std Except
open surrealdb_sync_protocol surrealdb_sync_protocol.subscription surrealdb_sync_protocol.bootstrap_codec
open surrealdb_sync_client
open surrealdb_rn_core.sync_state surrealdb_rn_core.sync_bootstrap_store surrealdb_rn_core.sync_bootstrap

namespace surrealdb_rn_core.sync_client

open sync_codec sync_subscription

variable {F V C : Type} [DecidableEq V]

/-! ### What an answer says -/

/-- The content that a call has found and the one that it leaves, by what it answered; a session is served under the
binding that its call has found. -/
inductive Explains (codec : Codec V) (json : sync_queue.JsonWriter (ClientCommit V)) (first : Content V)
    (bound : Binding) : Call V → Answer V → Content V → Binding → Prop where
  | initialize_runtime {rotates : Bool} {options : NativeSyncOpenOptions} {mode : OpenMode} {runtime : ClientRuntime V}
      {binding : Binding} (hopens : Opens options first runtime)
      (hscope : runtime.state.requested_scope = options.requested_scope)
      (hrevision : runtime.state.subscription_revision = options.subscription_revision) :
      Explains codec json first bound (.initialize_runtime rotates options mode) .done (some runtime) binding
  | native {call : NativeCall V} {status : NativeSyncStatus} {before after : ClientRuntime V} {binding : Binding}
      (hfirst : first = some before) (hanswers : FacadeAnswers codec json before (.call call) status after) :
      Explains codec json first bound (.native call) (.status status) (some after) binding
  | enqueue_bounded {commit : ClientCommit V} {count bytes : UInt32} {status : NativeSyncStatus}
      {before after : ClientRuntime V} {binding : Binding} (hfirst : first = some before)
      (hanswers : FacadeAnswers codec json before (.enqueue_bounded commit count bytes) status after) :
      Explains codec json first bound (.enqueue_bounded commit count bytes) (.status status) (some after) binding
  | observe {runtime : ClientRuntime V} {binding : Binding} (hfirst : first = some runtime) :
      Explains codec json first bound .observe (.client runtime) first binding
  | observe_authorized {runtime : ClientRuntime V} {binding : Binding} (hfirst : first = some runtime) :
      Explains codec json first bound .observe_authorized (.client runtime) first binding
  | bind_bootstrap_session {context : BootstrapContext} {ticket : UInt64} :
      Explains codec json first bound (.bind_bootstrap_session context) (.ticket ticket) first (some context, ticket)
  | session {self : NativeBootstrapSession} {call : SessionCall} {answer : Answer V} {binding : Binding}
      (hanswer : answer ≠ .completion .Applied) (hsession : bound = (some self.expected, self.ticket)) :
      Explains codec json first bound (.session self call) answer first binding
  | complete {self : NativeBootstrapSession} {rotates : Bool} {clock : CompletionClock}
      {reason : Option NativeBootstrapError} {stage : NativeBootstrapStage} {receipt : Bytes}
      {before after : ClientRuntime V} {checkpoint : Checkpoint} {records : List (SnapshotRecord V)} {binding : Binding}
      (hsession : bound = (some self.expected, self.ticket)) (hfirst : first = some before)
      (hstep : surrealdb_sync_client.Step before (.BootstrapSnapshot checkpoint records) after) :
      Explains codec json first bound (.session self (.complete rotates clock reason stage receipt))
        (.completion .Applied) (some after) binding

/-- Whether the caller is sent to recovery. -/
def Failure.recovery_required : Failure → Prop
  | .native e => e = .RecoveryRequired
  | .bootstrap e => e = .RecoveryRequired

/-- What a failed call has left. An opening and the response to a subscription write in several transactions, and of the
others none has changed anything unless it asks for recovery. -/
def Excuses (first : Content V) (failure : Failure) (last : Content V) : Call V → Prop
  | .initialize_runtime .. | .native (.apply_subscription_response _) => True
  | .native _ | .enqueue_bounded .. | .observe | .observe_authorized | .bind_bootstrap_session _ | .session .. =>
    failure.recovery_required ∨ last = first

/-- A call was answered over a guard that nothing keeps from answering. -/
structure Told (codec : Codec V) (json : sync_queue.JsonWriter (ClientCommit V)) (first : Content V) {key : SyncStateKey}
    {bound : Binding} (call : Call V) (answer : Answer V) (guard : RuntimeGuard V) (ledger : Ledger V key bound) :
    Prop where
  live : guard.Live
  explains : Explains codec json first bound call answer ledger.content guard.cell.binding

variable {store : Store F V C} {json : sync_queue.JsonWriter (ClientCommit V)} {key : SyncStateKey} {bound : Binding}
  {guard : RuntimeGuard V} {ledger : Ledger V key bound} {first : Content V} {ε α : Type}

theorem runs_told {P : Answer V → RuntimeGuard V → Ledger V key bound → Prop} {E : Failure → Ledger V key bound → Prop}
    {failure : ε → Failure} {answer : α → Answer V} {part : Guarded ε V α}
    (hpart : Runs (fun a => P (answer a)) (fun e => E (failure e)) part guard ledger) :
    Runs P E (part.told failure answer) guard ledger :=
  runs_bind (runs_mapError hpart) fun _ _ _ hsound htold => runs_pure hsound htold

/-- How the parts of a call are told to its caller. -/
theorem runs_told_of {P : α → RuntimeGuard V → Ledger V key bound → Prop} {E : ε → Ledger V key bound → Prop}
    {failure : ε → Failure} {answer : α → Answer V} {part : Guarded ε V α} {call : Call V}
    (hpart : Runs P E part guard ledger)
    (hok : ∀ a (guard : RuntimeGuard V) (ledger : Ledger V key bound), P a guard ledger →
      Told store.codec json first call (answer a) guard ledger)
    (herror : ∀ e (ledger : Ledger V key bound), E e ledger → Excuses first (failure e) ledger.content call) :
    Runs (Told store.codec json first call) (fun failure ledger => Excuses first failure ledger.content call)
      (part.told failure answer) guard ledger := by
  refine runs_told (Async.Safe.imp hpart fun result guard ledger hends => ?_)
  exact ⟨hends.sound, fun a h => hok a guard ledger (hends.ok a h), fun e h => herror e ledger (hends.error e h)⟩

theorem excuses_of_quiet {call : Call V} {failure : ε → Failure} {recovery : ε} (hrecovery : (failure recovery).recovery_required)
    (e : ε) (ledger : Ledger V key bound) (hquiet : Quiet recovery first e ledger) :
    Excuses first (failure e) ledger.content call := by
  have hexcuse : (failure e).recovery_required ∨ ledger.content = first := by
    rcases hquiet with rfl | hsame
    · exact .inl hrecovery
    · exact .inr hsame
  unfold Excuses
  split
  · trivial
  · trivial
  all_goals exact hexcuse

theorem excuses_of_unmoved {call : Call V} {failure : ε → Failure} (e : ε) (ledger : Ledger V key bound)
    (hunmoved : Unmoved first e ledger) : Excuses first (failure e) ledger.content call := by
  unfold Excuses
  split
  · trivial
  · trivial
  all_goals exact .inr hunmoved

theorem told_of_answered {call : NativeCall V} (status : NativeSyncStatus) (guard : RuntimeGuard V)
    (ledger : Ledger V key bound) (hanswered : Answered store.codec json (.call call) first status guard ledger) :
    Told store.codec json first (.native call) (.status status) guard ledger := by
  obtain ⟨before, after, hfirst, hanswers, hcontent, _⟩ := hanswered.facade
  exact ⟨hanswered.live, hcontent ▸ .native hfirst hanswers⟩

theorem runs_native (hintact : Intact first guard ledger) (call : NativeCall V) :
    Runs (Told store.codec json first (.native call)) (fun failure ledger => Excuses first failure ledger.content (.native call))
      ((NativeSyncClient.run store call).told .native .status) guard ledger := by
  have hquiet := @excuses_of_quiet V _ key bound first NativeSyncError (.native call) .native .RecoveryRequired rfl
  cases call with
  | apply_pull_response response => exact runs_told_of (runs_apply_pull_response hintact response) told_of_answered hquiet
  | start_subscription request => exact runs_told_of (runs_start_subscription hintact request) told_of_answered hquiet
  | cancel_subscription subscription_id generation =>
    exact runs_told_of (runs_cancel_subscription hintact subscription_id generation) told_of_answered hquiet
  | apply_subscription_response response =>
    exact runs_told_of (runs_apply_subscription_response hintact response) told_of_answered fun _ _ _ => trivial
  | enqueue commit => exact runs_told_of (runs_mutate hintact _) told_of_answered hquiet
  | record_push_response response policy => exact runs_told_of (runs_mutate hintact _) told_of_answered hquiet
  | resolve_conflict_keep_server commit_id => exact runs_told_of (runs_mutate hintact _) told_of_answered hquiet
  | resolve_conflict_keep_local commit_id replacement => exact runs_told_of (runs_mutate hintact _) told_of_answered hquiet
  | resolve_conflict_merge commit_id replacement => exact runs_told_of (runs_mutate hintact _) told_of_answered hquiet

theorem told_of_served {self : NativeBootstrapSession} {call : SessionCall} {answer : Answer V} {guard : RuntimeGuard V}
    {ledger : Ledger V key bound} (hanswer : answer ≠ .completion .Applied)
    (hserved : Served first self.expected self.ticket guard ledger) :
    Told store.codec json first (.session self call) answer guard ledger :=
  ⟨hserved.live, hserved.content ▸ .session hanswer hserved.session⟩

theorem told_of_concluded {self : NativeBootstrapSession} {rotates : Bool} {clock : CompletionClock}
    {reason : Option NativeBootstrapError} {stage : NativeBootstrapStage} {receipt : Bytes}
    (completion : NativeBootstrapCompletion) (guard : RuntimeGuard V) (ledger : Ledger V key bound)
    (hconcluded : Concluded first self.expected self.ticket (completion = .Applied) guard ledger) :
    Told store.codec json first (.session self (.complete rotates clock reason stage receipt))
      (.completion completion) guard ledger := by
  refine ⟨hconcluded.live, ?_⟩
  have hconcludes := hconcluded.concludes
  cases completion with
  | Applied =>
    cases hconcludes with
    | applied hfirst hstep hcontent _ => exact hcontent ▸ .complete hconcluded.session hfirst hstep
  | HistoricalSuccess =>
    cases hconcludes with
    | historical hcontent _ => exact hcontent ▸ .session (by simp) hconcluded.session

theorem runs_session (hintact : Intact first guard ledger) (hbound : guard.cell.binding = bound)
    (self : NativeBootstrapSession) (call : SessionCall) :
    Runs (Told store.codec json first (.session self call))
      (fun failure ledger => Excuses first failure ledger.content (.session self call)) (call.run store self) guard ledger := by
  cases call with
  | request_start =>
    exact runs_told_of (NativeBootstrapSession.runs_request_start hintact hbound)
      (fun _ _ _ => told_of_served (by simp)) excuses_of_unmoved
  | request_manifest stage =>
    exact runs_told_of (NativeBootstrapSession.runs_request_manifest hintact hbound stage)
      (fun _ _ _ => told_of_served (by simp)) excuses_of_unmoved
  | progress manifest =>
    exact runs_told_of (NativeBootstrapSession.runs_progress hintact hbound manifest)
      (fun _ _ _ => told_of_served (by simp)) excuses_of_unmoved
  | begin start manifest =>
    exact runs_told_of (NativeBootstrapSession.runs_begin_owned hintact hbound start manifest)
      (fun _ _ _ => told_of_served (by simp)) excuses_of_unmoved
  | page stage bytes =>
    exact runs_told_of (NativeBootstrapSession.runs_page_owned hintact hbound stage bytes)
      (fun _ _ _ => told_of_served (by simp)) excuses_of_unmoved
  | cancel stage =>
    exact runs_told_of (NativeBootstrapSession.runs_cancel_owned hintact hbound stage)
      (fun _ _ _ => told_of_served (by simp)) excuses_of_unmoved
  | complete rotates clock reason stage receipt =>
    exact runs_told_of (NativeBootstrapSession.runs_complete_owned hintact hbound stage receipt)
      told_of_concluded (excuses_of_quiet rfl)

/-- Every call, over a guard that shows the client of its journal. -/
theorem runs_call (hintact : Intact first guard ledger) (hbound : guard.cell.binding = bound) {call : Call V}
    (habout : call.about key) :
    Runs (Told store.codec json first call) (fun failure ledger => Excuses first failure ledger.content call)
      (call.run store json) guard ledger := by
  cases call with
  | initialize_runtime rotates options mode =>
    refine runs_told_of (runs_initialize_runtime hintact habout rotates mode) (fun _ guard ledger hinitialized => ?_)
      fun _ _ _ => trivial
    obtain ⟨runtime, hopens, hcontent, _, hscope, hrevision⟩ := hinitialized.client
    exact ⟨hinitialized.live, hcontent ▸ .initialize_runtime hopens hscope hrevision⟩
  | native call => exact runs_native hintact call
  | enqueue_bounded commit count bytes =>
    refine runs_told_of (runs_enqueue_bounded hintact commit count bytes) (fun status guard ledger hanswered => ?_)
      (excuses_of_quiet rfl)
    obtain ⟨before, after, hfirst, hanswers, hcontent, _⟩ := hanswered.facade
    exact ⟨hanswered.live, hcontent ▸ .enqueue_bounded hfirst hanswers⟩
  | observe =>
    refine runs_told_of (runs_observe hintact) (fun runtime guard ledger hobserved => ?_) (excuses_of_quiet rfl)
    refine ⟨hobserved.live, ?_⟩
    rw [hobserved.content]
    exact .observe hobserved.journal
  | observe_authorized =>
    refine runs_told_of (runs_observe_authorized hintact) (fun runtime guard ledger hobserved => ?_)
      (excuses_of_quiet rfl)
    refine ⟨hobserved.1.live, ?_⟩
    rw [hobserved.1.content]
    exact .observe_authorized hobserved.1.journal
  | bind_bootstrap_session context =>
    refine runs_told_of (runs_bind_bootstrap_session hintact context) (fun ticket guard ledger hbinds => ?_)
      excuses_of_unmoved
    refine ⟨hbinds.live, ?_⟩
    rw [hbinds.content, hbinds.session]
    exact .bind_bootstrap_session
  | session self call => exact runs_session hintact hbound self call

/-! ### Guards that answer nothing -/

theorem refuses_session_bind {rest : Unit → Guarded NativeSyncError V α} (hdead : ¬ guard.Live) :
    Async.Refuses (Async.read RuntimeGuard.ensure_session >>= rest) guard :=
  Async.refuses_read_bind fun _ hsession => absurd (ensure_session_eq_ok_iff.mp hsession) hdead

theorem refuses_client_bind {rest : ClientRuntime V → Guarded NativeSyncError V α} (hdead : ¬ guard.Live) :
    Async.Refuses (Async.read RuntimeGuard.client >>= rest) guard :=
  Async.refuses_read_bind fun _ hclient => absurd (client_eq_ok_iff.mp hclient).1 hdead

theorem refuses_refresh (hdead : ¬ guard.Live) :
    Async.Refuses (NativeSyncClient.refresh_scope_barrier : Guarded NativeSyncError V Unit) guard :=
  refuses_client_bind hdead

theorem refuses_access_bind {expected : BootstrapContext} {ticket : Option UInt64}
    {rest : Unit → Guarded NativeBootstrapError V α} (hdead : ¬ guard.Live) :
    Async.Refuses (Async.read (RuntimeGuard.bootstrap_access expected ticket) >>= rest) guard :=
  Async.refuses_read_bind fun _ haccess => absurd (admitted_of_access haccess).live hdead

theorem refuses_told {failure : ε → Failure} {answer : α → Answer V} {part : Guarded ε V α}
    (hrefuses : Async.Refuses part guard) : Async.Refuses (part.told failure answer) guard :=
  (hrefuses.mapError failure).bind _

theorem refuses_native (hdead : ¬ guard.Live) (call : NativeCall V) :
    Async.Refuses (NativeSyncClient.run store call) guard := by
  cases call with
  | apply_pull_response response => exact Async.refuses_lift_bind fun _ _ => refuses_client_bind hdead
  | start_subscription request => exact (refuses_refresh hdead).bind _
  | cancel_subscription subscription_id generation => exact (refuses_refresh hdead).bind _
  | apply_subscription_response response => exact Async.refuses_lift_bind fun _ _ => (refuses_refresh hdead).bind _
  | enqueue commit => exact refuses_client_bind hdead
  | record_push_response response policy => exact refuses_client_bind hdead
  | resolve_conflict_keep_server commit_id => exact refuses_client_bind hdead
  | resolve_conflict_keep_local commit_id replacement => exact refuses_client_bind hdead
  | resolve_conflict_merge commit_id replacement => exact refuses_client_bind hdead

theorem refuses_sessionCall (hdead : ¬ guard.Live) (self : NativeBootstrapSession) (call : SessionCall) :
    Async.Refuses (call.run store self) guard := by
  cases call with
  | request_start => exact refuses_told (refuses_access_bind hdead)
  | request_manifest stage =>
    refine refuses_told (Async.refuses_lift_bind fun _ _ => Async.refuses_lift_bind fun _ _ => ?_)
    exact refuses_access_bind hdead
  | progress manifest => exact refuses_told (Async.refuses_lift_bind fun _ _ => refuses_access_bind hdead)
  | begin start manifest => exact refuses_told (Async.refuses_lift_bind fun _ _ => refuses_access_bind hdead)
  | page stage bytes => exact refuses_told (Async.refuses_lift_bind fun _ _ => refuses_access_bind hdead)
  | cancel stage => exact refuses_told (Async.refuses_lift_bind fun _ _ => refuses_access_bind hdead)
  | complete rotates clock reason stage receipt =>
    refine refuses_told (Async.refuses_lift_bind fun _ _ => ?_)
    exact (Async.Refuses.mapError (Async.refuses_read_bind fun _ _ => refuses_client_bind hdead) _).bind _

/-- A call whose owner is poisoned, whose handle is closed or whose session has ended does nothing at all. -/
theorem refuses_call (hdead : ¬ guard.Live) (call : Call V) : Async.Refuses (call.run store json) guard := by
  cases call with
  | initialize_runtime rotates options mode =>
    cases mode with
    | CreateIfMissing => exact refuses_told (refuses_session_bind hdead)
    | ExistingOnly => exact refuses_told (refuses_session_bind hdead)
  | native call => exact refuses_told (refuses_native hdead call)
  | enqueue_bounded commit count bytes =>
    exact refuses_told (Async.refuses_lift_bind fun _ _ => refuses_client_bind hdead)
  | observe =>
    refine refuses_told ?_
    cases hclient : guard.client with
    | ok runtime => exact absurd (client_eq_ok_iff.mp hclient).1 hdead
    | error e => exact ⟨e, congrArg (fun result => (guard, Async.Point.returned result)) hclient⟩
  | observe_authorized => exact refuses_told ((refuses_refresh hdead).bind _)
  | bind_bootstrap_session context => exact refuses_told (Async.refuses_lift_bind fun _ _ => refuses_access_bind hdead)
  | session self call => exact refuses_sessionCall hdead self call

end surrealdb_rn_core.sync_client
