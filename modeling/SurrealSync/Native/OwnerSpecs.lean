import SurrealSync.Client.Redelivery
import SurrealSync.Native.Journals

open Std Except
open surrealdb_sync_protocol surrealdb_sync_protocol.subscription surrealdb_sync_protocol.bootstrap_codec
open surrealdb_sync_client
open surrealdb_rn_core.sync_state surrealdb_rn_core.sync_bootstrap_store

namespace surrealdb_rn_core.sync_client

open sync_codec sync_subscription

variable {F V C : Type} [DecidableEq V]

/-! ### Bindings -/

/-- The context that a cell is bound to, and the ticket of this binding. -/
abbrev Binding := Option BootstrapContext × UInt64

def Cell.binding (cell : Cell V) : Binding := (cell.bootstrap_binding, cell.bootstrap_binding_ticket)

/-- A cell is bound to another context: of the same owner, with no lower authorization, under the next ticket. -/
inductive Rebind : Binding → Binding → Prop where
  | bind {bound : Option BootstrapContext} {ticket next : UInt64} {expected : BootstrapContext}
      (hticket : next.toNat = ticket.toNat + 1)
      (howner : ∀ context ∈ bound, same_owner context expected ∧
        context.scope.authorization_revision ≤ expected.scope.authorization_revision) :
      Rebind (bound, ticket) (some expected, next)

abbrev Rebinds : Binding → Binding → Prop := Relation.ReflTransGen Rebind

/-! ### The journal as a guard relies on it -/

/-- What keeps a guard from answering: the owner is poisoned, the handle is closed, or the session has ended. -/
structure Flags where
  poison_all : Bool
  local_closed : Bool
  session_ended : Bool

/-- Flags that are set stay set. -/
structure Flags.Raised (flags : Flags) (poison_all local_closed session_ended : Bool) : Prop where
  poison_all : flags.poison_all = true → poison_all = true
  local_closed : flags.local_closed = true → local_closed = true
  session_ended : flags.session_ended = true → session_ended = true

/-- The flags of a guard that goes on from a reply. -/
def RuntimeGuard.flags (guard : RuntimeGuard V) (unsettled : Bool) : Flags :=
  ⟨guard.poison_all || unsettled, guard.local_closed, guard.session_ended⟩

/-- The content of the journal of a key, and the flags that its guard found when it last went on. -/
structure Ledger (V : Type) [DecidableEq V] (key : SyncStateKey) (bound : Binding) where
  content : Content V
  flags : Flags
  keyed : ∀ runtime ∈ content, SyncStateKey.of runtime.state = key

/-- A client in memory is the one in the journal. -/
def RuntimeGuard.Agrees (guard : RuntimeGuard V) (content : Content V) : Prop :=
  ∀ runtime ∈ guard.cell.runtime, content = some runtime

/-- What others may do to a guard: its flags are set, and nothing else. -/
structure RuntimeGuard.Interferes (guard later : RuntimeGuard V) : Prop where
  cell : later.cell = guard.cell
  mutation_phase : later.mutation_phase = guard.mutation_phase
  poison_all : guard.poison_all = true → later.poison_all = true
  local_closed : guard.local_closed = true → later.local_closed = true
  session_ended : guard.session_ended = true → later.session_ended = true

/-- A guard may be released: a clean one agrees with the journal, no flag was taken back, an unsettled transaction has
poisoned the owner, and the cell was bound as bindings go on. -/
structure RuntimeGuard.Sound {key : SyncStateKey} {bound : Binding} (guard : RuntimeGuard V) (ledger : Ledger V key bound) : Prop where
  agrees : guard.mutation_phase = .Clean → guard.Agrees ledger.content
  raised : ledger.flags.Raised guard.poison_all guard.local_closed guard.session_ended
  rebinds : Rebinds bound guard.cell.binding

/-- A guard may be dropped while it waits for this: the request is about its own journal, moves it by moves of a
client only, and is armed when it is a transaction. -/
structure Droppable (key : SyncStateKey) (request : DatabaseCall V) (guard : RuntimeGuard V) (ledger : Ledger V key bound) :
    Prop where
  sound : guard.Sound ledger
  own : ∀ asked, request.key = some asked → asked = key
  armed : ∀ transaction, request = .act transaction → guard.mutation_phase = .InFlight
  moves : ∀ reply next, request.Effect reply ledger.content next → Moves key ledger.content next

/-- What a guard of this key relies on while it waits. -/
def context (key : SyncStateKey) (bound : Binding) : Async.Context (RuntimeGuard V) (Ledger V key bound) (@DatabaseCall.Reply V) where
  serves ledger request reply later next :=
    request.Effect reply ledger.content next.content ∧ next.flags = later.flags (request.unsettles reply)
  interferes := RuntimeGuard.Interferes
  droppable := Droppable key

/-- How a part of a call ends. -/
structure Ends {key : SyncStateKey} {bound : Binding} {ε α : Type} (P : α → RuntimeGuard V → Ledger V key bound → Prop)
    (E : ε → Ledger V key bound → Prop) (result : Except ε α) (guard : RuntimeGuard V) (ledger : Ledger V key bound) : Prop where
  sound : guard.Sound ledger
  ok : ∀ a, result = .ok a → P a guard ledger
  error : ∀ e, result = .error e → E e ledger

/-- A part of a call, from here on. -/
abbrev Runs {key : SyncStateKey} {bound : Binding} {ε α : Type} (P : α → RuntimeGuard V → Ledger V key bound → Prop)
    (E : ε → Ledger V key bound → Prop) (part : Guarded ε V α) (guard : RuntimeGuard V) (ledger : Ledger V key bound) : Prop :=
  Async.Safe (context key bound) (Ends P E) part guard ledger

variable {store : Store F V C} {key : SyncStateKey} {bound : Binding}
  {guard later : RuntimeGuard V} {ledger : Ledger V key bound} {ε α β : Type}
  {P : α → RuntimeGuard V → Ledger V key bound → Prop} {E : ε → Ledger V key bound → Prop}

theorem RuntimeGuard.Interferes.refl (guard : RuntimeGuard V) : guard.Interferes guard := ⟨rfl, rfl, id, id, id⟩

theorem RuntimeGuard.Interferes.trans {last : RuntimeGuard V} (hfirst : guard.Interferes later)
    (hsecond : later.Interferes last) : guard.Interferes last :=
  ⟨hsecond.cell.trans hfirst.cell, hsecond.mutation_phase.trans hfirst.mutation_phase,
    fun hset => hsecond.poison_all (hfirst.poison_all hset), fun hset => hsecond.local_closed (hfirst.local_closed hset),
    fun hset => hsecond.session_ended (hfirst.session_ended hset)⟩

theorem RuntimeGuard.Interferes.agrees {content : Content V} (hinterferes : guard.Interferes later)
    (hagrees : guard.Agrees content) : later.Agrees content := by
  unfold RuntimeGuard.Agrees
  rw [hinterferes.cell]
  exact hagrees

theorem Flags.Raised.mono {flags : Flags}
    (hraised : flags.Raised guard.poison_all guard.local_closed guard.session_ended)
    (hinterferes : guard.Interferes later) : flags.Raised later.poison_all later.local_closed later.session_ended :=
  ⟨fun hset => hinterferes.poison_all (hraised.poison_all hset),
    fun hset => hinterferes.local_closed (hraised.local_closed hset),
    fun hset => hinterferes.session_ended (hraised.session_ended hset)⟩

theorem RuntimeGuard.raised_flags (guard : RuntimeGuard V) :
    (guard.flags false).Raised guard.poison_all guard.local_closed guard.session_ended :=
  ⟨fun hset => (Bool.or_false _).symm.trans hset, id, id⟩

theorem RuntimeGuard.Sound.interfered (hsound : guard.Sound ledger) (hinterferes : guard.Interferes later) :
    later.Sound ledger := by
  refine ⟨fun hclean => hinterferes.agrees (hsound.agrees ?_), hsound.raised.mono hinterferes, ?_⟩
  · rw [← hinterferes.mutation_phase, hclean]
  · rw [hinterferes.cell]
    exact hsound.rebinds

theorem context_stable (key : SyncStateKey) (bound : Binding) : (context key bound : Async.Context (RuntimeGuard V) _ _).Stable := by
  refine ⟨RuntimeGuard.Interferes.trans, fun hdroppable hinterferes => ?_⟩
  exact ⟨hdroppable.sound.interfered hinterferes, hdroppable.own,
    fun transaction hrequest => hinterferes.mutation_phase.trans (hdroppable.armed transaction hrequest),
    hdroppable.moves⟩

/-! ### Rules -/

theorem runs_bind {Q : β → RuntimeGuard V → Ledger V key bound → Prop} {part : Guarded ε V α} {rest : α → Guarded ε V β}
    (hpart : Runs P E part guard ledger)
    (hrest : ∀ a guard ledger, guard.Sound ledger → P a guard ledger → Runs Q E (rest a) guard ledger) :
    Runs Q E (part >>= rest) guard ledger := by
  refine Async.safe_bind.mpr (Async.Safe.imp hpart fun result guard ledger hends => ?_)
  cases result with
  | ok a => exact hrest a guard ledger hends.sound (hends.ok a rfl)
  | error e => exact ⟨hends.sound, nofun, fun _ herror => hends.error _ (congrArg Except.error (error.inj herror))⟩

theorem runs_pure {a : α} (hsound : guard.Sound ledger) (hpost : P a guard ledger) :
    Runs P E (pure a) guard ledger := by
  refine ⟨hsound, ?_, nofun⟩
  rintro _ ⟨⟩
  exact hpost

theorem runs_throw {e : ε} (hsound : guard.Sound ledger) (herror : E e ledger) :
    Runs P E (Async.throw e) guard ledger := by
  refine ⟨hsound, nofun, ?_⟩
  rintro _ ⟨⟩
  exact herror

theorem runs_lift {result : Except ε α} (hsound : guard.Sound ledger) (hok : ∀ a, result = .ok a → P a guard ledger)
    (herror : ∀ e, result = .error e → E e ledger) : Runs P E (Async.lift result) guard ledger :=
  ⟨hsound, hok, herror⟩

theorem runs_modify_bind {update : RuntimeGuard V → RuntimeGuard V} {rest : Unit → Guarded ε V α}
    (hrest : Runs P E (rest ()) (update guard) ledger) : Runs P E (Async.modify update >>= rest) guard ledger :=
  Async.safe_bind.mpr hrest

theorem runs_get_bind {rest : RuntimeGuard V → Guarded ε V α} (hrest : Runs P E (rest guard) guard ledger) :
    Runs P E (Async.get >>= rest) guard ledger :=
  Async.safe_bind.mpr hrest

/-- A part that only looks at its guard and an early return. -/
theorem runs_read_bind {view : RuntimeGuard V → Except ε β} {rest : β → Guarded ε V α} (hsound : guard.Sound ledger)
    (hok : ∀ b, view guard = .ok b → Runs P E (rest b) guard ledger)
    (herror : ∀ e, view guard = .error e → E e ledger) : Runs P E (Async.read view >>= rest) guard ledger := by
  refine Async.safe_bind.mpr ?_
  rw [Async.safe_read]
  cases hview : view guard with
  | ok b => exact hok b hview
  | error e =>
    refine ⟨hsound, nofun, ?_⟩
    rintro _ ⟨⟩
    exact herror e hview

theorem runs_lift_bind {result : Except ε β} {rest : β → Guarded ε V α} (hsound : guard.Sound ledger)
    (hok : ∀ b, result = .ok b → Runs P E (rest b) guard ledger) (herror : ∀ e, result = .error e → E e ledger) :
    Runs P E (Async.lift result >>= rest) guard ledger := by
  refine Async.safe_bind.mpr ?_
  rw [Async.safe_lift]
  cases hresult : result with
  | ok b => exact hok b hresult
  | error e =>
    refine ⟨hsound, nofun, ?_⟩
    rintro _ ⟨⟩
    exact herror e hresult

/-- A wait: dropped here it leaves a journal that agrees, and the rest goes on from what the reply tells. -/
theorem runs_call_bind {request : DatabaseCall V} {rest : request.Reply → Guarded ε V α}
    (hdroppable : Droppable key request guard ledger)
    (hrest : ∀ reply (later : RuntimeGuard V) (next : Ledger V key bound), guard.Interferes later →
      request.Effect reply ledger.content next.content →
      next.flags = later.flags (request.unsettles reply) → Runs P E (rest reply) later next) :
    Runs P E (Async.call request >>= rest) guard ledger := by
  refine Async.safe_bind.mpr ⟨hdroppable, fun reply later next hserves hinterferes => ?_⟩
  exact hrest reply later next hinterferes hserves.1 hserves.2

/-- Reads of the database leave the journal as it is. -/
theorem DatabaseCall.Effect.of_reading {request : DatabaseCall V} {reply : request.Reply} {before after : Content V}
    (heffect : request.Effect reply before after) (hreads : ∀ transaction, request ≠ .act transaction) :
    after = before := by
  cases request with
  | define_schema => exact heffect
  | load asked => exact heffect.1
  | inspect asked => exact heffect.1
  | load_scope_barrier asked => exact heffect
  | resume manifest expected incarnation => exact heffect
  | act transaction => exact absurd rfl (hreads transaction)

theorem Droppable.of_reading {request : DatabaseCall V} (hsound : guard.Sound ledger)
    (hown : ∀ asked, request.key = some asked → asked = key) (hreads : ∀ transaction, request ≠ .act transaction) :
    Droppable key request guard ledger := by
  refine ⟨hsound, hown, fun transaction hrequest => absurd hrequest (hreads transaction), fun reply next heffect => ?_⟩
  rw [heffect.of_reading hreads]

/-- After such a read, the guard is as sound as before. -/
theorem RuntimeGuard.Sound.after_reading {next : Ledger V key bound} (hsound : guard.Sound ledger)
    (hinterferes : guard.Interferes later) (hsame : next.content = ledger.content)
    (hflags : next.flags = later.flags false) : later.Sound next := by
  have hlater := hsound.interfered hinterferes
  exact ⟨fun hclean => hsame ▸ hlater.agrees hclean, hflags ▸ later.raised_flags, hlater.rebinds⟩

/-- A transaction is sent armed, and its reply says what became of it. -/
theorem runs_transact_bind {act : Act V} {rest : SyncResult (sync_bootstrap_store.Reply V) → Guarded ε V α}
    (hsound : guard.Sound ledger) (harmed : guard.mutation_phase = .InFlight) (hown : act.key = key)
    (hmoves : ∀ told next, Done act told ledger.content next → Moves key ledger.content next)
    (hrest : ∀ reply (later : RuntimeGuard V) (next : Ledger V key bound), guard.Interferes later →
      ActEffect act reply ledger.content next.content →
      next.flags = later.flags (unsettled reply) → Runs P E (rest reply) later next) :
    Runs P E (Guarded.transact act >>= rest) guard ledger := by
  have hdroppable : Droppable key (.act act) guard ledger := by
    refine ⟨hsound, fun asked hasked => (Option.some.inj hasked).symm.trans hown, fun _ _ => harmed, ?_⟩
    rintro reply next (⟨rfl, _⟩ | ⟨told, hdone, _⟩)
    · exact .refl
    · exact hmoves told next hdone
  exact runs_call_bind hdroppable hrest

/-! ### Guards -/

/-- Nothing keeps the calls of the handle from being answered. -/
structure RuntimeGuard.Live (guard : RuntimeGuard V) : Prop where
  poison_all : guard.poison_all = false
  local_closed : guard.local_closed = false
  session_ended : guard.session_ended = false

theorem ensure_session_eq_ok_iff {u : Unit} : guard.ensure_session = .ok u ↔ guard.Live := by
  simp only [RuntimeGuard.ensure_session, bind_eq_ok_iff, refuse_eq_ok_iff, Bool.not_eq_true]
  constructor
  · rintro ⟨_, hpoison, _, hclosed, hended⟩
    exact ⟨hpoison, hclosed, hended⟩
  · intro hlive
    exact ⟨(), hlive.poison_all, (), hlive.local_closed, hlive.session_ended⟩

theorem live_of_isOk (hok : guard.ensure_session.isOk = true) : guard.Live := by
  obtain ⟨u, hsession⟩ := Except.isOk_eq_true_iff.mp hok
  exact ensure_session_eq_ok_iff.mp hsession

theorem client_eq_ok_iff {runtime : ClientRuntime V} :
    guard.client = .ok runtime ↔ guard.Live ∧ guard.cell.runtime = some runtime := by
  simp only [RuntimeGuard.client, RuntimeState.client, bind_eq_ok_iff, okOr_eq_ok_iff, ensure_session_eq_ok_iff,
    exists_const]

theorem read_client_eq_ok_iff {runtime : ClientRuntime V} :
    guard.read_client = .ok runtime ↔
      guard.Live ∧ guard.cell.runtime = some runtime ∧ guard.cell.scope_blocked = none := by
  simp only [RuntimeGuard.read_client, RuntimeState.read_client, RuntimeState.client, bind_eq_ok_iff, okOr_eq_ok_iff,
    ensure_session_eq_ok_iff, exists_const]
  refine and_congr_right fun _ => ⟨?_, ?_⟩
  · rintro ⟨found, hfound, hopen⟩
    split at hopen
    · cases hopen
    · cases hopen
    · cases hopen
      exact ⟨hfound, ‹_›⟩
  · rintro ⟨hfound, hopen⟩
    refine ⟨runtime, hfound, ?_⟩
    rw [hopen]

theorem RuntimeGuard.Sound.arm (hsound : guard.Sound ledger) : guard.arm_mutation.Sound ledger :=
  ⟨nofun, hsound.raised, hsound.rebinds⟩

theorem agrees_invalidate (guard : RuntimeGuard V) (content : Content V) : guard.invalidate_runtime.Agrees content :=
  nofun

theorem RuntimeGuard.Sound.invalidate (hsound : guard.Sound ledger) : guard.invalidate_runtime.Sound ledger :=
  ⟨fun _ => agrees_invalidate guard _, hsound.raised, hsound.rebinds⟩

theorem RuntimeGuard.Sound.disarm (hsound : guard.Sound ledger) (hagrees : guard.Agrees ledger.content) :
    guard.disarm_mutation.Sound ledger :=
  ⟨fun _ => hagrees, hsound.raised, hsound.rebinds⟩

/-- The outcome of a transaction is marked on the guard, and on the owner when it is unsettled. -/
theorem RuntimeGuard.Sound.settle {result : SyncResult β} {next : Ledger V key bound} (hsound : guard.Sound ledger)
    (hinterferes : guard.Interferes later) (hflags : next.flags = later.flags (unsettled result)) :
    (later.settled_mutation result).Sound next :=
  ⟨nofun, hflags ▸ ⟨id, id, id⟩, (hsound.interfered hinterferes).rebinds⟩

/-- What a released guard leaves agrees with the journal. -/
theorem RuntimeGuard.Sound.drop_agrees (hsound : guard.Sound ledger) : guard.drop.Agrees ledger.content := by
  unfold RuntimeGuard.drop
  split
  · exact hsound.agrees ‹_›
  · exact agrees_invalidate _ _
  · exact agrees_invalidate _ _

/-- An error that does not ask for recovery has changed nothing. -/
def Quiet (recovery : ε) (first : Content V) (e : ε) (ledger : Ledger V key bound) : Prop :=
  e = recovery ∨ ledger.content = first

/-! ### Persisting -/

theorem Step.same_key {first last : ClientRuntime V} {transition : Transition V}
    (hstep : surrealdb_sync_client.Step first transition last) : SyncStateKey.of last.state = .of first.state := by
  obtain ⟨hpartition, hclient⟩ := hstep.renames.envelope
  unfold SyncStateKey.of
  rw [hpartition, hclient]

theorem runs_abandon {E : NativeSyncError → Ledger V key bound → Prop} (hsound : guard.Sound ledger)
    (herror : E .RecoveryRequired ledger) : Runs P E NativeSyncClient.abandon guard ledger :=
  runs_modify_bind (runs_throw hsound.invalidate herror)

/-- The guard holds the client of the transition, which is the one in the journal. -/
structure Installed (codec : Codec V) (first : ClientRuntime V) (prepared : PreparedTransition V)
    (status : NativeSyncStatus) (guard : RuntimeGuard V) (ledger : Ledger V key bound) : Prop where
  clean : guard.mutation_phase = .Clean
  live : guard.Live
  persisted : ∃ last, persist_and_install codec first prepared = .ok (last, status) ∧
    ledger.content = some last ∧ guard.cell.runtime = some last

theorem runs_install {first last : ClientRuntime V} {prepared : PreparedTransition V}
    (hsound : guard.Sound ledger) (hlive : guard.Live) (hruntime : guard.cell.runtime = some first)
    (hvalid : validate_state_codec store.codec prepared.state = .ok ()) (hinstall : first.install prepared = .ok last)
    (hlast : ledger.content = some last) :
    Runs (Installed store.codec first prepared) (Quiet .RecoveryRequired (some first))
      (NativeSyncClient.install prepared) guard ledger := by
  refine runs_get_bind ?_
  have hinstalled : guard.cell.installed prepared = (status last).toOption.map fun status => (last, status) := by
    unfold Cell.installed
    rw [hruntime]
    simp only [Option.bind_eq_bind, Option.bind_some, hinstall, Except.toOption]
    cases status last <;> rfl
  rw [hinstalled]
  cases hstatus : status last with
  | error _ => exact runs_abandon hsound (.inl rfl)
  | ok counted =>
    refine runs_modify_bind (runs_pure ⟨fun _ => ?_, hsound.raised, hsound.rebinds⟩ ⟨rfl, ?_, last, ?_, hlast, rfl⟩)
    · rintro _ ⟨⟩
      exact hlast
    · exact ⟨hlive.poison_all, hlive.local_closed, hlive.session_ended⟩
    · refine bind_eq_ok_iff.mpr ⟨(), hvalid, bind_eq_ok_iff.mpr ⟨last, map_err_eq_ok_iff.mpr hinstall, ?_⟩⟩
      exact bind_eq_ok_iff.mpr ⟨counted, map_err_eq_ok_iff.mpr hstatus, rfl⟩

/-- `persist_and_install` carries its transition out in the journal and in memory, or asks for recovery, or leaves both
as they are. -/
theorem runs_persist_and_install {first : ClientRuntime V} {transition : Transition V} {prepared : PreparedTransition V}
    (hsound : guard.Sound ledger) (hagrees : guard.Agrees ledger.content) (hfirst : ledger.content = some first)
    (hprepare : first.prepare_transition transition = .ok prepared) :
    Runs (Installed store.codec first prepared) (Quiet .RecoveryRequired (some first))
      (NativeSyncClient.persist_and_install store prepared) guard ledger := by
  obtain ⟨last, hlast, hstep⟩ := step_of_prepare hprepare
  have hinstall : first.install prepared = .ok last := by
    obtain ⟨other, hother, hinstalled⟩ := hstep
    rw [hprepare] at hother
    cases hother
    exact hinstalled
  have hdone : ∀ told next, Done (.apply_transition first.state prepared.state) told ledger.content next →
      next = some last := by
    intro told next hdone
    cases told with
    | done =>
      obtain ⟨_, reached, _, hreached, _, rfl⟩ := hdone
      exact congrArg some (ClientRuntime.eq_of_state (hreached.trans hlast.symm))
    | begun _ => exact hdone.elim
    | completed _ => exact hdone.elim
  refine runs_read_bind hsound (fun current hclient => ?_) fun _ _ => .inr hfirst
  obtain ⟨_, hruntime⟩ := client_eq_ok_iff.mp hclient
  obtain rfl : current = first := Option.some.inj ((hagrees current hruntime).symm.trans hfirst)
  refine runs_lift_bind hsound (fun _ hvalid => runs_modify_bind ?_) fun _ _ => .inr hfirst
  refine runs_transact_bind hsound.arm rfl ?_ (fun told next hmoved => ?_) ?_
  · change SyncStateKey.of prepared.state = key
    have hkey := ledger.keyed current hfirst
    have hsame : SyncStateKey.of prepared.state = .of current.state := by
      rw [← hlast]
      exact Step.same_key hstep
    rw [hsame, hkey]
  · rw [hdone told next hmoved, hfirst]
    exact .single (.stepped hstep)
  · intro persisted later next hinterferes heffect hflags
    have hsettled := hsound.arm.settle hinterferes hflags
    have hcell : later.cell.runtime = some current := by rw [hinterferes.cell]; exact hruntime
    refine runs_modify_bind (runs_get_bind ?_)
    split
    · exact runs_abandon hsettled (.inl rfl)
    · rename_i hgo
      rw [not_or, not_not] at hgo
      obtain ⟨hknown, hsession⟩ := hgo
      have hlive := live_of_isOk hsession
      rcases heffect with ⟨hsame, failed, rfl⟩ | ⟨told, hcarried, rfl | hunknown⟩
      · refine runs_modify_bind (runs_throw (hsettled.disarm fun runtime hfound => ?_) (.inr (hsame.trans hfirst)))
        rw [hsame, hfirst]
        exact hcell.symm.trans hfound
      · exact runs_install hsettled hlive hcell hvalid hinstall (hdone told _ hcarried)
      · exact absurd hunknown hknown

end surrealdb_rn_core.sync_client
