import SurrealSync.Client.Intent
import SurrealSync.Native.OwnerRuns

open Std Except
open surrealdb_sync_protocol surrealdb_sync_protocol.subscription surrealdb_sync_protocol.bootstrap_codec
open surrealdb_sync_client
open surrealdb_rn_core.sync_state surrealdb_rn_core.sync_bootstrap_store surrealdb_rn_core.sync_bootstrap

namespace surrealdb_rn_core.sync_client

open sync_codec sync_subscription sync_queue

variable {F V C : Type} [DecidableEq V] {store : Store F V C} {json : sync_queue.JsonWriter (ClientCommit V)}
  {owner after : DatabaseOwner V C} {journals next : Journals V} {cell : RuntimeKey} {key : SyncStateKey}
  {handle : Nat} {event : Event V} {db : Database C StageTables}

abbrev OwnerRun (store : Store F V C) (json : sync_queue.JsonWriter (ClientCommit V)) (first : DatabaseOwner V C)
    (edges : List (Trace.Edge (DatabaseOwner V C) (Event V))) (last : DatabaseOwner V C) : Prop :=
  Trace.Run (DatabaseOwner.Step store json) first edges last

/-! ### A journal in the first format -/

section Sample

open surrealdb_sync_client.transitions

/-- A client with one pending commit. -/
def pending_one : ClientRuntime String :=
  ⟨{ surrealdb_sync_client.transitions.empty_state with
      revision := 1
      outbox := [⟨⟨⟨"one"⟩, ⟨"sha256:1457ed72ac8bdd8c146925a53f703a20e6c8fbc3c1b65143c9676d77eec05821"⟩⟩,
        [upsert "temp" "a" none]⟩] }, by decide +kernel⟩

/-- A store that reads this client from a row of the first format, and writes no rows. -/
def legacy_store : Store Empty String Plain where
  serde := {
    text := ⟨fun _ => none, fun _ => none, Empty.elim, fun _ => none⟩
    state_meta := ⟨fun _ => none, fun _ => none⟩
    subscription_row := ⟨fun _ => none, fun _ => none⟩
    record_state := ⟨fun _ => none, fun _ => none⟩
    commit := ⟨fun _ => none, fun _ => none⟩
    resolved := ⟨fun _ => none, fun _ => none⟩
    record_id := ⟨fun _ => none, fun _ => none⟩
    state_from_slice := fun _ => some pending_one.state }
  native := ⟨fun _ => none, fun _ => .error .CorruptState, fun _ _ => true, fun _ => none⟩
  codec := text_codec
  canonical_to_json _ := none
  identity := ⟨fun _ => none, fun _ => none⟩
  page_row _ := none
  json_len text := text.utf8ByteSize + 2
  json_array_len texts := (texts.map fun text => text.utf8ByteSize + 3).sum + 1

theorem legacy_store_faithful : legacy_store.serde.Faithful where
  text := ⟨nofun, fun value => value.elim⟩
  state_meta := nofun
  subscription_row := nofun
  record_state := nofun
  commit := nofun
  resolved := nofun
  record_id := nofun

def legacy_row : StoredRecord := ⟨LEGACY_FORMAT_VERSION, "partition", "client", "1", []⟩

def legacy_database : Database Plain StageTables where
  metas := ∅
  states := (∅ : BTreeMap (List String) StoredRecord).insert ["partition", "client"] legacy_row
  barriers := ∅
  components _ := ∅
  records := ∅
  stages := ⟨false, ∅, ∅⟩

theorem staged_legacy_database : Staged legacy_database :=
  Unstarted.staged ⟨fun _ => ⟨rfl, rfl, fun _ => rfl⟩, fun _ => rfl⟩

def legacy_cell : RuntimeKey := ⟨0, ⟨⟨"partition"⟩, ⟨"client"⟩⟩⟩

def legacy_journals : Journals String := Function.update (fun _ => none) legacy_cell.key (some pending_one)

theorem represents_legacy_journals (key : SyncStateKey) :
    Represents legacy_store legacy_database key (legacy_journals key) := by
  by_cases hkey : key = legacy_cell.key
  · subst hkey
    have hjournal : legacy_journals legacy_cell.key = some pending_one := Function.update_self _ _ _
    rw [hjournal]
    exact .legacy rfl ⟨rfl, fun _ _ => rfl⟩ (ExtTreeMap.getElem?_insert_self) (by decide +kernel)
  · have hjournal : legacy_journals key = none := Function.update_of_ne hkey _ _
    rw [hjournal]
    refine .absent ⟨rfl, fun _ _ => rfl⟩ ?_
    change ((∅ : BTreeMap (List String) StoredRecord).insert (record_id legacy_cell.key) legacy_row)[record_id key]? = none
    rw [ExtTreeMap.getElem?_insert, if_neg fun hsame => hkey (record_id_injective (LawfulEqOrd.compare_eq_iff_eq.mp hsame)).symm]
    rfl

def first_owner : DatabaseOwner String Plain := .connect legacy_database

/-- A call on the sample, up to its first await. -/
def begun (self : DatabaseOwner String Plain) (handle : Nat) (call : Call String) :
    DatabaseOwner String Plain × Option (Except Failure (Answer String)) :=
  self.work legacy_cell handle call (call.run legacy_store text_json) (self.lock_runtime legacy_cell handle)

/-- The call that waits goes on with its reply. -/
def replied (self : DatabaseOwner String Plain) (waiting : Waiting String) :
    DatabaseOwner String Plain × Option (Except Failure (Answer String)) :=
  let served := self.serve_request legacy_store waiting.request .Settled
  served.2.work legacy_cell waiting.handle waiting.call (waiting.resume served.1) (self.held legacy_cell waiting)

def existing : Call String := .initialize_runtime true ⟨⟨"partition"⟩, ⟨"client"⟩, ⟨"scope"⟩, 1⟩ .ExistingOnly

def opening : DatabaseOwner String Plain × Option (Except Failure (Answer String)) := begun first_owner 0 existing

theorem opening_waits : (opening.1.waiting legacy_cell).isSome = true := by decide +kernel

def inspected : DatabaseOwner String Plain × Option (Except Failure (Answer String)) :=
  replied opening.1 ((opening.1.waiting legacy_cell).get opening_waits)

/-- The lock of the sample can be taken. -/
def Free (self : DatabaseOwner String Plain) : Prop := self.changing = 0 ∧ (self.waiting legacy_cell).isNone = true

instance (self : DatabaseOwner String Plain) : Decidable (Free self) := inferInstanceAs (Decidable (_ ∧ _))

theorem inspected_free : Free inspected.1 := by decide +kernel

theorem step_begun {self : DatabaseOwner String Plain} (hfree : Free self) (handle : Nat) (call : Call String)
    (after : DatabaseOwner String Plain × Option (Except Failure (Answer String))) (habout : call.about legacy_cell.key)
    (hbegun : begun self handle call = after) :
    DatabaseOwner.Step legacy_store text_json self (.worked legacy_cell handle call false after.2) after.1 :=
  hbegun ▸ .start hfree.1 (Option.isNone_iff_eq_none.mp hfree.2) habout

theorem step_replied {self : DatabaseOwner String Plain} {waiting : Waiting String}
    (after : DatabaseOwner String Plain × Option (Except Failure (Answer String)))
    (hwaiting : self.waiting legacy_cell = some waiting) (hreplied : replied self waiting = after) :
    ∃ unsettled, DatabaseOwner.Step legacy_store text_json self
      (.worked legacy_cell waiting.handle waiting.call unsettled after.2) after.1 :=
  hreplied ▸ ⟨_, .reply hwaiting rfl⟩

/-- The opening of the sample. -/
theorem run_inspected : ∃ edges, OwnerRun legacy_store text_json first_owner edges inspected.1 := by
  obtain ⟨unsettled, hreply⟩ := step_replied inspected (Option.some_get opening_waits).symm rfl
  exact ⟨_, .cons (step_begun ⟨rfl, rfl⟩ 0 existing opening rfl rfl) (.cons hreply (.nil _))⟩

theorem exists_answer {result : Option (Except Failure (Answer String))} (hanswers : result.any (·.isOk) = true) :
    ∃ answer, result = some (.ok answer) := by
  match result, hanswers with
  | some (.ok answer), _ => exact ⟨answer, rfl⟩

end Sample

/-! ### Calls in a serial order -/

theorem work_frame {self : DatabaseOwner String Plain} {handle : Nat} {call : Call String}
    {part : Guarded Failure String (Answer String)} {guard : RuntimeGuard String} {other : RuntimeKey}
    (hother : other ≠ legacy_cell) :
    (self.work legacy_cell handle call part guard).1.waiting other = self.waiting other := by
  unfold DatabaseOwner.work
  split <;> exact Function.update_of_ne hother _ _

theorem begun_frame (self : DatabaseOwner String Plain) (handle : Nat) (call : Call String) {other : RuntimeKey}
    (hother : other ≠ legacy_cell) : (begun self handle call).1.waiting other = self.waiting other := work_frame hother

theorem replied_frame (self : DatabaseOwner String Plain) (waiting : Waiting String) {other : RuntimeKey}
    (hother : other ≠ legacy_cell) : (replied self waiting).1.waiting other = self.waiting other := by
  unfold replied
  rw [work_frame hother]
  rfl

theorem inspected_idle (cell : RuntimeKey) : inspected.1.waiting cell = none := by
  by_cases hcell : cell = legacy_cell
  · rw [hcell]
    exact Option.isNone_iff_eq_none.mp inspected_free.2
  · rw [inspected, replied_frame _ _ hcell, opening, begun_frame _ _ _ hcell]
    rfl

/-- An event moves one journal at most. -/
theorem Serial.moves (hserial : Serial store.codec json journals event next) (key : SyncStateKey) :
    Moves key (journals key) (next key) := by
  have hupdate : ∀ {other : SyncStateKey} {last : Content V}, Moves other (journals other) last →
      Moves key (journals key) (Function.update journals other last key) := by
    intro other last hmoves
    by_cases hkey : key = other
    · subst hkey
      rw [Function.update_self]
      exact hmoves
    · rw [Function.update_of_ne hkey]
  cases hserial with
  | answered hmoves => exact hupdate hmoves
  | failed hmoves => exact hupdate hmoves
  | dropped hmoves => exact hupdate hmoves
  | waits => exact .refl
  | forgotten => exact .refl
  | changed => exact .refl
  | connected => exact .refl

/-- A journal that has begun goes on without losing a commit. -/
theorem Moves.conserves {first : ClientRuntime V} {content : Content V} (hmoves : Moves key (some first) content) :
    ∃ last, content = some last ∧ Conserves first.state last.state := by
  induction hmoves with
  | refl => exact ⟨first, rfl, .refl first.is_valid⟩
  | tail _ hmove ih =>
    obtain ⟨between, rfl, hconserves⟩ := ih
    cases hmove with
    | @stepped _ last transition hstep =>
      have hrun : surrealdb_sync_client.Run between [⟨between, transition, last⟩] last := .cons hstep (.nil last)
      exact ⟨last, rfl, hconserves.trans (Run.conserves hrun)⟩

/-- The commit that a call enqueues. -/
def Call.enqueued : Call V → Option (ClientCommit V)
  | .native (.enqueue commit) | .enqueue_bounded commit _ _ => some commit
  | _ => none

theorem mem_commits_of_enqueued {before after : ClientRuntime V} {later : ClientCommit V}
    (hstep : surrealdb_sync_client.Step before (.Enqueue later) after) : later ∈ after.state.commits := by
  obtain ⟨next, heffect, hstamped⟩ := hstep.effect
  obtain ⟨_, hafter⟩ := hstamped.exists_revision
  cases heffect
  rw [hafter]
  simp [DurableClientState.commits]

/-- An enqueue that was answered has left its commit in the journal. -/
theorem Explains.enqueued {first last : Content V} {bound binding : Binding} {call : Call V} {answer : Answer V}
    (hexplains : Explains store.codec json first bound call answer last binding) {commit : ClientCommit V}
    (henqueued : call.enqueued = some commit) :
    ∃ after later, last = some after ∧ later ∈ after.state.commits ∧
      later.identity.client_commit_id = commit.identity.client_commit_id := by
  cases hexplains with
  | @native call status before after _ hfirst hanswers =>
    cases call with
    | enqueue submitted =>
      cases henqueued
      obtain ⟨prepared, hprepare, hpersist⟩ := hanswers
      obtain ⟨later, hlater, hprepare⟩ := bind_eq_ok_iff.mp hprepare
      obtain ⟨hinstall, _⟩ := persist_and_install_eq_ok hpersist
      exact ⟨after, later, rfl, mem_commits_of_enqueued ⟨prepared, map_err_eq_ok_iff.mp hprepare, hinstall⟩,
        (fingerprinted_spec hlater).2⟩
    | _ => cases henqueued
  | @enqueue_bounded submitted count bytes status before after _ hfirst hanswers =>
    cases henqueued
    obtain ⟨_, later, hlater, hmem, _⟩ := enqueue_bounded_eq_ok hanswers
    exact ⟨after, later, rfl, hmem, (fingerprinted_spec hlater).2⟩
  | _ => cases henqueued

omit [DecidableEq V] in
theorem mem_identities {state : DurableClientState V} {commit : ClientCommit V} (hmem : commit ∈ state.commits) :
    commit.identity ∈ state.pending ++ state.settled := by
  have hidentity := List.mem_map_of_mem (f := fun commit : ClientCommit V => commit.identity) hmem
  rw [DurableClientState.commits, List.map_append, List.map_map] at hidentity
  exact hidentity

/-- The commit that is pending is enqueued again. -/
def retry : Call String := .enqueue_bounded
  (surrealdb_sync_client.transitions.commit "one" [surrealdb_sync_client.transitions.upsert "temp" "a" none]) 1 65536

def retried : DatabaseOwner String Plain × Option (Except Failure (Answer String)) := begun inspected.1 0 retry

theorem retried_free : Free retried.1 := by decide +kernel

theorem retried_answers : retried.2.any (·.isOk) = true := by decide +kernel

theorem retried_idle (cell : RuntimeKey) : retried.1.waiting cell = none := by
  by_cases hcell : cell = legacy_cell
  · rw [hcell]
    exact Option.isNone_iff_eq_none.mp retried_free.2
  · rw [retried, begun_frame _ _ _ hcell, inspected_idle cell]

/-- A transaction may have been carried out, and nobody was told. -/
def Event.Ambiguous : Event V → Prop
  | .worked _ _ _ unsettled _ => unsettled = true
  | .dropped _ _ armed => armed = true
  | .forgotten _ | .changed | .connected => False

/-- A call of a handle is answered. -/
def Event.Answers (cell : RuntimeKey) (handle : Nat) (event : Event V) : Prop :=
  ∃ call unsettled answer, event = .worked cell handle call unsettled (some (.ok answer))

/-- The calls of a handle get no answer: the owner is poisoned or closed, the handle is closed, or another session has
begun. -/
inductive DatabaseOwner.Silent (owner : DatabaseOwner V C) (cell : RuntimeKey) (handle : Nat) : Prop where
  | poison_all (hpoison : owner.poison_all = true)
  | closed (hclosed : owner.closed = true)
  | local_closed (hclosed : owner.local_closed handle = true)
  | session_ended (hended : cell.session_generation.toNat < owner.session_generation.toNat)

/-- What an owner does not take back. -/
structure DatabaseOwner.Persists (owner after : DatabaseOwner V C) : Prop where
  poison_all : owner.poison_all = true → after.poison_all = true
  closed : owner.closed = true → after.closed = true
  local_closed : ∀ handle, owner.local_closed handle = true → after.local_closed handle = true
  session_generation : owner.session_generation.toNat ≤ after.session_generation.toNat

theorem DatabaseOwner.Silent.persists (hsilent : owner.Silent cell handle) (hpersists : owner.Persists after) :
    after.Silent cell handle := by
  cases hsilent with
  | poison_all hpoison => exact .poison_all (hpersists.poison_all hpoison)
  | closed hclosed => exact .closed (hpersists.closed hclosed)
  | local_closed hclosed => exact .local_closed (hpersists.local_closed handle hclosed)
  | session_ended hended => exact .session_ended (Nat.lt_of_lt_of_le hended hpersists.session_generation)

theorem persists_of_flags (hpoison : owner.poison_all = true → after.poison_all = true)
    (hclosed : after.closed = owner.closed) (hlocal : after.local_closed = owner.local_closed)
    (hsession : after.session_generation = owner.session_generation) : owner.Persists after :=
  ⟨hpoison, fun hset => hclosed.trans hset, fun handle hset => (congrFun hlocal handle).trans hset,
    Nat.le_of_eq (congrArg UInt64.toNat hsession).symm⟩

theorem persists_work (owner : DatabaseOwner V C) (db : Database C StageTables) (cell : RuntimeKey) (handle : Nat)
    (call : Call V) (part : Guarded Failure V (Answer V)) (guard : RuntimeGuard V) :
    owner.Persists (({ owner with db } : DatabaseOwner V C).work cell handle call part guard).1 := by
  unfold DatabaseOwner.work
  split
  · exact persists_of_flags (fun hset => Bool.or_eq_true_iff.mpr (.inl hset)) rfl rfl rfl
  · exact persists_of_flags (fun hset => Bool.or_eq_true_iff.mpr (.inl hset)) rfl rfl rfl

theorem persists_reserve (owner : DatabaseOwner V C) : owner.Persists owner.reserve_session_change.1 := by
  rcases reserve_session_change_cases owner with ⟨next, hnext, hreserve⟩ | hreserve
  · rw [hreserve]
    refine ⟨id, id, fun _ => id, ?_⟩
    change _ ≤ next.toNat
    omega
  · rw [hreserve]
    exact ⟨id, fun _ => rfl, fun _ => id, Nat.le_refl _⟩

theorem DatabaseOwner.Step.persists (hstep : DatabaseOwner.Step store json owner event after)
    (hevent : event ≠ .connected) : owner.Persists after := by
  have hreserve := persists_reserve owner
  cases hstep with
  | start hchanging hwaiting habout => exact persists_work owner owner.db _ _ _ _ _
  | reply hwaiting hserve =>
    cases hserve
    exact persists_work owner _ _ _ _ _ _
  | @drop cell waiting sent hwaiting =>
    have hpoison : ∀ served : DatabaseOwner V C, served.poison_all = owner.poison_all → owner.poison_all = true →
        (served.poison_all || (owner.held cell waiting).drop.poison_all) = true := by
      intro served hsame hset
      rw [hsame, hset, Bool.true_or]
    cases sent with
    | none => exact persists_of_flags (hpoison _ rfl) rfl rfl rfl
    | some outcome => exact persists_of_flags (hpoison _ rfl) rfl rfl rfl
  | reserve hreserved => exact ⟨hreserve.poison_all, hreserve.closed, hreserve.local_closed, hreserve.session_generation⟩
  | exhaust hexhausted => exact hreserve
  | change hchanging hidle =>
    exact ⟨hreserve.poison_all, hreserve.closed, hreserve.local_closed, hreserve.session_generation⟩
  | close => exact ⟨hreserve.poison_all, fun _ => rfl, hreserve.local_closed, hreserve.session_generation⟩
  | @close_client closing =>
    refine ⟨id, id, fun handle hset => ?_, Nat.le_refl _⟩
    by_cases hsame : handle = closing
    · subst hsame
      exact Function.update_self _ _ _
    · exact (Function.update_of_ne hsame _ _).trans hset
  | forget hwaiting => exact ⟨id, id, fun _ => id, Nat.le_refl _⟩
  | connect hidle => exact absurd rfl hevent

section Working

variable {call : Call V} {unsettled : Bool} {result : Option (Except Failure (Answer V))}
  {part : Guarded Failure V (Answer V)} {guard : RuntimeGuard V} {ledger : Ledger V cell.key (owner.cells cell).binding}

theorem poison_drop (hpoison : guard.poison_all = true) : guard.drop.poison_all = true := by
  unfold RuntimeGuard.drop
  split
  · exact hpoison
  · rfl
  · exact hpoison

/-- Poison that a call finds or brings stays on the owner. -/
theorem Working.poison_all
    (hworking : Working store json owner journals cell handle call unsettled result after db part guard ledger)
    (hpoison : (owner.poison_all || unsettled) = true) : after.poison_all = true := by
  have hflag := hworking.flags.poison_all hpoison
  rcases work_cases { owner with db } hworking.runs handle call with ⟨last, result, hwork, hends⟩ | ⟨waiting, hwork, _, hwaits⟩
  · cases hwork.symm.trans hworking.works
    exact Bool.or_eq_true_iff.mpr (.inr (poison_drop (hends.sound.raised.poison_all hflag)))
  · cases hwork.symm.trans hworking.works
    have hdroppable : Droppable cell.key waiting.request waiting.guard ledger := hwaits.1
    exact Bool.or_eq_true_iff.mpr (.inr (hdroppable.sound.raised.poison_all hflag))

/-- A call that was answered went on under no flag. -/
theorem Working.answered {answer : Answer V}
    (hworking : Working store json owner journals cell handle call unsettled (some (.ok answer)) after db part guard ledger) :
    unsettled = false ∧ ¬ owner.Silent cell handle := by
  rcases work_cases { owner with db } hworking.runs handle call with ⟨last, result, hwork, hends⟩ | ⟨waiting, hwork, _⟩
  · cases hwork.symm.trans hworking.works
    have hraised := hends.sound.raised
    have hlive := (hends.ok answer rfl).live
    have hnot : ∀ {flag : Bool}, ¬ flag = true → flag = false := fun hset => Bool.eq_false_of_not_eq_true hset
    have hpoison : (owner.poison_all || unsettled) = false := hnot fun hset => by
      have hflag := hraised.poison_all (hworking.flags.poison_all hset)
      rw [hlive.poison_all] at hflag
      cases hflag
    have hclosed : owner.local_closed handle = false := hnot fun hset => by
      have hflag := hraised.local_closed (hworking.flags.local_closed hset)
      rw [hlive.local_closed] at hflag
      cases hflag
    have hended : owner.session_ended cell = false := hnot fun hset => by
      have hflag := hraised.session_ended (hworking.flags.session_ended hset)
      rw [hlive.session_ended] at hflag
      cases hflag
    obtain ⟨hunpoisoned, hsettled⟩ := Bool.or_eq_false_iff.mp hpoison
    obtain ⟨hopen, hsession⟩ := Bool.or_eq_false_iff.mp hended
    refine ⟨hsettled, fun hsilent => ?_⟩
    cases hsilent with
    | poison_all hset => cases hunpoisoned.symm.trans hset
    | closed hset => cases hopen.symm.trans hset
    | local_closed hset => cases hclosed.symm.trans hset
    | session_ended hlater =>
      have hsame : owner.session_generation = cell.session_generation := by simpa using hsession
      rw [hsame] at hlater
      exact Nat.lt_irrefl _ hlater
  · cases hwork.symm.trans hworking.works

end Working

theorem not_answers_of_silent (hserde : store.serde.Faithful) (hinv : Invariant store json owner journals none)
    (hstep : DatabaseOwner.Step store json owner event after) (hsilent : owner.Silent cell handle) :
    ¬ event.Answers cell handle := by
  rintro ⟨call, unsettled, answer, rfl⟩
  rcases worked_cases hserde hinv hstep with ⟨_, _, failure, hresult⟩ | ⟨db, part, guard, ledger, hworking⟩
  · cases hresult
  · exact hworking.answered.2 hsilent

theorem poison_all_of_ambiguous (hserde : store.serde.Faithful) (hinv : Invariant store json owner journals none)
    (hstep : DatabaseOwner.Step store json owner event after) (hambiguous : event.Ambiguous) :
    after.poison_all = true ∧ ¬ ∃ cell handle, event.Answers cell handle := by
  cases event with
  | worked cell handle call unsettled result =>
    cases hambiguous
    rcases worked_cases hserde hinv hstep with ⟨_, hsettled, _⟩ | ⟨db, part, guard, ledger, hworking⟩
    · cases hsettled
    · refine ⟨hworking.poison_all (Bool.or_true _), ?_⟩
      rintro ⟨other, asked, again, unsettled, answer, hevent⟩
      cases hevent
      cases hworking.answered.1
  | dropped cell call armed =>
    cases hambiguous
    generalize hevent : Event.dropped cell call true = event at hstep
    cases hstep with
    | @drop cell waiting _ hwaiting =>
      obtain ⟨_, _, harmed⟩ := Event.dropped.inj hevent
      refine ⟨Bool.or_eq_true_iff.mpr (.inr ?_), by simp [Event.Answers]⟩
      have hphase : (owner.held cell waiting).mutation_phase = .InFlight := of_decide_eq_true harmed.symm
      unfold RuntimeGuard.drop
      rw [hphase]
      rfl
    | start => cases hevent
    | reply => cases hevent
    | reserve => cases hevent
    | exhaust => cases hevent
    | change => cases hevent
    | close => cases hevent
    | close_client => cases hevent
    | forget => cases hevent
    | connect => cases hevent
  | forgotten => cases hambiguous
  | changed => cases hambiguous
  | connected => cases hambiguous

variable {edge : Trace.Edge (DatabaseOwner V C) (Event V)} {earlier later edges : List (Trace.Edge (DatabaseOwner V C) (Event V))}
  {last : DatabaseOwner V C}

theorem silent_run (hserde : store.serde.Faithful) (hinv : Invariant store json owner journals none)
    (hrun : OwnerRun store json owner edges last) (hsilent : owner.Silent cell handle)
    (hsame : ∀ edge ∈ edges, edge.label ≠ .connected) : ∀ edge ∈ edges, ¬ edge.label.Answers cell handle := by
  induction hrun generalizing journals with
  | nil owner => simp
  | cons hstep _ ih =>
    obtain ⟨hevent, hsame⟩ := List.forall_mem_cons.mp hsame
    obtain ⟨next, _, hnext⟩ := hinv.step hserde hstep
    exact List.forall_mem_cons.mpr ⟨not_answers_of_silent hserde hinv hstep hsilent,
      ih hnext (hsilent.persists (hstep.persists hevent)) hsame⟩

def creation : Call String := .initialize_runtime true ⟨⟨"partition"⟩, ⟨"client"⟩, ⟨"scope"⟩, 1⟩ .CreateIfMissing

def creating : DatabaseOwner String Plain × Option (Except Failure (Answer String)) := begun first_owner 0 creation

theorem creating_armed : (creating.1.waiting legacy_cell).any (·.guard.mutation_phase = .InFlight) = true := by
  decide +kernel

/-- The creation of the journal is dropped while it may be under way. -/
def orphaned (waiting : Waiting String) : DatabaseOwner String Plain :=
  creating.1.release legacy_cell (creating.1.held legacy_cell waiting)

theorem orphaned_free (waiting : Waiting String) : Free (orphaned waiting) :=
  ⟨rfl, by simp [orphaned, DatabaseOwner.release]⟩

/-- The first handle of an owner is closed. -/
def shut (self : DatabaseOwner String Plain) : DatabaseOwner String Plain :=
  { self with local_closed := Function.update self.local_closed 0 true }

theorem step_shut (self : DatabaseOwner String Plain) :
    DatabaseOwner.Step legacy_store text_json self .changed (shut self) := .close_client

theorem silent_shut (self : DatabaseOwner String Plain) : (shut self).Silent legacy_cell 0 :=
  .local_closed (by simp [shut])

theorem free_shut {self : DatabaseOwner String Plain} (hfree : Free self) : Free (shut self) := hfree

/-- The binding under which a call of a session was answered. -/
inductive Presents (cell : RuntimeKey) (context : BootstrapContext) (ticket : UInt64) : Event V → Prop where
  | bound {handle : Nat} {unsettled : Bool} :
      Presents cell context ticket
        (.worked cell handle (.bind_bootstrap_session context) unsettled (some (.ok (.ticket ticket))))
  | served {handle : Nat} {unsettled : Bool} {self : NativeBootstrapSession} {call : SessionCall} {answer : Answer V}
      (hcontext : self.expected = context) (hticket : self.ticket = ticket) :
      Presents cell context ticket (.worked cell handle (.session self call) unsettled (some (.ok answer)))

/-- A binding follows another one. -/
structure Succeeds (context : BootstrapContext) (ticket : UInt64) (expected : BootstrapContext) (next : UInt64) : Prop where
  ticket_le : ticket.toNat ≤ next.toNat
  same : ticket = next → context = expected
  owner : same_owner context expected
  authorization : context.scope.authorization_revision ≤ expected.scope.authorization_revision

theorem Rebinds.succeeds {context : BootstrapContext} {ticket : UInt64} {binding : Binding}
    (hrebinds : Rebinds (some context, ticket) binding) :
    ∃ expected, binding.1 = some expected ∧ Succeeds context ticket expected binding.2 := by
  induction hrebinds with
  | refl => exact ⟨context, rfl, Nat.le_refl _, fun _ => rfl, ⟨rfl, rfl, rfl, rfl, rfl, rfl, rfl⟩, UInt64.le_refl _⟩
  | tail _ hrebind ih =>
    obtain ⟨between, hbetween, hsucceeds⟩ := ih
    cases hrebind with
    | @bind bound before next expected hticket howner =>
      obtain ⟨hsame, hauthorization⟩ := howner between hbetween
      have hle : ticket.toNat ≤ before.toNat := hsucceeds.ticket_le
      refine ⟨expected, rfl, ?_, fun hnext => ?_, ?_, UInt64.le_trans hsucceeds.authorization hauthorization⟩
      · change ticket.toNat ≤ next.toNat
        omega
      · have hsame : ticket.toNat = next.toNat := congrArg UInt64.toNat hnext
        omega
      · obtain ⟨h1, h2, h3, h4, h5, h6, h7⟩ := hsucceeds.owner
        obtain ⟨k1, k2, k3, k4, k5, k6, k7⟩ := hsame
        exact ⟨h1.trans k1, h2.trans k2, h3.trans k3, h4.trans k4, h5.trans k5, h6.trans k6, h7.trans k7⟩

/-- A session call that is answered has found the binding of its session. -/
theorem Explains.session_eq {first last : Content V} {bound binding : Binding} {self : NativeBootstrapSession}
    {call : SessionCall} {answer : Answer V}
    (hexplains : Explains store.codec json first bound (.session self call) answer last binding) :
    bound = (some self.expected, self.ticket) := by
  cases hexplains with
  | session _ hsession => exact hsession
  | complete hsession => exact hsession

theorem drop_binding (guard : RuntimeGuard V) : guard.drop.cell.binding = guard.cell.binding := by
  unfold RuntimeGuard.drop
  split <;> rfl

section Working

variable {call : Call V} {unsettled : Bool} {result : Option (Except Failure (Answer V))}
  {part : Guarded Failure V (Answer V)} {guard : RuntimeGuard V} {ledger : Ledger V cell.key (owner.cells cell).binding}

/-- A call binds its own cell as bindings go on, and what it answers tells of the bindings that it found and left. -/
theorem Working.rebinds
    (hworking : Working store json owner journals cell handle call unsettled result after db part guard ledger)
    (other : RuntimeKey) :
    Rebinds (owner.cells other).binding (after.cells other).binding ∧ ∀ answer, result = some (.ok answer) →
      ∃ content, Explains store.codec json (journals cell.key) (owner.cells cell).binding call answer content
        (after.cells cell).binding := by
  rcases work_cases { owner with db } hworking.runs handle call with ⟨last, result, hwork, hends⟩ | ⟨waiting, hwork, _⟩
  · cases hwork.symm.trans hworking.works
    have hbinding : (({ owner with db } : DatabaseOwner V C).release cell last).cells cell = last.drop.cell :=
      Function.update_self _ _ _
    constructor
    · by_cases hsame : other = cell
      · subst hsame
        rw [hbinding, drop_binding]
        exact hends.sound.rebinds
      · have hframe : (({ owner with db } : DatabaseOwner V C).release cell last).cells other = owner.cells other :=
          Function.update_of_ne hsame _ _
        rw [hframe]
    · rintro answer ⟨⟩
      refine ⟨ledger.content, ?_⟩
      rw [hbinding, drop_binding]
      exact (hends.ok answer rfl).explains
  · cases hwork.symm.trans hworking.works
    exact ⟨.refl, nofun⟩

end Working

theorem Invariant.rebinds (hserde : store.serde.Faithful) (hinv : Invariant store json owner journals none)
    (hstep : DatabaseOwner.Step store json owner event after) (hkept : event ≠ .connected ∧ event ≠ .forgotten cell) :
    Rebinds (owner.cells cell).binding (after.cells cell).binding := by
  have hworked : ∀ {other : RuntimeKey} {handle : Nat} {call : Call V} {unsettled : Bool}
      {result : Option (Except Failure (Answer V))} {after : DatabaseOwner V C},
      DatabaseOwner.Step store json owner (.worked other handle call unsettled result) after →
      Rebinds (owner.cells cell).binding (after.cells cell).binding := by
    intro other handle call unsettled result after hstep
    rcases worked_cases hserde hinv hstep with ⟨rfl, _⟩ | ⟨db, part, guard, ledger, hworking⟩
    · exact .refl
    · exact (hworking.rebinds cell).1
  have hreserve : owner.reserve_session_change.1.cells = owner.cells := by
    rcases reserve_session_change_cases owner with ⟨_, _, hreserve⟩ | hreserve <;> rw [hreserve]
  cases hstep with
  | start hchanging hwaiting habout => exact hworked (.start hchanging hwaiting habout)
  | reply hwaiting hserve => exact hworked (.reply hwaiting hserve)
  | @drop other waiting sent hwaiting =>
    have hcells : (owner.abandoned store waiting.request sent).cells = owner.cells := by
      cases sent <;> rfl
    by_cases hsame : cell = other
    · subst hsame
      obtain ⟨bound, ledger, hresumable⟩ := hinv.resumable cell waiting nofun hwaiting
      have hdroppable : Droppable cell.key waiting.request waiting.guard ledger := hresumable.safe.1
      have hreleased : ((owner.abandoned store waiting.request sent).release cell (owner.held cell waiting)).cells cell =
          (owner.held cell waiting).drop.cell := Function.update_self _ _ _
      rw [hreleased, drop_binding, hresumable.binding]
      exact hdroppable.sound.rebinds
    · have hframe : ((owner.abandoned store waiting.request sent).release other (owner.held other waiting)).cells cell =
          owner.cells cell := (Function.update_of_ne hsame _ _).trans (congrFun hcells cell)
      rw [hframe]
  | reserve hreserved => exact hreserve.symm ▸ .refl
  | exhaust hexhausted => exact hreserve.symm ▸ .refl
  | change hchanging hidle => exact hreserve.symm ▸ .refl
  | close => exact hreserve.symm ▸ .refl
  | close_client => exact .refl
  | @forget other hwaiting =>
    have hne : cell ≠ other := by
      rintro rfl
      exact hkept.2 rfl
    have hframe : Function.update owner.cells other .fresh cell = owner.cells cell := Function.update_of_ne hne _ _
    change Rebinds _ (Function.update owner.cells other .fresh cell).binding
    rw [hframe]
  | connect hidle => exact absurd rfl hkept.1

/-- What a session presents is between the bindings that its call found and left. -/
theorem rebinds_of_presents (hserde : store.serde.Faithful) (hinv : Invariant store json owner journals none)
    (hstep : DatabaseOwner.Step store json owner event after) {context : BootstrapContext} {ticket : UInt64}
    (hpresents : Presents cell context ticket event) :
    Rebinds (owner.cells cell).binding (some context, ticket) ∧ Rebinds (some context, ticket) (after.cells cell).binding := by
  cases hpresents with
  | bound =>
    rcases worked_cases hserde hinv hstep with ⟨_, _, failure, hresult⟩ | ⟨db, part, guard, ledger, hworking⟩
    · cases hresult
    · obtain ⟨hrebinds, hexplains⟩ := hworking.rebinds cell
      obtain ⟨content, hexplains⟩ := hexplains _ rfl
      generalize hbinding : (after.cells cell).binding = binding at hrebinds hexplains ⊢
      cases hexplains
      exact ⟨hrebinds, .refl⟩
  | served hcontext hticket =>
    subst hcontext hticket
    rcases worked_cases hserde hinv hstep with ⟨_, _, failure, hresult⟩ | ⟨db, part, guard, ledger, hworking⟩
    · cases hresult
    · obtain ⟨hrebinds, hexplains⟩ := hworking.rebinds cell
      obtain ⟨content, hexplains⟩ := hexplains _ rfl
      have hsession := hexplains.session_eq
      rw [hsession] at hrebinds ⊢
      exact ⟨.refl, hrebinds⟩

theorem rebinds_run (hserde : store.serde.Faithful) (hinv : Invariant store json owner journals none)
    (hrun : OwnerRun store json owner edges last)
    (hkept : ∀ edge ∈ edges, edge.label ≠ .connected ∧ edge.label ≠ .forgotten cell) :
    Rebinds (owner.cells cell).binding (last.cells cell).binding := by
  induction hrun generalizing journals with
  | nil owner => exact .refl
  | cons hstep _ ih =>
    obtain ⟨hevent, hkept⟩ := List.forall_mem_cons.mp hkept
    obtain ⟨next, _, hnext⟩ := hinv.step hserde hstep
    exact (hinv.rebinds hserde hstep hevent).trans (ih hnext hkept)

theorem call_of_begun {self : DatabaseOwner String Plain} {handle : Nat} {call : Call String}
    {after : DatabaseOwner String Plain × Option (Except Failure (Answer String))} (hbegun : begun self handle call = after)
    {waiting : Waiting String} (hwaiting : after.1.waiting legacy_cell = some waiting) : waiting.call = call := by
  subst hbegun
  unfold begun DatabaseOwner.work at hwaiting
  split at hwaiting
  · simp [DatabaseOwner.release] at hwaiting
  · simp only [DatabaseOwner.suspend, Function.update_self, Option.some.injEq] at hwaiting
    rw [← hwaiting]

def first_context : BootstrapContext := ⟨"authority", "principal", ⟨"partition"⟩, ⟨"client"⟩, "generation", ⟨⟨"scope"⟩, 1, 1⟩⟩

def binding : DatabaseOwner String Plain × Option (Except Failure (Answer String)) :=
  begun inspected.1 0 (.bind_bootstrap_session first_context)

theorem binding_waits : (binding.1.waiting legacy_cell).isSome = true := by decide +kernel

def bound : DatabaseOwner String Plain × Option (Except Failure (Answer String)) :=
  replied binding.1 ((binding.1.waiting legacy_cell).get binding_waits)

theorem bound_answers : bound.2.any (fun | .ok (.ticket ticket) => ticket = 1 | _ => false) = true := by decide +kernel

def requested : DatabaseOwner String Plain × Option (Except Failure (Answer String)) :=
  begun bound.1 0 (.session ⟨first_context, 0, 1⟩ .request_start)

theorem requested_answers : requested.2.any (·.isOk) = true := by decide +kernel

theorem bound_free : Free bound.1 := by decide +kernel

theorem exists_ticket {result : Option (Except Failure (Answer String))}
    (hanswers : result.any (fun | .ok (.ticket ticket) => ticket = 1 | _ => false) = true) :
    result = some (.ok (.ticket 1)) := by
  match result, hanswers with
  | some (.ok (.ticket ticket)), hticket =>
    cases of_decide_eq_true hticket
    rfl

end surrealdb_rn_core.sync_client
