import SurrealSync.Client.Effect
import SurrealSync.Native.Contents

open Std Except
open surrealdb_sync_protocol surrealdb_sync_protocol.bootstrap_codec
open surrealdb_sync_client
open surrealdb_rn_core.sync_state surrealdb_rn_core.sync_bootstrap_store

namespace surrealdb_rn_core.sync_client

variable {F V C : Type} [DecidableEq V]

/-! ### What a journal is for -/

/-- What the journal of a key holds: nothing yet, or the state of a client. -/
abbrev Content (V : Type) [DecidableEq V] := Option (ClientRuntime V)

/-- How a journal goes on: it begins with an empty state, and then takes the transitions of a client. -/
inductive Move (key : SyncStateKey) : Content V → Content V → Prop where
  | created {runtime : ClientRuntime V} {requested_scope : ScopeIdentity} {subscription_revision : UInt64}
      (hempty : runtime.state = .empty key.partition_id key.client_id requested_scope subscription_revision) :
      Move key none (some runtime)
  | stepped {first last : ClientRuntime V} {transition : Transition V}
      (hstep : surrealdb_sync_client.Step first transition last) : Move key (some first) (some last)

abbrev Moves (key : SyncStateKey) : Content V → Content V → Prop := Relation.ReflTransGen (Move key)

/-- The rows under a key hold this content, in one of the two formats. -/
inductive Represents (store : Store F V C) (db : Database C StageTables) (key : SyncStateKey) : Content V → Prop where
  | absent (hvacant : Vacant db key) (hstates : db.states[record_id key]? = none) : Represents store db key none
  | legacy {runtime : ClientRuntime V} {stored : StoredRecord} (hkey : SyncStateKey.of runtime.state = key)
      (hvacant : Vacant db key) (hstates : db.states[record_id key]? = some stored)
      (hdecode : decode_record store.platform key stored = .ok runtime.state) : Represents store db key (some runtime)
  | present {runtime : ClientRuntime V} (hkey : SyncStateKey.of runtime.state = key)
      (hstored : Stored store.platform db runtime.state) : Represents store db key (some runtime)

/-- What a transaction that was carried out has told and done. -/
def Done : Act V → sync_bootstrap_store.Reply V → Content V → Content V → Prop
  | .save _ state, .done, _, after => ∃ runtime : ClientRuntime V, runtime.state = state ∧ after = some runtime
  | .apply_transition current next, .done, before, after =>
    ∃ first last : ClientRuntime V, first.state = current ∧ last.state = next ∧ before = some first ∧ after = some last
  | .complete .., .completed (.Applied next), before, after =>
    ∃ (first last : ClientRuntime V) (checkpoint : Checkpoint) (records : List (SnapshotRecord V)),
      surrealdb_sync_client.Step first (.BootstrapSnapshot checkpoint records) last ∧
        last.state = next ∧ before = some first ∧ after = some last
  | .complete .., .completed .HistoricalSuccess, before, after => after = before
  | .begin .., .begun _, before, after | .stage_page .., .done, before, after | .cancel .., .done, before, after
  | .load _, .done, before, after | .save_scope_barrier .., .done, before, after => after = before
  | _, _, _, _ => False

/-- A transaction is refused and does nothing, or it is carried out, which an unsettled answer does not tell. -/
def ActEffect (act : Act V) (reply : SyncResult (sync_bootstrap_store.Reply V)) (before after : Content V) : Prop :=
  (after = before ∧ ∃ failed, reply = .error failed) ∨
    ∃ told, Done act told before after ∧ (reply = .ok told ∨ unsettled reply = true)

/-- What a request does to the journal of its key, and what its reply tells of it. -/
def DatabaseCall.Effect : (request : DatabaseCall V) → request.Reply → Content V → Content V → Prop
  | .load _, reply, before, after =>
    after = before ∧ ∀ loaded, reply = .ok loaded → loaded = before.map ClientRuntime.state
  | .inspect _, reply, before, after =>
    after = before ∧ ∀ state barrier, reply = .ok (state, barrier) → state = before.map ClientRuntime.state
  | .act transaction, reply, before, after => ActEffect transaction reply before after
  | .define_schema, _, before, after | .load_scope_barrier _, _, before, after
  | .resume .., _, before, after => after = before

def DatabaseCall.key : DatabaseCall V → Option SyncStateKey
  | .define_schema => none
  | .load key | .inspect key | .load_scope_barrier key => some key
  | .resume _ expected _ => some (BootstrapContext.key expected)
  | .act transaction => some transaction.key

variable {store : Store F V C} {db after : Database C StageTables} {key other : SyncStateKey} {content : Content V}

theorem step_of_prepare {first : ClientRuntime V} {transition : Transition V} {prepared : PreparedTransition V}
    (hprepare : first.prepare_transition transition = .ok prepared) :
    ∃ last : ClientRuntime V, last.state = prepared.state ∧ surrealdb_sync_client.Step first transition last := by
  obtain ⟨next, _, hnext⟩ := effect_of_prepare hprepare
  obtain ⟨hbase, _⟩ := ClientRuntime.prepare_eq_ok_iff.mp hnext
  exact ⟨⟨prepared.state, prepared.valid⟩, rfl, prepared, hprepare,
    ClientRuntime.install_eq_ok_iff.mpr ⟨hbase, rfl⟩⟩

theorem ClientRuntime.eq_of_state {first second : ClientRuntime V} (hsame : first.state = second.state) :
    first = second := by
  cases first
  cases second
  cases hsame
  rfl

omit [DecidableEq V] in
theorem untouched_of_leaves {α : Type} {operation : SyncResult (α × Database C StageTables)} {value : α}
    (hrows : ∀ other, SameRows other db after) (hstates : Leaves (fun after => after.states = db.states) operation)
    (hok : operation = .ok (value, after)) (key : SyncStateKey) : Untouched key db after :=
  .of_states (hrows key) (hstates value after hok)

/-- The content of a journal survives what leaves its rows alone. -/
theorem Represents.of_untouched (hrepresents : Represents store db key content) (hsame : Untouched key db after) :
    Represents store after key content := by
  cases hrepresents with
  | absent hvacant hstates => exact .absent (hvacant.of_sameRows hsame.rows) (hsame.legacy.trans hstates)
  | legacy hkey hvacant hstates hdecode =>
    exact .legacy hkey (hvacant.of_sameRows hsame.rows) (hsame.legacy.trans hstates) hdecode
  | present hkey hstored => exact .present hkey (hstored.of_sameRows (hkey ▸ hsame.rows))

theorem Represents.key_of (hrepresents : Represents store db key content) {runtime : ClientRuntime V}
    (hcontent : content = some runtime) : SyncStateKey.of runtime.state = key := by
  subst hcontent
  cases hrepresents with
  | legacy hkey => exact hkey
  | present hkey => exact hkey

theorem Represents.journaled (hrepresents : Represents store db key content) : Journaled store.platform db key := by
  cases hrepresents with
  | absent hvacant => exact .inl hvacant
  | legacy _ hvacant => exact .inl hvacant
  | present hkey hstored => exact .inr ⟨_, hkey, hstored⟩

/-- Only the state that a journal holds in the present format can be loaded. -/
theorem Represents.eq_of_load_v2 (hserde : store.serde.Faithful) (hrepresents : Represents store db key content)
    {state : DurableClientState V} (hload : load_v2 store.platform db key = .ok (some state)) :
    ∃ runtime, content = some runtime ∧ runtime.state = state := by
  cases hrepresents with
  | absent hvacant => cases hvacant.load_v2_eq hload
  | legacy _ hvacant => cases hvacant.load_v2_eq hload
  | @present runtime hkey hstored =>
    rw [← hkey] at hload
    exact ⟨runtime, rfl, (Option.some.inj (hstored.load_v2_eq hserde hload)).symm⟩

/-! ### Loading -/

/-- A migration writes the state that it has read. -/
theorem stored_of_migrate_v1 (hserde : store.serde.Faithful) {runtime : ClientRuntime V} {rows : NormalizedRows}
    (hkey : SyncStateKey.of runtime.state = key) (hvacant : Vacant db key)
    (hnormalizes : Normalizes store.serde runtime.state rows) {disposition : SyncStateWrite}
    (hmigrate : migrate_v1 store.platform key runtime.state rows db = .ok (disposition, after)) :
    Stored store.platform after runtime.state := by
  subst hkey
  unfold migrate_v1 at hmigrate
  obtain ⟨loaded, hload, hmigrate⟩ := bind_eq_ok_iff.mp hmigrate
  cases hvacant.load_v2_eq hload
  obtain ⟨legacy, _, hmigrate⟩ := bind_eq_ok_iff.mp hmigrate
  obtain ⟨decoded, _, hmigrate⟩ := bind_eq_ok_iff.mp hmigrate
  obtain ⟨_, _, hmigrate⟩ := bind_eq_ok_iff.mp hmigrate
  obtain ⟨between, hwrite, hmigrate⟩ := bind_eq_ok_iff.mp hmigrate
  obtain ⟨projected, hproject, hmigrate⟩ := bind_eq_ok_iff.mp hmigrate
  cases hmigrate
  have hvalid := DurableClientState.validate_eq_ok_iff.mp runtime.valid
  have hbetween := stored_of_written hserde hvalid hnormalizes hload rfl hwrite (.inl hvacant)
  have hprojected := hbetween.of_sameJournal (sameJournal_apply_projection_diff hproject)
  exact hprojected.of_sameRows (.of_eq rfl fun _ _ => rfl)

/-- Loading tells the content and keeps it, also where it migrates. -/
theorem effect_load (hserde : store.serde.Faithful) (hrepresents : Represents store db key content) (outcome : Outcome) :
    (∀ loaded, (load store.platform outcome key db).1 = .ok loaded → loaded = content.map ClientRuntime.state) ∧
      Represents store (load store.platform outcome key db).2 key content := by
  cases hrepresents with
  | present hkey hstored =>
    subst hkey
    obtain ⟨hsame, hloaded⟩ := hstored.load_eq hserde outcome
    rw [hsame]
    exact ⟨hloaded, .present rfl hstored⟩
  | absent hvacant hstates =>
    have hrepresents : Represents store db key none := .absent hvacant hstates
    unfold load
    split
    · exact ⟨by simp, hrepresents⟩
    · split
      · exact ⟨by simp, hrepresents⟩
      · exact ⟨by simp, hrepresents⟩
      · rename_i hload
        cases hvacant.load_v2_eq hload
      · rw [hstates]
        refine ⟨fun loaded hloaded => ?_, hrepresents⟩
        cases hloaded
        rfl
  | @legacy runtime stored hkey hvacant hstates hdecode =>
    have hrepresents : Represents store db key (some runtime) := .legacy hkey hvacant hstates hdecode
    unfold load
    split
    · exact ⟨by simp, hrepresents⟩
    · split
      · exact ⟨by simp, hrepresents⟩
      · exact ⟨by simp, hrepresents⟩
      · rename_i hload
        cases hvacant.load_v2_eq hload
      · rw [hstates]
        unfold load_legacy
        dsimp only
        split
        · exact ⟨by simp, hrepresents⟩
        · rw [hdecode]
          dsimp only
          split
          · exact ⟨by simp, hrepresents⟩
          · rename_i rows hnormalize
            obtain ⟨failed, hfinish⟩ | ⟨disposition, migrated, hmigrate, hfinish⟩ := finish_cases _ db
              (migrate_v1 store.platform key runtime.state rows db)
            · rw [hfinish]
              exact ⟨by simp [Except.map], hrepresents⟩
            · have hstored := stored_of_migrate_v1 hserde hkey hvacant (normalize_state_eq_ok_iff.mp hnormalize) hmigrate
              rcases hfinish with ⟨_, hfinish⟩ | ⟨_, hfinish⟩
              · rw [hfinish]
                refine ⟨fun loaded hloaded => ?_, .present hkey hstored⟩
                cases hloaded
                rfl
              · rw [hfinish]
                exact ⟨by simp [Except.map], .present hkey hstored⟩

theorem effect_inspect (hserde : store.serde.Faithful) (hrepresents : Represents store db key content)
    {outcome : Outcome} {state : Option (DurableClientState V)} {barrier : Option ScopeBarrier}
    (hinspect : inspect store outcome key db = .ok (state, barrier)) : state = content.map ClientRuntime.state := by
  unfold inspect at hinspect
  obtain ⟨_, _, hinspect⟩ := bind_eq_ok_iff.mp hinspect
  split at hinspect
  · cases hinspect
  · obtain ⟨_, _, hinspect⟩ := bind_eq_ok_iff.mp hinspect
    obtain ⟨loaded, hload, hinspect⟩ := bind_eq_ok_iff.mp hinspect
    obtain ⟨found, hfound, hinspect⟩ := bind_eq_ok_iff.mp hinspect
    obtain ⟨_, _, hinspect⟩ := bind_eq_ok_iff.mp hinspect
    obtain ⟨_, _, hinspect⟩ := bind_eq_ok_iff.mp hinspect
    cases hinspect
    cases hrepresents with
    | absent hvacant hstates =>
      cases hvacant.load_v2_eq hload
      rw [hstates] at hfound
      cases hfound
      rfl
    | legacy hkey hvacant hstates hdecode =>
      cases hvacant.load_v2_eq hload
      rw [hstates] at hfound
      obtain ⟨decoded, hdecoded, hfound⟩ := bind_eq_ok_iff.mp hfound
      rw [hdecode] at hdecoded
      cases hdecoded
      cases hfound
      rfl
    | present hkey hstored =>
      subst hkey
      cases hstored.load_v2_eq hserde hload
      cases hsentinel : db.states[record_id (.of _)]? with
      | none =>
        rw [hsentinel] at hfound
        cases hfound
        rfl
      | some sentinel =>
        rw [hsentinel] at hfound
        obtain ⟨_, _, hfound⟩ := bind_eq_ok_iff.mp hfound
        obtain ⟨_, _, hfound⟩ := bind_eq_ok_iff.mp hfound
        obtain ⟨_, _, hfound⟩ := bind_eq_ok_iff.mp hfound
        cases hfound
        rfl

/-! ### Transactions -/

/-- What a transaction does follows from what its operation does when it succeeds. -/
theorem effect_finish {act : Act V} {α : Type} {reply : α → sync_bootstrap_store.Reply V} {outcome : Outcome}
    {operation : SyncResult (α × Database C StageTables)} (hrepresents : Represents store db key content)
    (hdone : ∀ value after, operation = .ok (value, after) →
      ∃ next, Done act (reply value) content next ∧ Represents store after key next) :
    ∃ next, ActEffect act (answer reply (finish outcome db operation)).1 content next ∧
      Represents store (answer reply (finish outcome db operation)).2 key next := by
  rcases finish_cases outcome db operation with ⟨failed, hfinish⟩ | ⟨value, after, hok, ⟨_, hfinish⟩ | ⟨_, hfinish⟩⟩
  · rw [hfinish]
    exact ⟨content, .inl ⟨rfl, failed, rfl⟩, hrepresents⟩
  · obtain ⟨next, hnext, hafter⟩ := hdone value after hok
    rw [hfinish]
    exact ⟨next, .inr ⟨_, hnext, .inl rfl⟩, hafter⟩
  · obtain ⟨next, hnext, hafter⟩ := hdone value after hok
    rw [hfinish]
    exact ⟨next, .inr ⟨_, hnext, .inr rfl⟩, hafter⟩

/-- A transition is written over the state that it was prepared for. -/
theorem represents_apply_transition (hserde : store.serde.Faithful) {current next : DurableClientState V}
    (hrepresents : Represents store db (.of next) content) {rows : NormalizedRows}
    (hprepare : prepare_state_write store.platform (some current.revision) next = .ok rows)
    {disposition : SyncStateWrite}
    (happly : apply_transition_in_transaction store.platform current next rows db = .ok (disposition, after)) :
    ∃ first last : ClientRuntime V, first.state = current ∧ last.state = next ∧ content = some first ∧
      Represents store after (.of next) (some last) := by
  obtain ⟨_, hvalid, _⟩ := prepare_state_write_eq_ok hprepare
  have hstored := (keeps_apply_transition_in_transaction hserde hprepare happly).2 hrepresents.journaled
  unfold apply_transition_in_transaction at happly
  obtain ⟨⟨decided, between⟩, hreplace, _⟩ := bind_eq_ok_iff.mp happly
  obtain ⟨loaded, hload, hexpected, _⟩ := replace_v2_in_transaction_eq_ok hreplace
  cases hexpected rfl
  obtain ⟨first, hcontent, hfirst⟩ := hrepresents.eq_of_load_v2 hserde hload
  exact ⟨first, ⟨next, DurableClientState.validate_eq_ok_iff.mpr hvalid⟩, hfirst, rfl, hcontent, .present rfl hstored⟩

theorem effect_apply_transition (hserde : store.serde.Faithful) {current next : DurableClientState V}
    (hrepresents : Represents store db (.of next) content) (outcome : Outcome) :
    ∃ last, ActEffect (.apply_transition current next) (perform store outcome db (.apply_transition current next)).1
        content last ∧
      Represents store (perform store outcome db (.apply_transition current next)).2 (.of next) last := by
  have hrefused : ∀ failed, ∃ last, ActEffect (.apply_transition current next)
      (answer (fun _ : SyncStateWrite => (.done : sync_bootstrap_store.Reply V)) (.error failed, db)).1 content last ∧
      Represents store db (.of next) last := fun failed => ⟨content, .inl ⟨rfl, failed, rfl⟩, hrepresents⟩
  unfold perform apply_transition_atomic
  dsimp only
  split
  · exact hrefused _
  · split
    · exact hrefused _
    · split
      · rename_i hsame
        subst hsame
        obtain ⟨hloaded, hafter⟩ := effect_load hserde hrepresents outcome
        generalize load store.platform outcome (.of current) db = result at hloaded hafter
        obtain ⟨loaded, after⟩ := result
        cases loaded with
        | error failed => exact ⟨content, .inl ⟨rfl, failed, rfl⟩, hafter⟩
        | ok stored =>
          have hstored := hloaded stored rfl
          by_cases hcurrent : stored = some current
          · subst hcurrent
            obtain ⟨runtime, rfl, hruntime⟩ := Option.map_eq_some_iff.mp hstored.symm
            refine ⟨some runtime, .inr ⟨.done, ⟨runtime, runtime, hruntime, hruntime, rfl, rfl⟩, .inl ?_⟩, hafter⟩
            dsimp only [answer]
            rw [if_pos rfl]
            rfl
          · refine ⟨content, .inl ⟨rfl, .RevisionConflict, ?_⟩, hafter⟩
            dsimp only [answer]
            rw [if_neg hcurrent]
            rfl
      · split
        · exact hrefused _
        · rename_i rows hprepare
          refine effect_finish hrepresents fun disposition after happly => ?_
          obtain ⟨first, last, hfirst, hlast, hcontent, hafter⟩ :=
            represents_apply_transition hserde hrepresents hprepare happly
          exact ⟨some last, ⟨first, last, hfirst, hlast, hcontent, rfl⟩, hafter⟩

theorem effect_save (hserde : store.serde.Faithful) {expected : Option UInt64} {state : DurableClientState V}
    (hrepresents : Represents store db (.of state) content) (outcome : Outcome) :
    ∃ next, ActEffect (.save expected state) (perform store outcome db (.save expected state)).1 content next ∧
      Represents store (perform store outcome db (.save expected state)).2 (.of state) next := by
  unfold perform save_transaction
  dsimp only
  split
  · rename_i refused _
    exact ⟨content, .inl ⟨rfl, refused, rfl⟩, hrepresents⟩
  · rename_i rows hprepare
    refine effect_finish hrepresents fun disposition after hreplace => ?_
    obtain ⟨_, hvalid, _⟩ := prepare_state_write_eq_ok hprepare
    have hstored := (keeps_replace hserde hprepare hreplace).2 hrepresents.journaled
    exact ⟨some ⟨state, DurableClientState.validate_eq_ok_iff.mpr hvalid⟩, ⟨_, rfl, rfl⟩, .present rfl hstored⟩

/-- A completion installs the snapshot of its stage over the content. -/
theorem represents_complete (hserde : store.serde.Faithful) {receipt : Bytes} {expected : BootstrapContext}
    {incarnation : UInt64} {clock : CompletionClock} {next : DurableClientState V}
    (hrepresents : Represents store db (BootstrapContext.key expected) content)
    (hcomplete : complete store receipt expected incarnation clock db = .ok (.Applied next, after)) :
    ∃ (first last : ClientRuntime V) (checkpoint : Checkpoint) (records : List (SnapshotRecord V)),
      surrealdb_sync_client.Step first (.BootstrapSnapshot checkpoint records) last ∧ last.state = next ∧
      content = some first ∧ Represents store after (BootstrapContext.key expected) (some last) := by
  obtain ⟨current, found, stage, checks, hload, hprepare, happly⟩ := exists_replaced_of_complete hcomplete
  obtain ⟨rows, disposition, between, hwrite, htransition, hsame⟩ := exists_transition_of_apply happly
  obtain ⟨first, hcontent, rfl⟩ := hrepresents.eq_of_load_v2 hserde hload
  have hkey : SyncStateKey.of next = BootstrapContext.key expected := by
    rw [← owner_of_apply_transition htransition]
    exact hrepresents.key_of hcontent
  rw [← hkey] at hrepresents ⊢
  obtain ⟨other, last, hother, hlast, hfound, hbetween⟩ :=
    represents_apply_transition hserde hrepresents hwrite htransition
  subst hcontent
  cases hfound
  refine ⟨first, last, ?_⟩
  unfold prepare_completion at hprepare
  obtain ⟨_, _, hprepare⟩ := bind_eq_ok_iff.mp hprepare
  obtain ⟨⟨reached, verifier, records⟩, _, hprepare⟩ := bind_eq_ok_iff.mp hprepare
  obtain ⟨_, _, hprepare⟩ := bind_eq_ok_iff.mp hprepare
  obtain ⟨_, _, hprepare⟩ := bind_eq_ok_iff.mp hprepare
  obtain ⟨opened, hopen, hprepare⟩ := bind_eq_ok_iff.mp hprepare
  obtain ⟨prepared, hsnapshot, hprepare⟩ := bind_eq_ok_iff.mp hprepare
  cases hprepare
  have hopened : opened = first := by
    rw [ClientRuntime.open_state] at hopen
    exact (Except.ok.inj hopen).symm
  subst hopened
  have htransition : opened.prepare_transition (.BootstrapSnapshot found.checkpoint records) = .ok prepared := by
    cases hprepared : opened.prepare_bootstrap_snapshot found.checkpoint records with
    | error refused =>
      rw [hprepared] at hsnapshot
      cases hsnapshot
    | ok made =>
      rw [hprepared] at hsnapshot
      cases hsnapshot
      exact hprepared
  obtain ⟨reached, hreached, hstep⟩ := step_of_prepare htransition
  cases ClientRuntime.eq_of_state (hreached.trans hlast.symm)
  exact ⟨found.checkpoint, records, hstep, hlast, rfl, hbetween.of_untouched (hsame _)⟩

/-- What a transaction of a journal does to its content. -/
theorem effect_perform (hserde : store.serde.Faithful) (hstaged : Staged db) {act : Act V}
    (hrepresents : Represents store db act.key content) (outcome : Outcome) :
    ∃ next, ActEffect act (perform store outcome db act).1 content next ∧
      Represents store (perform store outcome db act).2 act.key next := by
  have hfenced := hstaged.fenced act.key
  cases act with
  | begin start manifest expected =>
    refine effect_finish hrepresents fun incarnation after hbegin => ⟨content, rfl, hrepresents.of_untouched ?_⟩
    rcases begin_eq_ok rfl hfenced hstaged.defined hbegin with ⟨rfl, _⟩ | ⟨_, _, hrows⟩
    · exact .refl _ _
    · exact untouched_of_leaves hrows states_begin hbegin _
  | stage_page raw expected incarnation =>
    refine effect_finish hrepresents fun _ after hpage => ⟨content, rfl, hrepresents.of_untouched ?_⟩
    exact untouched_of_leaves (stage_page_eq_ok rfl hfenced hpage).2 states_stage_page hpage _
  | cancel manifest expected incarnation =>
    refine effect_finish hrepresents fun _ after hcancel => ⟨content, rfl, hrepresents.of_untouched ?_⟩
    exact untouched_of_leaves (cancel_eq_ok rfl hfenced hcancel).2 states_cancel hcancel _
  | save_scope_barrier key barrier =>
    refine effect_finish hrepresents fun _ after hsave => ⟨content, rfl, hrepresents.of_untouched ?_⟩
    exact untouched_of_leaves (save_scope_barrier_eq_ok hfenced hsave).2 states_save_scope_barrier hsave _
  | load key =>
    obtain ⟨_, hafter⟩ := effect_load hserde hrepresents outcome
    refine ⟨content, ?_, hafter⟩
    change ActEffect _ ((load store.platform outcome key db).1.map fun _ => .done) _ _
    cases (load store.platform outcome key db).1 with
    | error failed => exact .inl ⟨rfl, failed, rfl⟩
    | ok loaded => exact .inr ⟨.done, rfl, .inl rfl⟩
  | save expected state => exact effect_save hserde hrepresents outcome
  | apply_transition current next => exact effect_apply_transition hserde hrepresents outcome
  | complete receipt expected incarnation clock =>
    refine effect_finish hrepresents fun completion after hcomplete => ?_
    cases completion with
    | HistoricalSuccess =>
      obtain ⟨header, counter, _, hcompleted⟩ := complete_eq_ok rfl hfenced hcomplete
      cases hcompleted with
      | HistoricalSuccess _ hsame =>
        rw [hsame]
        exact ⟨content, rfl, hrepresents⟩
    | Applied next =>
      obtain ⟨first, last, checkpoint, records, hstep, hlast, hcontent, hafter⟩ :=
        represents_complete hserde hrepresents hcomplete
      exact ⟨some last, ⟨first, last, checkpoint, records, hstep, hlast, hcontent, rfl⟩, hafter⟩

/-! ### Other journals -/

/-- A transaction leaves the journals of other keys alone. -/
theorem untouched_perform (hstaged : Staged db) {act : Act V} (outcome : Outcome) (hne : other ≠ act.key) :
    Untouched other db (perform store outcome db act).2 := by
  have hfenced := hstaged.fenced act.key
  have hrefl := Untouched.refl other db
  cases act with
  | begin start manifest expected =>
    change Untouched other db (finish outcome db (begin store start manifest expected db)).2
    refine Leaves.finish (fun incarnation after hbegin => ?_) hrefl
    rcases begin_eq_ok rfl hfenced hstaged.defined hbegin with ⟨rfl, _⟩ | ⟨_, _, hrows⟩
    · exact .refl _ _
    · exact untouched_of_leaves hrows states_begin hbegin _
  | stage_page raw expected incarnation =>
    change Untouched other db (finish outcome db (stage_page store raw expected incarnation db)).2
    refine Leaves.finish (fun _ after hpage => ?_) hrefl
    exact untouched_of_leaves (stage_page_eq_ok rfl hfenced hpage).2 states_stage_page hpage _
  | cancel manifest expected incarnation =>
    change Untouched other db (finish outcome db (cancel store manifest expected incarnation db)).2
    refine Leaves.finish (fun _ after hcancel => ?_) hrefl
    exact untouched_of_leaves (cancel_eq_ok rfl hfenced hcancel).2 states_cancel hcancel _
  | save_scope_barrier key barrier =>
    change Untouched other db (finish outcome db (sync_bootstrap_store.save_scope_barrier store key barrier db)).2
    refine Leaves.finish (fun _ after hsave => ?_) hrefl
    exact untouched_of_leaves (save_scope_barrier_eq_ok hfenced hsave).2 states_save_scope_barrier hsave _
  | load key => exact untouched_load outcome hne
  | save expected state =>
    change Untouched other db (save_transaction store outcome expected state db).2
    unfold save_transaction
    split
    · exact hrefl
    · exact Leaves.finish (untouched_replace hne) hrefl
  | apply_transition current next =>
    change Untouched other db (apply_transition_atomic store.platform outcome current next db).2
    unfold apply_transition_atomic
    split
    · exact hrefl
    · split
      · exact hrefl
      · split
        · rename_i hsame
          subst hsame
          have hload := @untouched_load F V C StageTables db (.of current) other _ store.platform outcome hne
          split
          · rename_i hloaded
            rw [hloaded] at hload
            exact hload
          · rename_i hloaded
            rw [hloaded] at hload
            exact hload
        · split
          · exact hrefl
          · exact Leaves.finish (untouched_apply_transition hne) hrefl
  | complete receipt expected incarnation clock =>
    change Untouched other db (finish outcome db (complete store receipt expected incarnation clock db)).2
    refine Leaves.finish (fun completion after hcomplete => ?_) hrefl
    cases completion with
    | HistoricalSuccess =>
      obtain ⟨header, counter, _, hcompleted⟩ := complete_eq_ok rfl hfenced hcomplete
      cases hcompleted with
      | HistoricalSuccess _ hsame =>
        rw [hsame]
        exact .refl _ _
    | Applied next =>
      obtain ⟨current, found, stage, checks, hload, _, happly⟩ := exists_replaced_of_complete hcomplete
      obtain ⟨rows, disposition, between, _, htransition, hsame⟩ := exists_transition_of_apply happly
      have hnext : other ≠ .of next := by
        rw [← owner_of_apply_transition htransition, (owner_of_load_v2 hload).2]
        exact hne
      exact (untouched_apply_transition hnext disposition between htransition).trans (hsame other)

/-! ### Requests -/

/-- What a reply tells of the journal of a key holds of what the rows held when it was served. -/
theorem effect_serve (hserde : store.serde.Faithful) (hstaged : Staged db) (request : DatabaseCall V)
    (hkey : ∀ asked, request.key = some asked → asked = key) (hrepresents : Represents store db key content)
    (outcome : Outcome) :
    ∃ next, request.Effect (serve store outcome db request).1 content next ∧
      Represents store (serve store outcome db request).2 key next := by
  cases request with
  | define_schema => exact ⟨content, rfl, hrepresents⟩
  | load asked =>
    cases hkey asked rfl
    obtain ⟨hloaded, hafter⟩ := effect_load hserde hrepresents outcome
    exact ⟨content, ⟨rfl, hloaded⟩, hafter⟩
  | inspect asked =>
    cases hkey asked rfl
    exact ⟨content, ⟨rfl, fun _ _ hinspect => effect_inspect hserde hrepresents hinspect⟩, hrepresents⟩
  | load_scope_barrier asked => exact ⟨content, rfl, hrepresents⟩
  | resume manifest expected incarnation => exact ⟨content, rfl, hrepresents⟩
  | act transaction =>
    cases hkey _ rfl
    exact effect_perform hserde hstaged hrepresents outcome

theorem untouched_serve (hstaged : Staged db) (request : DatabaseCall V) (outcome : Outcome)
    (hne : ∀ asked, request.key = some asked → other ≠ asked) :
    Untouched other db (serve store outcome db request).2 := by
  cases request with
  | define_schema => exact .refl other db
  | load asked => exact untouched_load outcome (hne asked rfl)
  | inspect asked => exact .refl other db
  | load_scope_barrier asked => exact .refl other db
  | resume manifest expected incarnation => exact .refl other db
  | act transaction => exact untouched_perform hstaged outcome (hne _ rfl)

theorem staged_serve (hstaged : Staged db) (request : DatabaseCall V) (outcome : Outcome) :
    Staged (serve store outcome db request).2 := by
  cases request with
  | define_schema => exact hstaged
  | load asked => exact hstaged.of_advances (advances_load (hstaged.fenced asked) outcome)
  | inspect asked => exact hstaged
  | load_scope_barrier asked => exact hstaged
  | resume manifest expected incarnation => exact hstaged
  | act transaction => exact hstaged.of_advances (advances_perform hstaged outcome transaction)

end surrealdb_rn_core.sync_client
