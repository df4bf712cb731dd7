import SurrealSync.Native.OwnerBootstrap

open Std Except
open surrealdb_sync_protocol surrealdb_sync_protocol.bootstrap_codec
open surrealdb_sync_client
open surrealdb_rn_core.sync_state surrealdb_rn_core.sync_bootstrap_store

namespace surrealdb_rn_core.sync_state

variable {F V C S : Type}

/-! ### Operations that leave a journal alone -/

/-- The journal of a key is left as it is, in both formats, apart from its fence. -/
structure Untouched (key : SyncStateKey) (db after : Database C S) : Prop where
  rows : SameRows key db after
  legacy : after.states[record_id key]? = db.states[record_id key]?

variable {db between after : Database C S} {key other : SyncStateKey}

theorem Untouched.of_states (hrows : SameRows key db after) (hstates : after.states = db.states) :
    Untouched key db after :=
  ⟨hrows, by rw [hstates]⟩

theorem Untouched.refl (key : SyncStateKey) (db : Database C S) : Untouched key db db := ⟨.refl key db, rfl⟩

theorem Untouched.trans (hfirst : Untouched key db between) (hsecond : Untouched key between after) :
    Untouched key db after :=
  ⟨hfirst.rows.trans hsecond.rows, hsecond.legacy.trans hfirst.legacy⟩

/-- What an operation leaves when it succeeds. -/
def Leaves {α : Type} (P : Database C S → Prop) (operation : SyncResult (α × Database C S)) : Prop :=
  ∀ value after, operation = .ok (value, after) → P after

theorem Leaves.bind {α β : Type} {P : Database C S → Prop} {x : SyncResult β} {f : β → SyncResult (α × Database C S)}
    (hrest : ∀ b, x = .ok b → Leaves P (f b)) : Leaves P (x >>= f) := by
  intro value after hdone
  obtain ⟨b, hx, hdone⟩ := bind_eq_ok_iff.mp hdone
  exact hrest b hx value after hdone

theorem Leaves.ok {α : Type} {P : Database C S → Prop} {value : α} (hdone : P after) :
    Leaves P (Except.ok (value, after)) := by
  rintro _ _ ⟨⟩
  exact hdone

theorem Leaves.finish {α : Type} {P : Database C S → Prop} {outcome : Outcome}
    {operation : SyncResult (α × Database C S)} (hleaves : Leaves P operation) (hsame : P db) :
    P (finish outcome db operation).2 := by
  rcases finish_cases outcome db operation with ⟨_, hfinish⟩ | ⟨value, next, hok, ⟨_, hfinish⟩ | ⟨_, hfinish⟩⟩
  · rw [hfinish]
    exact hsame
  · rw [hfinish]
    exact hleaves value next hok
  · rw [hfinish]
    exact hleaves value next hok

@[simp]
theorem states_write_fence (db : Database C S) (key : SyncStateKey) (fence : String) :
    (write_fence db key fence).states = db.states := by
  unfold write_fence
  split <;> rfl

theorem states_write_row_diff {platform : Platform F V C S} {current : Option NormalizedRows} {next : NormalizedRows}
    (hwrite : write_row_diff platform key current next db = .ok after) : after.states = db.states := by
  obtain ⟨_, _, rfl⟩ := write_row_diff_eq_ok_iff.mp hwrite
  rfl

theorem untouched_write_row_diff {platform : Platform F V C S} {current : Option NormalizedRows} {next : NormalizedRows}
    (hne : other ≠ key) (hwrite : write_row_diff platform key current next db = .ok after) : Untouched other db after :=
  .of_states (sameRows_write_row_diff hne hwrite) (states_write_row_diff hwrite)

theorem untouched_of_sameJournal (hsame : SameJournal db after) (key : SyncStateKey) : Untouched key db after :=
  .of_states (.of_sameJournal hsame key) (by rw [hsame])

variable [DecidableEq V] {platform : Platform F V C S} {next : DurableClientState V}

/-- A replacement writes its own journal only. -/
theorem untouched_replace {expected : Option UInt64} {expected_state : Option (DurableClientState V)}
    {rows : NormalizedRows} (hne : other ≠ key) :
    Leaves (Untouched other db) (replace_v2_in_transaction platform key expected expected_state next rows db) := by
  intro disposition after hreplace
  obtain ⟨_, _, _, _, ⟨_, rfl⟩ | ⟨_, _, _, hwrite⟩⟩ := replace_v2_in_transaction_eq_ok hreplace
  · exact .refl other after
  · exact untouched_write_row_diff hne hwrite

theorem untouched_apply_transition {current : DurableClientState V} {rows : NormalizedRows}
    (hne : other ≠ .of next) :
    Leaves (Untouched other db) (apply_transition_in_transaction platform current next rows db) := by
  intro disposition after happly
  unfold apply_transition_in_transaction at happly
  obtain ⟨⟨decided, between⟩, hreplace, happly⟩ := bind_eq_ok_iff.mp happly
  have hbetween := untouched_replace hne decided between hreplace
  cases decided with
  | AlreadyCurrent =>
    cases happly
    exact hbetween
  | Applied =>
    obtain ⟨projected, hproject, happly⟩ := bind_eq_ok_iff.mp happly
    cases happly
    exact hbetween.trans (untouched_of_sameJournal (sameJournal_apply_projection_diff hproject) other)

theorem states_apply_transition {current : DurableClientState V} {rows : NormalizedRows} :
    Leaves (fun after => after.states = db.states) (apply_transition_in_transaction platform current next rows db) := by
  intro disposition after happly
  unfold apply_transition_in_transaction at happly
  obtain ⟨⟨decided, between⟩, hreplace, happly⟩ := bind_eq_ok_iff.mp happly
  have hbetween : between.states = db.states := by
    obtain ⟨_, _, _, _, ⟨_, rfl⟩ | ⟨_, _, _, hwrite⟩⟩ := replace_v2_in_transaction_eq_ok hreplace
    · rfl
    · exact states_write_row_diff hwrite
  cases decided with
  | AlreadyCurrent =>
    cases happly
    exact hbetween
  | Applied =>
    obtain ⟨projected, hproject, happly⟩ := bind_eq_ok_iff.mp happly
    cases happly
    rw [sameJournal_apply_projection_diff hproject]
    exact hbetween

theorem untouched_migrate {rows : NormalizedRows} (hne : other ≠ key) :
    Leaves (Untouched other db) (migrate_v1 platform key next rows db) := by
  intro disposition after hmigrate
  unfold migrate_v1 at hmigrate
  obtain ⟨loaded, _, hmigrate⟩ := bind_eq_ok_iff.mp hmigrate
  cases loaded with
  | some existing =>
    dsimp only at hmigrate
    split at hmigrate
    · cases hmigrate
      exact .refl other _
    · cases hmigrate
  | none =>
    obtain ⟨legacy, _, hmigrate⟩ := bind_eq_ok_iff.mp hmigrate
    obtain ⟨decoded, _, hmigrate⟩ := bind_eq_ok_iff.mp hmigrate
    obtain ⟨_, _, hmigrate⟩ := bind_eq_ok_iff.mp hmigrate
    obtain ⟨between, hwrite, hmigrate⟩ := bind_eq_ok_iff.mp hmigrate
    obtain ⟨projected, hproject, hmigrate⟩ := bind_eq_ok_iff.mp hmigrate
    cases hmigrate
    have hprojected := (untouched_write_row_diff hne hwrite).trans
      (untouched_of_sameJournal (sameJournal_apply_projection_diff hproject) other)
    refine hprojected.trans ⟨.of_eq rfl fun _ _ => rfl, ?_⟩
    exact BTreeMap.getElem?_insert_of_ne fun hsame => hne (record_id_injective hsame)

theorem untouched_load (outcome : Outcome) (hne : other ≠ key) :
    Untouched other db (load platform outcome key db).2 := by
  unfold load
  split
  · exact .refl other db
  · split
    · exact .refl other db
    · exact .refl other db
    · exact .refl other db
    · split
      · exact .refl other db
      · unfold load_legacy
        split
        · exact .refl other db
        · split
          · exact .refl other db
          · split
            · exact .refl other db
            · exact Leaves.finish (untouched_migrate hne) (.refl other db)

end surrealdb_rn_core.sync_state

namespace surrealdb_rn_core.sync_bootstrap_store

variable {F V C : Type} [DecidableEq V] {store : Store F V C} {db after : Database C StageTables}
  {key other : SyncStateKey}

/-! ### Stages -/

theorem states_begin {start manifest : Bytes} {expected : BootstrapContext} :
    Leaves (fun after => after.states = db.states) (begin store start manifest expected db) := by
  unfold begin begin_in_transaction
  refine .bind fun _ _ => .bind fun decoded _ => .bind fun _ _ => .bind fun _ _ => ?_
  refine .bind fun inspection _ => .bind fun _ _ => .bind fun state _ => .bind fun _ _ => .bind fun _ _ => ?_
  refine .bind fun _ _ => .bind fun _ _ => ?_
  have hcreate : Leaves (fun after => after.states = db.states)
      (create_stage store (BootstrapContext.key expected) state start manifest decoded
        { db with stages := { db.stages with defined := true } }) := by
    unfold create_stage
    refine .bind fun _ _ => .bind fun _ _ => .bind fun _ _ => .bind fun _ _ => .bind fun _ _ => .ok ?_
    rw [states_write_fence]
  split
  · exact hcreate
  · refine .bind fun admitted _ => ?_
    cases admitted with
    | some incarnation => exact .ok rfl
    | none => exact hcreate

theorem states_stage_page {raw : Bytes} {expected : BootstrapContext} {incarnation : UInt64} :
    Leaves (fun after => after.states = db.states) (stage_page store raw expected incarnation db) := by
  unfold stage_page
  refine .bind fun _ _ => .bind fun page _ => .bind fun _ _ => .bind fun _ _ => .bind fun _ _ => ?_
  refine .bind fun _ _ => .bind fun stage _ => .bind fun _ _ => .bind fun _ _ => .bind fun _ _ => ?_
  refine .bind fun _ _ => .bind fun _ _ => .bind fun _ _ => ?_
  split
  · exact .bind fun _ _ => .ok rfl
  · refine .bind fun _ _ => .bind fun _ _ => .bind fun _ _ => .bind fun _ _ => .ok ?_
    rw [states_write_fence]

omit [DecidableEq V] in
theorem states_cancel {manifest : Bytes} {expected : BootstrapContext} {incarnation : UInt64} :
    Leaves (fun after => after.states = db.states) (cancel store manifest expected incarnation db) := by
  unfold cancel
  refine .bind fun _ _ => .bind fun read _ => ?_
  cases read with
  | none => exact .ok rfl
  | some fence =>
    refine .bind fun inspection _ => ?_
    split
    · exact .ok rfl
    · refine .bind fun _ _ => .bind fun _ _ => .bind fun _ _ => .bind fun _ _ => ?_
      split
      · exact .ok rfl
      · refine .bind fun closed hclose => .ok ?_
        unfold close_stage at hclose
        obtain ⟨_, _, hclose⟩ := bind_eq_ok_iff.mp hclose
        obtain ⟨_, _, hclose⟩ := bind_eq_ok_iff.mp hclose
        cases hclose
        rw [states_write_fence]

theorem states_save_scope_barrier {barrier : ScopeBarrier} :
    Leaves (fun after => after.states = db.states) (save_scope_barrier store key barrier db) := by
  unfold save_scope_barrier
  refine .bind fun _ _ => .bind fun _ _ => .bind fun guarded hguard => .ok ?_
  change guarded.states = db.states
  unfold guard_barrier_write at hguard
  obtain ⟨read, _, hguard⟩ := bind_eq_ok_iff.mp hguard
  cases read with
  | none =>
    cases hguard
    rfl
  | some fence =>
    obtain ⟨_, _, hguard⟩ := bind_eq_ok_iff.mp hguard
    obtain ⟨_, _, hguard⟩ := bind_eq_ok_iff.mp hguard
    obtain ⟨_, _, hguard⟩ := bind_eq_ok_iff.mp hguard
    obtain ⟨_, _, hguard⟩ := bind_eq_ok_iff.mp hguard
    obtain ⟨parsed, _, hguard⟩ := bind_eq_ok_iff.mp hguard
    dsimp only at hguard
    split at hguard
    all_goals
      obtain ⟨_, _, hguard⟩ := bind_eq_ok_iff.mp hguard
      obtain ⟨_, _, hguard⟩ := bind_eq_ok_iff.mp hguard
    · cases hguard
      rw [states_write_fence]
    · obtain ⟨_, _, hguard⟩ := bind_eq_ok_iff.mp hguard
      cases hguard
      rw [states_write_fence]

/-- What a completion that is carried out replaces. -/
theorem exists_replaced_of_complete {receipt_bytes : Bytes} {expected : BootstrapContext} {incarnation : UInt64}
    {clock : CompletionClock} {next : DurableClientState V}
    (hcomplete : complete store receipt_bytes expected incarnation clock db = .ok (.Applied next, after)) :
    ∃ current receipt stage checks,
      load_v2 store.platform db (BootstrapContext.key expected) = .ok (some current) ∧
      prepare_completion store clock receipt stage current = .ok (checks, next) ∧
      apply_completion store clock (BootstrapContext.key expected) receipt_bytes stage checks current next db =
        .ok (.Applied next, after) := by
  unfold complete at hcomplete
  obtain ⟨_, _, hcomplete⟩ := bind_eq_ok_iff.mp hcomplete
  obtain ⟨_, _, hcomplete⟩ := bind_eq_ok_iff.mp hcomplete
  obtain ⟨receipt, _, hcomplete⟩ := bind_eq_ok_iff.mp hcomplete
  unfold complete_in_transaction at hcomplete
  obtain ⟨inspection, _, hcomplete⟩ := bind_eq_ok_iff.mp hcomplete
  obtain ⟨stage, _, hcomplete⟩ := bind_eq_ok_iff.mp hcomplete
  obtain ⟨_, _, hcomplete⟩ := bind_eq_ok_iff.mp hcomplete
  obtain ⟨_, _, hcomplete⟩ := bind_eq_ok_iff.mp hcomplete
  obtain ⟨_, _, hcomplete⟩ := bind_eq_ok_iff.mp hcomplete
  obtain ⟨_, _, hcomplete⟩ := bind_eq_ok_iff.mp hcomplete
  cases hconsumed : stage.header.consumed_receipt with
  | some consumed =>
    rw [hconsumed] at hcomplete
    unfold repeat_completion at hcomplete
    obtain ⟨_, _, hcomplete⟩ := bind_eq_ok_iff.mp hcomplete
    obtain ⟨_, _, hcomplete⟩ := bind_eq_ok_iff.mp hcomplete
    obtain ⟨_, _, hcomplete⟩ := bind_eq_ok_iff.mp hcomplete
    obtain ⟨_, _, hcomplete⟩ := bind_eq_ok_iff.mp hcomplete
    obtain ⟨_, _, hcomplete⟩ := bind_eq_ok_iff.mp hcomplete
    cases hcomplete
  | none =>
    rw [hconsumed] at hcomplete
    obtain ⟨_, _, hcomplete⟩ := bind_eq_ok_iff.mp hcomplete
    obtain ⟨_, _, hcomplete⟩ := bind_eq_ok_iff.mp hcomplete
    obtain ⟨_, _, hcomplete⟩ := bind_eq_ok_iff.mp hcomplete
    obtain ⟨current, hcurrent, hcomplete⟩ := bind_eq_ok_iff.mp hcomplete
    obtain ⟨_, _, hcomplete⟩ := bind_eq_ok_iff.mp hcomplete
    obtain ⟨_, _, hcomplete⟩ := bind_eq_ok_iff.mp hcomplete
    obtain ⟨⟨checks, prepared⟩, hprepare, hcomplete⟩ := bind_eq_ok_iff.mp hcomplete
    obtain ⟨_, _, hcomplete⟩ := bind_eq_ok_iff.mp hcomplete
    obtain ⟨_, _, hcomplete⟩ := bind_eq_ok_iff.mp hcomplete
    unfold current_state at hcurrent
    obtain ⟨loaded, hload, hcurrent⟩ := bind_eq_ok_iff.mp hcurrent
    rw [okOr_eq_ok_iff] at hcurrent
    have hsame : prepared = next := by
      unfold apply_completion at hcomplete
      obtain ⟨_, _, hcomplete⟩ := bind_eq_ok_iff.mp hcomplete
      obtain ⟨_, _, hcomplete⟩ := bind_eq_ok_iff.mp hcomplete
      obtain ⟨_, _, hcomplete⟩ := bind_eq_ok_iff.mp hcomplete
      obtain ⟨_, _, hcomplete⟩ := bind_eq_ok_iff.mp hcomplete
      obtain ⟨_, _, hcomplete⟩ := bind_eq_ok_iff.mp hcomplete
      obtain ⟨_, _, hcomplete⟩ := bind_eq_ok_iff.mp hcomplete
      cases hcomplete
      rfl
    subst hsame hcurrent
    exact ⟨current, receipt, stage, checks, hload, hprepare, hcomplete⟩

/-- What the transaction of a completion writes besides its transition. -/
theorem exists_transition_of_apply {clock : CompletionClock} {receipt_bytes : Bytes} {stage : Stage} {checks : Nat}
    {current next : DurableClientState V} {completion : Completion V}
    (happly : apply_completion store clock key receipt_bytes stage checks current next db = .ok (completion, after)) :
    ∃ rows disposition between, prepare_state_write store.platform (some current.revision) next = .ok rows ∧
      apply_transition_in_transaction store.platform current next rows db = .ok (disposition, between) ∧
      ∀ other, Untouched other between after := by
  unfold apply_completion at happly
  obtain ⟨rows, hprepare, happly⟩ := bind_eq_ok_iff.mp happly
  obtain ⟨⟨disposition, between⟩, htransition, happly⟩ := bind_eq_ok_iff.mp happly
  obtain ⟨_, _, happly⟩ := bind_eq_ok_iff.mp happly
  obtain ⟨_, _, happly⟩ := bind_eq_ok_iff.mp happly
  obtain ⟨_, _, happly⟩ := bind_eq_ok_iff.mp happly
  obtain ⟨_, _, happly⟩ := bind_eq_ok_iff.mp happly
  cases happly
  refine ⟨rows, disposition, between, hprepare, htransition, fun other => ?_⟩
  refine .of_states ?_ (states_write_fence ..)
  exact sameRows_write_stages key other _ _

end surrealdb_rn_core.sync_bootstrap_store
