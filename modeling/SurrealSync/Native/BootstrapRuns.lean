import SurrealSync.Basic.Trace
import SurrealSync.Native.BootstrapSteps
import SurrealSync.Native.Mirror

open Std Except
open surrealdb_sync_protocol surrealdb_sync_protocol.canonical surrealdb_sync_protocol.bootstrap_codec
open surrealdb_sync_client
open surrealdb_rn_core.sync_state

namespace surrealdb_rn_core.sync_bootstrap_store

/-! ### The transactions of a journal and its stage -/

/-- One transaction, with any arguments. `save_atomic` is two: `load`, which may migrate, and the write. -/
inductive Act (V : Type) where
  | begin (start manifest : Bytes) (expected : BootstrapContext)
  | stage_page (raw : Bytes) (expected : BootstrapContext) (incarnation : UInt64)
  | complete (receipt : Bytes) (expected : BootstrapContext) (incarnation : UInt64) (clock : CompletionClock)
  | cancel (manifest : Bytes) (expected : BootstrapContext) (incarnation : UInt64)
  | load (key : SyncStateKey)
  | save (expected_revision : Option UInt64) (state : DurableClientState V)
  | apply_transition (current next : DurableClientState V)
  | save_scope_barrier (key : SyncStateKey) (barrier : ScopeBarrier)

/-- The journal that a transaction writes. -/
def Act.key {V : Type} : Act V → SyncStateKey
  | .begin _ _ expected => BootstrapContext.key expected
  | .stage_page _ expected _ => BootstrapContext.key expected
  | .complete _ expected _ _ => BootstrapContext.key expected
  | .cancel _ expected _ => BootstrapContext.key expected
  | .load key => key
  | .save _ state => .of state
  | .apply_transition _ next => .of next
  | .save_scope_barrier key _ => key

inductive Reply (V : Type) where
  | begun (incarnation : UInt64)
  | completed (completion : Completion V)
  | done

variable {F V C : Type} [DecidableEq V]

/-- The answer of a transaction, as one of all. -/
def answer {α : Type} (reply : α → Reply V) (finished : SyncResult α × Database C StageTables) :
    SyncResult (Reply V) × Database C StageTables :=
  (finished.1.map reply, finished.2)

/-- The write of `save_atomic`, which comes after its `load`. -/
def save_transaction (store : Store F V C) (outcome : Outcome) (expected_revision : Option UInt64)
    (state : DurableClientState V) (db : Database C StageTables) : SyncResult SyncStateWrite × Database C StageTables :=
  match prepare_state_write store.platform expected_revision state with
  | .error refused => (.error refused, db)
  | .ok rows =>
    finish outcome db (replace_v2_in_transaction store.platform (.of state) expected_revision none state rows db)

def perform (store : Store F V C) (outcome : Outcome) (db : Database C StageTables) :
    Act V → SyncResult (Reply V) × Database C StageTables
  | .begin start manifest expected => answer .begun (finish outcome db (begin store start manifest expected db))
  | .stage_page raw expected incarnation =>
    answer (fun _ => .done) (finish outcome db (stage_page store raw expected incarnation db))
  | .complete receipt expected incarnation clock =>
    answer .completed (finish outcome db (complete store receipt expected incarnation clock db))
  | .cancel manifest expected incarnation =>
    answer (fun _ => .done) (finish outcome db (cancel store manifest expected incarnation db))
  | .load key => answer (fun _ => .done) (load store.platform outcome key db)
  | .save expected_revision state =>
    answer (fun _ => .done) (save_transaction store outcome expected_revision state db)
  | .apply_transition current next =>
    answer (fun _ => .done) (apply_transition_atomic store.platform outcome current next db)
  | .save_scope_barrier key barrier =>
    answer (fun _ => .done) (finish outcome db (save_scope_barrier store key barrier db))

/-- A transaction, what the database does with it, and what its caller is told. -/
structure Label (V : Type) where
  act : Act V
  outcome : Outcome
  reply : SyncResult (Reply V)

def Step (store : Store F V C) (db : Database C StageTables) (label : Label V) (after : Database C StageTables) : Prop :=
  perform store label.outcome db label.act = (label.reply, after)

variable {store : Store F V C} {db after : Database C StageTables} {key : SyncStateKey}

/-- What holds of the stages in every reachable state. -/
structure Staged (db : Database C StageTables) : Prop where
  fenced : ∀ key, Fenced key (view db key)
  defined : Defined db

theorem advances_save_transaction {state : DurableClientState V} (hfenced : Fenced (.of state) (view db (.of state)))
    (outcome : Outcome) (expected_revision : Option UInt64) :
    Advances (.of state) db (save_transaction store outcome expected_revision state db).2 := by
  unfold save_transaction
  split
  · exact .inl rfl
  · refine Advances.finish fun disposition next hreplace => ?_
    rcases replace_eq_ok hfenced hreplace with ⟨_, hsame⟩ | ⟨_, hrotates⟩
    · exact .inl hsame
    · exact .inr hrotates.written

/-- Every transaction advances the stage of its own journal, or does nothing. -/
theorem advances_perform (hstaged : Staged db) (outcome : Outcome) (act : Act V) :
    Advances act.key db (perform store outcome db act).2 := by
  have hfenced := hstaged.fenced act.key
  cases act with
  | begin start manifest expected =>
    change Advances _ db (finish outcome db (begin store start manifest expected db)).2
    refine Advances.finish fun incarnation next hbegin => ?_
    rcases begin_eq_ok rfl hfenced hstaged.defined hbegin with ⟨hsame, _⟩ | ⟨_, hwritten, _⟩
    · exact .inl hsame
    · exact .inr hwritten
  | stage_page raw expected incarnation => exact Advances.finish fun _ _ hpage => (stage_page_eq_ok rfl hfenced hpage).1
  | complete receipt expected incarnation clock =>
    change Advances _ db (finish outcome db (complete store receipt expected incarnation clock db)).2
    refine Advances.finish fun completion next hcomplete => ?_
    obtain ⟨header, counter, _, hcompleted⟩ := complete_eq_ok rfl hfenced hcomplete
    cases hcompleted with
    | Applied _ _ hwritten _ _ _ => exact .inr hwritten
    | HistoricalSuccess _ hsame => exact .inl hsame
  | cancel manifest expected incarnation => exact Advances.finish fun _ _ hcancel => (cancel_eq_ok rfl hfenced hcancel).1
  | load key => exact advances_load hfenced outcome
  | save expected_revision state => exact advances_save_transaction hfenced outcome expected_revision
  | apply_transition current next => exact advances_apply_transition_atomic hfenced outcome
  | save_scope_barrier key barrier => exact Advances.finish fun _ _ hsave => (save_scope_barrier_eq_ok hfenced hsave).1

theorem Staged.of_advances (hstaged : Staged db) (hadvances : Advances key db after) : Staged after := by
  rcases hadvances with rfl | hwritten
  · exact hstaged
  · constructor
    · intro other
      by_cases hsame : other = key
      · subst hsame
        rcases hwritten.own with hstep | ⟨_, hview⟩
        · exact (hstaged.fenced other).step hstep
        · rw [hview]
          exact hstaged.fenced other
      · rw [hwritten.others other hsame]
        exact hstaged.fenced other
    · rcases hwritten.defined with hdefined | hsame
      · exact .inl hdefined
      · unfold Defined
        rw [hsame]
        exact hstaged.defined

theorem Step.advances {label : Label V} (hstep : Step store db label after) (hstaged : Staged db) :
    Advances label.act.key db after := by
  have hadvances := @advances_perform F V C _ store db hstaged label.outcome label.act
  rw [hstep] at hadvances
  exact hadvances

theorem staged_of_run {opened : Database C StageTables} {edges : List (Trace.Edge (Database C StageTables) (Label V))}
    (hrun : Trace.Run (Step store) opened edges db) (hopened : Staged opened) : Staged db :=
  hrun.preserves (fun _ _ _ hstep hstaged => hstaged.of_advances (hstep.advances hstaged)) hopened

/-- The journals stay readable as they were, and their revisions do not fall. -/
theorem keeps_perform (hserde : store.serde.Faithful) (hstaged : Staged db) (outcome : Outcome) (act : Act V) :
    Keeps store.platform db (perform store outcome db act).2 := by
  have hfenced := hstaged.fenced act.key
  cases act with
  | begin start manifest expected =>
    change Keeps _ db (finish outcome db (begin store start manifest expected db)).2
    refine Keeps.finish fun incarnation next hbegin => ?_
    rcases begin_eq_ok rfl hfenced hstaged.defined hbegin with ⟨rfl, _⟩ | ⟨_, _, hrows⟩
    · exact .refl store.platform next
    · exact .of_sameRows hrows
  | stage_page raw expected incarnation =>
    exact Keeps.finish fun _ _ hpage => .of_sameRows (stage_page_eq_ok rfl hfenced hpage).2
  | complete receipt expected incarnation clock =>
    change Keeps _ db (finish outcome db (complete store receipt expected incarnation clock db)).2
    refine Keeps.finish fun completion next hcomplete => ?_
    obtain ⟨header, counter, _, hcompleted⟩ := complete_eq_ok rfl hfenced hcomplete
    cases hcompleted with
    | Applied _ _ _ _ _ hjournal => exact (hjournal hserde).1
    | HistoricalSuccess _ hsame =>
      rw [hsame]
      exact .refl store.platform db
  | cancel manifest expected incarnation =>
    exact Keeps.finish fun _ _ hcancel => .of_sameRows (cancel_eq_ok rfl hfenced hcancel).2
  | load key => exact keeps_load hserde outcome key
  | save expected_revision state =>
    change Keeps _ db (save_transaction store outcome expected_revision state db).2
    unfold save_transaction
    split
    · exact .refl store.platform db
    · rename_i rows hprepare
      exact Keeps.finish fun _ _ hreplace => (keeps_replace hserde hprepare hreplace).1
  | apply_transition current next => exact keeps_apply_transition_atomic hserde outcome current next
  | save_scope_barrier key barrier =>
    exact Keeps.finish fun _ _ hsave => .of_sameRows (save_scope_barrier_eq_ok hfenced hsave).2

theorem Step.keeps {label : Label V} (hstep : Step store db label after) (hserde : store.serde.Faithful)
    (hstaged : Staged db) : Keeps store.platform db after := by
  have hkeeps := @keeps_perform F V C _ store db hserde hstaged label.outcome label.act
  rw [hstep] at hkeeps
  exact hkeeps

/-- A step and the state it was taken in. -/
structure StagedStep (store : Store F V C) (db : Database C StageTables) (label : Label V)
    (after : Database C StageTables) : Prop where
  step : Step store db label after
  staged : Staged db

theorem stagedSteps_of_run {opened : Database C StageTables}
    {edges : List (Trace.Edge (Database C StageTables) (Label V))} (hrun : Trace.Run (Step store) opened edges db)
    (hopened : Staged opened) : Trace.Run (StagedStep store) opened edges db := by
  induction hrun with
  | nil _ => exact .nil _
  | cons hstep _ ih => exact .cons ⟨hstep, hopened⟩ (ih (hopened.of_advances (hstep.advances hopened)))

theorem keeps_of_run {opened : Database C StageTables} {edges : List (Trace.Edge (Database C StageTables) (Label V))}
    (hserde : store.serde.Faithful) (hrun : Trace.Run (StagedStep store) opened edges db) :
    Keeps store.platform opened db :=
  hrun.relates (Keeps.refl store.platform) (fun _ _ _ hfirst hsecond => hfirst.trans hsecond)
    fun _ _ _ hstep => hstep.step.keeps hserde hstep.staged

/-! ### Counters and incarnations along a run -/

theorem HasStage.unique {view : StageView} {first second : Header} {incarnation incarnation' counter counter' : UInt64}
    (hfirst : HasStage view first incarnation counter) (hsecond : HasStage view second incarnation' counter') :
    first = second ∧ incarnation = incarnation' ∧ counter = counter' := by
  have hheader := hfirst.found
  rw [hsecond.found, Option.some.injEq] at hheader
  subst hheader
  have hfence := hfirst.fence
  rw [hsecond.fence, Option.some.injEq] at hfence
  obtain ⟨rfl, -⟩ := fence_text_injective hfence
  have hnumber := parse_revision_to_string incarnation
  rw [← hfirst.numbered, hsecond.numbered, parse_revision_to_string, ok.injEq] at hnumber
  exact ⟨rfl, hnumber.symm, rfl⟩

theorem Unstaged.not_hasStage {view : StageView} (hnone : Unstaged view) {header : Header} {incarnation counter : UInt64} :
    ¬ HasStage view header incarnation counter := by
  intro hstage
  have hheader := hstage.found
  rw [hnone.header] at hheader
  cases hheader

/-- What is left of a stage later on: it is still there, with its marker if it was consumed, or a new one, numbered
above every fence before it, is in its place. -/
def Later (view next : StageView) : Prop :=
  ∀ header incarnation counter, HasStage view header incarnation counter →
    ∃ header' incarnation' counter', HasStage next header' incarnation' counter' ∧ counter ≤ counter' ∧
      ((incarnation' = incarnation ∧ (header.consumed_receipt.isSome → header' = header)) ∨ counter < incarnation')

theorem Later.refl (view : StageView) : Later view view :=
  fun header incarnation counter hstage => ⟨header, incarnation, counter, hstage, UInt64.le_refl _, .inl ⟨rfl, fun _ => rfl⟩⟩

theorem Later.trans {first second third : StageView} (hfirst : Later first second) (hsecond : Later second third) :
    Later first third := by
  intro header incarnation counter hstage
  obtain ⟨middle, number, reached, hmiddle, hreached, hchanged⟩ := hfirst header incarnation counter hstage
  obtain ⟨last, number', reached', hlast, hreached', hchanged'⟩ := hsecond middle number reached hmiddle
  refine ⟨last, number', reached', hlast, UInt64.le_trans hreached hreached', ?_⟩
  rcases hchanged' with ⟨rfl, hkept'⟩ | hnew
  · rcases hchanged with ⟨rfl, hkept⟩ | hnew
    · refine .inl ⟨rfl, fun hconsumed => ?_⟩
      have hsame := hkept hconsumed
      rw [hkept' (by rw [hsame]; exact hconsumed), hsame]
    · exact .inr hnew
  · exact .inr (UInt64.lt_of_le_of_lt hreached hnew)

theorem StagedStep.later {label : Label V} (hstep : StagedStep store db label after) (key : SyncStateKey) :
    Later (view db key) (view after key) := by
  rcases hstep.step.advances hstep.staged with rfl | hwritten
  · exact .refl _
  · by_cases hsame : key = label.act.key
    · subst hsame
      rcases hwritten.own with hstage | ⟨_, hview⟩
      · intro header incarnation counter hfound
        obtain ⟨header', incarnation', counter', hnext, hnone | ⟨before, number, reached, hbefore, hlater, hchanged⟩⟩ :=
          hstage.hasStage
        · exact absurd hfound hnone.not_hasStage
        · obtain ⟨rfl, rfl, rfl⟩ := hfound.unique hbefore
          exact ⟨header', incarnation', counter', hnext, UInt64.le_of_lt hlater, hchanged⟩
      · rw [hview]
        exact .refl _
    · rw [hwritten.others key hsame]
      exact .refl _

theorem later_of_run {opened : Database C StageTables} {edges : List (Trace.Edge (Database C StageTables) (Label V))}
    (hrun : Trace.Run (StagedStep store) opened edges db) (key : SyncStateKey) : Later (view opened key) (view db key) :=
  hrun.relates (fun _ => .refl _) (fun _ _ _ hfirst hsecond => hfirst.trans hsecond) fun _ _ _ hstep => hstep.later key

/-- Transactions of other journals leave a stage alone. -/
theorem StagedStep.others {label : Label V} (hstep : StagedStep store db label after) (hne : label.act.key ≠ key) :
    view after key = view db key := by
  rcases hstep.step.advances hstep.staged with rfl | hwritten
  · rfl
  · exact hwritten.others key hne.symm

/-- Once there is a fence, every transaction that changes anything raises its counter. -/
theorem StagedStep.counter_lt {label : Label V} (hstep : StagedStep store db label after) (hkey : label.act.key = key)
    {counter : UInt64} {active : Bool} (hfence : (view db key).fence = some (fence_text counter active)) :
    after = db ∨ ∃ later active', (view after key).fence = some (fence_text later active') ∧ counter < later := by
  subst hkey
  rcases hstep.step.advances hstep.staged with hsame | hwritten
  · exact .inl hsame
  · right
    rcases hwritten.own with hstage | ⟨hnone, _⟩
    · obtain ⟨header, incarnation, later, hnext, hnone | ⟨before, number, reached, hbefore, hlater, _⟩⟩ := hstage.hasStage
      · rw [hnone.fence] at hfence
        cases hfence
      · rw [hbefore.fence, Option.some.injEq] at hfence
        obtain ⟨rfl, -⟩ := fence_text_injective hfence
        exact ⟨later, _, hnext.fence, hlater⟩
    · rw [hnone] at hfence
      cases hfence

/-! ### The answers -/

omit [DecidableEq V] in
theorem answer_eq {α : Type} {reply : α → Reply V} {finished : SyncResult α × Database C StageTables}
    {result : SyncResult (Reply V)} (hanswer : answer reply finished = (result, after)) :
    finished.1.map reply = result ∧ finished.2 = after :=
  Prod.mk.inj hanswer

omit [DecidableEq V] in
/-- A transaction that is acknowledged was carried out, and one that changed anything was carried out too. -/
theorem carried_out {α : Type} {reply : α → Reply V} {outcome : Outcome}
    {operation : SyncResult (α × Database C StageTables)} {result : SyncResult (Reply V)}
    (hanswer : answer reply (finish outcome db operation) = (result, after)) :
    (after = db ∧ ∃ failed, result = .error failed) ∨
      ∃ value, operation = .ok (value, after) ∧ ∀ told, result = .ok told → told = reply value := by
  obtain ⟨hresult, hafter⟩ := answer_eq hanswer
  rcases finish_cases outcome db operation with ⟨failed, hfinish⟩ | ⟨value, next, hok, ⟨_, hfinish⟩ | ⟨_, hfinish⟩⟩
  all_goals
    rw [hfinish] at hresult hafter
    subst hresult hafter
  · exact .inl ⟨rfl, failed, rfl⟩
  · refine .inr ⟨value, hok, fun told htold => ?_⟩
    exact (ok.inj htold).symm
  · exact .inr ⟨value, hok, fun told htold => (nomatch htold)⟩

/-- `begin` answers with the open stage it was asked for, or creates one. -/
theorem StagedStep.begin {label : Label V} (hstep : StagedStep store db label after) {start manifest : Bytes}
    {expected : BootstrapContext} (hact : label.act = .begin start manifest expected)
    (hkey : BootstrapContext.key expected = key) :
    after = db ∨ ∃ incarnation, Created incarnation (view db key) (view after key) ∧
      ∀ number, label.reply = .ok (.begun number) → number = incarnation := by
  have hperform := hstep.step
  unfold Step at hperform
  rw [hact] at hperform
  rcases carried_out hperform with ⟨hsame, _⟩ | ⟨incarnation, hbegin, htold⟩
  · exact .inl hsame
  · rcases begin_eq_ok hkey (hstep.staged.fenced key) hstep.staged.defined hbegin with ⟨hsame, _⟩ | ⟨hcreated, _⟩
    · exact .inl hsame
    · refine .inr ⟨incarnation, hcreated, fun number hnumber => ?_⟩
      cases htold _ hnumber
      rfl

/-- A completion that is acknowledged was carried out on the stage of its incarnation. -/
theorem StagedStep.complete {label : Label V} (hstep : StagedStep store db label after) {receipt : Bytes}
    {expected : BootstrapContext} {incarnation : UInt64} {clock : CompletionClock}
    (hact : label.act = .complete receipt expected incarnation clock) (hkey : BootstrapContext.key expected = key)
    {reply : Reply V} (hreply : label.reply = .ok reply) :
    ∃ completion header counter, reply = .completed completion ∧
      complete store receipt expected incarnation clock db = .ok (completion, after) ∧
      HasStage (view db key) header incarnation counter ∧ Completed store db after key header receipt completion := by
  have hperform := hstep.step
  unfold Step at hperform
  rw [hact] at hperform
  rcases carried_out hperform with ⟨_, failed, hfailed⟩ | ⟨completion, hcomplete, htold⟩
  · rw [hreply] at hfailed
    cases hfailed
  · obtain ⟨header, counter, hstage, hcompleted⟩ := complete_eq_ok hkey (hstep.staged.fenced key) hcomplete
    exact ⟨completion, header, counter, htold reply hreply, hcomplete, hstage, hcompleted⟩

/-! ### Repeated receipts -/

/-- What a completion checks of its arguments and of the header of a stage. -/
structure Admitted (store : Store F V C) (receipt_bytes : Bytes) (expected : BootstrapContext) (incarnation : UInt64)
    (header : Header) (receipt : BootstrapReceipt) (manifest : BootstrapManifest) : Prop where
  valid_key : validate_key (BootstrapContext.key expected) = .ok ()
  length : refuse (receipt_bytes.length > MAX_SYNC_STATE_BYTES) SyncStateError.StateTooLarge = .ok ()
  decode_receipt : corrupt (decode_bootstrap_receipt store.codec.ciborium receipt_bytes) = .ok receipt
  decode_manifest : corrupt (decode_bootstrap_manifest store.codec.ciborium header.manifest) = .ok manifest
  valid_header : validate_header store header.start manifest expected = .ok ()
  numbered : parse_fence header.incarnation = .ok incarnation
  matching : corrupt (validate_bootstrap_receipt store.codec.ciborium store.codec.sha256 manifest receipt) = .ok ()

omit [DecidableEq V] in
theorem manifest_of_inspect {inspected : InspectedStage} (hinspect : inspect_stage store db key = .ok inspected)
    {stage : Stage} (hstage : inspected.stage = some stage) :
    corrupt (decode_bootstrap_manifest store.codec.ciborium stage.header.manifest) = .ok stage.manifest := by
  unfold inspect_stage at hinspect
  obtain ⟨_, _, hinspect⟩ := bind_eq_ok_iff.mp hinspect
  obtain ⟨current, _, hinspect⟩ := bind_eq_ok_iff.mp hinspect
  obtain ⟨aggregate, _, hinspect⟩ := bind_eq_ok_iff.mp hinspect
  obtain ⟨_, _, hinspect⟩ := bind_eq_ok_iff.mp hinspect
  cases hheader : db.stages.headers[header_id key]? with
  | none =>
    rw [hheader] at hinspect
    obtain ⟨_, _, hinspect⟩ := bind_eq_ok_iff.mp hinspect
    cases hinspect
    cases hstage
  | some header =>
    rw [hheader] at hinspect
    obtain ⟨_, _, hinspect⟩ := bind_eq_ok_iff.mp hinspect
    obtain ⟨manifest, hadmits, hinspect⟩ := bind_eq_ok_iff.mp hinspect
    obtain ⟨pages, _, hinspect⟩ := bind_eq_ok_iff.mp hinspect
    cases hinspect
    cases hstage
    unfold admit_manifest at hadmits
    obtain ⟨decoded, hdecode, hadmits⟩ := bind_eq_ok_iff.mp hadmits
    obtain ⟨_, _, hadmits⟩ := bind_eq_ok_iff.mp hadmits
    have hsame : decoded = manifest := by
      dsimp only at hadmits
      split at hadmits
      · obtain ⟨_, _, hadmits⟩ := bind_eq_ok_iff.mp hadmits
        obtain ⟨_, _, hadmits⟩ := bind_eq_ok_iff.mp hadmits
        obtain ⟨_, _, hadmits⟩ := bind_eq_ok_iff.mp hadmits
        exact ok.inj hadmits
      · obtain ⟨_, _, hadmits⟩ := bind_eq_ok_iff.mp hadmits
        obtain ⟨_, _, hadmits⟩ := bind_eq_ok_iff.mp hadmits
        exact ok.inj hadmits
    rw [← hsame]
    exact hdecode

theorem admitted_of_complete {receipt_bytes : Bytes} {expected : BootstrapContext} {incarnation : UInt64}
    {clock : CompletionClock} {completion : Completion V} {header : Header}
    (hheader : (view db (BootstrapContext.key expected)).header = some header)
    (hcomplete : complete store receipt_bytes expected incarnation clock db = .ok (completion, after)) :
    ∃ receipt manifest, Admitted store receipt_bytes expected incarnation header receipt manifest := by
  unfold complete at hcomplete
  obtain ⟨_, hkey, hcomplete⟩ := bind_eq_ok_iff.mp hcomplete
  obtain ⟨_, hlength, hcomplete⟩ := bind_eq_ok_iff.mp hcomplete
  obtain ⟨receipt, hreceipt, hcomplete⟩ := bind_eq_ok_iff.mp hcomplete
  unfold complete_in_transaction at hcomplete
  obtain ⟨inspection, hinspect, hcomplete⟩ := bind_eq_ok_iff.mp hcomplete
  obtain ⟨stage, hstage, hcomplete⟩ := bind_eq_ok_iff.mp hcomplete
  obtain ⟨_, hvalidate, hcomplete⟩ := bind_eq_ok_iff.mp hcomplete
  obtain ⟨parsed, hparse, hcomplete⟩ := bind_eq_ok_iff.mp hcomplete
  obtain ⟨_, hnumber, hcomplete⟩ := bind_eq_ok_iff.mp hcomplete
  obtain ⟨_, hmatching, _⟩ := bind_eq_ok_iff.mp hcomplete
  rw [okOr_eq_ok_iff] at hstage
  rw [refuse_eq_ok_iff, not_not] at hnumber
  subst hnumber
  rw [header_of_inspect hinspect hstage, Option.some.injEq] at hheader
  subst hheader
  exact ⟨receipt, stage.manifest, hkey, hlength, hreceipt, manifest_of_inspect hinspect hstage, hvalidate, hparse,
    hmatching⟩

/-- The receipt that consumed a stage is answered again, as long as the stage and the journal can be read. -/
theorem complete_again {receipt_bytes : Bytes} {expected : BootstrapContext} {incarnation : UInt64} {header : Header}
    {receipt : BootstrapReceipt} {manifest : BootstrapManifest}
    (hadmitted : Admitted store receipt_bytes expected incarnation header receipt manifest) (clock : CompletionClock)
    (hheader : (view db (BootstrapContext.key expected)).header = some header)
    (hconsumed : header.consumed_receipt = some receipt_bytes) {revision : UInt64}
    (hrevision : header.consumed_revision = some revision.to_string) {inspection : InspectedStage}
    (hinspect : inspect_stage store db (BootstrapContext.key expected) = .ok inspection) {state : DurableClientState V}
    (hcurrent : current_state store db (BootstrapContext.key expected) = .ok state) (hle : revision ≤ state.revision) :
    complete store receipt_bytes expected incarnation clock db = .ok (.HistoricalSuccess, db) := by
  have hfound := (inspect_stage_eq_ok hinspect).1
  rw [show db.stages.headers[header_id (BootstrapContext.key expected)]? = some header from hheader] at hfound
  obtain ⟨stage, hstage, rfl⟩ := Option.map_eq_some_iff.mp hfound
  have hmanifest := manifest_of_inspect hinspect hstage
  rw [hadmitted.decode_manifest, ok.injEq] at hmanifest
  subst hmanifest
  have hnot : ¬ state.revision < revision := UInt64.not_lt.mpr hle
  have hrepeat : repeat_completion store (BootstrapContext.key expected) stage.header receipt_bytes receipt_bytes db =
      .ok (.HistoricalSuccess, db) := by
    unfold repeat_completion
    refine bind_eq_ok_iff.mpr ⟨(), refuse_eq_ok_iff.mpr (not_not.mpr rfl), ?_⟩
    refine bind_eq_ok_iff.mpr ⟨state, hcurrent, ?_⟩
    refine bind_eq_ok_iff.mpr ⟨_, okOr_eq_ok_iff.mpr hrevision, ?_⟩
    refine bind_eq_ok_iff.mpr ⟨revision, parse_revision_to_string revision, ?_⟩
    exact bind_eq_ok_iff.mpr ⟨(), refuse_eq_ok_iff.mpr hnot, rfl⟩
  unfold complete
  refine bind_eq_ok_iff.mpr ⟨(), hadmitted.valid_key, ?_⟩
  refine bind_eq_ok_iff.mpr ⟨(), hadmitted.length, ?_⟩
  refine bind_eq_ok_iff.mpr ⟨receipt, hadmitted.decode_receipt, ?_⟩
  unfold complete_in_transaction
  refine bind_eq_ok_iff.mpr ⟨inspection, hinspect, ?_⟩
  refine bind_eq_ok_iff.mpr ⟨stage, okOr_eq_ok_iff.mpr hstage, ?_⟩
  refine bind_eq_ok_iff.mpr ⟨(), hadmitted.valid_header, ?_⟩
  refine bind_eq_ok_iff.mpr ⟨incarnation, hadmitted.numbered, ?_⟩
  refine bind_eq_ok_iff.mpr ⟨(), refuse_eq_ok_iff.mpr (not_not.mpr rfl), ?_⟩
  refine bind_eq_ok_iff.mpr ⟨(), hadmitted.matching, ?_⟩
  rw [hconsumed]
  exact hrepeat

/-! ### Whole runs -/

/-- No journal has a stage, and nothing is left of one. -/
structure Unstarted (db : Database C StageTables) : Prop where
  unstaged : ∀ key, Unstaged (view db key)
  headers : ∀ id : List String, db.stages.headers[id]? = none

theorem Unstarted.staged (hdb : Unstarted db) : Staged db := by
  refine ⟨fun key => ⟨fun index row hrow => ?_, .inl (hdb.unstaged key)⟩, .inr hdb.headers⟩
  rw [(hdb.unstaged key).pages index] at hrow
  cases hrow

/-- There is a header exactly with a fence, whose letter says that the stage is open and whose counter is not below
its number; a closed stage has no pages. -/
structure WellFenced (view : StageView) : Prop where
  fence : view.header.isSome ↔ view.fence.isSome
  header : ∀ header, view.header = some header → ∃ incarnation counter : UInt64,
    header.incarnation = incarnation.to_string ∧ incarnation ≤ counter ∧
      view.fence = some (fence_text counter (!header.cancelled)) ∧
      (header.cancelled ∨ header.consumed_receipt.isSome → ∀ index, view.pages index = none)

theorem Fenced.wellFenced {view : StageView} (hfenced : Fenced key view) : WellFenced view := by
  rcases hfenced.stage with hnone | ⟨header, incarnation, counter, hstage⟩
  · constructor
    · rw [hnone.header, hnone.fence]
      exact Iff.rfl
    · intro header hheader
      rw [hnone.header] at hheader
      cases hheader
  · constructor
    · rw [hstage.found, hstage.fence]
      exact Iff.rfl
    · intro found hfound
      rw [hstage.found] at hfound
      cases hfound
      refine ⟨incarnation, counter, hstage.numbered, hstage.le_counter, hstage.fence, fun hclosed => ?_⟩
      rcases hclosed with hclosed | hconsumed
      · exact hstage.pages hclosed
      · exact hstage.pages (hstage.consumed hconsumed)

/-- The number of the stage that is created is above all that were there before. -/
theorem lt_of_created {opened : Database C StageTables} {edges : List (Trace.Edge (Database C StageTables) (Label V))}
    (hrun : Trace.Run (StagedStep store) opened edges db) {next : StageView} {incarnation : UInt64}
    (hcreated : Created incarnation (view db key) next) {header : Header} {number counter : UInt64}
    (hearlier : HasStage (view opened key) header number counter) : number < incarnation := by
  obtain ⟨found, number', reached, hfound, hreached, _⟩ := later_of_run hrun key header number counter hearlier
  cases hcreated with
  | first start manifest hview => exact absurd hfound hview.not_hasStage
  | @replaced _ closed last current _ _ _ hview hclosed hnext =>
    obtain ⟨rfl, rfl, rfl⟩ := hfound.unique hview
    have hbelow := UInt64.le_iff_toNat_le.mp (UInt64.le_trans hearlier.le_counter hreached)
    exact UInt64.lt_iff_toNat_lt.mpr (by omega)

/-- After a completion its marker stays, or a new stage has taken its place. -/
theorem marker_of_run {opened : Database C StageTables} {edges : List (Trace.Edge (Database C StageTables) (Label V))}
    (hrun : Trace.Run (StagedStep store) opened edges db) {marker header : Header} {incarnation counter reached : UInt64}
    (hmarker : HasStage (view opened key) marker incarnation counter) (hconsumed : marker.consumed_receipt.isSome)
    (hfound : HasStage (view db key) header incarnation reached) : header = marker := by
  obtain ⟨later, number, last, hlater, _, ⟨_, hkept⟩ | hnew⟩ := later_of_run hrun key marker incarnation counter hmarker
  · rw [(hfound.unique hlater).1, hkept hconsumed]
  · obtain ⟨-, rfl, -⟩ := hfound.unique hlater
    exact absurd hmarker.le_counter (UInt64.not_le.mpr hnew)

theorem numbered_injective {first second : UInt64} (hsame : first.to_string = second.to_string) : first = second := by
  have hparse := parse_revision_to_string first
  rw [hsame, parse_revision_to_string, ok.injEq] at hparse
  exact hparse.symm

omit [DecidableEq V] in
/-- The marker that an applied completion leaves. -/
theorem Completed.marker {header : Header} {receipt : Bytes} {next : DurableClientState V} {incarnation counter : UInt64}
    (hcompleted : Completed store db after key header receipt (.Applied next)) (hafter : Staged after)
    (hstage : HasStage (view db key) header incarnation counter) :
    ∃ reached, HasStage (view after key) (consumed_header header receipt next.revision) incarnation reached := by
  cases hcompleted with
  | Applied _ _ _ hmarker _ _ =>
    obtain ⟨number, reached, hfound⟩ := (hafter.fenced key).hasStage hmarker
    have hsame : number = incarnation := numbered_injective (hfound.numbered.symm.trans hstage.numbered)
    exact ⟨reached, hsame ▸ hfound⟩

/-- The receipt of an applied completion is answered again in every later state that still has its stage. -/
theorem again_of_run {opened : Database C StageTables} {edges : List (Trace.Edge (Database C StageTables) (Label V))}
    (hserde : store.serde.Faithful) (hrun : Trace.Run (StagedStep store) after edges db) (hafter : Staged after)
    {receipt : Bytes} {expected : BootstrapContext} {incarnation counter reached : UInt64} {clock : CompletionClock}
    (clock' : CompletionClock) {next : DurableClientState V} {header found : Header}
    (hjournaled : Journaled store.platform opened (BootstrapContext.key expected))
    (hcomplete : complete store receipt expected incarnation clock opened = .ok (.Applied next, after))
    (hstage : HasStage (view opened (BootstrapContext.key expected)) header incarnation counter)
    (hcompleted : Completed store opened after (BootstrapContext.key expected) header receipt (.Applied next))
    (hfound : HasStage (view db (BootstrapContext.key expected)) found incarnation reached) {inspected : InspectedStage}
    (hinspect : inspect_stage store db (BootstrapContext.key expected) = .ok inspected) {state : DurableClientState V}
    (hcurrent : current_state store db (BootstrapContext.key expected) = .ok state) :
    complete store receipt expected incarnation clock' db = .ok (.HistoricalSuccess, db) := by
  obtain ⟨last, hmarker⟩ := hcompleted.marker hafter hstage
  have hsame := marker_of_run hrun hmarker rfl hfound
  subst hsame
  obtain ⟨decoded, manifest, hadmitted⟩ := admitted_of_complete hstage.found hcomplete
  cases hcompleted with
  | Applied _ _ _ _ howner hjournal =>
    have hstored := (hjournal hserde).2 hjournaled
    obtain ⟨later, hkey, hle, hlater⟩ := (keeps_of_run hserde hrun).stored next hstored
    have hloaded : later = state := by
      unfold current_state at hcurrent
      obtain ⟨loaded, hload, hcurrent⟩ := bind_eq_ok_iff.mp hcurrent
      rw [okOr_eq_ok_iff] at hcurrent
      rw [← howner, ← hkey] at hload
      have hsome := hlater.load_v2_eq hserde hload
      rw [hcurrent, Option.some.injEq] at hsome
      exact hsome.symm
    subst hloaded
    have hagain : Admitted store receipt expected incarnation (consumed_header header receipt next.revision) decoded
        manifest :=
      ⟨hadmitted.valid_key, hadmitted.length, hadmitted.decode_receipt, hadmitted.decode_manifest,
        hadmitted.valid_header, hadmitted.numbered, hadmitted.matching⟩
    exact complete_again hagain clock' hfound.found rfl rfl hinspect hcurrent hle

section Sample

/-- A store for the first save of a journal, which has no records and no stage. -/
noncomputable def first_store : Store Empty Plain Plain where
  serde := first_serde
  native := plain_records
  codec := ⟨Cbor.deterministic, sha256_digest, fun _ => .error .InvalidInput⟩
  canonical_to_json _ := none
  identity := ⟨fun _ => none, fun _ => none⟩
  page_row _ := none
  json_len text := text.utf8ByteSize + 2
  json_array_len texts := (texts.map fun text => text.utf8ByteSize + 3).sum + 1

def unstarted : Database Plain StageTables where
  metas := ∅
  states := ∅
  barriers := ∅
  components _ := ∅
  records := ∅
  stages := ⟨false, ∅, ∅⟩

def saved : Database Plain StageTables :=
  { unstarted with
    components := fun _ => ∅
    metas := (∅ : BTreeMap (List String) StoredMetaRow).insert ["p", "phone"]
      (empty_rows.meta_row ⟨⟨"p"⟩, ⟨"phone"⟩⟩ none) }

theorem perform_save_empty_state :
    perform first_store .Settled unstarted (.save none empty_state) = (.ok .done, saved) := by
  have hprepare : prepare_state_write first_store.platform none empty_state = .ok empty_rows := prepare_empty_state
  have hload : load_v2 first_store.platform unstarted (.of empty_state) = .ok none := rfl
  have hreplace : replace_v2_in_transaction first_store.platform (.of empty_state) none none empty_state empty_rows
      unstarted = .ok (.Applied, saved) := by
    unfold replace_v2_in_transaction
    rw [hload]
    rfl
  unfold perform save_transaction
  dsimp only
  rw [hprepare]
  dsimp only
  rw [hreplace]
  rfl

end Sample

end surrealdb_rn_core.sync_bootstrap_store
