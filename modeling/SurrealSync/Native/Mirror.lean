import Mathlib.Data.List.TakeDrop
import SurrealSync.Basic.Trace
import SurrealSync.Native.Stored

open Std Except
open surrealdb_sync_protocol surrealdb_sync_protocol.subscription surrealdb_sync_client

namespace surrealdb_rn_core.sync_state

variable {F V C S : Type} [DecidableEq V] {platform : Platform F V C S}

/-! ### One transition -/

/-- What `prepare_state_write` accepts: a valid state, one revision after the expected one, with its rows. -/
theorem prepare_state_write_eq_ok {expected : Option UInt64} {state : DurableClientState V} {rows : NormalizedRows}
    (hprepare : prepare_state_write platform expected state = .ok rows) :
    validate_next_revision expected state.revision = .ok () ∧ state.Valid ∧ Normalizes platform.serde state rows := by
  unfold prepare_state_write at hprepare
  obtain ⟨_, _, hprepare⟩ := bind_eq_ok_iff.mp hprepare
  obtain ⟨_, hrevision, hprepare⟩ := bind_eq_ok_iff.mp hprepare
  split at hprepare
  · rename_i hvalid
    exact ⟨hrevision, DurableClientState.validate_eq_ok_iff.mp hvalid, normalize_state_eq_ok_iff.mp hprepare⟩
  · cases hprepare

theorem revision_ne_of_validate {expected revision : UInt64}
    (hvalidate : validate_next_revision (some expected) revision = .ok ()) : expected ≠ revision := by
  simp only [validate_next_revision, bind_eq_ok_iff, okOr_eq_ok_iff, refuse_eq_ok_iff, not_not] at hvalidate
  obtain ⟨next, hnext, rfl⟩ := hvalidate
  intro hsame
  have hvalue := UInt64.checked_add_eq_some_iff.mp hnext
  rw [hsame] at hvalue
  have hone : (1 : UInt64).toNat = 1 := rfl
  omega

variable {db after : Database C S} {stored current next : DurableClientState V} {rows : NormalizedRows}
  {disposition : SyncStateWrite} {used : RecordId → Prop}

/-- A transition goes through only from the stored state, and leaves the journal and the records of the next one. -/
theorem stored_of_transition (hserde : platform.serde.Faithful) (hinjective : InjectiveOn platform.native used)
    (hstored : Stored platform db stored) (hmirrors : Mirrors platform.native used (optimistic_projection stored) db)
    (hkey : SyncStateKey.of next = .of stored) (hknown : ∀ record_id ∈ optimistic_projection next, used record_id)
    (hprepare : prepare_state_write platform (some current.revision) next = .ok rows)
    (htransaction : apply_transition_in_transaction platform current next rows db = .ok (disposition, after)) :
    disposition = .Applied ∧ Stored platform after next ∧
      Mirrors platform.native used (optimistic_projection next) after := by
  obtain ⟨hrevision, hvalid, hnormalizes⟩ := prepare_state_write_eq_ok hprepare
  unfold apply_transition_in_transaction at htransaction
  obtain ⟨⟨decided, between⟩, hreplace, htransaction⟩ := bind_eq_ok_iff.mp htransaction
  obtain ⟨loaded, hload, hexpected, hadmits, hwritten⟩ := replace_v2_in_transaction_eq_ok hreplace
  have hcurrent : loaded = some current := hexpected rfl
  rw [hkey] at hload
  have hfound := hstored.load_v2_eq hserde hload
  rw [hcurrent, Option.some.injEq] at hfound
  subst hfound hcurrent
  rcases hwritten with ⟨rfl, _⟩ | ⟨rfl, current_rows, hrows, hwrite⟩
  · have hsame := Option.some.inj (eq_of_admit_alreadyCurrent hadmits)
    exact absurd (congrArg DurableClientState.revision hsame) (revision_ne_of_validate hrevision)
  · obtain ⟨final, hdiff, hdone⟩ := bind_eq_ok_iff.mp htransaction
    cases hdone
    obtain ⟨first_rows, hfirst, hsome⟩ : ∃ first_rows, normalize_state platform.serde current = .ok first_rows ∧
        current_rows = some first_rows := by
      obtain ⟨first_rows, hfirst, hsome⟩ := bind_eq_ok_iff.mp hrows
      exact ⟨first_rows, hfirst, (ok.inj hsome).symm⟩
    subst hsome
    obtain ⟨hbetween, hrecords⟩ := hstored.of_write_row_diff hkey hvalid (normalize_state_eq_ok_iff.mp hfirst)
      hnormalizes hwrite
    have hshown : Mirrors platform.native used (optimistic_projection current) between := by
      refine ⟨hmirrors.known, hmirrors.supported, ?_⟩
      rw [hrecords]
      exact hmirrors.shows
    obtain ⟨hjournal, hmirrored⟩ := mirrors_of_apply_projection_diff hinjective hshown hknown hdiff
    exact ⟨rfl, hbetween.of_sameJournal hjournal, hmirrored⟩

/-! ### Calls -/

omit [DecidableEq V] in
theorem finish_cases {α : Type} (outcome : Outcome) (db : Database C S) (operation : SyncResult (α × Database C S)) :
    (∃ failed, finish outcome db operation = (.error failed, db)) ∨
      ∃ value after, operation = .ok (value, after) ∧
        ((outcome = .Settled ∧ finish outcome db operation = (.ok value, after)) ∨
          (outcome = .CommitUnknown true ∧ finish outcome db operation = (.error .CommitUnknown, after))) := by
  cases operation with
  | error failed =>
    left
    cases outcome <;> exact ⟨_, rfl⟩
  | ok done =>
    obtain ⟨value, after⟩ := done
    cases outcome with
    | Settled => exact .inr ⟨value, after, rfl, .inl ⟨rfl, rfl⟩⟩
    | Interrupted cause => exact .inl ⟨_, rfl⟩
    | RollbackFailed => exact .inl ⟨_, rfl⟩
    | CommitUnknown applied =>
      cases applied with
      | true => exact .inr ⟨value, after, rfl, .inr ⟨rfl, rfl⟩⟩
      | false => exact .inl ⟨_, rfl⟩

/-- A call of `apply_transition_atomic`, with what the database does with it. -/
structure Call (V : Type) where
  outcome : Outcome
  current : DurableClientState V
  next : DurableClientState V

def Call.apply (platform : Platform F V C S) (call : Call V) (db : Database C S) :
    SyncResult SyncStateWrite × Database C S :=
  apply_transition_atomic platform call.outcome call.current call.next db

/-- The transaction of the call takes effect. -/
def Call.Commits (platform : Platform F V C S) (call : Call V) (db after : Database C S) : Prop :=
  SyncStateKey.of call.next = .of call.current ∧
    ∃ rows, prepare_state_write platform (some call.current.revision) call.next = .ok rows ∧
      apply_transition_in_transaction platform call.current call.next rows db = .ok (.Applied, after)

/-- A journal that is there is loaded as it is: nothing is migrated. -/
theorem Stored.load_eq (hstored : Stored platform db stored) (hserde : platform.serde.Faithful) (outcome : Outcome) :
    (load platform outcome (.of stored) db).2 = db ∧
      ∀ loaded, (load platform outcome (.of stored) db).1 = .ok loaded → loaded = some stored := by
  have hpresent : ∀ loaded, load_v2 platform db (.of stored) = .ok loaded → loaded = some stored :=
    fun _ => hstored.load_v2_eq hserde
  unfold load
  split
  · exact ⟨rfl, by simp⟩
  · split
    · exact ⟨rfl, by simp⟩
    · exact ⟨rfl, by simp⟩
    · rename_i hload
      refine ⟨rfl, fun loaded hloaded => ?_⟩
      rw [← hpresent _ hload]
      exact (ok.inj hloaded).symm
    · rename_i hload
      cases hpresent _ hload

/-- A call either leaves everything as it was, or its transaction takes effect. -/
theorem Call.apply_cases (hserde : platform.serde.Faithful) (hstored : Stored platform db stored) (call : Call V)
    (hkey : SyncStateKey.of call.current = .of stored) :
    ((call.apply platform db).2 = db ∧ (call.apply platform db).1 ≠ .ok .Applied) ∨
      ∃ after disposition, (call.apply platform db).2 = after ∧ SyncStateKey.of call.next = .of call.current ∧
        (call.outcome = .CommitUnknown true ∨ (call.apply platform db).1 = .ok disposition) ∧
        ∃ rows, prepare_state_write platform (some call.current.revision) call.next = .ok rows ∧
          apply_transition_in_transaction platform call.current call.next rows db = .ok (disposition, after) := by
  obtain ⟨outcome, current, next⟩ := call
  change SyncStateKey.of current = _ at hkey
  generalize hresult : Call.apply platform ⟨outcome, current, next⟩ db = result
  simp only [Call.apply, apply_transition_atomic] at hresult
  split at hresult
  · subst hresult
    exact .inl ⟨rfl, by simp⟩
  · rename_i hsame
    rw [not_or, not_not, not_not] at hsame
    split at hresult
    · subst hresult
      exact .inl ⟨rfl, by simp⟩
    · split at hresult
      · left
        obtain ⟨hdb, _⟩ := hstored.load_eq hserde outcome
        rw [← hkey] at hdb
        split at hresult
        · rename_i hload
          rw [hload] at hdb
          subst hresult
          exact ⟨hdb, by simp⟩
        · rename_i hload
          rw [hload] at hdb
          subst hresult
          refine ⟨hdb, ?_⟩
          dsimp only
          split <;> simp
      · split at hresult
        · subst hresult
          exact .inl ⟨rfl, by simp⟩
        · rename_i rows hprepare
          obtain ⟨failed, hfinish⟩ | ⟨disposition, after, htransaction, hfinish⟩ := finish_cases outcome db
            (apply_transition_in_transaction platform current next rows db)
          · rw [hfinish] at hresult
            subst hresult
            exact .inl ⟨rfl, by simp⟩
          · right
            refine ⟨after, disposition, ?_, ?_, ?_, rows, hprepare, htransaction⟩
            · obtain ⟨_, hfinish⟩ | ⟨_, hfinish⟩ := hfinish
              all_goals
                rw [hfinish] at hresult
                rw [← hresult]
            · simp [SyncStateKey.of, hsame]
            · obtain ⟨_, hfinish⟩ | ⟨hunknown, _⟩ := hfinish
              · right
                rw [hfinish] at hresult
                rw [← hresult]
              · exact .inl hunknown

/-- No record lies where the ids in use would put one. -/
def Unused (native : NativeRecords V C) (used : RecordId → Prop) (db : Database C S) : Prop :=
  ∀ record_id native_id, used record_id → native_record_id native record_id = .ok native_id →
    db.records[[native_id.1, native_id.2]]? = none

omit [DecidableEq V] in
theorem mirrors_empty {native : NativeRecords V C} (hunused : Unused native used db) : Mirrors native used ∅ db := by
  refine ⟨by simp, by simp, ?_⟩
  intro record_id native_id hrecord hnative
  simpa [Shows] using hunused record_id native_id hrecord hnative

/-- The two ways in which a journal begins: an empty state is saved, or a journal of the first format is loaded. -/
inductive Opened (platform : Platform F V C S) (used : RecordId → Prop) : Database C S → DurableClientState V → Prop where
  | saved {db after : Database C S} {partition_id : PartitionId} {client_id : ClientId}
      {requested_scope : ScopeIdentity} {subscription_revision : UInt64} {migration outcome : Outcome}
      (hvacant : Vacant db ⟨partition_id, client_id⟩) (hlegacy : db.states[[partition_id.val, client_id.val]]? = none)
      (hunused : Unused platform.native used db)
      (hsave : save_atomic platform migration outcome none
        (.empty partition_id client_id requested_scope subscription_revision) db = (.ok .Applied, after)) :
    Opened platform used after (.empty partition_id client_id requested_scope subscription_revision)
  | migrated {db after : Database C S} {key : SyncStateKey} {state : DurableClientState V} {outcome : Outcome}
      (hvacant : Vacant db key) (hunused : Unused platform.native used db)
      (hknown : ∀ record_id ∈ optimistic_projection state, used record_id)
      (hload : load platform outcome key db = (.ok (some state), after)) :
    Opened platform used after state

theorem Vacant.load_v2_eq {key : SyncStateKey} (hvacant : Vacant db key) {loaded : Option (DurableClientState V)}
    (hload : load_v2 platform db key = .ok loaded) : loaded = none := by
  unfold load_v2 at hload
  obtain ⟨inventory, _, hload⟩ := bind_eq_ok_iff.mp hload
  rw [hvacant.meta_row] at hload
  dsimp only at hload
  split at hload
  · exact (ok.inj hload).symm
  · cases hload

omit [DecidableEq V] in
theorem optimistic_projection_empty (partition_id : PartitionId) (client_id : ClientId) (requested_scope : ScopeIdentity)
    (subscription_revision : UInt64) :
    optimistic_projection (DurableClientState.empty partition_id client_id requested_scope subscription_revision :
      DurableClientState V) = ∅ := by
  apply ExtTreeMap.ext_getElem?
  intro record_id
  simp [optimistic_projection, optimistic_operations, DurableClientState.empty]

/-- A save into a vacant journal writes the rows of its state, and nothing else. -/
theorem stored_of_save (hvacant : Vacant db (.of next)) (hlegacy : db.states[record_id (.of next)]? = none)
    {migration outcome : Outcome} (hsave : save_atomic platform migration outcome none next db = (.ok .Applied, after)) :
    Stored platform after next ∧ after.records = db.records := by
  unfold save_atomic at hsave
  split at hsave
  · cases hsave
  · rename_i rows hprepare
    obtain ⟨_, hvalid, hnormalizes⟩ := prepare_state_write_eq_ok hprepare
    split at hsave
    · cases hsave
    · rename_i loaded between hload
      have hbetween : between = db := by
        unfold load at hload
        split at hload
        · cases hload
        · split at hload
          · cases hload
          · cases hload
          · rename_i hfound
            cases hvacant.load_v2_eq hfound
          · rw [hlegacy] at hload
            cases hload
            rfl
      subst hbetween
      obtain ⟨failed, hfinish⟩ | ⟨disposition, done, hreplace, ⟨_, hfinish⟩ | ⟨_, hfinish⟩⟩ := finish_cases outcome between
        (replace_v2_in_transaction platform (.of next) none none next rows between)
      · rw [hfinish] at hsave
        cases hsave
      · rw [hfinish] at hsave
        cases hsave
        obtain ⟨found, hfound, _, _, ⟨hcurrent, _⟩ | ⟨_, current_rows, hrows, hwrite⟩⟩ :=
          replace_v2_in_transaction_eq_ok hreplace
        · cases hcurrent
        · cases hvacant.load_v2_eq hfound
          cases hrows
          exact hvacant.of_write_row_diff hvalid hnormalizes hwrite
      · rw [hfinish] at hsave
        cases hsave

theorem decode_record_eq_ok {key : SyncStateKey} {legacy : StoredRecord} {state : DurableClientState V}
    (hdecode : decode_record platform key legacy = .ok state) : SyncStateKey.of state = key ∧ state.Valid := by
  unfold decode_record at hdecode
  obtain ⟨_, _, hdecode⟩ := bind_eq_ok_iff.mp hdecode
  obtain ⟨_, _, hdecode⟩ := bind_eq_ok_iff.mp hdecode
  obtain ⟨_, _, hdecode⟩ := bind_eq_ok_iff.mp hdecode
  obtain ⟨decoded, _, hdecode⟩ := bind_eq_ok_iff.mp hdecode
  obtain ⟨_, hsame, hdecode⟩ := bind_eq_ok_iff.mp hdecode
  split at hdecode
  · rename_i hvalid
    cases hdecode
    have hkey := refuse_eq_ok_iff.mp hsame
    simp only [not_or, not_not] at hkey
    refine ⟨?_, DurableClientState.validate_eq_ok_iff.mp hvalid⟩
    simp [SyncStateKey.of, hkey]
  · cases hdecode

/-- A migration writes the rows and the records of the state it read. -/
theorem stored_of_migrate {key : SyncStateKey} {state : DurableClientState V} (hkey : SyncStateKey.of state = key)
    (hvalid : state.Valid) (hnormalizes : Normalizes platform.serde state rows)
    (hinjective : InjectiveOn platform.native used) (hvacant : Vacant db key)
    (hunused : Unused platform.native used db) (hknown : ∀ record_id ∈ optimistic_projection state, used record_id)
    (hmigrate : migrate_v1 platform key state rows db = .ok (disposition, after)) :
    Stored platform after state ∧ Mirrors platform.native used (optimistic_projection state) after := by
  subst hkey
  unfold migrate_v1 at hmigrate
  obtain ⟨loaded, hload, hmigrate⟩ := bind_eq_ok_iff.mp hmigrate
  cases hvacant.load_v2_eq hload
  obtain ⟨legacy, _, hmigrate⟩ := bind_eq_ok_iff.mp hmigrate
  obtain ⟨decoded, _, hmigrate⟩ := bind_eq_ok_iff.mp hmigrate
  obtain ⟨_, _, hmigrate⟩ := bind_eq_ok_iff.mp hmigrate
  obtain ⟨between, hwrite, hmigrate⟩ := bind_eq_ok_iff.mp hmigrate
  obtain ⟨projected, hdiff, hmigrate⟩ := bind_eq_ok_iff.mp hmigrate
  cases hmigrate
  obtain ⟨hbetween, hrecords⟩ := hvacant.of_write_row_diff hvalid hnormalizes hwrite
  have hunusedBetween : Unused platform.native used between := by
    intro record_id native_id hrecord hnative
    rw [hrecords]
    exact hunused record_id native_id hrecord hnative
  obtain ⟨hjournal, hmirrored⟩ := mirrors_of_apply_projection_diff hinjective (mirrors_empty hunusedBetween) hknown hdiff
  obtain ⟨hvalid, stored_rows, hstored, hmeta, hcomponents⟩ := hbetween.of_sameJournal hjournal
  exact ⟨⟨hvalid, stored_rows, hstored, hmeta, hcomponents⟩, hmirrored.known, hmirrored.supported, hmirrored.shows⟩

theorem stored_of_opened (hinjective : InjectiveOn platform.native used) (hopened : Opened platform used db stored) :
    Stored platform db stored ∧ Mirrors platform.native used (optimistic_projection stored) db := by
  cases hopened with
  | saved hvacant hlegacy hunused hsave =>
    obtain ⟨hstored, hrecords⟩ := stored_of_save hvacant hlegacy hsave
    rw [optimistic_projection_empty]
    refine ⟨hstored, mirrors_empty ?_⟩
    intro record_id native_id hrecord hnative
    rw [hrecords]
    exact hunused record_id native_id hrecord hnative
  | @migrated before after key state outcome hvacant hunused hknown hload =>
    unfold load at hload
    split at hload
    · cases hload
    · split at hload
      · cases hload
      · cases hload
      · rename_i hfound
        cases hvacant.load_v2_eq hfound
      · split at hload
        · cases hload
        · unfold load_legacy at hload
          split at hload
          · cases hload
          · split at hload
            · cases hload
            · rename_i decoded hdecode
              split at hload
              · cases hload
              · rename_i rows hnormalize
                obtain ⟨hkey, hvalid⟩ := decode_record_eq_ok hdecode
                obtain ⟨failed, hfinish⟩ | ⟨disposition, done, hmigrate, ⟨_, hfinish⟩ | ⟨_, hfinish⟩⟩ :=
                  finish_cases outcome before (migrate_v1 platform key decoded rows before)
                · rw [hfinish] at hload
                  cases hload
                · rw [hfinish] at hload
                  cases hload
                  exact stored_of_migrate hkey hvalid (normalize_state_eq_ok_iff.mp hnormalize) hinjective hvacant
                    hunused hknown hmigrate
                · rw [hfinish] at hload
                  cases hload

/-- A call, and the state that the journal is then for: the next one once its transaction has taken effect. -/
inductive CallStep (platform : Platform F V C S) :
    Database C S × DurableClientState V → Call V → Database C S × DurableClientState V → Prop where
  | committed {db after : Database C S} {stored : DurableClientState V} {call : Call V}
      (happly : (call.apply platform db).2 = after) (hcommits : call.Commits platform db after) :
    CallStep platform (db, stored) call (after, call.next)
  | refused {db : Database C S} {stored : DurableClientState V} {call : Call V}
      (happly : (call.apply platform db).2 = db) : CallStep platform (db, stored) call (db, stored)

/-- The journal and the records are those of the state that the run carries along. -/
structure Faithful (platform : Platform F V C S) (used : RecordId → Prop) (key : SyncStateKey)
    (world : Database C S × DurableClientState V) : Prop where
  key : SyncStateKey.of world.2 = key
  stored : Stored platform world.1 world.2
  mirrors : Mirrors platform.native used (optimistic_projection world.2) world.1

theorem faithful_of_callStep (hserde : platform.serde.Faithful) (hinjective : InjectiveOn platform.native used)
    {key : SyncStateKey} {world world' : Database C S × DurableClientState V} {call : Call V}
    (hstep : CallStep platform world call world') (hcurrent : SyncStateKey.of call.current = key)
    (hknown : ∀ record_id ∈ optimistic_projection call.next, used record_id)
    (hworld : Faithful platform used key world) : Faithful platform used key world' := by
  cases hstep with
  | committed happly hcommits =>
    obtain ⟨hnext, rows, hprepare, htransaction⟩ := hcommits
    have hsame : SyncStateKey.of call.next = key := hnext.trans hcurrent
    obtain ⟨_, hstored, hmirrors⟩ := stored_of_transition hserde hinjective hworld.stored hworld.mirrors
      (hsame.trans hworld.key.symm) hknown hprepare htransaction
    exact ⟨hsame, hstored, hmirrors⟩
  | refused happly => exact hworld

section Sample

open serde_json

/-- What serde derives for the metadata of an empty state. -/
def bare_meta : Derive Empty (StateMeta V) where
  to_value
    | ⟨partition_id, client_id, requested_scope, subscription_revision, revision, none, none, none, [], [], [], [], []⟩ =>
      some (.Object [("checkpoint", .Null), ("client_id", .String client_id), ("confirmed_keys", .Array []),
        ("id_map_keys", .Array []), ("outbox_keys", .Array []), ("outcome_keys", .Array []),
        ("partition_id", .String partition_id), ("requested_scope", .String requested_scope),
        ("reset_coverage", .Null), ("revision", .String revision), ("subscription_record_keys", .Array []),
        ("subscription_revision", .String subscription_revision), ("subscriptions", .Null)])
    | _ => none
  from_value
    | .Object [(_, .Null), (_, .String client_id), (_, .Array []), (_, .Array []), (_, .Array []), (_, .Array []),
        (_, .String partition_id), (_, .String requested_scope), (_, .Null), (_, .String revision), (_, .Array []),
        (_, .String subscription_revision), (_, .Null)] =>
      some ⟨partition_id, client_id, requested_scope, subscription_revision, revision, none, none, none, [], [], [], [],
        []⟩
    | _ => none

omit [DecidableEq V] in
theorem bare_meta_inverse : (bare_meta : Derive Empty (StateMeta V)).Inverse := by
  intro state_meta value hvalue
  unfold bare_meta at hvalue
  dsimp only at hvalue
  split at hvalue
  · cases hvalue
    rfl
  · cases hvalue

abbrev Plain := List (String × String)

def empty_state : DurableClientState Plain := .empty ⟨"p"⟩ ⟨"phone"⟩ ⟨"all"⟩ 0

/-- The metadata of the empty state, tagged, and its text. -/
def empty_tagged : TaggedJson :=
  .Object [("checkpoint", .Null), ("client_id", .String "phone"), ("confirmed_keys", .Array []),
    ("id_map_keys", .Array []), ("outbox_keys", .Array []), ("outcome_keys", .Array []), ("partition_id", .String "p"),
    ("requested_scope", .String "all"), ("reset_coverage", .Null), ("revision", .String "0"),
    ("subscription_record_keys", .Array []), ("subscription_revision", .String "0"), ("subscriptions", .Null)]

def empty_text : String :=
  "\x7b\"type\":\"object\",\"value\":\x7b\"checkpoint\":\x7b\"type\":\"null\"\x7d,\"client_id\":\x7b\"type" ++
    "\":\"string\",\"value\":\"phone\"\x7d,\"confirmed_keys\":\x7b\"type\":\"array\",\"value\":[]\x7d,\"id_ma" ++
    "p_keys\":\x7b\"type\":\"array\",\"value\":[]\x7d,\"outbox_keys\":\x7b\"type\":\"array\",\"value\":[]\x7d" ++
    ",\"outcome_keys\":\x7b\"type\":\"array\",\"value\":[]\x7d,\"partition_id\":\x7b\"type\":\"string\",\"val" ++
    "ue\":\"p\"\x7d,\"requested_scope\":\x7b\"type\":\"string\",\"value\":\"all\"\x7d,\"reset_coverage\":\x7b" ++
    "\"type\":\"null\"\x7d,\"revision\":\x7b\"type\":\"string\",\"value\":\"0\"\x7d,\"subscription_record_key" ++
    "s\":\x7b\"type\":\"array\",\"value\":[]\x7d,\"subscription_revision\":\x7b\"type\":\"string\",\"value\":" ++
    "\"0\"\x7d,\"subscriptions\":\x7b\"type\":\"null\"\x7d\x7d\x7d"

def empty_bytes : Bytes := empty_text.toUTF8.data.toList

open Classical in
/-- The JSON library, on the one text that a first save writes. -/
noncomputable def first_text : JsonText Empty where
  to_vec tagged := if tagged = empty_tagged then some empty_bytes else none
  from_slice bytes := if bytes = empty_bytes then some empty_tagged else none
  float_to_string value := value.elim
  number_from_str _ := none

noncomputable def first_serde : Serde Empty Plain where
  text := first_text
  state_meta := bare_meta
  subscription_row := ⟨fun _ => none, fun _ => none⟩
  record_state := ⟨fun _ => none, fun _ => none⟩
  commit := ⟨fun _ => none, fun _ => none⟩
  resolved := ⟨fun _ => none, fun _ => none⟩
  record_id := ⟨fun _ => none, fun _ => none⟩
  state_from_slice _ := none

theorem first_serde_faithful : first_serde.Faithful := by
  have hnone : ∀ {T : Type}, (⟨fun _ => none, fun _ => none⟩ : Derive Empty T).Inverse := by
    intro T value json hvalue
    cases hvalue
  refine ⟨⟨?_, fun value => value.elim⟩, bare_meta_inverse, hnone, hnone, hnone, hnone, hnone⟩
  intro first second bytes hfirst hsecond
  simp only [first_serde, first_text, Option.ite_none_right_eq_some] at hfirst hsecond
  rw [hfirst.1, hsecond.1]

noncomputable def first_platform : Platform Empty Plain Plain Unit where
  serde := first_serde
  native := plain_records
  load_stage _ _ := .ok none

def empty_rows : NormalizedRows := ⟨FORMAT_VERSION, empty_bytes, .empty⟩

theorem meta_of_empty_state : meta_of empty_state = ⟨"p", "phone", "all", "0", "0", none, none, none, [], [], [], [], []⟩ := by
  have hzero : (0 : UInt64).to_string = "0" := by decide
  simp only [meta_of, empty_state, DurableClientState.empty, subscription_records, hzero]
  simp

theorem normalizes_empty_state : Normalizes first_serde empty_state empty_rows where
  count := by decide
  keys := rfl
  meta_bytes := by
    rw [meta_of_empty_state, encode_tagged_eq_ok_iff]
    exact ⟨_, rfl, if_pos rfl, by decide +kernel⟩
  components := by
    have hsubscriptions : (subscription_records empty_state).toList = [] := rfl
    have hconfirmed : confirmed_entries empty_state = [] := rfl
    have hid_map : id_map_entries empty_state = [] := rfl
    unfold encode_components
    rw [hsubscriptions, hconfirmed, hid_map]
    refine congrArg ok (funext fun table => ?_)
    cases table <;> rfl
  total := by decide +kernel
  version := rfl

theorem prepare_empty_state : prepare_state_write first_platform none empty_state = .ok empty_rows := by
  have hvalid : empty_state.validate = .ok () := by decide
  unfold prepare_state_write
  rw [hvalid]
  exact normalize_state_eq_ok_iff.mpr normalizes_empty_state

def empty_database : Database Plain Unit where
  metas := ∅
  states := ∅
  barriers := ∅
  components _ := ∅
  records := ∅
  stages := ()

def saved_database : Database Plain Unit :=
  { empty_database with
    components := fun _ => ∅
    metas := (∅ : BTreeMap (List String) StoredMetaRow).insert ["p", "phone"]
      (empty_rows.meta_row ⟨⟨"p"⟩, ⟨"phone"⟩⟩ none) }

theorem save_empty_state :
    save_atomic first_platform .Settled .Settled none empty_state empty_database = (.ok .Applied, saved_database) := by
  have hload : load_v2 first_platform empty_database (.of empty_state) = .ok none := rfl
  have hreplace : replace_v2_in_transaction first_platform (.of empty_state) none none empty_state empty_rows
      empty_database = .ok (.Applied, saved_database) := by
    unfold replace_v2_in_transaction
    rw [hload]
    rfl
  unfold save_atomic
  rw [prepare_empty_state]
  dsimp only
  have hfound : load first_platform .Settled (.of empty_state) empty_database = (.ok none, empty_database) := by
    unfold load
    rw [hload]
    rfl
  rw [hfound]
  dsimp only
  rw [hreplace]
  rfl

theorem split_record_id_eq_some {record_id : String} {native_id : String × String}
    (hsplit : split_record_id record_id = some native_id) :
    record_id.toList = native_id.1.toList ++ ':' :: native_id.2.toList := by
  unfold split_record_id at hsplit
  split at hsplit
  · rename_i table key hspan
    cases hsplit
    have hjoin := @List.takeWhile_append_dropWhile _ (fun c => decide (c ≠ ':')) record_id.toList
    rw [List.span_eq_takeWhile_dropWhile] at hspan
    rw [(Prod.mk.inj hspan).1, (Prod.mk.inj hspan).2] at hjoin
    simp [← hjoin]
  · cases hsplit

theorem plain_records_injective (used : RecordId → Prop) : InjectiveOn plain_records used := by
  intro first second native_id _ _ hfirst hsecond
  obtain ⟨_, hfirst, _⟩ := native_record_id_eq_ok_iff.mp hfirst
  obtain ⟨_, hsecond, _⟩ := native_record_id_eq_ok_iff.mp hsecond
  have hsame := (split_record_id_eq_some hfirst).trans (split_record_id_eq_some hsecond).symm
  cases first
  cases second
  exact congrArg RecordId.mk (String.toList_inj.mp hsame)

end Sample

end surrealdb_rn_core.sync_state
