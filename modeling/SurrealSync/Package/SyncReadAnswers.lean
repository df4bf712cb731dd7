import SurrealSync.Native.Reached
import SurrealSync.Native.ViewOutput
import SurrealSync.Native.ViewWork
import SurrealSync.Package.SyncViewRequests
import SurrealSync.Package.WireReading

open Except
open surrealdb_sync_protocol surrealdb_sync_protocol.canonical surrealdb_sync_client
open surrealdb_rn_core.sync_view surrealdb_rn_core.sync_client

namespace react_native_surrealdb.sync_read_codec

open wire

variable {F : Type}

/-! ### Decimal texts -/

theorem head_toDigits_ne_zero {n : Nat} (hn : n ≠ 0) {first : Char} {rest : List Char}
    (hdigits : Nat.toDigits 10 n = first :: rest) : first ≠ '0' := by
  induction n using Nat.strong_induction_on generalizing rest with
  | _ n ih =>
    by_cases hsmall : n < 10
    · rw [Nat.toDigits_of_lt_base hsmall] at hdigits
      obtain ⟨rfl, _⟩ := List.cons.inj hdigits
      have hall : ∀ m : Fin 10, m.val ≠ 0 → m.val.digitChar ≠ '0' := by decide
      exact hall ⟨n, hsmall⟩ hn
    · rw [Nat.toDigits_of_base_le (by omega) (by omega)] at hdigits
      have hquotient : n / 10 ≠ 0 := by omega
      cases hprevious : Nat.toDigits 10 (n / 10) with
      | nil => exact absurd hprevious Nat.toDigits_ne_nil
      | cons digit digits =>
        rw [hprevious, List.cons_append] at hdigits
        obtain ⟨rfl, _⟩ := List.cons.inj hdigits
        exact ih (n / 10) (by omega) hquotient hprevious

theorem nonzero_digit {char : Char} (hdigit : char.isDigit = true) (hnonzero : char ≠ '0') :
    ('1' ≤ char && char ≤ '9') = true := by
  simp only [Char.isDigit, ge_iff_le, Bool.and_eq_true, decide_eq_true_eq] at hdigit
  have hne : char.val ≠ '0'.val := fun hval => hnonzero (Char.ext hval)
  have hlower : '0'.val.toNat ≤ char.val.toNat := UInt32.le_iff_toNat_le.mp hdigit.1
  have hnat : char.val.toNat ≠ '0'.val.toNat := fun heq => hne (UInt32.toNat_inj.mp heq)
  have hone : '1'.val.toNat = '0'.val.toNat + 1 := by decide
  simp only [Char.le_def, Bool.and_eq_true, decide_eq_true_eq, UInt32.le_iff_toNat_le]
  have hupper : char.val.toNat ≤ '9'.val.toNat := UInt32.le_iff_toNat_le.mp hdigit.2
  exact ⟨by omega, hupper⟩

theorem isDecimal_repr {n digits : Nat} (hn : n < 10 ^ (digits + 1)) : isDecimal digits n.repr = true := by
  unfold isDecimal
  rw [Nat.toList_repr]
  split
  · rename_i hnil
    exact absurd hnil Nat.toDigits_ne_nil
  · rfl
  · rename_i first rest hzero hdigits
    have hnonzero : n ≠ 0 := by
      rintro rfl
      have hsame : '0' :: [] = first :: rest := hdigits
      obtain ⟨rfl, rfl⟩ := List.cons.inj hsame
      exact hzero rfl rfl
    have hdigit : ∀ char ∈ first :: rest, char.isDigit = true := by
      intro char hchar
      rw [← hdigits] at hchar
      exact Nat.isDigit_of_mem_toDigits (by omega) (by omega) hchar
    have hlength : (first :: rest).length ≤ digits + 1 := by
      rw [← hdigits]
      exact (Nat.length_toDigits_le_iff (by omega) (by omega)).mpr hn
    have hfirst := nonzero_digit (hdigit first List.mem_cons_self) (head_toDigits_ne_zero hnonzero hdigits)
    rw [hfirst, Bool.true_and, Bool.and_eq_true, decide_eq_true_eq, List.all_eq_true]
    exact ⟨Nat.le_of_succ_le_succ hlength, fun char hchar => hdigit char (List.mem_cons_of_mem _ hchar)⟩

theorem BigInt_nat_repr (n : Nat) : BigInt n.repr = some (n : Int) := BigInt_repr n

theorem exceeds_repr {n bound : Nat} : exceeds n.repr bound = true ↔ bound < n := by
  rw [exceeds, BigInt_nat_repr, Option.any_some, decide_eq_true_eq]
  omega

/-! ### Counters, texts and identities -/

theorem counter_to_string (n : UInt64) :
    counter (some (.String n.to_string)) = (.ok () : Except (WireError F) Unit) := by
  have hn := n.toNat_lt
  refine refuse_of_not (not_or.mpr ⟨not_not.mpr ?_, ?_⟩)
  · exact isDecimal_repr (Nat.lt_trans hn (by decide))
  · rw [UInt64.to_string, exceeds_repr]
    omega

theorem text_eq_ok {value : String} (hnonempty : value ≠ "") (hsize : value.utf8ByteSize ≤ 4096) :
    text (some (.String value)) = (.ok () : Except (WireError F) Unit) := by
  refine refuse_of_not (not_or.mpr ⟨fun hzero => hnonempty (sync_view.utf16Length_eq_zero_iff.mp hzero), ?_⟩)
  exact Nat.not_lt.mpr (Nat.le_trans (sync_view.utf16Length_le value) hsize)

theorem text_eq_ok_iff {value : String} (hsize : value.utf8ByteSize ≤ 4096) :
    text (some (.String value)) = (.ok () : Except (WireError F) Unit) ↔ value ≠ "" := by
  refine ⟨?_, fun hnonempty => text_eq_ok hnonempty hsize⟩
  rintro hok rfl
  exact absurd hok (by simp [text, refuse, utf16Length, error])

theorem length_lower_hex (bytes : List UInt8) : (lower_hex bytes).length = 2 * bytes.length := by
  induction bytes with
  | nil => rfl
  | cons byte bytes ih =>
    simp only [lower_hex, List.flatMap_cons, List.length_append, List.length_cons, List.length_nil] at ih ⊢
    omega

theorem utf16Length_le_length (text : String) : utf16Length text ≤ 2 * text.length := by
  unfold utf16Length
  rw [← String.length_toList]
  induction text.toList with
  | nil => exact Nat.zero_le _
  | cons char chars ih =>
    rw [List.map_cons, List.sum_cons, List.length_cons]
    split <;> omega

/-- The fingerprint that a codec computed is short. -/
theorem text_of_computed {fingerprint : Fingerprint} (hcomputed : Computed fingerprint) :
    text (some (.String fingerprint.val)) = (.ok () : Except (WireError F) Unit) := by
  obtain ⟨digest, hdigest⟩ := hcomputed
  have hlength : (digest_text digest).length = 71 := by
    have hhex := length_lower_hex digest.bytes
    rw [digest.length] at hhex
    have hchars : (digest_text digest).toList = "sha256:".toList ++ lower_hex digest.bytes := by
      simp only [digest_text, String.toList_append, String.toList_ofList]
    rw [← String.length_toList, hchars, List.length_append, hhex]
    rfl
  have hunits := utf16Length_le_length (digest_text digest)
  rw [hdigest]
  refine refuse_of_not (not_or.mpr ⟨fun hzero => ?_, ?_⟩)
  · rw [sync_view.utf16Length_eq_zero_iff] at hzero
    rw [hzero] at hlength
    cases hlength
  · omega

theorem identity_identity_wire {held : CommitIdentity} (hpresentable : Presentable held) :
    identity (some (identity_wire held)) = (.ok () : Except (WireError F) Unit) := by
  have hsize : held.client_commit_id.val.utf8ByteSize ≤ 4096 :=
    Nat.le_trans hpresentable.commit_id.2 (by decide)
  have hcommit : text (some (.String held.client_commit_id.val)) = (.ok () : Except (WireError F) Unit) :=
    text_eq_ok hpresentable.commit_id.1 hsize
  change (do
    text (some (.String held.client_commit_id.val))
    text (some (.String held.fingerprint.val))) = (.ok () : Except (WireError F) Unit)
  rw [bind_of_ok hcommit]
  exact text_of_computed hpresentable.fingerprint

/-! ### Summaries -/

theorem array_eq_ok {values : List (serde_json.Value F)} (hlength : values.length ≤ 100000) :
    array (some (.Array values)) = .ok values := by
  change (do
    refuse (values.length > 100000) error
    return values) = Except.ok values
  rw [bind_of_ok (refuse_of_not (Nat.not_lt.mpr hlength))]
  rfl

theorem validateConflict_conflict_wire [DecidableEq F] {conflict : ReadConflictV1}
    (hidentity : Presentable conflict.identity)
    (hreplacement : ∀ replacement, replacement_of conflict.resolution = some replacement → Presentable replacement) :
    validateConflict (conflict_wire conflict) = (.ok () : Except (WireError F) Unit) := by
  have hconflict : identity (some (identity_wire conflict.identity)) = (.ok () : Except (WireError F) Unit) :=
    identity_identity_wire hidentity
  change (do
    identity (some (identity_wire conflict.identity))
    validateResolution (some (resolution_wire conflict.resolution))) = (.ok () : Except (WireError F) Unit)
  rw [bind_of_ok hconflict]
  match hresolution : conflict.resolution with
  | none => rfl
  | some .KeepServer => rfl
  | some .PreferServerPolicyV1 => rfl
  | some (.KeepLocal replacement) =>
    exact identity_identity_wire (hreplacement replacement (congrArg replacement_of hresolution))
  | some (.Merge replacement) =>
    exact identity_identity_wire (hreplacement replacement (congrArg replacement_of hresolution))

theorem validateAccepted_accepted_wire {accepted : ReadAcceptedV1} (hidentity : Presentable accepted.identity) :
    validateAccepted (accepted_wire accepted) = (.ok () : Except (WireError F) Unit) := by
  have haccepted : identity (some (identity_wire accepted.identity)) = (.ok () : Except (WireError F) Unit) :=
    identity_identity_wire hidentity
  have hsequence := counter_to_string (F := F) accepted.sequence
  unfold validateAccepted accepted_wire
  simp only [object, ok_bind, List.lookup_cons, beq_self_eq_true, String.reduceBEq]
  rw [bind_of_ok haccepted, bind_of_ok hsequence]
  cases accepted.status with
  | CoveredByAuthorizedReset => rfl
  | AwaitingPullEpochUnknown => rfl

/-- What a row tells of its record: identities that the codec has checked, and not too many of them. -/
structure Presented (summary : Summary) : Prop where
  pending : ∀ identity ∈ summary.pending, Presentable identity
  conflicts : ∀ conflict ∈ summary.conflicts, Presentable conflict.identity ∧
    ∀ replacement, replacement_of conflict.resolution = some replacement → Presentable replacement
  accepted : ∀ accepted ∈ summary.accepted, Presentable accepted.identity
  pending_length : summary.pending.length ≤ 100000
  conflicts_length : summary.conflicts.length ≤ 100000
  accepted_length : summary.accepted.length ≤ 100000

theorem validateSyncReadSummary_eq_ok [DecidableEq F] {summary : Summary} (hpresented : Presented summary)
    {entry : List (String × serde_json.Value F)}
    (hpending : entry.lookup "pending" = some (.Array (summary.pending.map identity_wire)))
    (hconflicts : entry.lookup "conflicts" = some (.Array (summary.conflicts.map conflict_wire)))
    (haccepted : entry.lookup "accepted" = some (.Array (summary.accepted.map accepted_wire))) :
    validateSyncReadSummary entry = .ok () := by
  unfold validateSyncReadSummary
  rw [hpending, bind_of_ok (array_eq_ok (by simpa using hpresented.pending_length)), hconflicts, haccepted]
  have hidentities : forM (summary.pending.map identity_wire) (fun pending => identity (some pending)) =
      (.ok () : Except (WireError F) PUnit) := by
    rw [forM_eq_ok_iff]
    intro pending hmem
    obtain ⟨held, hheld, rfl⟩ := List.mem_map.mp hmem
    exact identity_identity_wire (hpresented.pending held hheld)
  have hresolved : forM (summary.conflicts.map conflict_wire) validateConflict =
      (.ok () : Except (WireError F) PUnit) := by
    rw [forM_eq_ok_iff]
    intro conflict hmem
    obtain ⟨held, hheld, rfl⟩ := List.mem_map.mp hmem
    obtain ⟨hidentity, hreplacement⟩ := hpresented.conflicts held hheld
    exact validateConflict_conflict_wire hidentity hreplacement
  rw [bind_of_ok hidentities, bind_of_ok (array_eq_ok (by simpa using hpresented.conflicts_length)),
    bind_of_ok hresolved, bind_of_ok (array_eq_ok (by simpa using hpresented.accepted_length)), forM_eq_ok_iff]
  intro accepted hmem
  obtain ⟨held, hheld, rfl⟩ := List.mem_map.mp hmem
  exact validateAccepted_accepted_wire (hpresented.accepted held hheld)

/-! ### Metadata -/

theorem frontier_cursor_wire (cursor : surrealdb_sync_protocol.Cursor) :
    frontier (some (cursor_wire cursor)) = (.ok () : Except (WireError F) Unit) := by
  have hepoch := counter_to_string (F := F) cursor.epoch
  change (do
    counter (some (.String cursor.epoch.to_string))
    counter (some (.String cursor.sequence.to_string))) = (.ok () : Except (WireError F) Unit)
  rw [bind_of_ok hepoch]
  exact counter_to_string cursor.sequence

theorem to_string_ne_zero {n : UInt64} (hn : n ≠ 0) : n.to_string ≠ "0" := by
  intro hzero
  exact hn (UInt64.to_string_injective (hzero.trans (show "0" = (0 : UInt64).to_string from rfl)))

theorem counterExceeds_to_string {left right : UInt64} :
    counterExceeds (F := F) (some (.String left.to_string)) (some (.String right.to_string)) = true ↔ right < left := by
  rw [counterExceeds, UInt64.to_string, UInt64.to_string, BigInt_nat_repr, BigInt_nat_repr, Option.any_some,
    Option.any_some, decide_eq_true_eq, UInt64.lt_iff_toNat_lt]
  omega

/-- A reset that reaches no further than the checkpoint. -/
theorem validateReset_eq_ok [DecidableEq F] {row scope coverage : List (String × serde_json.Value F)}
    {at_frontier reset : surrealdb_sync_protocol.Cursor} {authorization : UInt64}
    (hscope : scope.lookup "authorizationRevision" = some (.String authorization.to_string))
    (hasOf : row.lookup "asOf" = some (cursor_wire at_frontier))
    (hreadiness : row.lookup "readiness" = some (.String "authorized_scope_as_of"))
    (hcursor : coverage.lookup "cursor" = some (cursor_wire reset))
    (hstarted : at_frontier.epoch ≠ 0) (hepoch : reset.epoch = at_frontier.epoch)
    (hsequence : reset.sequence ≤ at_frontier.sequence) : validateReset row scope coverage = .ok () := by
  have hzero : at_frontier.epoch.to_string ≠ "0" := to_string_ne_zero hstarted
  have hexceeds : ¬ counterExceeds (F := F) (some (.String reset.sequence.to_string))
      (some (.String at_frontier.sequence.to_string)) = true := by
    rw [counterExceeds_to_string]
    exact UInt64.not_lt.mpr hsequence
  have hfrontier : frontier (some (cursor_wire reset)) = (.ok () : Except (WireError F) Unit) := frontier_cursor_wire reset
  unfold validateReset
  rw [hcursor, hscope, hasOf, hreadiness, bind_of_ok hfrontier]
  simp [object, cursor_wire, List.lookup_cons, refuse, hzero, hexceeds, hepoch]

/-- The metadata of a valid state pass every check but perhaps those of the two texts of their scope. -/
theorem validateSyncReadMetadata_metadata_wire [DecidableEq F] {V : Type} {state : DurableClientState V}
    (hvalid : state.Valid) :
    validateSyncReadMetadata (F := F) (some (metadata_wire (metadata state))) = (do
      text (some (.String state.partition_id.val))
      text (some (.String state.requested_scope.val))
      return) := by
  have hpresent : ∀ cursor, cursor_wire (F := F) cursor ≠ .Null := fun cursor hnull => by cases hnull
  unfold validateSyncReadMetadata metadata_wire scope_wire metadata
  simp only [object, ok_bind, List.lookup_cons, beq_self_eq_true, String.reduceBEq, bind_of_ok (counter_to_string _)]
  cases hcoverage : state.reset_coverage with
  | none =>
    cases hcheckpoint : state.checkpoint with
    | none => simp [coverage_wire, readiness_wire, refuse, pure, Except.pure]
    | some checkpoint =>
      have hfrontier := frontier_cursor_wire (F := F) checkpoint.cursor
      simp [coverage_wire, readiness_wire, refuse, counter_to_string, hfrontier, hpresent, pure, Except.pure]
  | some coverage =>
    obtain ⟨checkpoint, hcheckpoint, hcovered⟩ := exists_checkpoint_of_validate_coverage hvalid.coverage hcoverage
    obtain ⟨_, hstarted, _⟩ := hvalid.checkpoint checkpoint hcheckpoint
    have hfrontier := frontier_cursor_wire (F := F) checkpoint.cursor
    have hreset := fun row scope => @validateReset_eq_ok F _ row scope
      [("cursor", cursor_wire coverage.cursor), ("kind", .String "authorized_reset")] checkpoint.cursor coverage.cursor
      checkpoint.scope.authorization_revision
    simp [coverage_wire, readiness_wire, List.lookup_cons, counter_to_string, hfrontier, hpresent, hcheckpoint, hreset,
      hstarted, hcovered.epoch, hcovered.sequence, pure, Except.pure]

end react_native_surrealdb.sync_read_codec
