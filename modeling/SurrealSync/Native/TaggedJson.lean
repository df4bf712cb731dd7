import SurrealSync.Basic.Decimal
import SurrealSync.Client.State

open Std Except

namespace serde_json

/-- A number of a JSON text; floats are those of the platform. -/
inductive Number (F : Type) where
  | PosInt (value : UInt64)
  | NegInt (value : Int64) (negative : value < 0)
  | Float (value : F)

/-- A JSON value. The entries of an object stand in key order, as in the library's map. -/
inductive Value (F : Type) where
  | Null
  | Bool (value : Bool)
  | Number (value : Number F)
  | String (value : String)
  | Array (values : List (Value F))
  | Object (entries : List (String × Value F))

variable {F : Type}

@[induction_eliminator, elab_as_elim]
theorem Value.induct {P : Value F → Prop} (Null : P .Null) (Bool : ∀ value, P (.Bool value))
    (Number : ∀ value, P (.Number value)) (String : ∀ value, P (.String value))
    (Array : ∀ values, (∀ value ∈ values, P value) → P (.Array values))
    (Object : ∀ entries, (∀ entry ∈ entries, P entry.2) → P (.Object entries)) (value : Value F) : P value := by
  refine @Value.rec F P (fun values => ∀ value ∈ values, P value) (fun entries => ∀ entry ∈ entries, P entry.2)
    (fun entry => P entry.2) Null Bool Number String Array Object ?_ ?_ ?_ ?_ ?_ value
  · simp
  · intro value values hvalue hvalues
    exact List.forall_mem_cons.mpr ⟨hvalue, hvalues⟩
  · simp
  · intro entry entries hentry hentries
    exact List.forall_mem_cons.mpr ⟨hentry, hentries⟩
  · intro key value hvalue
    exact hvalue

def Number.from_u64 (value : UInt64) : Number F := .PosInt value

def Number.from_i64 (value : Int64) : Number F :=
  if hnegative : value < 0 then .NegInt value hnegative else .PosInt value.toUInt64

def Number.is_i64 : Number F → Bool
  | .PosInt value => value.toNat < 2 ^ 63
  | .NegInt .. => true
  | .Float _ => false

def Number.is_u64 : Number F → Bool
  | .PosInt _ => true
  | .NegInt .. => false
  | .Float _ => false

/-- The conversion between a type and JSON values that serde derives for it. -/
structure Derive (F T : Type) where
  to_value : T → Option (Value F)
  from_value : Value F → Option T

/-- What is written is read back. -/
def Derive.Inverse {T : Type} (derive : Derive F T) : Prop :=
  ∀ t value, derive.to_value t = some value → derive.from_value value = some t

end serde_json

namespace surrealdb_rn_core.sync_state

open surrealdb_sync_client

inductive SyncStateError where
  | IdentityTooLarge
  | StateTooLarge
  | RevisionMismatch
  | RevisionConflict
  | CorruptState
  | UnsupportedRecordId
  | RecordValueMustBeObject
  | ValueCodec
  | InvalidState (error : ClientError)
  | Encode
  | Decode
  | Database
  | Core
  | CommitUnknown
  | RollbackFailed (operation : SyncStateError)
deriving DecidableEq

abbrev SyncResult := Except SyncStateError

abbrev Bytes := List UInt8

def MAX_SYNC_STATE_BYTES : Nat := 4 * 1024 * 1024

inductive TaggedJson where
  | Null
  | Bool (value : Bool)
  | String (value : String)
  | I64 (value : String)
  | U64 (value : String)
  | Float (value : String)
  | Array (values : List TaggedJson)
  | Object (entries : List (String × TaggedJson))

mutual

/-- The nesting of the text of a tagged value. Each value is an object of its tag and content. -/
def TaggedJson.depth : TaggedJson → Nat
  | .Array values => 2 + depth_list values
  | .Object entries => 2 + depth_entries entries
  | .Null | .Bool _ | .String _ | .I64 _ | .U64 _ | .Float _ => 1

def depth_list : List TaggedJson → Nat
  | [] => 0
  | value :: values => max value.depth (depth_list values)

def depth_entries : List (String × TaggedJson) → Nat
  | [] => 0
  | (_, value) :: entries => max value.depth (depth_entries entries)

end

/-- The texts of the JSON library: those of tagged values, and those of single numbers. -/
structure JsonText (F : Type) where
  to_vec : TaggedJson → Option Bytes
  from_slice : Bytes → Option TaggedJson
  float_to_string : F → String
  number_from_str : String → Option (serde_json.Number F)

/-- The nesting at which the parser of the JSON library gives up. -/
def RECURSION_LIMIT : Nat := 128

/-- A tagged value is read back from its text within the recursion limit of the parser. -/
def JsonText.Inverse {F : Type} (text : JsonText F) : Prop :=
  ∀ tagged bytes, tagged.depth < RECURSION_LIMIT → text.to_vec tagged = some bytes →
    text.from_slice bytes = some tagged

variable {F T : Type} (text : JsonText F)

def number_to_string : serde_json.Number F → String
  | .PosInt value => value.to_string
  | .NegInt value _ => value.to_string
  | .Float value => text.float_to_string value

def tag_number (value : serde_json.Number F) : TaggedJson :=
  if value.is_i64 then .I64 (number_to_string text value)
  else if value.is_u64 then .U64 (number_to_string text value)
  else .Float (number_to_string text value)

mutual

def tag_json : serde_json.Value F → TaggedJson
  | .Null => .Null
  | .Bool value => .Bool value
  | .String value => .String value
  | .Number value => tag_number text value
  | .Array values => .Array (tag_list values)
  | .Object entries => .Object (tag_entries entries)

def tag_list : List (serde_json.Value F) → List TaggedJson
  | [] => []
  | value :: values => tag_json value :: tag_list values

def tag_entries : List (String × serde_json.Value F) → List (String × TaggedJson)
  | [] => []
  | (key, value) :: entries => (key, tag_json value) :: tag_entries entries

end

mutual

def untag_json : TaggedJson → SyncResult (serde_json.Value F)
  | .Null => .ok .Null
  | .Bool value => .ok (.Bool value)
  | .String value => .ok (.String value)
  | .I64 value => do return .Number (.from_i64 (← okOr (Int64.from_str value) .CorruptState))
  | .U64 value => do return .Number (.from_u64 (← okOr (UInt64.from_str value) .CorruptState))
  | .Float value => do return .Number (← okOr (text.number_from_str value) .CorruptState)
  | .Array values => do return .Array (← untag_list values)
  | .Object entries => do return .Object (← untag_entries entries)

def untag_list : List TaggedJson → SyncResult (List (serde_json.Value F))
  | [] => .ok []
  | value :: values => do return (← untag_json value) :: (← untag_list values)

def untag_entries : List (String × TaggedJson) → SyncResult (List (String × serde_json.Value F))
  | [] => .ok []
  | (key, value) :: entries => do return (key, ← untag_json value) :: (← untag_entries entries)

end

def encode_tagged (derive : serde_json.Derive F T) (value : T) : SyncResult Bytes := do
  let value ← okOr (derive.to_value value) SyncStateError.Encode
  let bytes ← okOr (text.to_vec (tag_json text value)) SyncStateError.Encode
  refuse (bytes.length > MAX_SYNC_STATE_BYTES) SyncStateError.StateTooLarge
  return bytes

def decode_tagged (derive : serde_json.Derive F T) (bytes : Bytes) : SyncResult T := do
  refuse (bytes.length > MAX_SYNC_STATE_BYTES) SyncStateError.StateTooLarge
  let tagged ← okOr (text.from_slice bytes) SyncStateError.Decode
  let canonical ← okOr (text.to_vec tagged) SyncStateError.Encode
  refuse (canonical ≠ bytes) SyncStateError.CorruptState
  okOr (derive.from_value (← untag_json text tagged)) SyncStateError.Decode

/-! ### Reading back -/

mutual

/-- Every float of the value is read back from its own text. -/
def FloatsStable : serde_json.Value F → Prop
  | .Number (.Float value) => text.number_from_str (text.float_to_string value) = some (.Float value)
  | .Number (.PosInt _) | .Number (.NegInt ..) | .Null | .Bool _ | .String _ => True
  | .Array values => FloatsStableList values
  | .Object entries => FloatsStableEntries entries

def FloatsStableList : List (serde_json.Value F) → Prop
  | [] => True
  | value :: values => FloatsStable value ∧ FloatsStableList values

def FloatsStableEntries : List (String × serde_json.Value F) → Prop
  | [] => True
  | (_, value) :: entries => FloatsStable value ∧ FloatsStableEntries entries

end

/-- The JSON library reads the value back from what it writes: no float changes, and the text is
not nested too deep for the parser. -/
structure Legible (derive : serde_json.Derive F T) (value : T) : Prop where
  floats : ∀ json, derive.to_value value = some json → FloatsStable text json
  depth : ∀ json, derive.to_value value = some json → (tag_json text json).depth < RECURSION_LIMIT

variable {text}

theorem untag_tag_number {value : serde_json.Number F} (hstable : FloatsStable text (.Number value)) :
    untag_json text (tag_number text value) = .ok (.Number value) := by
  cases value with
  | PosInt value =>
    by_cases hbound : value.toNat < 2 ^ 63
    · have hnonneg : ¬ Int64.ofInt value.toNat < 0 := by
        rw [Int64.lt_iff_toInt_lt, Int64.toInt_ofInt_of_le (by omega) (by omega)]
        simp
      have hcast : (Int64.ofInt value.toNat).toUInt64 = value := by
        rw [Int64.ofInt_eq_ofNat, Int64.toUInt64_ofNat', UInt64.ofNat_toNat]
      have hsigned : (serde_json.Number.PosInt value : serde_json.Number F).is_i64 :=
        decide_eq_true hbound
      rw [tag_number, if_pos hsigned]
      simp [number_to_string, untag_json, Int64.from_str_uint64_to_string hbound, okOr,
        serde_json.Number.from_i64, hnonneg, hcast]
    · have hunsigned : ¬ (serde_json.Number.PosInt value : serde_json.Number F).is_i64 := by
        rw [serde_json.Number.is_i64, decide_eq_true_eq]
        exact hbound
      rw [tag_number, if_neg hunsigned]
      simp [serde_json.Number.is_u64, number_to_string, untag_json, okOr, serde_json.Number.from_u64]
  | NegInt value negative =>
    simp [tag_number, serde_json.Number.is_i64, number_to_string, untag_json, okOr, serde_json.Number.from_i64, negative]
  | Float value =>
    simp only [FloatsStable] at hstable
    simp [tag_number, serde_json.Number.is_i64, serde_json.Number.is_u64, number_to_string, untag_json, okOr, hstable]

theorem untag_tag_json {value : serde_json.Value F} (hstable : FloatsStable text value) :
    untag_json text (tag_json text value) = .ok value := by
  induction value with
  | Null => rfl
  | Bool value => rfl
  | String value => rfl
  | Number value => exact untag_tag_number hstable
  | Array values ih =>
    have hvalues : untag_list text (tag_list text values) = .ok values := by
      simp only [FloatsStable] at hstable
      induction values with
      | nil => rfl
      | cons value values ihtail =>
        obtain ⟨hvalue, htail⟩ := hstable
        obtain ⟨ihvalue, ihvalues⟩ := List.forall_mem_cons.mp ih
        simp [tag_list, untag_list, ihvalue hvalue, ihtail ihvalues htail]
    simp [tag_json, untag_json, hvalues]
  | Object entries ih =>
    have hentries : untag_entries text (tag_entries text entries) = .ok entries := by
      simp only [FloatsStable] at hstable
      induction entries with
      | nil => rfl
      | cons entry entries ihtail =>
        obtain ⟨key, value⟩ := entry
        obtain ⟨hvalue, htail⟩ := hstable
        obtain ⟨ihvalue, ihentries⟩ := List.forall_mem_cons.mp ih
        simp [tag_entries, untag_entries, ihvalue hvalue, ihtail ihentries htail]
    simp [tag_json, untag_json, hentries]

variable {derive : serde_json.Derive F T} {value : T} {bytes : Bytes}

theorem encode_tagged_eq_ok_iff :
    encode_tagged text derive value = .ok bytes ↔
      ∃ json, derive.to_value value = some json ∧ text.to_vec (tag_json text json) = some bytes ∧
        bytes.length ≤ MAX_SYNC_STATE_BYTES := by
  simp only [encode_tagged, bind_eq_ok_iff, okOr_eq_ok_iff, refuse_eq_ok_iff, pure, Except.pure, ok.injEq, gt_iff_lt,
    Nat.not_lt]
  constructor
  · rintro ⟨json, hjson, _, hbytes, _, hlength, rfl⟩
    exact ⟨json, hjson, hbytes, hlength⟩
  · rintro ⟨json, hjson, hbytes, hlength⟩
    exact ⟨json, hjson, bytes, hbytes, (), hlength, rfl⟩

theorem length_of_encode_tagged (hencode : encode_tagged text derive value = .ok bytes) :
    bytes.length ≤ MAX_SYNC_STATE_BYTES := by
  obtain ⟨_, _, _, hlength⟩ := encode_tagged_eq_ok_iff.mp hencode
  exact hlength

/-- A component reads back from its payload. -/
theorem decode_encode_tagged (htext : text.Inverse) (hderive : derive.Inverse) (hlegible : Legible text derive value)
    (hencode : encode_tagged text derive value = .ok bytes) : decode_tagged text derive bytes = .ok value := by
  obtain ⟨json, hjson, hbytes, hlength⟩ := encode_tagged_eq_ok_iff.mp hencode
  have hslice := htext _ _ (hlegible.depth json hjson) hbytes
  have huntag := untag_tag_json (hlegible.floats json hjson)
  have hlong : ¬ bytes.length > MAX_SYNC_STATE_BYTES := by omega
  simp [decode_tagged, refuse, hlong, okOr, hslice, hbytes, huntag, hderive value json hjson]

end surrealdb_rn_core.sync_state
