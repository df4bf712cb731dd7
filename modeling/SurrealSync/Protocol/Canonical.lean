import SurrealSync.Basic.Entries
import SurrealSync.Cbor.Ciborium
import SurrealSync.Protocol.Budget

open Std Except

namespace surrealdb_sync_protocol

def V1_NAME : String := "surrealdb-sync/1"

end surrealdb_sync_protocol

namespace surrealdb_sync_protocol.canonical

def NONE_TAG : UInt64 := 6

def RECORD_ID_TAG : UInt64 := 8

/-- The bits of a negative zero. -/
def NEGATIVE_ZERO : UInt64 := 0x8000000000000000

/-- A finite binary64 with one representation of zero. -/
structure CanonicalFloat where
  bits : UInt64
  finite : Cbor.FiniteBits bits
  normalized : bits ≠ NEGATIVE_ZERO
deriving DecidableEq

/-- `value == 0.0` holds of both zeros, and the normalized zero is the positive one. -/
def CanonicalFloat.new (value : UInt64) : Result CanonicalFloat :=
  if hfinite : Cbor.FiniteBits value then
    if hzero : value = NEGATIVE_ZERO then .ok ⟨0, by decide, by decide⟩
    else .ok ⟨value, hfinite, hzero⟩
  else .error (.Unsupported "non-finite float")

/-- A canonical value with the entries of an object as a list, in no particular order. -/
inductive CanonicalTree where
  | None
  | Null
  | Bool (value : Bool)
  | Int (value : Int64)
  | Float (value : CanonicalFloat)
  | String (value : String)
  | Bytes (value : List UInt8)
  | Array (values : List CanonicalTree)
  | Object (values : List (String × CanonicalTree))
  | RecordId (table : String) (key : CanonicalTree)

@[induction_eliminator, elab_as_elim]
theorem CanonicalTree.induct {P : CanonicalTree → Prop} (None : P .None) (Null : P .Null)
    (Bool : ∀ value, P (.Bool value)) (Int : ∀ value, P (.Int value)) (Float : ∀ value, P (.Float value))
    (String : ∀ value, P (.String value)) (Bytes : ∀ value, P (.Bytes value))
    (Array : ∀ values, (∀ value ∈ values, P value) → P (.Array values))
    (Object : ∀ values, (∀ entry ∈ values, P entry.2) → P (.Object values))
    (RecordId : ∀ table key, P key → P (.RecordId table key)) (value : CanonicalTree) : P value := by
  refine @CanonicalTree.rec P (fun values => ∀ value ∈ values, P value) (fun values => ∀ entry ∈ values, P entry.2)
    (fun entry => P entry.2) None Null Bool Int Float String Bytes Array Object RecordId ?_ ?_ ?_ ?_ ?_ value
  · simp
  · intro value values hvalue hvalues
    exact List.forall_mem_cons.mpr ⟨hvalue, hvalues⟩
  · simp
  · intro entry entries hentry hentries
    exact List.forall_mem_cons.mpr ⟨hentry, hentries⟩
  · intro key value hvalue
    exact hvalue

mutual

/-- Every value of the tree satisfies `p`. -/
def EachValue (p : CanonicalTree → Prop) : CanonicalTree → Prop
  | .Array values => p (.Array values) ∧ EachOfList p values
  | .Object values => p (.Object values) ∧ EachOfEntries p values
  | .RecordId table key => p (.RecordId table key) ∧ EachValue p key
  | .None => p .None
  | .Null => p .Null
  | .Bool value => p (.Bool value)
  | .Int value => p (.Int value)
  | .Float value => p (.Float value)
  | .String value => p (.String value)
  | .Bytes value => p (.Bytes value)

def EachOfList (p : CanonicalTree → Prop) : List CanonicalTree → Prop
  | [] => True
  | value :: values => EachValue p value ∧ EachOfList p values

def EachOfEntries (p : CanonicalTree → Prop) : List (String × CanonicalTree) → Prop
  | [] => True
  | (_, value) :: entries => EachValue p value ∧ EachOfEntries p entries

end

/-- The entries of an object are those of a map. -/
def KeysOrdered : CanonicalTree → Prop
  | .Object values => Entries.Ordered values
  | .None | .Null | .Bool _ | .Int _ | .Float _ | .String _ | .Bytes _ | .Array _ | .RecordId _ _ => True

/-- The protocol-owned value: in every object the entries are those of a
`BTreeMap`, so equal values are equal trees. -/
structure CanonicalValue where
  tree : CanonicalTree
  ordered : EachValue KeysOrdered tree

/-! ### Validation -/

/-- `matches!(key, Int | String | Array | Object)`. -/
def is_record_key : CanonicalTree → Bool
  | .Int _ | .String _ | .Array _ | .Object _ => true
  | .None | .Null | .Bool _ | .Float _ | .Bytes _ | .RecordId _ _ => false

mutual

def validate_with_budget (value : CanonicalTree) (depth : Nat) : Budgeted Unit := do
  refuse (depth > MAX_DEPTH) CodecError.DepthLimit
  take_items 1
  match value with
  | .String value => take_string value.utf8ByteSize
  | .Bytes value => take_string value.length
  | .Array values =>
    refuse (values.length > MAX_CONTAINER_ITEMS) CodecError.ContainerLimit
    validate_list values (depth + 1)
  | .Object values =>
    refuse (values.length > MAX_CONTAINER_ITEMS) CodecError.ContainerLimit
    take_items values.length
    validate_entries values (depth + 1)
  | .RecordId table key =>
    refuse (table = "") CodecError.InvalidRecordId
    take_string table.utf8ByteSize
    refuse (is_record_key key = false) CodecError.InvalidRecordId
    take_items 2
    validate_with_budget key (depth + 1)
  | .None => take_items 1
  | .Null | .Bool _ | .Int _ | .Float _ => pure ()

def validate_list : List CanonicalTree → Nat → Budgeted Unit
  | [], _ => pure ()
  | value :: values, depth => do
    validate_with_budget value depth
    validate_list values depth

def validate_entries : List (String × CanonicalTree) → Nat → Budgeted Unit
  | [], _ => pure ()
  | (key, value) :: entries, depth => do
    take_string key.utf8ByteSize
    validate_with_budget value depth
    validate_entries entries depth

end

def validate (value : CanonicalTree) : Result Unit :=
  (validate_with_budget value 0).run' ⟨MAX_TOTAL_ITEMS, MAX_ENCODED_BYTES⟩

/-! ### The CBOR form of a value -/

/-- The length-first order of object keys. -/
def key_cmp (left right : String) : Ordering :=
  (compare left.utf8ByteSize right.utf8ByteSize).then (compare left.as_bytes right.as_bytes)

/-- `entries.sort_by(..)` of the object entries. -/
def sort_entries {α : Type} (entries : List (String × α)) : List (String × α) :=
  entries.insertionSort fun left right => (key_cmp left.1 right.1).isLE

mutual

def to_cbor : CanonicalTree → Cbor
  | .None => .Tag NONE_TAG .Null
  | .Null => .Null
  | .Bool value => .Bool value
  | .Int value => .Integer (.ofInt64 value)
  | .Float value => .Float value.bits
  | .String value => .Text value
  | .Bytes value => .Bytes value
  | .Array values => .Array (to_cbor_list values)
  | .Object values => .Map ((sort_entries (to_cbor_entries values)).map fun entry => (.Text entry.1, entry.2))
  | .RecordId table key => .Tag RECORD_ID_TAG (.Array [.Text table, to_cbor key])

def to_cbor_list : List CanonicalTree → List Cbor
  | [] => []
  | value :: values => to_cbor value :: to_cbor_list values

def to_cbor_entries : List (String × CanonicalTree) → List (String × Cbor)
  | [] => []
  | (key, value) :: entries => (key, to_cbor value) :: to_cbor_entries entries

end

/-- `matches!(value, CborValue::Null)`. -/
def is_null : Cbor → Bool
  | .Null => true
  | .Integer _ | .Bytes _ | .Float _ | .Text _ | .Bool _ | .Tag _ _ | .Array _ | .Map _ => false

mutual

def tree_from_cbor : Cbor → Result CanonicalTree
  | .Integer value => (okOr value.toInt64? (.Unsupported "integer outside i64")).map .Int
  | .Bytes value => .ok (.Bytes value)
  | .Float bits => (CanonicalFloat.new bits).map .Float
  | .Text value => .ok (.String value)
  | .Bool value => .ok (.Bool value)
  | .Null => .ok .Null
  | .Tag tag value =>
    if tag = NONE_TAG ∧ is_null value = true then .ok .None
    else if tag = RECORD_ID_TAG then record_id_from_cbor value
    else .error (.Unsupported "CBOR tag")
  | .Array values => (list_from_cbor values).map .Array
  | .Map entries => (entries_from_cbor entries []).map .Object

def record_id_from_cbor : Cbor → Result CanonicalTree
  | .Array [table, key] => do
    let key ← tree_from_cbor key
    let .Text table := table | throw .InvalidRecordId
    let value := .RecordId table key
    validate value
    return value
  | _ => .error .InvalidRecordId

def list_from_cbor : List Cbor → Result (List CanonicalTree)
  | [] => .ok []
  | value :: values => do
    let value ← tree_from_cbor value
    let values ← list_from_cbor values
    return value :: values

/-- The loop over the entries of a map, with the object built so far. -/
def entries_from_cbor : List (Cbor × Cbor) → List (String × CanonicalTree) → Result (List (String × CanonicalTree))
  | [], object => .ok object
  | (key, value) :: entries, object => do
    let .Text key := key | throw (.Unsupported "non-text object key")
    let value ← tree_from_cbor value
    let object ← okOr (Entries.insert key value object) .DuplicateObjectKey
    entries_from_cbor entries object

end

end surrealdb_sync_protocol.canonical
