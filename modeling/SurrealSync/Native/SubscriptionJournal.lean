import Mathlib.Data.List.MinMax
import SurrealSync.Basic.BoundedJournal
import SurrealSync.Client.Subscriptions
import SurrealSync.Native.JsonText
import SurrealSync.Native.ReadJournal

open Std
open surrealdb_sync_client surrealdb_rn_core.sync_read
open surrealdb_sync_protocol.subscription

namespace surrealdb_rn_core.sync_subscription

def MAX_QUERY_BYTES : Nat := 1024 * 1024

def MAX_TOTAL_BYTES : Nat := 16 * 1024 * 1024

def MAX_BATCHES : Nat := 128

variable {V : Type}

/-- The fields of the JSON of a frame. Inside the snapshot and the request the wire writes revisions as texts. -/
structure Frame (V : Type) where
  snapshot : Option (InstalledSubscription V)
  request : Option SubscriptionRequest
  cancelled_through : Option String
deriving DecidableEq

/-- The fields of the JSON of a batch: those of the frame and two more. -/
structure BatchJson (V : Type) where
  frame : Frame V
  before_revision : String
  revision : String
deriving DecidableEq

/-- The content of the JSON text of a batch, and the length of that text. -/
structure Batch (V : Type) where
  before : UInt64
  revision : UInt64
  json : BatchJson V
  length : Nat
deriving DecidableEq

structure History (V : Type) where
  batches : List (Batch V)
  bytes : Nat
deriving DecidableEq

def History.default : History V := ⟨[], 0⟩

structure SubscriptionJournal (V : Type) where
  epoch : JournalEpoch
  histories : BTreeMap String (History V)

structure Cursor where
  process_epoch : String
  subscription_id : String
  revision : String
deriving DecidableEq

/-- The compact text of a cursor, in which it was handed out and comes back. -/
def Cursor.to_string (cursor : Cursor) : String :=
  "\x7b\"processEpoch\":" ++ serde_json.quote cursor.process_epoch ++
    ",\"revision\":" ++ serde_json.quote cursor.revision ++
    ",\"subscriptionId\":" ++ serde_json.quote cursor.subscription_id ++ "\x7d"

/-- The fields of an answer to `subscriptionChanges`, by its kind. -/
inductive Changes (V : Type) where
  | batches (batches : List (BatchJson V)) (cursor : Cursor)
  | reset_required (frame : Frame V) (cursor : Cursor)

variable [DecidableEq V]

def request (runtime : ClientRuntime V) (id : String) : Except NativeSyncError (Option SubscriptionRequest) := do
  Except.refuse (¬ valid_subscription_text id) NativeSyncError.InvalidInput
  return runtime.subscription_request id

def frame (runtime : ClientRuntime V) (id : String) : Except NativeSyncError (Frame V) := do
  let cancelled := (runtime.state.subscriptions.bind fun state => state.cancelled[id]?).map UInt64.to_string
  let request ← request runtime id
  return { snapshot := runtime.subscription_snapshot id, request, cancelled_through := cancelled }

/-- The JSON that `record` encodes for one subscription. -/
def batch_json (runtime : ClientRuntime V) (before : UInt64) (id : String) : Except NativeSyncError (BatchJson V) := do
  let frame ← frame runtime id
  return { frame, before_revision := before.to_string, revision := runtime.state.revision.to_string }

namespace History

def total (batches : List (Batch V)) : Nat := BoundedJournal.total Batch.length batches

def make_room (length : Nat) (batches : List (Batch V)) (bytes : Nat) : List (Batch V) × Nat :=
  BoundedJournal.makeRoom Batch.length MAX_BATCHES MAX_QUERY_BYTES length batches bytes

/-- `output` gives the length of the text of a batch, if it can be written. -/
def record (output : BatchJson V → Except NativeSyncError Nat) (runtime : ClientRuntime V) (before : UInt64)
    (id : String) (history : History V) : History V :=
  let encoded : Except NativeSyncError (BatchJson V × Nat) := do
    let value ← batch_json runtime before id
    let length ← output value
    return (value, length)
  match encoded with
  | .error _ => default
  | .ok (value, length) =>
    if length > MAX_QUERY_BYTES then default
    else
      let (batches, bytes) := make_room length history.batches history.bytes
      { batches := batches ++ [⟨before, runtime.state.revision, value, length⟩]
        bytes := bytes + length }

/-- `pop_front`, with the bytes of what it drops. -/
def pop_front (history : History V) : History V where
  batches := history.batches.tail
  bytes := history.bytes - (history.batches.head?.map (·.length)).getD 0

end History

namespace SubscriptionJournal

/-- The history whose first batch is the oldest, the first one in key order where several are. -/
def oldest (histories : BTreeMap String (History V)) : Option (String × UInt64) :=
  (histories.toList.filterMap fun entry => entry.2.batches.head?.map fun batch => (entry.1, batch.revision)).argmin
    fun found => found.2.toNat

/-- One round of the loop that keeps all histories within their common limit. -/
def trim_round (histories : BTreeMap String (History V)) : Option (BTreeMap String (History V)) :=
  if (histories.vals.map (·.bytes)).sum > MAX_TOTAL_BYTES then
    (oldest histories).map fun found => match histories[found.1]? with
      | some history => histories.insert found.1 history.pop_front
      | none => histories
  else none

def batch_count (histories : BTreeMap String (History V)) : Nat := (histories.vals.map (·.batches.length)).sum

/-- The loop. It ends at the latest with no batch left. -/
def trim (histories : BTreeMap String (History V)) : BTreeMap String (History V) :=
  (BoundedJournal.settle trim_round (batch_count histories + 1) histories).getD histories

/-- The ids of a table, each of them once and in order. -/
def ids (state : DurableSubscriptions V) : List String :=
  (ExtTreeSet.ofList (state.requests.keys ++ state.cancelled.keys ++ state.slots.keys) : BTreeSet String).toList

def rotate (journal : SubscriptionJournal V) : Except NativeSyncError (SubscriptionJournal V) := do
  let epoch ← journal.epoch.advance
  return { epoch, histories := ∅ }

def cursor (journal : SubscriptionJournal V) (id : String) (revision : UInt64) : Cursor :=
  ⟨journal.epoch.value, id, revision.to_string⟩

def bootstrap (journal : SubscriptionJournal V) (runtime : ClientRuntime V) (id : String) :
    Except NativeSyncError (Frame V × Cursor) := do
  Except.refuse (¬ valid_subscription_text id) NativeSyncError.InvalidInput
  let value ← frame runtime id
  return (value, journal.cursor id runtime.state.revision)

/-- The loop over the subscriptions of the state. -/
def extend (output : BatchJson V → Except NativeSyncError Nat) (runtime : ClientRuntime V) (before : UInt64)
    (state : DurableSubscriptions V) (histories : BTreeMap String (History V)) : BTreeMap String (History V) :=
  (ids state).foldl (fun histories id =>
    histories.insert id ((histories[id]?.getD .default).record output runtime before id)) histories

def record (output : BatchJson V → Except NativeSyncError Nat) (journal : SubscriptionJournal V)
    (runtime : ClientRuntime V) (before : UInt64) : SubscriptionJournal V :=
  if before = runtime.state.revision then journal
  else match runtime.state.subscriptions with
    | none => journal
    | some state => { journal with histories := trim (extend output runtime before state journal.histories) }

def changes (journal : SubscriptionJournal V) (runtime : ClientRuntime V) (id : String) (cursor : Cursor)
    (limit : Nat) : Except NativeSyncError (Changes V) := do
  Except.refuse (¬ valid_subscription_text id ∨ ¬ (1 ≤ limit ∧ limit ≤ MAX_BATCHES) ∨
    cursor.to_string.utf8ByteSize > 4096) NativeSyncError.InvalidInput
  let revision ← Except.okOr (UInt64.from_str cursor.revision) NativeSyncError.InvalidInput
  Except.refuse (revision.to_string ≠ cursor.revision ∨ cursor.subscription_id ≠ id) NativeSyncError.InvalidInput
  let current := runtime.state.revision
  let kept := (journal.histories[id]?.map (·.batches)).getD []
  if cursor.process_epoch ≠ journal.epoch.value ∨ revision > current ∨
      (revision < current ∧ ∀ first ∈ kept.head?, revision < first.before) then do
    let (reset, cursor) ← journal.bootstrap runtime id
    return .reset_required reset cursor
  else
    let batches := ((kept.filter fun batch => batch.revision > revision).take limit).map (·.json)
    let after := (batches.getLast?.bind fun batch => UInt64.from_str batch.revision).getD current
    return .batches batches (journal.cursor id after)

end SubscriptionJournal

end surrealdb_rn_core.sync_subscription
