import SurrealSync.Native.JsonText
import SurrealSync.Package.Wire

open Except
open surrealdb.types (F64)

namespace react_native_surrealdb

/-- The length of a well-formed string, in units of UTF-16. -/
def utf16Length (text : String) : Nat := (text.toList.map fun char => if char.toNat < 65536 then 1 else 2).sum

/-- The numbers of the engine, with the integer that a number is, the text that `JSON.stringify` gives to it, and its
comparison with a length. -/
structure Engine (F : Type) extends wire.Doubles F where
  integer : F → Option Int
  text : F → String
  compare : Nat → F64 F → Option Ordering

/-- What is documented of doubles: they hold the safe integers, write integers in decimals and compare exactly. -/
structure Engine.Exact {F : Type} (engine : Engine F) : Prop where
  integer : ∀ n : UInt64, n.toNat < 2 ^ 53 → engine.integer (engine.parse (.PosInt n)) = some (n.toNat : Int)
  text : ∀ x (n : Nat), engine.integer x = some (n : Int) → n < 10 ^ 21 → engine.text x = n.repr
  compare : ∀ length x n, engine.integer x = some n →
    engine.compare length (.finite x) = some (Ord.compare (length : Int) n)

namespace sync_read_codec

open wire

variable {F : Type}

/-- `/^(0|[1-9][0-9]{0,digits})$/.test(text)`. -/
def isDecimal (digits : Nat) (text : String) : Bool :=
  match text.toList with
  | [] => false
  | ['0'] => true
  | first :: rest => '1' ≤ first && first ≤ '9' && rest.length ≤ digits && rest.all Char.isDigit

/-- `BigInt(text) > bound`, for a text of digits. -/
def exceeds (text : String) (bound : Nat) : Bool := (BigInt text).any fun value => value > (bound : Int)

def error : WireError F := .TypeError "Invalid sync read protocol v1 payload"

/-- A property is missing where the value is `none`. -/
def object (value : Option (serde_json.Value F)) : Except (WireError F) (List (String × serde_json.Value F)) :=
  match value with
  | some (.Object entries) => .ok entries
  | _ => .error error

def text (value : Option (serde_json.Value F)) : Except (WireError F) Unit :=
  match value with
  | some (.String text) => refuse (utf16Length text = 0 ∨ utf16Length text > 4096) error
  | _ => .error error

def counter (value : Option (serde_json.Value F)) : Except (WireError F) Unit :=
  match value with
  | some (.String text) => refuse (¬ isDecimal 19 text ∨ exceeds text 18446744073709551615) error
  | _ => .error error

def array (value : Option (serde_json.Value F)) : Except (WireError F) (List (serde_json.Value F)) :=
  match value with
  | some (.Array values) => do
    refuse (values.length > 100000) error
    return values
  | _ => .error error

def frontier (value : Option (serde_json.Value F)) : Except (WireError F) Unit := do
  let row ← object value
  counter (row.lookup "epoch")
  counter (row.lookup "sequence")

def identity (value : Option (serde_json.Value F)) : Except (WireError F) Unit := do
  let row ← object value
  text (row.lookup "clientCommitId")
  text (row.lookup "fingerprint")

variable [DecidableEq F]

/-- `BigInt(String(left)) > BigInt(String(right))`, for two counters. -/
def counterExceeds : Option (serde_json.Value F) → Option (serde_json.Value F) → Bool
  | some (.String left), some (.String right) =>
    (BigInt left).any fun left => (BigInt right).any fun right => left > right
  | _, _ => false

/-- The check of the coverage `authorized_reset`. -/
def validateReset (row scope coverage : List (String × serde_json.Value F)) : Except (WireError F) Unit := do
  frontier (coverage.lookup "cursor")
  refuse (scope.lookup "authorizationRevision" = some .Null) error
  let at_frontier ← object (row.lookup "asOf")
  refuse (at_frontier.lookup "epoch" = some (.String "0")) error
  refuse (row.lookup "readiness" ≠ some (.String "authorized_scope_as_of")) error
  let reset ← object (coverage.lookup "cursor")
  refuse (at_frontier.lookup "epoch" ≠ reset.lookup "epoch"
    ∨ counterExceeds (reset.lookup "sequence") (at_frontier.lookup "sequence")) error

def validateSyncReadMetadata (value : Option (serde_json.Value F)) : Except (WireError F) Unit := do
  let row ← object value
  let scope ← object (row.lookup "scope")
  let coverage ← object (row.lookup "coverage")
  counter (row.lookup "revision")
  text (scope.lookup "partitionId")
  text (scope.lookup "scopeIdentity")
  counter (scope.lookup "subscriptionRevision")
  if scope.lookup "authorizationRevision" ≠ some .Null then counter (scope.lookup "authorizationRevision")
  if row.lookup "asOf" ≠ some .Null then frontier (row.lookup "asOf")
  match coverage.lookup "kind" with
  | some (.String "unknown") =>
    refuse (row.lookup "readiness" ≠ some (.String "local_available_awaiting_coverage")) error
  | some (.String "authorized_reset") => validateReset row scope coverage
  | _ => .error error

def validateResolution (value : Option (serde_json.Value F)) : Except (WireError F) Unit :=
  if value = some .Null then .ok ()
  else do
    let resolution ← object value
    match resolution.lookup "strategy" with
    | some (.String "keep_local") => identity (resolution.lookup "replacement")
    | some (.String "merge") => identity (resolution.lookup "replacement")
    | some (.String "keep_server") => .ok ()
    | some (.String "prefer_server_policy_v1") => .ok ()
    | _ => .error error

def validateConflict (value : serde_json.Value F) : Except (WireError F) Unit := do
  let conflict ← object (some value)
  identity (conflict.lookup "identity")
  validateResolution (conflict.lookup "resolution")

omit [DecidableEq F] in
def validateAccepted (value : serde_json.Value F) : Except (WireError F) Unit := do
  let accepted ← object (some value)
  identity (accepted.lookup "identity")
  counter (accepted.lookup "sequence")
  match accepted.lookup "status" with
  | some (.String "covered_by_authorized_reset") => .ok ()
  | some (.String "awaiting_pull_epoch_unknown") => .ok ()
  | _ => .error error

def validateSyncReadSummary (entry : List (String × serde_json.Value F)) : Except (WireError F) Unit := do
  forM (← array (entry.lookup "pending")) fun pending => identity (some pending)
  forM (← array (entry.lookup "conflicts")) validateConflict
  forM (← array (entry.lookup "accepted")) validateAccepted

end sync_read_codec

end react_native_surrealdb
