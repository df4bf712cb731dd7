import Mathlib.Data.List.Dedup
import SurrealSync.Native.View
import SurrealSync.Package.SyncReadCodec

open Except
open surrealdb.types (F64)

namespace react_native_surrealdb.sync_view

open wire

/-- `string | boolean | null`. -/
inductive Wanted where
  | null
  | boolean (value : Bool)
  | string (value : String)
deriving DecidableEq

structure Equation where
  path : List String
  value : Wanted
deriving DecidableEq

inductive SyncViewSelector where
  | all
  | eq (equation : Equation)
  | and (terms : List Equation)
deriving DecidableEq

/-- The cursor of a page may be missing, `null` or a text. -/
inductive SyncViewRequest (F : Type) where
  | count (selector : SyncViewSelector)
  | page (selector : SyncViewSelector) (projection : List (List String)) (limit : F64 F)
      (cursor : Option (Option String))

structure SyncViewField (F : Type) where
  present : Bool
  value : SurrealValue F

/-- A row, with the other properties as they were parsed. -/
structure SyncViewRow (F : Type) where
  recordId : String
  properties : List (String × serde_json.Value F)
  fields : List (SyncViewField F)

/-- What is decoded, with the properties as they were parsed. -/
inductive SyncViewResult (F : Type) where
  | stale_cursor (properties : List (String × serde_json.Value F))
  | count (properties : List (String × serde_json.Value F)) (observedCount : String)
  | page (properties : List (String × serde_json.Value F)) (rows : List (SyncViewRow F)) (nextCursor : Option String)

variable {F : Type}

def error : WireError F := .TypeError "Invalid bounded sync view protocol v1 payload"

/-! ### Requests -/

/-- `/[\u0000-\u001f\u007f-\u009f]/`. -/
def isControl (char : Char) : Bool := char.toNat ≤ 31 || (127 ≤ char.toNat && char.toNat ≤ 159)

def invalidSegment (segment : String) : Bool :=
  utf16Length segment < 1 || utf16Length segment > 128 || segment.toList.any isControl ||
    segment ∈ ["__proto__", "prototype", "constructor", "$surreal"]

def path (value : List String) : Except (WireError F) Unit :=
  refuse (value.length < 1 ∨ value.length > 8 ∨ value.any invalidSegment) error

def invalidWanted : Wanted → Bool
  | .null => false
  | .boolean _ => false
  | .string value => utf16Length value > 1024

/-- The branch of `selector` for an equation. -/
def equation (value : Equation) : Except (WireError F) Unit := do
  path value.path
  refuse (invalidWanted value.value) error

def selector : SyncViewSelector → Except (WireError F) Unit
  | .all => .ok ()
  | .eq value => equation value
  | .and terms => do
    refuse (¬ (terms.length > 0 ∧ terms.length ≤ 8)) error
    forM terms equation

/-! `JSON.stringify` quotes a well-formed string as serde does. -/

def stringifyPath (value : List String) : String :=
  "[" ++ serde_json.comma_separated (value.map serde_json.quote) ++ "]"

def Wanted.stringify : Wanted → String
  | .null => "null"
  | .boolean true => "true"
  | .boolean false => "false"
  | .string value => serde_json.quote value

def Equation.stringify (value : Equation) : String :=
  "\x7b\"kind\":\"eq\",\"path\":" ++ stringifyPath value.path ++ ",\"value\":" ++ value.value.stringify ++ "\x7d"

def SyncViewSelector.stringify : SyncViewSelector → String
  | .all => "\x7b\"kind\":\"all\"\x7d"
  | .eq value => value.stringify
  | .and terms => "\x7b\"kind\":\"and\",\"terms\":[" ++ serde_json.comma_separated (terms.map Equation.stringify) ++
      "]\x7d"

variable (engine : Engine F)

def stringifyNumber : F64 F → String
  | .finite value => engine.text value
  | .inf => "null"
  | .neg_inf => "null"
  | .NaN => "null"

def stringifyCursor : Option (Option String) → String
  | none => ""
  | some none => ",\"cursor\":null"
  | some (some cursor) => ",\"cursor\":" ++ serde_json.quote cursor

/-- The properties in the order of their type. -/
def SyncViewRequest.stringify : SyncViewRequest F → String
  | .count selector => "\x7b\"protocolVersion\":1,\"operation\":\"count\",\"selector\":" ++ selector.stringify ++ "\x7d"
  | .page selector projection limit cursor =>
    "\x7b\"protocolVersion\":1,\"operation\":\"page\",\"selector\":" ++ selector.stringify ++ ",\"projection\":[" ++
      serde_json.comma_separated (projection.map stringifyPath) ++ "],\"limit\":" ++ stringifyNumber engine limit ++
      stringifyCursor cursor ++ "\x7d"

/-- The integer that a number is. -/
def integer : F64 F → Option Int
  | .finite value => engine.integer value
  | .inf => none
  | .neg_inf => none
  | .NaN => none

def invalidCursor : Option (Option String) → Bool
  | none => false
  | some none => false
  | some (some cursor) => utf16Length cursor > 8192

/-- The branch of `encodeSyncViewRequest` for a page. -/
def pageRequest (projection : List (List String)) (limit : F64 F) (cursor : Option (Option String)) :
    Except (WireError F) Unit := do
  refuse (¬ (integer engine limit).any (fun limit => 1 ≤ limit ∧ limit ≤ 64) ∨ projection.length < 1
    ∨ projection.length > 16) error
  forM projection path
  refuse ((projection.map stringifyPath).dedup.length ≠ projection.length) error
  refuse (invalidCursor cursor) error

def encodeSyncViewRequest (value : SyncViewRequest F) : Except (WireError F) String := do
  match value with
  | .count selector => sync_view.selector selector
  | .page selector projection limit cursor => do
    sync_view.selector selector
    pageRequest engine projection limit cursor
  refuse (utf16Length (value.stringify engine) > 16 * 1024) error
  return value.stringify engine

/-! ### Results -/

def object (value : Option (serde_json.Value F)) : Except (WireError F) (List (String × serde_json.Value F)) :=
  match value with
  | some (.Object entries) => .ok entries
  | _ => .error error

/-- The integer of a property, when `Number.isSafeInteger` holds of it. -/
def safeInteger (value : Option (serde_json.Value F)) : Option Int :=
  match value with
  | some (.Number value) => (engine.integer (engine.parse value)).filter fun n => n.natAbs ≤ 9007199254740991
  | _ => none

/-- One iteration of the loop over the properties of the work. -/
def workProperty (work : List (String × serde_json.Value F)) (key : String) : Except (WireError F) Int := do
  let value ← okOr (safeInteger engine (work.lookup key)) error
  refuse (value < 0) error
  return value

def validateWork (value : Option (serde_json.Value F)) : Except (WireError F) Unit := do
  let work ← object value
  let recordsVisited ← workProperty engine work "recordsVisited"
  let operationsVisited ← workProperty engine work "operationsVisited"
  let valueNodesVisited ← workProperty engine work "valueNodesVisited"
  let valueBytesVisited ← workProperty engine work "valueBytesVisited"
  refuse (recordsVisited + operationsVisited > 16384 ∨ valueNodesVisited > 65536 ∨ valueBytesVisited > 4194304) error

def decodeCount (properties : List (String × serde_json.Value F)) : Except (WireError F) (SyncViewResult F) :=
  match properties.lookup "observedCount" with
  | some (.String observedCount) => do
    refuse (¬ sync_read_codec.isDecimal 4 observedCount ∨ sync_read_codec.exceeds observedCount 16384
      ∨ (properties.lookup "rows").isSome) error
    return .count properties observedCount
  | _ => .error error

/-- `JSON.stringify` of a parsed value. -/
def stringify (value : serde_json.Value F) : String :=
  serde_json.to_string (fun number => engine.text (engine.parse number)) value

variable [DecidableEq F]

/-- Writing a parsed value and reading it again leaves it as it is. -/
def decodeField (field : serde_json.Value F) (path : List String) : Except (WireError F) (SyncViewField F) := do
  let f ← object (some field)
  refuse ((f.lookup "path").map (stringify engine) ≠ some (stringifyPath path)) error
  match f.lookup "present", f.lookup "value" with
  | some (.Bool present), some value => do
    refuse (¬ present ∧ value ≠ .Null) error
    if present then return ⟨true, ← decodeSurrealValue engine.toDoubles value .inPlace⟩
    else return ⟨false, .null⟩
  | _, _ => .error error

/-- The loop over the fields of a row, which has as many of them as there are paths. -/
def decodeFields : List (serde_json.Value F) → List (List String) → Except (WireError F) (List (SyncViewField F))
  | field :: fields, path :: paths => do return (← decodeField engine field path) :: (← decodeFields fields paths)
  | _, _ => .ok []

def decodeRow (projection : List (List String)) (ids : List String) (item : serde_json.Value F) :
    Except (WireError F) (SyncViewRow F) := do
  let row ← object (some item)
  match row.lookup "recordId", row.lookup "fields" with
  | some (.String recordId), some (.Array fields) => do
    refuse (recordId = "" ∨ utf16Length recordId > 4096 ∨ recordId ∈ ids) error
    sync_read_codec.validateSyncReadSummary row
    refuse (fields.length ≠ projection.length) error
    return ⟨recordId, row, ← decodeFields engine fields projection⟩
  | _, _ => .error error

/-- The loop over the rows; `ids` are those that it has seen. -/
def decodeRows (projection : List (List String)) :
    List String → List (serde_json.Value F) → Except (WireError F) (List (SyncViewRow F))
  | _, [] => .ok []
  | ids, item :: items => do
    let row ← decodeRow engine projection ids item
    return row :: (← decodeRows projection (ids ++ [row.recordId]) items)

/-- `rows` and `nextCursor`, as far as they are checked before the rows. -/
def decodePage (properties : List (String × serde_json.Value F)) (projection : List (List String)) (limit : F64 F) :
    Except (WireError F) (SyncViewResult F) :=
  match properties.lookup "rows" with
  | some (.Array rows) => do
    refuse (engine.compare rows.length limit = some .gt) error
    match properties.lookup "nextCursor" with
    | some .Null => do return .page properties (← decodeRows engine projection [] rows) none
    | some (.String cursor) => do
      refuse (utf16Length cursor > 8192 ∨ engine.compare rows.length limit ≠ some .eq) error
      return .page properties (← decodeRows engine projection [] rows) (some cursor)
    | _ => .error error
  | _ => .error error

/-- The cursor of a request, when it is not empty. -/
def SyncViewRequest.hasCursor : SyncViewRequest F → Bool
  | .count _ => false
  | .page _ _ _ cursor => cursor.join.any (· ≠ "")

/-- The branches of `decodeSyncViewResult` for an answer that is not stale. -/
def decodeAnswer (result : List (String × serde_json.Value F)) (request : SyncViewRequest F) :
    Except (WireError F) (SyncViewResult F) := do
  validateWork engine (result.lookup "work")
  match result.lookup "kind", request with
  | some (.String "count"), .count _ => decodeCount result
  | some (.String "page"), .page _ projection limit _ => decodePage engine result projection limit
  | _, _ => .error error

/-- `parsed` is what `JSON.parse` makes of the text. -/
def decodeSyncViewResult (json : String) (parsed : serde_json.Value F) (request : SyncViewRequest F) :
    Except (WireError F) (SyncViewResult F) := do
  refuse (utf16Length json > 256 * 1024) error
  let result ← object (some parsed)
  refuse (safeInteger engine (result.lookup "protocolVersion") ≠ some 1 ∨ (result.lookup "snapshot").isSome) error
  sync_read_codec.validateSyncReadMetadata (result.lookup "metadata")
  if result.lookup "kind" = some (.String "stale_cursor") then do
    refuse (¬ request.hasCursor ∨ (result.lookup "rows").isSome ∨ (result.lookup "work").isSome) error
    return .stale_cursor result
  else decodeAnswer engine result request

end react_native_surrealdb.sync_view
