import SurrealSync.Native.Wire
import SurrealSync.Package.Base64

open Except
open surrealdb.types (F64)

namespace react_native_surrealdb.wire

def TAG : String := "$surreal"

inductive SurrealSqlKind where
  | datetime
  | duration
  | file
  | geometry
  | range
  | regex
  | table
deriving DecidableEq

def SurrealSqlKind.name : SurrealSqlKind → String
  | datetime => "datetime"
  | duration => "duration"
  | file => "file"
  | geometry => "geometry"
  | range => "range"
  | regex => "regex"
  | table => "table"

/-- The properties of an object stand in key order: their own order is observed nowhere. -/
inductive SurrealValue (F : Type) where
  | null
  | boolean (value : Bool)
  | string (value : String)
  | number (value : F64 F)
  | bigint (value : Int)
  | Uint8Array (value : List UInt8)
  | SurrealDecimal (value : String)
  | SurrealRecordId (value : String)
  | SurrealUuid (value : String)
  | NONE
  | SurrealSqlValue (kind : SurrealSqlKind) (value : String)
  | array (values : List (SurrealValue F))
  | Set (values : List (SurrealValue F))
  | object (entries : List (String × SurrealValue F))

inductive WireError (F : Type) where
  | TypeError (message : String)
  /-- `unsupported SurrealDB wire tag`, with the tag. -/
  | UnsupportedTag (tag : serde_json.Value F)
  /-- What `BigInt` throws. -/
  | SyntaxError

/-- The numbers of the engine: what `JSON.parse` and `Number` make of a text, and the text `JSON.stringify`
makes of a number, as the parser of the other side reads it. -/
structure Doubles (F : Type) where
  parse : serde_json.Number F → F
  stringify : F → serde_json.Number F
  literal : String → F64 F

/-! ### Texts of numbers -/

def isWhiteSpace (char : Char) : Bool :=
  char.toNat ∈ [9, 10, 11, 12, 13, 32, 160, 5760, 8232, 8233, 8239, 8287, 12288, 65279] ∨
    8192 ≤ char.toNat ∧ char.toNat ≤ 8202

def trim (text : List Char) : List Char :=
  ((text.dropWhile isWhiteSpace).reverse.dropWhile isWhiteSpace).reverse

def digitValue (char : Char) : Nat :=
  if char.isDigit then char.toNat - '0'.toNat
  else if 'a' ≤ char ∧ char ≤ 'f' then char.toNat - 'a'.toNat + 10
  else if 'A' ≤ char ∧ char ≤ 'F' then char.toNat - 'A'.toNat + 10
  else 16

/-- The value of a nonempty run of digits of a base of at most sixteen. -/
def radixDigits (base : Nat) (text : List Char) : Option Nat :=
  if text ≠ [] ∧ text.all fun char => digitValue char < base then
    some (text.foldl (fun value char => value * base + digitValue char) 0)
  else none

/-- The literals of another base than ten. -/
def nonDecimalInteger : List Char → Option Nat
  | '0' :: 'x' :: digits => radixDigits 16 digits
  | '0' :: 'X' :: digits => radixDigits 16 digits
  | '0' :: 'o' :: digits => radixDigits 8 digits
  | '0' :: 'O' :: digits => radixDigits 8 digits
  | '0' :: 'b' :: digits => radixDigits 2 digits
  | '0' :: 'B' :: digits => radixDigits 2 digits
  | _ => none

def signedInteger : List Char → Option Int
  | '-' :: digits => (Decimal.digits digits).map fun n => -(n : Int)
  | '+' :: digits => (Decimal.digits digits).map fun n => (n : Int)
  | digits => (Decimal.digits digits).map fun n => (n : Int)

/-- `BigInt` of a string, which throws when there is none. -/
def BigInt (text : String) : Option Int :=
  match trim text.toList with
  | [] => some 0
  | trimmed => (signedInteger trimmed).or ((nonDecimalInteger trimmed).map fun n => (n : Int))

def unsigned : List Char → List Char
  | '-' :: text => text
  | '+' :: text => text
  | text => text

def isExponent : List Char → Bool
  | [] => true
  | 'e' :: text => (Decimal.digits (unsigned text)).isSome
  | 'E' :: text => (Decimal.digits (unsigned text)).isSome
  | _ => false

def isDecimalLiteral (text : List Char) : Bool :=
  let whole := (unsigned text).takeWhile Char.isDigit
  match (unsigned text).dropWhile Char.isDigit with
  | '.' :: rest =>
    (whole ≠ [] ∨ rest.takeWhile Char.isDigit ≠ []) ∧ isExponent (rest.dropWhile Char.isDigit)
  | rest => whole ≠ [] ∧ isExponent rest

variable {F : Type}

/-- `Number` of a string. -/
def Number (doubles : Doubles F) (text : String) : F64 F :=
  let trimmed := trim text.toList
  if unsigned trimmed = "Infinity".toList then (if trimmed.head? = some '-' then .neg_inf else .inf)
  else if trimmed = [] ∨ isDecimalLiteral trimmed ∨ (nonDecimalInteger trimmed).isSome then doubles.literal text
  else .NaN

/-- `toString` of a number that is not finite. -/
def nonFiniteToString : F64 F → String
  | .finite _ => ""
  | .inf => "Infinity"
  | .neg_inf => "-Infinity"
  | .NaN => "NaN"

/-! ### Decoding -/

/-- The sameness of the members of a set. The containers and the instances of the classes are new objects, and
so are never the same; `NONE` is one object. -/
def sameValueZero [DecidableEq F] : SurrealValue F → SurrealValue F → Bool
  | .null, .null => true
  | .boolean a, .boolean b => a = b
  | .string a, .string b => a = b
  | .number a, .number b => a = b
  | .bigint a, .bigint b => a = b
  | .NONE, .NONE => true
  | _, _ => false

/-- `new Set(values)`. -/
def newSet [DecidableEq F] (values : List (SurrealValue F)) : List (SurrealValue F) :=
  values.foldl (fun members value => if members.any (sameValueZero value) then members else members ++ [value]) []

def requireString (value : Option (serde_json.Value F)) (field : String) : Except (WireError F) String :=
  match value with
  | some (.String value) => .ok value
  | _ => .error (.TypeError ("tag requires " ++ field ++ " string"))

section Decode

variable [DecidableEq F] (doubles : Doubles F)

/-- `nested` are the decoded elements of the array under the key `values`, if there is one. -/
def decodeTagged (tag : serde_json.Value F) (value : List (String × serde_json.Value F))
    (nested : Option (Except (WireError F) (List (SurrealValue F)))) : Except (WireError F) (SurrealValue F) :=
  let sql := fun kind => do return .SurrealSqlValue kind (← requireString (value.lookup "value") "value")
  match tag with
  | .String "none" => .ok .NONE
  | .String "int" => do
    return .bigint (← okOr (BigInt (← requireString (value.lookup "value") "value")) .SyntaxError)
  | .String "float" => do
    let text ← requireString (value.lookup "value") "value"
    if Number doubles text ≠ .NaN ∨ text = "NaN" then return .number (Number doubles text)
    else throw (.TypeError "invalid tagged float")
  | .String "decimal" => do return .SurrealDecimal (← requireString (value.lookup "value") "value")
  | .String "record" => do return .SurrealRecordId (← requireString (value.lookup "value") "value")
  | .String "uuid" => do return .SurrealUuid (← requireString (value.lookup "value") "value")
  | .String "bytes" => do
    let input ← requireString (value.lookup "base64") "base64"
    return .Uint8Array (← okOr (decodeBase64 input.toList) (.TypeError "invalid base64 bytes"))
  | .String "set" => do
    let values ← okOr nested (.TypeError "tagged set requires values")
    return .Set (newSet (← values))
  | .String "datetime" => sql .datetime
  | .String "duration" => sql .duration
  | .String "file" => sql .file
  | .String "geometry" => sql .geometry
  | .String "range" => sql .range
  | .String "regex" => sql .regex
  | .String "table" => sql .table
  | tag => .error (.UnsupportedTag tag)

mutual

def decodeValueCopy : serde_json.Value F → Except (WireError F) (SurrealValue F)
  | .Null => .ok .null
  | .Bool value => .ok (.boolean value)
  | .Number value => .ok (.number (.finite (doubles.parse value)))
  | .String value => .ok (.string value)
  | .Array values => do return .array (← copyList values)
  | .Object value =>
    match value.lookup TAG with
    | some tag => decodeTagged doubles tag value (copySet value)
    | none => do return .object (← copyEntries value)

def copyList : List (serde_json.Value F) → Except (WireError F) (List (SurrealValue F))
  | [] => .ok []
  | value :: values => do return (← decodeValueCopy value) :: (← copyList values)

def copyEntries : List (String × serde_json.Value F) → Except (WireError F) (List (String × SurrealValue F))
  | [] => .ok []
  | (key, value) :: entries => do return (key, ← decodeValueCopy value) :: (← copyEntries entries)

/-- `value.values.map(decodeValueCopy)`, if `value.values` is an array. -/
def copySet : List (String × serde_json.Value F) → Option (Except (WireError F) (List (SurrealValue F)))
  | [] => none
  | (key, .Array values) :: entries => if key = "values" then some (copyList values) else copySet entries
  | (key, _) :: entries => if key = "values" then none else copySet entries

end

mutual

def decodeValueInPlace : serde_json.Value F → Except (WireError F) (SurrealValue F)
  | .Null => .ok .null
  | .Bool value => .ok (.boolean value)
  | .Number value => .ok (.number (.finite (doubles.parse value)))
  | .String value => .ok (.string value)
  | .Array values => do return .array (← overwriteList [] values)
  | .Object value =>
    match value.lookup TAG with
    | some tag => decodeTagged doubles tag value (inPlaceSet value)
    | none => do return .object (← overwriteEntries [] value)

/-- The loop over the indexes of an array: `decoded` are the elements that are overwritten already. -/
def overwriteList (decoded : List (SurrealValue F)) :
    List (serde_json.Value F) → Except (WireError F) (List (SurrealValue F))
  | [] => .ok decoded
  | value :: rest => do overwriteList (decoded ++ [← decodeValueInPlace value]) rest

/-- The loop over the keys of an object. -/
def overwriteEntries (decoded : List (String × SurrealValue F)) :
    List (String × serde_json.Value F) → Except (WireError F) (List (String × SurrealValue F))
  | [] => .ok decoded
  | (key, value) :: rest => do overwriteEntries (decoded ++ [(key, ← decodeValueInPlace value)]) rest

def mapList : List (serde_json.Value F) → Except (WireError F) (List (SurrealValue F))
  | [] => .ok []
  | value :: values => do return (← decodeValueInPlace value) :: (← mapList values)

/-- `value.values.map(decodeValueInPlace)`, if `value.values` is an array. -/
def inPlaceSet : List (String × serde_json.Value F) → Option (Except (WireError F) (List (SurrealValue F)))
  | [] => none
  | (key, .Array values) :: entries => if key = "values" then some (mapList values) else inPlaceSet entries
  | (key, _) :: entries => if key = "values" then none else inPlaceSet entries

end

inductive SurrealDecodeMode where
  | copy
  | inPlace

/-- The text is given by the value it parses to. -/
def decodeSurrealValue (parsed : serde_json.Value F) (mode : SurrealDecodeMode) :
    Except (WireError F) (SurrealValue F) :=
  match mode with
  | .copy => decodeValueCopy doubles parsed
  | .inPlace => decodeValueInPlace doubles parsed

end Decode

/-! ### Encoding -/

section Encode

variable (doubles : Doubles F)

def taggedString (kind value : String) : serde_json.Value F :=
  .Object [(TAG, .String kind), ("value", .String value)]

mutual

/-- A value is a tree of its own containers, so that none is met again among its ancestors. -/
def encodeValue : SurrealValue F → Except (WireError F) (serde_json.Value F)
  | .null => .ok .Null
  | .string value => .ok (.String value)
  | .boolean value => .ok (.Bool value)
  | .bigint value => .ok (taggedString "int" value.repr)
  | .number (.finite value) => .ok (.Number (doubles.stringify value))
  | .number value => .ok (taggedString "float" (nonFiniteToString value))
  | .NONE => .ok (.Object [(TAG, .String "none")])
  | .SurrealDecimal value => .ok (taggedString "decimal" value)
  | .SurrealRecordId value => .ok (taggedString "record" value)
  | .SurrealUuid value => .ok (taggedString "uuid" value)
  | .Uint8Array value =>
    .ok (.Object [(TAG, .String "bytes"), ("base64", .String (String.ofList (encodeBase64 value)))])
  | .SurrealSqlValue kind _ => .error (.TypeError ("Surreal " ++ kind.name ++ " variables are not supported yet"))
  | .array values => do return .Array (← encodeList values)
  | .Set values => do return .Object [(TAG, .String "set"), ("values", .Array (← encodeList values))]
  | .object entries => do return .Object (← encodeEntries entries)

def encodeList : List (SurrealValue F) → Except (WireError F) (List (serde_json.Value F))
  | [] => .ok []
  | value :: values => do return (← encodeValue value) :: (← encodeList values)

def encodeEntries : List (String × SurrealValue F) → Except (WireError F) (List (String × serde_json.Value F))
  | [] => .ok []
  | (key, value) :: entries => do return (key, ← encodeValue value) :: (← encodeEntries entries)

end

def encodeSurrealValue (value : SurrealValue F) : Except (WireError F) (serde_json.Value F) := encodeValue doubles value

end Encode

end react_native_surrealdb.wire
