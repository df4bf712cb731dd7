import SurrealSync.Basic.Entries
import SurrealSync.Native.TaggedJson

open Except

namespace surrealdb.types

/-- A double. The two zeros are one number, as they are equal in either language, and so are all NaN. -/
inductive F64 (F : Type) where
  | finite (value : F)
  | inf
  | neg_inf
  | NaN
deriving DecidableEq

/-- The types of the database library that are only formatted and parsed here. -/
structure Types where
  Finite : Type
  Decimal : Type
  Duration : Type
  Datetime : Type
  Uuid : Type
  Geometry : Type
  RecordId : Type
  File : Type
  Range : Type
  Regex : Type

variable {T : Types}

inductive Number (T : Types) where
  | Int (value : Int64)
  | Float (value : F64 T.Finite)
  | Decimal (value : T.Decimal)

/-- The entries of an object stand in key order, and the elements of a set in their own order. -/
inductive Value (T : Types) where
  | None
  | Null
  | Bool (value : Bool)
  | Number (value : Number T)
  | String (value : String)
  | Bytes (value : List UInt8)
  | Duration (value : T.Duration)
  | Datetime (value : T.Datetime)
  | Uuid (value : T.Uuid)
  | Geometry (value : T.Geometry)
  | Table (value : String)
  | RecordId (value : T.RecordId)
  | File (value : T.File)
  | Range (value : T.Range)
  | Regex (value : T.Regex)
  | Array (values : List (Value T))
  | Object (entries : List (String × Value T))
  | Set (values : List (Value T))

@[induction_eliminator, elab_as_elim]
theorem Value.induct {P : Value T → Prop} (None : P .None) (Null : P .Null) (Bool : ∀ value, P (.Bool value))
    (Int : ∀ value, P (.Number (.Int value))) (Float : ∀ value, P (.Number (.Float value)))
    (Decimal : ∀ value, P (.Number (.Decimal value))) (String : ∀ value, P (.String value))
    (Bytes : ∀ value, P (.Bytes value)) (Duration : ∀ value, P (.Duration value)) (Datetime : ∀ value, P (.Datetime value))
    (Uuid : ∀ value, P (.Uuid value)) (Geometry : ∀ value, P (.Geometry value)) (Table : ∀ value, P (.Table value))
    (RecordId : ∀ value, P (.RecordId value)) (File : ∀ value, P (.File value)) (Range : ∀ value, P (.Range value))
    (Regex : ∀ value, P (.Regex value)) (Array : ∀ values, (∀ value ∈ values, P value) → P (.Array values))
    (Object : ∀ entries, (∀ entry ∈ entries, P entry.2) → P (.Object entries))
    (Set : ∀ values, (∀ value ∈ values, P value) → P (.Set values)) (value : Value T) : P value := by
  refine @Value.rec T P (fun values => ∀ value ∈ values, P value) (fun entries => ∀ entry ∈ entries, P entry.2)
    (fun entry => P entry.2) None Null Bool ?_ String Bytes Duration Datetime Uuid Geometry Table RecordId File
    Range Regex Array Object Set ?_ ?_ ?_ ?_ ?_ value
  · intro number
    cases number with
    | Int value => exact Int value
    | Float value => exact Float value
    | Decimal value => exact Decimal value
  · simp
  · intro value values hvalue hvalues
    exact List.forall_mem_cons.mpr ⟨hvalue, hvalues⟩
  · simp
  · intro entry entries hentry hentries
    exact List.forall_mem_cons.mpr ⟨hentry, hentries⟩
  · intro key value hvalue
    exact hvalue

mutual

/-- A value and every value nested in it. -/
def Value.parts : Value T → List (Value T)
  | .Array values => .Array values :: parts_list values
  | .Object entries => .Object entries :: parts_entries entries
  | .Set values => .Set values :: parts_list values
  | value => [value]

def parts_list : List (Value T) → List (Value T)
  | [] => []
  | value :: values => value.parts ++ parts_list values

def parts_entries : List (String × Value T) → List (Value T)
  | [] => []
  | (_, value) :: entries => value.parts ++ parts_entries entries

end

mutual

/-- How many containers surround the innermost element. -/
def Value.nesting : Value T → Nat
  | .Array values => nesting_list values
  | .Object entries => nesting_entries entries
  | .Set values => nesting_list values
  | _ => 0

def nesting_list : List (Value T) → Nat
  | [] => 0
  | value :: values => max (value.nesting + 1) (nesting_list values)

def nesting_entries : List (String × Value T) → Nat
  | [] => 0
  | (_, value) :: entries => max (value.nesting + 1) (nesting_entries entries)

end

theorem parts_list_eq (values : List (Value T)) : parts_list values = values.flatMap Value.parts := by
  induction values with
  | nil => rfl
  | cons value values ih => rw [parts_list, ih, List.flatMap_cons]

theorem parts_entries_eq (entries : List (String × Value T)) :
    parts_entries entries = entries.flatMap (·.2.parts) := by
  induction entries with
  | nil => rfl
  | cons entry entries ih => rw [parts_entries, ih, List.flatMap_cons]

section Parts

variable {P : Value T → Prop}

theorem forall_parts_array {values : List (Value T)} :
    (∀ part ∈ (Value.Array values).parts, P part) ↔
      P (.Array values) ∧ ∀ value ∈ values, ∀ part ∈ value.parts, P part := by
  rw [Value.parts, parts_list_eq, List.forall_mem_cons, List.forall_mem_flatMap]

theorem forall_parts_set {values : List (Value T)} :
    (∀ part ∈ (Value.Set values).parts, P part) ↔
      P (.Set values) ∧ ∀ value ∈ values, ∀ part ∈ value.parts, P part := by
  rw [Value.parts, parts_list_eq, List.forall_mem_cons, List.forall_mem_flatMap]

theorem forall_parts_object {entries : List (String × Value T)} :
    (∀ part ∈ (Value.Object entries).parts, P part) ↔
      P (.Object entries) ∧ ∀ entry ∈ entries, ∀ part ∈ entry.2.parts, P part := by
  rw [Value.parts, parts_entries_eq, List.forall_mem_cons, List.forall_mem_flatMap]

end Parts

theorem nesting_list_le_iff {values : List (Value T)} {bound : Nat} :
    nesting_list values ≤ bound ↔ ∀ value ∈ values, value.nesting + 1 ≤ bound := by
  induction values with
  | nil => simp [nesting_list]
  | cons value values ih => rw [nesting_list, Nat.max_le, ih, List.forall_mem_cons]

theorem nesting_entries_le_iff {entries : List (String × Value T)} {bound : Nat} :
    nesting_entries entries ≤ bound ↔ ∀ entry ∈ entries, entry.2.nesting + 1 ≤ bound := by
  induction entries with
  | nil => simp [nesting_entries]
  | cons entry entries ih => rw [nesting_entries, Nat.max_le, ih, List.forall_mem_cons]

/-- What the database library does with its types: their texts, the parsers of these, and the collection of
values into a set. -/
structure Library (T : Types) where
  decimal_to_string : T.Decimal → String
  decimal_from_str : String → Option T.Decimal
  uuid_to_string : T.Uuid → String
  uuid_from_str : String → Option T.Uuid
  duration_to_sql : T.Duration → String
  datetime_to_sql : T.Datetime → String
  geometry_to_sql : T.Geometry → String
  file_to_sql : T.File → String
  range_to_sql : T.Range → String
  regex_to_sql : T.Regex → String
  record_to_sql : T.RecordId → String
  parse_simple : String → Option T.RecordId
  set_from : List (Value T) → List (Value T)

/-- The maps and sets of a value are in order, and no key or element is there twice. -/
def Value.WellFormed (library : Library T) (value : Value T) : Prop :=
  ∀ part ∈ value.parts, match part with
    | .Object entries => Entries.Ordered entries
    | .Set values => library.set_from values = values
    | _ => True

end surrealdb.types

namespace base64

/-- `general_purpose::STANDARD` of the base64 library. -/
structure Engine where
  encode : List UInt8 → String
  decode : String → Option (List UInt8)

end base64

namespace f64

open surrealdb.types

variable {F : Type}

/-- Rust's `f64::to_string`, for what is not a finite number. -/
def non_finite_to_string : F64 F → Option String
  | .finite _ => none
  | .inf => some "inf"
  | .neg_inf => some "-inf"
  | .NaN => some "NaN"

/-- Rust's `f64::from_str`. The names of what is not finite are read in any case and with any sign; `literal`
reads the other texts. -/
def from_str (literal : String → Option (F64 F)) (text : String) : Option (F64 F) :=
  let (negative, unsigned) := match text.toList with
    | '-' :: unsigned => (true, unsigned)
    | '+' :: unsigned => (false, unsigned)
    | unsigned => (false, unsigned)
  let name := String.ofList (unsigned.map Char.toLower)
  if name = "inf" ∨ name = "infinity" then some (if negative then .neg_inf else .inf)
  else if name = "nan" then some .NaN
  else literal text

end f64

namespace surrealdb_rn_core.wire

open surrealdb.types

inductive SurrealRnError where
  | InvalidVariables (message : String)
  /-- The message of a parser of another library. -/
  | Unparsable (kind : String)

def TAG : String := "$surreal"

def MAX_WIRE_DEPTH : Nat := 128

variable {T : Types}

/-- What this module uses of other libraries; `float_literal` reads the text of a number. -/
structure Platform (T : Types) extends Library T where
  base64 : base64.Engine
  float_literal : String → Option (F64 T.Finite)
  from_u64 : UInt64 → T.Finite

variable (platform : Platform T)

def tagged (kind : String) (value : Option String) : serde_json.Value T.Finite :=
  match value with
  | some value => .Object [(TAG, .String kind), ("value", .String value)]
  | none => .Object [(TAG, .String kind)]

mutual

/-- The serialization of `WireValue`. -/
def encode_value : Value T → serde_json.Value T.Finite
  | .None => tagged "none" none
  | .Null => .Null
  | .Bool value => .Bool value
  | .Number (.Int value) => tagged "int" (some value.to_string)
  | .Number (.Float (.finite value)) => .Number (.Float value)
  | .Number (.Float value) => tagged "float" (f64.non_finite_to_string value)
  | .Number (.Decimal value) => tagged "decimal" (some (platform.decimal_to_string value))
  | .String value => .String value
  | .Bytes value => .Object [(TAG, .String "bytes"), ("base64", .String (platform.base64.encode value))]
  | .Duration value => tagged "duration" (some (platform.duration_to_sql value))
  | .Datetime value => tagged "datetime" (some (platform.datetime_to_sql value))
  | .Uuid value => tagged "uuid" (some (platform.uuid_to_string value))
  | .Geometry value => tagged "geometry" (some (platform.geometry_to_sql value))
  | .Table value => tagged "table" (some value)
  | .RecordId value => tagged "record" (some (platform.record_to_sql value))
  | .File value => tagged "file" (some (platform.file_to_sql value))
  | .Range value => tagged "range" (some (platform.range_to_sql value))
  | .Regex value => tagged "regex" (some (platform.regex_to_sql value))
  | .Array values => .Array (encode_list values)
  | .Object entries => .Object (encode_entries entries)
  | .Set values => .Object [(TAG, .String "set"), ("values", .Array (encode_list values))]

def encode_list : List (Value T) → List (serde_json.Value T.Finite)
  | [] => []
  | value :: values => encode_value value :: encode_list values

def encode_entries : List (String × Value T) → List (String × serde_json.Value T.Finite)
  | [] => []
  | (key, value) :: entries => (key, encode_value value) :: encode_entries entries

end

def required_string {F : Type} (object : List (String × serde_json.Value F)) (key : String) :
    Except SurrealRnError String :=
  match object.lookup key with
  | some (.String value) => .ok value
  | _ => .error (.InvalidVariables ("tagged value requires string field '" ++ key ++ "'"))

def parsed {A : Type} (kind : String) (value : Option A) : Except SurrealRnError A := okOr value (.Unparsable kind)

/-- `values` are the decoded elements of the array under the key `values`, if there is one. -/
def decode_tagged_value (tag : serde_json.Value T.Finite) (object : List (String × serde_json.Value T.Finite))
    (values : Option (Except SurrealRnError (List (Value T)))) : Except SurrealRnError (Value T) :=
  match tag with
  | .String "none" => .ok .None
  | .String "int" => do
    return .Number (.Int (← parsed "int" (Int64.from_str (← required_string object "value"))))
  | .String "float" => do
    return .Number (.Float (← parsed "float" (f64.from_str platform.float_literal (← required_string object "value"))))
  | .String "decimal" => do
    return .Number (.Decimal (← parsed "decimal" (platform.decimal_from_str (← required_string object "value"))))
  | .String "bytes" => do
    return .Bytes (← parsed "bytes" (platform.base64.decode (← required_string object "base64")))
  | .String "uuid" => do
    return .Uuid (← parsed "uuid" (platform.uuid_from_str (← required_string object "value")))
  | .String "record" => do
    return .RecordId (← parsed "record" (platform.parse_simple (← required_string object "value")))
  | .String "set" => do
    let values ← okOr values (.InvalidVariables "set requires a values array")
    return .Set (platform.set_from (← values))
  | .String other => .error (.InvalidVariables ("unsupported $surreal tag '" ++ other ++ "'"))
  | _ => .error (.InvalidVariables "$surreal tag must be a string")

def from_wire_number : serde_json.Number T.Finite → Number T
  | .PosInt value =>
    if value.toNat < 2 ^ 63 then .Int (.ofInt value.toNat) else .Float (.finite (platform.from_u64 value))
  | .NegInt value _ => .Int value
  | .Float value => .Float (.finite value)

mutual

def from_wire_value_at_depth (depth : Nat) (value : serde_json.Value T.Finite) : Except SurrealRnError (Value T) :=
  if depth > MAX_WIRE_DEPTH then .error (.InvalidVariables "value nesting exceeds the supported depth")
  else match value with
    | .Null => .ok .Null
    | .Bool value => .ok (.Bool value)
    | .Number value => .ok (.Number (from_wire_number platform value))
    | .String value => .ok (.String value)
    | .Array values => do return .Array (← from_wire_list (depth + 1) values)
    | .Object object =>
      match object.lookup TAG with
      | some tag => decode_tagged_value platform tag object (from_wire_set (depth + 1) object)
      | none => do return .Object (← from_wire_entries (depth + 1) object)

def from_wire_list (depth : Nat) : List (serde_json.Value T.Finite) → Except SurrealRnError (List (Value T))
  | [] => .ok []
  | value :: values => do return (← from_wire_value_at_depth depth value) :: (← from_wire_list depth values)

def from_wire_entries (depth : Nat) :
    List (String × serde_json.Value T.Finite) → Except SurrealRnError (List (String × Value T))
  | [] => .ok []
  | (key, value) :: entries => do
    return (key, ← from_wire_value_at_depth depth value) :: (← from_wire_entries depth entries)

/-- The elements of the array under the key `values`. -/
def from_wire_set (depth : Nat) :
    List (String × serde_json.Value T.Finite) → Option (Except SurrealRnError (List (Value T)))
  | [] => none
  | (key, .Array values) :: entries =>
    if key = "values" then some (from_wire_list depth values) else from_wire_set depth entries
  | (key, _) :: entries => if key = "values" then none else from_wire_set depth entries

end

def from_wire_value (value : serde_json.Value T.Finite) : Except SurrealRnError (Value T) :=
  from_wire_value_at_depth platform 0 value

theorem encode_list_eq (values : List (Value T)) : encode_list platform values = values.map (encode_value platform) := by
  induction values with
  | nil => rfl
  | cons value values ih => rw [encode_list, ih, List.map_cons]

theorem encode_entries_eq (entries : List (String × Value T)) :
    encode_entries platform entries = entries.map fun entry => (entry.1, encode_value platform entry.2) := by
  induction entries with
  | nil => rfl
  | cons entry entries ih => rw [encode_entries, ih, List.map_cons]

theorem from_wire_list_eq (depth : Nat) (values : List (serde_json.Value T.Finite)) :
    from_wire_list platform depth values = values.mapM (from_wire_value_at_depth platform depth) := by
  induction values with
  | nil => rfl
  | cons value values ih => rw [from_wire_list, ih, List.mapM_cons]

theorem from_wire_entries_eq (depth : Nat) (entries : List (String × serde_json.Value T.Finite)) :
    from_wire_entries platform depth entries =
      entries.mapM fun entry => do return (entry.1, ← from_wire_value_at_depth platform depth entry.2) := by
  induction entries with
  | nil => rfl
  | cons entry entries ih => simp [from_wire_entries, ih, List.mapM_cons]

end surrealdb_rn_core.wire
