import SurrealSync.Native.Codec
import SurrealSync.Native.WireRoundTrip

open Std Except
open surrealdb_sync_protocol.canonical

namespace surrealdb.types

/-- The key of a record id, over the values that it can contain. -/
inductive RecordIdKey (T : Types) (V : Type) where
  | Number (value : Int64)
  | String (value : String)
  | Uuid (value : T.Uuid)
  | Array (values : List V)
  | Object (entries : List (String × V))
  | Range (value : T.Range)

/-- The values of the library with their record ids open; the finite floats are the canonical ones. -/
inductive SurrealValue (T : Types) where
  | None
  | Null
  | Bool (value : Bool)
  | Int (value : Int64)
  | Float (value : F64 CanonicalFloat)
  | Decimal (value : T.Decimal)
  | String (value : String)
  | Bytes (value : List UInt8)
  | Duration (value : T.Duration)
  | Datetime (value : T.Datetime)
  | Uuid (value : T.Uuid)
  | Geometry (value : T.Geometry)
  | Table (value : String)
  | RecordId (table : String) (key : RecordIdKey T (SurrealValue T))
  | File (value : T.File)
  | Range (value : T.Range)
  | Regex (value : T.Regex)
  | Array (values : List (SurrealValue T))
  | Object (entries : List (String × SurrealValue T))
  | Set (values : List (SurrealValue T))

structure SurrealRecordId (T : Types) where
  table : String
  key : RecordIdKey T (SurrealValue T)

/-- The types of the wire, with these record ids and floats. -/
abbrev Types.recorded (T : Types) : Types := { T with Finite := CanonicalFloat, RecordId := SurrealRecordId T }

variable {T : Types}

mutual

/-- A value of the wire with its record ids open. -/
def Value.opened : Value T.recorded → SurrealValue T
  | .None => .None
  | .Null => .Null
  | .Bool value => .Bool value
  | .Number (.Int value) => .Int value
  | .Number (.Float value) => .Float value
  | .Number (.Decimal value) => .Decimal value
  | .String value => .String value
  | .Bytes value => .Bytes value
  | .Duration value => .Duration value
  | .Datetime value => .Datetime value
  | .Uuid value => .Uuid value
  | .Geometry value => .Geometry value
  | .Table value => .Table value
  | .RecordId value => .RecordId (SurrealRecordId.table value) (SurrealRecordId.key value)
  | .File value => .File value
  | .Range value => .Range value
  | .Regex value => .Regex value
  | .Array values => .Array (opened_list values)
  | .Object entries => .Object (opened_entries entries)
  | .Set values => .Set (opened_list values)

def opened_list : List (Value T.recorded) → List (SurrealValue T)
  | [] => []
  | value :: values => value.opened :: opened_list values

def opened_entries : List (String × Value T.recorded) → List (String × SurrealValue T)
  | [] => []
  | (key, value) :: entries => (key, value.opened) :: opened_entries entries

end

end surrealdb.types

namespace surrealdb_sync_protocol.canonical

mutual

/-- Equality of canonical values, decided. -/
def CanonicalTree.eq : CanonicalTree → CanonicalTree → Bool
  | .None, .None => true
  | .Null, .Null => true
  | .Bool a, .Bool b => a = b
  | .Int a, .Int b => a = b
  | .Float a, .Float b => a = b
  | .String a, .String b => a = b
  | .Bytes a, .Bytes b => a = b
  | .Array a, .Array b => eq_list a b
  | .Object a, .Object b => eq_entries a b
  | .RecordId table key, .RecordId table' key' => table = table' && key.eq key'
  | _, _ => false

def eq_list : List CanonicalTree → List CanonicalTree → Bool
  | [], [] => true
  | a :: as, b :: bs => a.eq b && eq_list as bs
  | _, _ => false

def eq_entries : List (String × CanonicalTree) → List (String × CanonicalTree) → Bool
  | [], [] => true
  | (key, a) :: as, (key', b) :: bs => key = key' && (a.eq b && eq_entries as bs)
  | _, _ => false

end

theorem eq_list_iff {as bs : List CanonicalTree} (heq : ∀ a ∈ as, ∀ b, a.eq b = true ↔ a = b) :
    eq_list as bs = true ↔ as = bs := by
  induction as generalizing bs with
  | nil => cases bs <;> simp [eq_list]
  | cons a as ih =>
    obtain ⟨ha, has⟩ := List.forall_mem_cons.mp heq
    cases bs with
    | nil => simp [eq_list]
    | cons b bs => simp [eq_list, ha, ih has]

theorem eq_entries_iff {as bs : List (String × CanonicalTree)} (heq : ∀ a ∈ as, ∀ b, a.2.eq b = true ↔ a.2 = b) :
    eq_entries as bs = true ↔ as = bs := by
  induction as generalizing bs with
  | nil => cases bs <;> simp [eq_entries]
  | cons a as ih =>
    obtain ⟨ha, has⟩ := List.forall_mem_cons.mp heq
    cases bs with
    | nil => simp [eq_entries]
    | cons b bs =>
      obtain ⟨key, a⟩ := a
      obtain ⟨key', b⟩ := b
      simp only at ha
      simp [eq_entries, ha, ih has, and_assoc]

theorem CanonicalTree.eq_iff {a b : CanonicalTree} : a.eq b = true ↔ a = b := by
  induction a generalizing b with
  | Array values ih => cases b <;> simp [CanonicalTree.eq, eq_list_iff ih]
  | Object values ih => cases b <;> simp [CanonicalTree.eq, eq_entries_iff ih]
  | RecordId table key ih => cases b <;> simp [CanonicalTree.eq, ih]
  | _ => cases b <;> simp [CanonicalTree.eq]

instance : DecidableEq CanonicalTree := fun _ _ => decidable_of_iff _ CanonicalTree.eq_iff

end surrealdb_sync_protocol.canonical

namespace surrealdb_rn_core.sync_codec

open surrealdb.types

variable {T : Types}

mutual

/-- The entries of an object come in key order, and are collected in it. -/
def from_surreal : SurrealValue T → Option CanonicalTree
  | .None => some .None
  | .Null => some .Null
  | .Bool value => some (.Bool value)
  | .Int value => some (.Int value)
  | .Float (.finite value) => some (.Float value)
  | .Float .inf | .Float .neg_inf | .Float .NaN => none
  | .Decimal _ => none
  | .String value => some (.String value)
  | .Bytes value => some (.Bytes value)
  | .Array values => do return .Array (← from_surreal_list values)
  | .Object entries => do return .Object (← from_surreal_entries entries)
  | .RecordId table key => do return .RecordId table (← record_key key)
  | .Duration _ | .Datetime _ | .Uuid _ | .Geometry _ | .Table _ | .File _ | .Range _ | .Regex _ | .Set _ => none

def from_surreal_list : List (SurrealValue T) → Option (List CanonicalTree)
  | [] => some []
  | value :: values => do return (← from_surreal value) :: (← from_surreal_list values)

def from_surreal_entries : List (String × SurrealValue T) → Option (List (String × CanonicalTree))
  | [] => some []
  | (key, value) :: entries => do return (key, ← from_surreal value) :: (← from_surreal_entries entries)

def record_key : RecordIdKey T (SurrealValue T) → Option CanonicalTree
  | .Number value => some (.Int value)
  | .String value => some (.String value)
  | .Array values => do return .Array (← from_surreal_list values)
  | .Object entries => do return .Object (← from_surreal_entries entries)
  | .Uuid _ | .Range _ => none

end

variable (platform : wire.Platform T.recorded)

def canonical_json (value : serde_json.Value CanonicalFloat) : NativeResult CanonicalTree := do
  let value ← map_err (wire.from_wire_value platform value) fun _ => .InvalidInput
  okOr (from_surreal value.opened) .InvalidInput

end surrealdb_rn_core.sync_codec

namespace surrealdb_rn_core.sync_http_codec

open surrealdb.types sync_codec

variable {T : Types}

mutual

def canonical_record_key : CanonicalTree → NativeResult (RecordIdKey T (SurrealValue T))
  | .Int value => .ok (.Number value)
  | .String value => .ok (.String value)
  | .Array values => do return .Array (← canonical_to_surreal_list values)
  | .Object entries => do return .Object (← canonical_to_surreal_entries entries)
  | .None | .Null | .Bool _ | .Float _ | .Bytes _ | .RecordId _ _ => .error .Protocol

def canonical_to_surreal : CanonicalTree → NativeResult (SurrealValue T)
  | .None => .ok .None
  | .Null => .ok .Null
  | .Bool value => .ok (.Bool value)
  | .Int value => .ok (.Int value)
  | .Float value => .ok (.Float (.finite value))
  | .String value => .ok (.String value)
  | .Bytes value => .ok (.Bytes value)
  | .Array values => do return .Array (← canonical_to_surreal_list values)
  | .Object entries => do return .Object (← canonical_to_surreal_entries entries)
  | .RecordId table key => do return .RecordId table (← canonical_record_key key)

def canonical_to_surreal_list : List CanonicalTree → NativeResult (List (SurrealValue T))
  | [] => .ok []
  | value :: values => do return (← canonical_to_surreal value) :: (← canonical_to_surreal_list values)

def canonical_to_surreal_entries : List (String × CanonicalTree) → NativeResult (List (String × SurrealValue T))
  | [] => .ok []
  | (key, value) :: entries => do
    return (key, ← canonical_to_surreal value) :: (← canonical_to_surreal_entries entries)

end

variable (platform : wire.Platform T.recorded)

/-- The wire form of a record id, when it is read back as the same record id. -/
def record_to_json (table : String) (key : CanonicalTree) : NativeResult (serde_json.Value CanonicalFloat) := do
  let record_id := platform.record_to_sql ⟨table, ← canonical_record_key key⟩
  let tagged := serde_json.json [(wire.TAG, .String "record"), ("value", .String record_id)]
  let read ← map_err (canonical_json platform tagged) fun _ => .Protocol
  refuse (read ≠ .RecordId table key) .Protocol
  return tagged

mutual

def canonical_to_json : CanonicalTree → NativeResult (serde_json.Value CanonicalFloat)
  | .None => .ok (serde_json.json [(wire.TAG, .String "none")])
  | .Null => .ok .Null
  | .Bool value => .ok (.Bool value)
  | .Int value => .ok (serde_json.json [(wire.TAG, .String "int"), ("value", .String value.to_string)])
  | .Float value => okOr ((serde_json.Number.from_f64 (.finite value)).map .Number) .Protocol
  | .String value => .ok (.String value)
  | .Bytes value =>
    .ok (serde_json.json [(wire.TAG, .String "bytes"), ("base64", .String (platform.base64.encode value))])
  | .Array values => do return .Array (← canonical_to_json_list values)
  | .Object entries => do
    refuse (wire.TAG ∈ entries.map Prod.fst) .Protocol
    return .Object (serde_json.Map.from_iter (← canonical_to_json_entries entries))
  | .RecordId table key => record_to_json platform table key

def canonical_to_json_list : List CanonicalTree → NativeResult (List (serde_json.Value CanonicalFloat))
  | [] => .ok []
  | value :: values => do return (← canonical_to_json value) :: (← canonical_to_json_list values)

def canonical_to_json_entries :
    List (String × CanonicalTree) → NativeResult (List (String × serde_json.Value CanonicalFloat))
  | [] => .ok []
  | (key, value) :: entries => do return (key, ← canonical_to_json value) :: (← canonical_to_json_entries entries)

end

/-! ### One level of the translation -/

theorem canonical_to_json_list_eq (values : List CanonicalTree) :
    canonical_to_json_list platform values = values.mapM (canonical_to_json platform) := by
  induction values with
  | nil => rfl
  | cons value values ih => rw [canonical_to_json_list, ih, List.mapM_cons]

theorem canonical_to_json_entries_eq (entries : List (String × CanonicalTree)) :
    canonical_to_json_entries platform entries =
      entries.mapM fun entry => do return (entry.1, ← canonical_to_json platform entry.2) := by
  induction entries with
  | nil => rfl
  | cons entry entries ih => simp [canonical_to_json_entries, ih, List.mapM_cons]

/-- What is written of a value. The record id is read back by the code itself. -/
inductive Written (platform : wire.Platform T.recorded) : CanonicalTree → serde_json.Value CanonicalFloat → Prop where
  | None : Written platform .None (wire.tagged (T := T.recorded) "none" none)
  | Null : Written platform .Null .Null
  | Bool (value : Bool) : Written platform (.Bool value) (.Bool value)
  | Int (value : Int64) : Written platform (.Int value) (wire.tagged (T := T.recorded) "int" (some value.to_string))
  | Float (value : CanonicalFloat) : Written platform (.Float value) (.Number (.Float value))
  | String (value : String) : Written platform (.String value) (.String value)
  | Bytes (value : List UInt8) : Written platform (.Bytes value)
      (.Object [(wire.TAG, .String "bytes"), ("base64", .String (platform.base64.encode value))])
  | Array {values : List CanonicalTree} {jsons : List (serde_json.Value CanonicalFloat)}
      (hvalues : List.Forall₂ (fun value json => canonical_to_json platform value = .ok json) values jsons) :
      Written platform (.Array values) (.Array jsons)
  | Object {entries : List (String × CanonicalTree)} {jsons : List (String × serde_json.Value CanonicalFloat)}
      (htag : wire.TAG ∉ entries.map Prod.fst)
      (hentries : List.Forall₂ (fun entry json => entry.1 = json.1 ∧ canonical_to_json platform entry.2 = .ok json.2)
        entries jsons) : Written platform (.Object entries) (.Object jsons)
  | RecordId {table : String} {key : CanonicalTree} (record_id : RecordIdKey T (SurrealValue T))
      (hkey : canonical_record_key key = .ok record_id)
      (hread : canonical_json platform (wire.tagged (T := T.recorded) "record"
        (some (platform.record_to_sql ⟨table, record_id⟩))) = .ok (.RecordId table key)) :
      Written platform (.RecordId table key)
        (wire.tagged (T := T.recorded) "record" (some (platform.record_to_sql ⟨table, record_id⟩)))

variable {platform}

theorem entries_written {entries : List (String × CanonicalTree)}
    {jsons : List (String × serde_json.Value CanonicalFloat)} :
    canonical_to_json_entries platform entries = .ok jsons ↔
      List.Forall₂ (fun entry json => entry.1 = json.1 ∧ canonical_to_json platform entry.2 = .ok json.2)
        entries jsons := by
  rw [canonical_to_json_entries_eq, mapM_eq_ok_iff]
  refine iff_of_eq (congrArg (List.Forall₂ · entries jsons) (funext₂ fun entry json => propext ?_))
  rw [bind_eq_ok_iff]
  constructor
  · rintro ⟨value, hvalue, heq⟩
    cases heq
    exact ⟨rfl, hvalue⟩
  · rintro ⟨hkey, hvalue⟩
    exact ⟨json.2, hvalue, by rw [hkey]; rfl⟩

theorem keys_of_written {entries : List (String × CanonicalTree)}
    {jsons : List (String × serde_json.Value CanonicalFloat)}
    (hentries : List.Forall₂ (fun entry json => entry.1 = json.1 ∧ canonical_to_json platform entry.2 = .ok json.2)
      entries jsons) : jsons.map Prod.fst = entries.map Prod.fst := by
  induction hentries with
  | nil => rfl
  | cons hentry _ ih => rw [List.map_cons, List.map_cons, ih, hentry.1]

theorem ordered_of_keys {A B : Type} {entries : List (String × A)} {others : List (String × B)}
    (hkeys : others.map Prod.fst = entries.map Prod.fst) (hordered : Entries.Ordered entries) :
    Entries.Ordered others := by
  have hpairwise : (entries.map Prod.fst).Pairwise fun a b => compare a b = .lt := List.pairwise_map.mpr hordered
  rw [← hkeys] at hpairwise
  exact List.pairwise_map.mp hpairwise

theorem record_to_json_eq_ok_iff {table : String} {key : CanonicalTree} {json : serde_json.Value CanonicalFloat} :
    record_to_json platform table key = .ok json ↔ Written platform (.RecordId table key) json := by
  constructor
  · intro hwrite
    obtain ⟨record_id, hkey, hwrite⟩ := bind_eq_ok_iff.mp hwrite
    obtain ⟨read, hread, hwrite⟩ := bind_eq_ok_iff.mp hwrite
    obtain ⟨_, hsame, hwrite⟩ := bind_eq_ok_iff.mp hwrite
    rw [refuse_eq_ok_iff, not_not] at hsame
    rw [hsame, map_err_eq_ok_iff] at hread
    rw [wire.json_tagged (T := T.recorded)] at hread hwrite
    cases hwrite
    exact .RecordId record_id hkey hread
  · intro hwritten
    cases hwritten with
    | RecordId record_id hkey hread =>
      unfold record_to_json
      rw [hkey, ok_bind]
      simp only [wire.json_tagged (T := T.recorded)]
      rw [hread]
      simp [map_err, refuse, pure, Except.pure]

/-- A value is written in exactly one way. -/
theorem canonical_to_json_eq_ok_iff {tree : CanonicalTree} (hordered : KeysOrdered tree)
    {json : serde_json.Value CanonicalFloat} :
    canonical_to_json platform tree = .ok json ↔ Written platform tree json := by
  cases tree with
  | Array values =>
    rw [canonical_to_json, canonical_to_json_list_eq, bind_eq_ok_iff]
    constructor
    · rintro ⟨jsons, hvalues, heq⟩
      cases heq
      exact .Array (mapM_eq_ok_iff.mp hvalues)
    · intro hwritten
      cases hwritten with
      | Array hvalues => exact ⟨_, mapM_eq_ok_iff.mpr hvalues, rfl⟩
  | Object entries =>
    rw [canonical_to_json, bind_eq_ok_iff]
    constructor
    · rintro ⟨_, htag, hwrite⟩
      obtain ⟨jsons, hentries, heq⟩ := bind_eq_ok_iff.mp hwrite
      have hwritten := entries_written.mp hentries
      rw [serde_json.Map.from_iter_eq (ordered_of_keys (keys_of_written hwritten) hordered)] at heq
      cases heq
      exact .Object (refuse_eq_ok_iff.mp htag) hwritten
    · intro hwritten
      cases hwritten with
      | Object htag hentries =>
        refine ⟨(), refuse_eq_ok_iff.mpr htag, bind_eq_ok_iff.mpr ⟨_, entries_written.mpr hentries, ?_⟩⟩
        rw [serde_json.Map.from_iter_eq (ordered_of_keys (keys_of_written hentries) hordered)]
        rfl
  | RecordId table key => exact record_to_json_eq_ok_iff
  | Int value =>
    rw [canonical_to_json, wire.json_tagged (T := T.recorded)]
    constructor
    · intro hwrite
      cases hwrite
      exact .Int value
    · intro hwritten
      cases hwritten
      rfl
  | Bytes value =>
    rw [canonical_to_json, serde_json.json_pair (by decide)]
    constructor
    · intro hwrite
      cases hwrite
      exact .Bytes value
    · intro hwritten
      cases hwritten
      rfl
  | None | Null | Bool _ | Float _ | String _ =>
    constructor
    · intro hwrite
      cases hwrite
      constructor
    · intro hwritten
      cases hwritten
      rfl

theorem keysOrdered_of_each {tree : CanonicalTree} (hordered : EachValue KeysOrdered tree) : KeysOrdered tree := by
  cases tree with
  | Array values => trivial
  | Object entries => exact (EachValue_Object_iff.mp hordered).1
  | _ => trivial

theorem written_of_ok {tree : CanonicalTree} (hordered : EachValue KeysOrdered tree)
    {json : serde_json.Value CanonicalFloat} (hjson : canonical_to_json platform tree = .ok json) :
    Written platform tree json :=
  (canonical_to_json_eq_ok_iff (keysOrdered_of_each hordered)).mp hjson

/-! ### Values outside the keys of record ids -/

mutual

/-- A value and the values nested in its arrays and objects. -/
def outer_parts : CanonicalTree → List CanonicalTree
  | .Array values => .Array values :: outer_list values
  | .Object entries => .Object entries :: outer_entries entries
  | tree => [tree]

def outer_list : List CanonicalTree → List CanonicalTree
  | [] => []
  | value :: values => outer_parts value ++ outer_list values

def outer_entries : List (String × CanonicalTree) → List CanonicalTree
  | [] => []
  | (_, value) :: entries => outer_parts value ++ outer_entries entries

end

mutual

/-- How many arrays and objects surround the innermost value. -/
def nesting : CanonicalTree → Nat
  | .Array values => nesting_list values
  | .Object entries => nesting_entries entries
  | _ => 0

def nesting_list : List CanonicalTree → Nat
  | [] => 0
  | value :: values => max (nesting value + 1) (nesting_list values)

def nesting_entries : List (String × CanonicalTree) → Nat
  | [] => 0
  | (_, value) :: entries => max (nesting value + 1) (nesting_entries entries)

end

theorem outer_list_eq (values : List CanonicalTree) : outer_list values = values.flatMap outer_parts := by
  induction values with
  | nil => rfl
  | cons value values ih => rw [outer_list, ih, List.flatMap_cons]

theorem outer_entries_eq (entries : List (String × CanonicalTree)) :
    outer_entries entries = entries.flatMap fun entry => outer_parts entry.2 := by
  induction entries with
  | nil => rfl
  | cons entry entries ih => rw [outer_entries, ih, List.flatMap_cons]

theorem nesting_list_le_iff {values : List CanonicalTree} {bound : Nat} :
    nesting_list values ≤ bound ↔ ∀ value ∈ values, nesting value + 1 ≤ bound := by
  induction values with
  | nil => simp [nesting_list]
  | cons value values ih => rw [nesting_list, Nat.max_le, ih, List.forall_mem_cons]

theorem nesting_entries_le_iff {entries : List (String × CanonicalTree)} {bound : Nat} :
    nesting_entries entries ≤ bound ↔ ∀ entry ∈ entries, nesting entry.2 + 1 ≤ bound := by
  induction entries with
  | nil => simp [nesting_entries]
  | cons entry entries ih => rw [nesting_entries, Nat.max_le, ih, List.forall_mem_cons]

/-- What the code asks of one value: no key of a tag, and a record id that is read back as itself. -/
def Expressible (platform : wire.Platform T.recorded) : CanonicalTree → Prop
  | .Object entries => wire.TAG ∉ entries.map Prod.fst
  | .RecordId table key => ∃ record_id, canonical_record_key key = .ok record_id ∧
      canonical_json platform (wire.tagged (T := T.recorded) "record"
        (some (platform.record_to_sql ⟨table, record_id⟩))) = .ok (.RecordId table key)
  | _ => True

theorem exists_written_list {values : List CanonicalTree}
    (hvalues : ∀ value ∈ values, ∃ json, canonical_to_json platform value = .ok json) :
    ∃ jsons, List.Forall₂ (fun value json => canonical_to_json platform value = .ok json) values jsons := by
  induction values with
  | nil => exact ⟨[], .nil⟩
  | cons value values ih =>
    obtain ⟨⟨json, hjson⟩, hrest⟩ := List.forall_mem_cons.mp hvalues
    obtain ⟨jsons, hjsons⟩ := ih hrest
    exact ⟨json :: jsons, .cons hjson hjsons⟩

theorem exists_written_entries {entries : List (String × CanonicalTree)}
    (hentries : ∀ entry ∈ entries, ∃ json, canonical_to_json platform entry.2 = .ok json) :
    ∃ jsons : List (String × serde_json.Value CanonicalFloat), List.Forall₂ (fun entry json => entry.1 = json.1 ∧ canonical_to_json platform entry.2 = .ok json.2)
      entries jsons := by
  induction entries with
  | nil => exact ⟨[], .nil⟩
  | cons entry entries ih =>
    obtain ⟨⟨json, hjson⟩, hrest⟩ := List.forall_mem_cons.mp hentries
    obtain ⟨jsons, hjsons⟩ := ih hrest
    exact ⟨(entry.1, json) :: jsons, .cons ⟨rfl, hjson⟩ hjsons⟩

/-- The translation succeeds exactly when every value outside the keys of record ids can be expressed. -/
theorem exists_canonical_to_json_iff {tree : CanonicalTree} (hordered : EachValue KeysOrdered tree) :
    (∃ json, canonical_to_json platform tree = .ok json) ↔ ∀ part ∈ outer_parts tree, Expressible platform part := by
  induction tree with
  | Array values ih =>
    obtain ⟨hself, hordereds⟩ := EachValue_Array_iff.mp hordered
    rw [outer_parts, outer_list_eq, List.forall_mem_cons, List.forall_mem_flatMap]
    have hvalues : (∀ value ∈ values, ∃ json, canonical_to_json platform value = .ok json) ↔
        ∀ value ∈ values, ∀ part ∈ outer_parts value, Expressible platform part :=
      forall₂_congr fun value hvalue => ih value hvalue (hordereds value hvalue)
    rw [← hvalues]
    constructor
    · rintro ⟨json, hjson⟩
      cases (canonical_to_json_eq_ok_iff hself).mp hjson with
      | Array hwritten =>
        refine ⟨trivial, fun value hvalue => ?_⟩
        obtain ⟨json, _, hjson⟩ := hwritten.exists_of_mem hvalue
        exact ⟨json, hjson⟩
    · rintro ⟨_, hall⟩
      obtain ⟨jsons, hwritten⟩ := exists_written_list hall
      exact ⟨_, (canonical_to_json_eq_ok_iff hself).mpr (.Array hwritten)⟩
  | Object entries ih =>
    obtain ⟨hself, hordereds⟩ := EachValue_Object_iff.mp hordered
    rw [outer_parts, outer_entries_eq, List.forall_mem_cons, List.forall_mem_flatMap]
    have hentries : (∀ entry ∈ entries, ∃ json, canonical_to_json platform entry.2 = .ok json) ↔
        ∀ entry ∈ entries, ∀ part ∈ outer_parts entry.2, Expressible platform part :=
      forall₂_congr fun entry hentry => ih entry hentry (hordereds entry hentry)
    rw [← hentries]
    constructor
    · rintro ⟨json, hjson⟩
      cases (canonical_to_json_eq_ok_iff hself).mp hjson with
      | Object htag hwritten =>
        refine ⟨htag, fun entry hentry => ?_⟩
        obtain ⟨json, _, _, hjson⟩ := hwritten.exists_of_mem hentry
        exact ⟨json.2, hjson⟩
    · rintro ⟨htag, hall⟩
      obtain ⟨jsons, hwritten⟩ := exists_written_entries hall
      exact ⟨_, (canonical_to_json_eq_ok_iff hself).mpr (.Object htag hwritten)⟩
  | RecordId table key _ =>
    have hparts : outer_parts (.RecordId table key) = [.RecordId table key] := rfl
    rw [hparts, List.forall_mem_singleton]
    simp only [canonical_to_json, record_to_json_eq_ok_iff]
    constructor
    · rintro ⟨json, hwritten⟩
      cases hwritten with
      | RecordId record_id hkey hread => exact ⟨record_id, hkey, hread⟩
    · rintro ⟨record_id, hkey, hread⟩
      exact ⟨_, .RecordId record_id hkey hread⟩
  | None | Null | Bool _ | Int _ | Float _ | String _ | Bytes _ =>
    exact iff_of_true ⟨_, rfl⟩ (by simp [outer_parts, Expressible])

/-! ### Reading back -/

/-- What is read of a JSON value at a depth. -/
def ReadAt (platform : wire.Platform T.recorded) (depth : Nat) (json : serde_json.Value CanonicalFloat)
    (tree : CanonicalTree) : Prop :=
  ∃ value, wire.from_wire_value_at_depth platform depth json = .ok value ∧ from_surreal value.opened = some tree

theorem canonical_json_eq_ok_iff {json : serde_json.Value CanonicalFloat} {tree : CanonicalTree} :
    canonical_json platform json = .ok tree ↔ ReadAt platform 0 json tree := by
  unfold canonical_json wire.from_wire_value ReadAt
  rw [bind_eq_ok_iff]
  simp only [map_err_eq_ok_iff, okOr_eq_ok_iff]

theorem depth_of_read {depth : Nat} {json : serde_json.Value CanonicalFloat} {tree : CanonicalTree}
    (hread : ReadAt platform depth json tree) : depth ≤ wire.MAX_WIRE_DEPTH := by
  by_contra hdeep
  obtain ⟨value, hvalue, _⟩ := hread
  rw [wire.from_wire_value_at_depth.eq_def, if_pos (by omega)] at hvalue
  cases hvalue

/-- A value without arrays and objects is read wherever there is room. -/
theorem readAt_leaf_iff (value : Value T.recorded) {depth : Nat} {json : serde_json.Value CanonicalFloat}
    {tree : CanonicalTree} (hleaf : nesting tree = 0)
    (hvalue : ∀ depth, ¬ depth > wire.MAX_WIRE_DEPTH → wire.from_wire_value_at_depth platform depth json = .ok value)
    (htree : from_surreal value.opened = some tree) :
    ReadAt platform depth json tree ↔ depth + nesting tree ≤ wire.MAX_WIRE_DEPTH := by
  rw [hleaf]
  refine ⟨depth_of_read, fun hroom => ⟨value, hvalue depth (by omega), htree⟩⟩

theorem readAt_list_iff {depth : Nat} {jsons : List (serde_json.Value CanonicalFloat)} {trees : List CanonicalTree} :
    (∃ values, wire.from_wire_list platform depth jsons = .ok values ∧
      from_surreal_list (opened_list values) = some trees) ↔
      List.Forall₂ (ReadAt platform depth) jsons trees := by
  induction jsons generalizing trees with
  | nil =>
    rw [List.forall₂_nil_left_iff]
    simp [wire.from_wire_list, opened_list, from_surreal_list, eq_comm]
  | cons json jsons ih =>
    rw [List.forall₂_cons_left_iff, wire.from_wire_list]
    constructor
    · rintro ⟨values, hvalues, htrees⟩
      obtain ⟨value, hvalue, hvalues⟩ := bind_eq_ok_iff.mp hvalues
      obtain ⟨rest, hrest, heq⟩ := bind_eq_ok_iff.mp hvalues
      cases heq
      simp only [opened_list, from_surreal_list, Option.bind_eq_bind, Option.bind_eq_some_iff, Option.pure_def,
        Option.some.injEq] at htrees
      obtain ⟨tree, htree, others, hothers, rfl⟩ := htrees
      exact ⟨tree, others, ⟨value, hvalue, htree⟩, ih.mp ⟨rest, hrest, hothers⟩, rfl⟩
    · rintro ⟨tree, others, ⟨value, hvalue, htree⟩, hothers, rfl⟩
      obtain ⟨rest, hrest, hothers⟩ := ih.mpr hothers
      refine ⟨value :: rest, bind_eq_ok_iff.mpr ⟨value, hvalue, bind_eq_ok_iff.mpr ⟨rest, hrest, rfl⟩⟩, ?_⟩
      simp [opened_list, from_surreal_list, htree, hothers]

theorem readAt_entries_iff {depth : Nat} {jsons : List (String × serde_json.Value CanonicalFloat)}
    {trees : List (String × CanonicalTree)} :
    (∃ entries, wire.from_wire_entries platform depth jsons = .ok entries ∧
      from_surreal_entries (opened_entries entries) = some trees) ↔
      List.Forall₂ (fun json tree => json.1 = tree.1 ∧ ReadAt platform depth json.2 tree.2) jsons trees := by
  induction jsons generalizing trees with
  | nil =>
    rw [List.forall₂_nil_left_iff]
    simp [wire.from_wire_entries, opened_entries, from_surreal_entries, eq_comm]
  | cons json jsons ih =>
    obtain ⟨key, json⟩ := json
    rw [List.forall₂_cons_left_iff, wire.from_wire_entries]
    constructor
    · rintro ⟨entries, hentries, htrees⟩
      obtain ⟨value, hvalue, hentries⟩ := bind_eq_ok_iff.mp hentries
      obtain ⟨rest, hrest, heq⟩ := bind_eq_ok_iff.mp hentries
      cases heq
      simp only [opened_entries, from_surreal_entries, Option.bind_eq_bind, Option.bind_eq_some_iff, Option.pure_def,
        Option.some.injEq] at htrees
      obtain ⟨tree, htree, others, hothers, rfl⟩ := htrees
      exact ⟨(key, tree), others, ⟨rfl, value, hvalue, htree⟩, ih.mp ⟨rest, hrest, hothers⟩, rfl⟩
    · rintro ⟨⟨key', tree⟩, others, ⟨hkey, value, hvalue, htree⟩, hothers, rfl⟩
      dsimp only at hkey
      subst hkey
      obtain ⟨rest, hrest, hothers⟩ := ih.mpr hothers
      refine ⟨(key, value) :: rest, bind_eq_ok_iff.mpr ⟨value, hvalue, bind_eq_ok_iff.mpr ⟨rest, hrest, rfl⟩⟩, ?_⟩
      simp only at htree
      simp [opened_entries, from_surreal_entries, htree, hothers]

theorem readAt_array_iff {depth : Nat} {jsons : List (serde_json.Value CanonicalFloat)} {trees : List CanonicalTree} :
    ReadAt platform depth (.Array jsons) (.Array trees) ↔
      depth ≤ wire.MAX_WIRE_DEPTH ∧ List.Forall₂ (ReadAt platform (depth + 1)) jsons trees := by
  rw [← readAt_list_iff]
  constructor
  · intro hread
    refine ⟨depth_of_read hread, ?_⟩
    obtain ⟨value, hvalue, htree⟩ := hread
    rw [wire.from_wire_value_at_depth] at hvalue
    split at hvalue
    · cases hvalue
    · obtain ⟨values, hvalues, heq⟩ := bind_eq_ok_iff.mp hvalue
      cases heq
      simp only [Value.opened, from_surreal, Option.bind_eq_bind, Option.bind_eq_some_iff, Option.pure_def,
        Option.some.injEq, CanonicalTree.Array.injEq, exists_eq_right] at htree
      exact ⟨values, hvalues, htree⟩
  · rintro ⟨hroom, values, hvalues, htrees⟩
    refine ⟨.Array values, ?_, ?_⟩
    · rw [wire.from_wire_value_at_depth, if_neg (by omega), hvalues]
      rfl
    · simp [Value.opened, from_surreal, htrees]

theorem readAt_object_iff {depth : Nat} {jsons : List (String × serde_json.Value CanonicalFloat)}
    {trees : List (String × CanonicalTree)} (htag : wire.TAG ∉ jsons.map Prod.fst) :
    ReadAt platform depth (.Object jsons) (.Object trees) ↔ depth ≤ wire.MAX_WIRE_DEPTH ∧
      List.Forall₂ (fun json tree => json.1 = tree.1 ∧ ReadAt platform (depth + 1) json.2 tree.2) jsons trees := by
  have hlookup := Entries.lookup_eq_none_iff_not_mem.mpr htag
  rw [← readAt_entries_iff]
  constructor
  · intro hread
    refine ⟨depth_of_read hread, ?_⟩
    obtain ⟨value, hvalue, htree⟩ := hread
    rw [wire.from_wire_value_at_depth] at hvalue
    split at hvalue
    · cases hvalue
    · rw [hlookup] at hvalue
      obtain ⟨entries, hentries, heq⟩ := bind_eq_ok_iff.mp hvalue
      cases heq
      simp only [Value.opened, from_surreal, Option.bind_eq_bind, Option.bind_eq_some_iff, Option.pure_def,
        Option.some.injEq, CanonicalTree.Object.injEq, exists_eq_right] at htree
      exact ⟨entries, hentries, htree⟩
  · rintro ⟨hroom, entries, hentries, htrees⟩
    refine ⟨.Object entries, ?_, ?_⟩
    · rw [wire.from_wire_value_at_depth, if_neg (by omega), hlookup, hentries]
      rfl
    · simp [Value.opened, from_surreal, htrees]

/-- Element by element, what holds of the written pairs. -/
theorem forall₂_iff_forall {α β : Type} {written : α → β → Prop} {read : β → α → Prop} {P : α → Prop} {as : List α}
    {bs : List β} (hwritten : List.Forall₂ written as bs) (hiff : ∀ a ∈ as, ∀ b, written a b → (read b a ↔ P a)) :
    List.Forall₂ read bs as ↔ ∀ a ∈ as, P a := by
  induction hwritten with
  | nil => simp
  | cons hab _ ih =>
    obtain ⟨ha, has⟩ := List.forall_mem_cons.mp hiff
    rw [List.forall₂_cons, List.forall_mem_cons, ih has, ha _ hab]

/-- What was written of a value is read as the value wherever the depth leaves room for it. -/
theorem readAt_written_iff (hbase64 : ∀ bytes, platform.base64.decode (platform.base64.encode bytes) = some bytes)
    {tree : CanonicalTree} (hordered : EachValue KeysOrdered tree) {json : serde_json.Value CanonicalFloat}
    (hjson : canonical_to_json platform tree = .ok json) {depth : Nat} :
    ReadAt platform depth json tree ↔ depth + nesting tree ≤ wire.MAX_WIRE_DEPTH := by
  induction tree generalizing depth json with
  | Array values ih =>
    obtain ⟨_, hordereds⟩ := EachValue_Array_iff.mp hordered
    cases written_of_ok hordered hjson with
    | Array hwritten =>
      have hvalues := forall₂_iff_forall hwritten fun value hvalue json hjson =>
        @ih value hvalue (hordereds value hvalue) json hjson (depth + 1)
      have hbound := @nesting_list_le_iff values (wire.MAX_WIRE_DEPTH - depth)
      rw [readAt_array_iff, hvalues, nesting]
      constructor
      · rintro ⟨hroom, hall⟩
        have hnested := hbound.mpr fun value hvalue => by have := hall value hvalue; omega
        omega
      · intro hroom
        refine ⟨by omega, fun value hvalue => ?_⟩
        have hnested := hbound.mp (by omega) value hvalue
        omega
  | Object entries ih =>
    obtain ⟨_, hordereds⟩ := EachValue_Object_iff.mp hordered
    cases written_of_ok hordered hjson with
    | Object htag hwritten =>
      have hentries := @forall₂_iff_forall _ _ _
        (fun json entry => json.1 = entry.1 ∧ ReadAt platform (depth + 1) json.2 entry.2)
        (fun entry => depth + 1 + nesting entry.2 ≤ wire.MAX_WIRE_DEPTH) _ _ hwritten fun entry hentry json hjson =>
          (and_iff_right hjson.1.symm).trans (ih entry hentry (hordereds entry hentry) hjson.2)
      have hbound := @nesting_entries_le_iff entries (wire.MAX_WIRE_DEPTH - depth)
      rw [readAt_object_iff (by rwa [keys_of_written hwritten]), hentries, nesting]
      constructor
      · rintro ⟨hroom, hall⟩
        have hnested := hbound.mpr fun entry hentry => by have := hall entry hentry; omega
        omega
      · intro hroom
        refine ⟨by omega, fun entry hentry => ?_⟩
        have hnested := hbound.mp (by omega) entry hentry
        omega
  | RecordId table key _ =>
    rw [canonical_to_json, record_to_json_eq_ok_iff] at hjson
    cases hjson with
    | RecordId record_id hkey hread =>
      obtain ⟨value, hvalue, htree⟩ := canonical_json_eq_ok_iff.mp hread
      refine readAt_leaf_iff value rfl (fun depth hroom => ?_) htree
      -- a tag is read the same at every depth
      rw [wire.from_wire_tagged (by decide)] at hvalue
      rw [wire.from_wire_tagged hroom, hvalue]
  | Int value =>
    cases written_of_ok hordered hjson
    refine readAt_leaf_iff (.Number (.Int value)) rfl (fun depth hroom => ?_) rfl
    rw [wire.from_wire_tagged hroom]
    simp [wire.decode_tagged_value, wire.required_string_tagged (T := T.recorded), wire.parsed, okOr,
      Int64.from_str_to_string, pure, Except.pure]
  | Bytes value =>
    cases written_of_ok hordered hjson
    refine readAt_leaf_iff (.Bytes value) rfl (fun depth hroom => ?_) rfl
    simp [wire.from_wire_value_at_depth, hroom, wire.TAG, List.lookup_cons, wire.decode_tagged_value,
      wire.required_string, wire.parsed, okOr, hbase64, pure, Except.pure]
  | None =>
    cases written_of_ok hordered hjson
    refine readAt_leaf_iff .None rfl (fun depth hroom => ?_) rfl
    simp [wire.tagged, wire.from_wire_value_at_depth, hroom, wire.TAG, wire.decode_tagged_value]
  | Null =>
    cases hjson
    exact readAt_leaf_iff .Null rfl (fun depth hroom => by simp [wire.from_wire_value_at_depth, hroom]) rfl
  | Bool value =>
    cases hjson
    exact readAt_leaf_iff (.Bool value) rfl
      (fun depth hroom => by simp [wire.from_wire_value_at_depth, hroom]) rfl
  | Float value =>
    cases hjson
    exact readAt_leaf_iff (.Number (.Float (.finite value))) rfl
      (fun depth hroom => by simp [wire.from_wire_value_at_depth, hroom, wire.from_wire_number]) rfl
  | String value =>
    cases hjson
    exact readAt_leaf_iff (.String value) rfl
      (fun depth hroom => by simp [wire.from_wire_value_at_depth, hroom]) rfl

theorem eq_of_read {depth : Nat} {json : serde_json.Value CanonicalFloat} {a b : CanonicalTree}
    (ha : ReadAt platform depth json a) (hb : ReadAt platform depth json b) : a = b := by
  obtain ⟨value, hvalue, ha⟩ := ha
  obtain ⟨other, hother, hb⟩ := hb
  rw [hvalue] at hother
  cases hother
  rw [ha] at hb
  exact Option.some.inj hb

/-- A value that is no array and no object. -/
def Scalar : CanonicalTree → Prop
  | .Array _ | .Object _ => False
  | _ => True

/-- What is written of such a value is no array, and an object only with a tag. -/
theorem Written.of_scalar {tree : CanonicalTree} {json : serde_json.Value CanonicalFloat}
    (hwritten : Written platform tree json) (hscalar : Scalar tree) :
    (∀ jsons, json ≠ .Array jsons) ∧ ∀ jsons, json = .Object jsons → wire.TAG ∈ jsons.map Prod.fst := by
  have htagged : ∀ kind text, wire.tagged (T := T.recorded) kind (some text) =
      .Object [(wire.TAG, .String kind), ("value", .String text)] := fun _ _ => rfl
  cases hwritten with
  | None =>
    refine ⟨fun jsons heq => (by cases heq), fun jsons heq => ?_⟩
    cases heq
    simp
  | Int _ | RecordId _ _ _ =>
    rw [htagged]
    refine ⟨fun jsons heq => (by cases heq), fun jsons heq => ?_⟩
    cases heq
    simp
  | Bytes _ =>
    refine ⟨fun jsons heq => (by cases heq), fun jsons heq => ?_⟩
    cases heq
    simp
  | Null | Bool _ | Float _ | String _ => exact ⟨fun jsons heq => (by cases heq), fun jsons heq => (by cases heq)⟩
  | Array _ | Object _ _ => exact hscalar.elim

theorem scalar_or (tree : CanonicalTree) :
    Scalar tree ∨ (∃ values, tree = .Array values) ∨ ∃ entries, tree = .Object entries := by
  cases tree with
  | Array values => exact .inr (.inl ⟨values, rfl⟩)
  | Object entries => exact .inr (.inr ⟨entries, rfl⟩)
  | _ => exact .inl trivial

theorem nesting_of_scalar {tree : CanonicalTree} (hscalar : Scalar tree) : nesting tree = 0 := by
  cases tree with
  | Array _ | Object _ => exact hscalar.elim
  | _ => rfl

/-- Nothing else is written as a scalar is: two scalars are read back at the outermost depth. -/
theorem eq_of_written_scalar (hbase64 : ∀ bytes, platform.base64.decode (platform.base64.encode bytes) = some bytes)
    {a b : CanonicalTree} (ha : EachValue KeysOrdered a) (hb : EachValue KeysOrdered b) (hscalar : Scalar a)
    {json : serde_json.Value CanonicalFloat} (hjson : canonical_to_json platform a = .ok json)
    (hsame : canonical_to_json platform b = .ok json) : a = b := by
  have hwritten := written_of_ok hb hsame
  obtain ⟨hnoArray, htag⟩ := (written_of_ok ha hjson).of_scalar hscalar
  rcases scalar_or b with hother | ⟨values, rfl⟩ | ⟨entries, rfl⟩
  · have hread := (@readAt_written_iff _ _ hbase64 _ ha _ hjson 0).mpr (by rw [nesting_of_scalar hscalar]; decide)
    have hread' := (@readAt_written_iff _ _ hbase64 _ hb _ hsame 0).mpr (by rw [nesting_of_scalar hother]; decide)
    exact eq_of_read hread hread'
  · cases hwritten with
    | Array _ => exact absurd rfl (hnoArray _)
  · cases hwritten with
    | Object hfree hentries =>
      have hmem := htag _ rfl
      rw [keys_of_written hentries] at hmem
      exact absurd hmem hfree

theorem eq_of_forall₂ {α β : Type} {R : α → β → Prop} {as bs : List α} {cs : List β} (has : List.Forall₂ R as cs)
    (hbs : List.Forall₂ R bs cs) (hunique : ∀ a ∈ as, ∀ b ∈ bs, ∀ c, R a c → R b c → a = b) : as = bs := by
  induction has generalizing bs with
  | nil =>
    cases hbs
    rfl
  | cons hac _ ih =>
    cases hbs with
    | cons hbc hrest =>
      have hhead := hunique _ List.mem_cons_self _ List.mem_cons_self _ hac hbc
      have htail := ih hrest fun a ha b hb c => hunique a (List.mem_cons_of_mem _ ha) b (List.mem_cons_of_mem _ hb) c
      rw [hhead, htail]

/-- Different values are written differently, at any depth. -/
theorem eq_of_written (hbase64 : ∀ bytes, platform.base64.decode (platform.base64.encode bytes) = some bytes)
    {a b : CanonicalTree} (ha : EachValue KeysOrdered a) (hb : EachValue KeysOrdered b)
    {json : serde_json.Value CanonicalFloat} (hjson : canonical_to_json platform a = .ok json)
    (hsame : canonical_to_json platform b = .ok json) : a = b := by
  induction a generalizing b json with
  | Array values ih =>
    rcases scalar_or b with hscalar | ⟨others, rfl⟩ | ⟨entries, rfl⟩
    · exact (eq_of_written_scalar hbase64 hb ha hscalar hsame hjson).symm
    · obtain ⟨_, havalues⟩ := EachValue_Array_iff.mp ha
      obtain ⟨_, hbvalues⟩ := EachValue_Array_iff.mp hb
      cases written_of_ok ha hjson with
      | Array hvalues =>
        cases written_of_ok hb hsame with
        | Array hothers =>
          rw [eq_of_forall₂ hvalues hothers fun value hvalue other hother json hjson hsame =>
            ih value hvalue (havalues value hvalue) (hbvalues other hother) hjson hsame]
    · cases written_of_ok ha hjson
      cases written_of_ok hb hsame
  | Object entries ih =>
    rcases scalar_or b with hscalar | ⟨values, rfl⟩ | ⟨others, rfl⟩
    · exact (eq_of_written_scalar hbase64 hb ha hscalar hsame hjson).symm
    · cases written_of_ok hb hsame
      cases written_of_ok ha hjson
    · obtain ⟨_, haentries⟩ := EachValue_Object_iff.mp ha
      obtain ⟨_, hbentries⟩ := EachValue_Object_iff.mp hb
      cases written_of_ok ha hjson with
      | Object _ hentries =>
        cases written_of_ok hb hsame with
        | Object _ hothers =>
          rw [eq_of_forall₂ hentries hothers fun entry hentry other hother json hjson hsame =>
            Prod.ext (hjson.1.trans hsame.1.symm)
              (ih entry hentry (haentries entry hentry) (hbentries other hother) hjson.2 hsame.2)]
  | _ => exact eq_of_written_scalar hbase64 ha hb trivial hjson hsame

/-- The bridge: what is written of a value is read back exactly when at most 128 arrays and objects surround its
innermost value, it is written exactly when every value in it can be expressed, and different values are written
differently. -/
theorem canonical_bridge (hbase64 : ∀ bytes, platform.base64.decode (platform.base64.encode bytes) = some bytes)
    (value : CanonicalValue) :
    (∀ json, canonical_to_json platform value.tree = .ok json →
      (canonical_json platform json = .ok value.tree ↔ nesting value.tree ≤ wire.MAX_WIRE_DEPTH)) ∧
    ((∃ json, canonical_to_json platform value.tree = .ok json) ↔
      ∀ part ∈ outer_parts value.tree, Expressible platform part) ∧
    ∀ (other : CanonicalValue) json, canonical_to_json platform value.tree = .ok json →
      canonical_to_json platform other.tree = .ok json → value.tree = other.tree := by
  refine ⟨fun json hjson => ?_, exists_canonical_to_json_iff value.ordered, fun other json hjson hsame => ?_⟩
  · rw [canonical_json_eq_ok_iff, readAt_written_iff hbase64 value.ordered hjson, Nat.zero_add]
  · exact eq_of_written hbase64 value.ordered other.ordered hjson hsame

section Sample

/-- Record ids whose key is a text, as `table:key`. -/
def text_record_to_sql (record_id : SurrealRecordId wire.text_types) : String :=
  match record_id.key with
  | .String key => record_id.table ++ ":" ++ key
  | _ => ""

def text_parse_simple (text : String) : Option (SurrealRecordId wire.text_types) :=
  match text.toList.span (· ≠ ':') with
  | (table, ':' :: key) => some ⟨String.ofList table, .String (String.ofList key)⟩
  | _ => none

theorem finite_zero : Cbor.FiniteBits 0 := by decide

theorem zero_normalized : (0 : UInt64) ≠ NEGATIVE_ZERO := by decide

def record_platform : wire.Platform wire.text_types.recorded where
  decimal_to_string := id
  decimal_from_str := some
  uuid_to_string := id
  uuid_from_str := some
  duration_to_sql := id
  datetime_to_sql := id
  geometry_to_sql := id
  file_to_sql := id
  range_to_sql := id
  regex_to_sql := id
  record_to_sql := text_record_to_sql
  parse_simple := text_parse_simple
  set_from := id
  base64 := wire.text_platform.base64
  float_literal _ := none
  from_u64 _ := ⟨0, finite_zero, zero_normalized⟩

def author_tree : CanonicalTree :=
  .Object [("author", .RecordId "person" (.String "ada")), ("editor", .None), ("size", .Int 7)]

def author_value : CanonicalValue where
  tree := author_tree
  ordered := EachValue_Object_iff.mpr ⟨show Entries.Ordered _ by decide, by simp [EachValue, KeysOrdered]⟩

theorem canonical_bridge_author : ∃ json, canonical_to_json record_platform author_tree = .ok json ∧
    canonical_json record_platform json = .ok author_tree := by
  obtain ⟨hread, hwritten, _⟩ := @canonical_bridge _ record_platform wire.text_inverse.base64 author_value
  obtain ⟨json, hjson⟩ := hwritten.mpr (by
    intro part hpart
    simp [author_value, author_tree, outer_parts, outer_entries] at hpart
    rcases hpart with rfl | rfl | rfl | rfl
    · simp [Expressible, wire.TAG]
    · exact ⟨.String "ada", rfl, by decide +kernel⟩
    · trivial
    · trivial)
  exact ⟨json, hjson, (hread json hjson).mpr (by decide)⟩

/-- Arrays around `null`. -/
def nested_arrays : Nat → CanonicalTree
  | 0 => .Null
  | n + 1 => .Array [nested_arrays n]

theorem nesting_nested_arrays (n : Nat) : nesting (nested_arrays n) = n := by
  induction n with
  | zero => rfl
  | succ n ih => simp [nested_arrays, nesting, nesting_list, ih]

theorem ordered_nested_arrays (n : Nat) : EachValue KeysOrdered (nested_arrays n) := by
  induction n with
  | zero => trivial
  | succ n ih => exact EachValue_Array_iff.mpr ⟨trivial, by simpa using ih⟩

theorem exists_nested_arrays_json (n : Nat) :
    ∃ json, canonical_to_json record_platform (nested_arrays n) = .ok json := by
  induction n with
  | zero => exact ⟨.Null, rfl⟩
  | succ n ih =>
    obtain ⟨json, hjson⟩ := ih
    exact ⟨.Array [json], by simp [nested_arrays, canonical_to_json, canonical_to_json_list, hjson, pure, Except.pure]⟩

/-- One array more than the wire allows is written, and not read back. -/
theorem deep_arrays_not_read : ∃ json, canonical_to_json record_platform (nested_arrays 129) = .ok json ∧
    canonical_json record_platform json ≠ .ok (nested_arrays 129) := by
  obtain ⟨json, hjson⟩ := exists_nested_arrays_json 129
  refine ⟨json, hjson, fun hread => ?_⟩
  rw [canonical_json_eq_ok_iff,
    readAt_written_iff wire.text_inverse.base64 (ordered_nested_arrays 129) hjson, nesting_nested_arrays] at hread
  exact absurd hread (by decide)

end Sample

end surrealdb_rn_core.sync_http_codec
