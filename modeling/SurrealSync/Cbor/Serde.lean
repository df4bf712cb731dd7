import SurrealSync.Cbor.Value
import Mathlib.Data.List.Perm.Basic

/-! The items that serde's derives write for structs and tagged enums, and the readers
of these items. A reader takes the entries of a map in any order and skips unknown
texts. Other forms that serde reads too, such as structs as arrays, are not what the
derives write and are refused here. -/

namespace Serde

/-- The map of a struct. -/
def struct (fields : List (String × Cbor)) : Cbor := .Map (fields.map fun field => (.Text field.1, field.2))

def text_entries : List (Cbor × Cbor) → Option (List (String × Cbor))
  | [] => some []
  | (.Text key, value) :: entries => (text_entries entries).map ((key, value) :: ·)
  | _ :: _ => none

/-- The known fields of a struct's map, none of them twice. -/
def fields (names : List String) : Cbor → Option (List (String × Cbor))
  | .Map entries => do
    let entries ← text_entries entries
    let known := entries.filter fun entry => entry.1 ∈ names
    if (known.map Prod.fst).Nodup then some known else none
  | _ => none

def required {α : Type} (fields : List (String × Cbor)) (name : String) (read : Cbor → Option α) : Option α :=
  (fields.lookup name).bind read

def text : Cbor → Option String
  | .Text value => some value
  | _ => none

def bool : Cbor → Option Bool
  | .Bool value => some value
  | _ => none

def u64 : Cbor → Option UInt64
  | .Integer value => value.toUInt64?
  | _ => none

def u16 (item : Cbor) : Option UInt16 := do
  let value ← u64 item
  if value.toNat < UInt16.size then some (UInt16.ofNat value.toNat) else none

def i64 : Cbor → Option Int64
  | .Integer value => value.toInt64?
  | _ => none

def option {α : Type} (read : Cbor → Option α) : Cbor → Option (Option α)
  | .Null => some none
  | item => (read item).map some

def seq {α : Type} (read : Cbor → Option α) : Cbor → Option (List α)
  | .Array values => values.mapM read
  | _ => none

/-- The entries of a map with text keys. -/
def map {α : Type} (read : Cbor → Option α) : Cbor → Option (List (String × α))
  | .Map entries => do
    let entries ← text_entries entries
    entries.mapM fun entry => (read entry.2).map fun value => (entry.1, value)
  | _ => none

mutual

/-- Whether serde's generic `Content` holds the item: every kind but tagged items, and
integers of at most 64 bits. -/
def buffered : Cbor → Bool
  | .Tag _ _ => false
  | .Integer value => value.toUInt64?.isSome || value.toInt64?.isSome
  | .Array values => buffered_list values
  | .Map entries => buffered_entries entries
  | .Bytes _ | .Float _ | .Text _ | .Bool _ | .Null => true

def buffered_list : List Cbor → Bool
  | [] => true
  | value :: values => buffered value && buffered_list values

def buffered_entries : List (Cbor × Cbor) → Bool
  | [] => true
  | (key, value) :: entries => buffered key && buffered value && buffered_entries entries

end

/-- An internally tagged enum: its tag, and the other entries, which the reader buffers
until it knows the tag. -/
def internally_tagged (tag : String) : Cbor → Option (String × Cbor)
  | .Map entries => do
    let entries ← text_entries entries
    let [(_, .Text kind)] := entries.filter fun entry => entry.1 = tag | none
    let rest := entries.filter fun entry => entry.1 ≠ tag
    if rest.all fun entry => buffered entry.2 then some (kind, struct rest) else none
  | _ => none

/-! ### Lemmas -/

theorem text_entries_map (fields : List (String × Cbor)) :
    text_entries (fields.map fun field => (.Text field.1, field.2)) = some fields := by
  induction fields with
  | nil => rfl
  | cons field fields ih => simp [text_entries, ih]

theorem lookup_eq_of_mem {α : Type} {entries : List (String × α)} (hnodup : (entries.map Prod.fst).Nodup)
    {name : String} {value : α} (hmem : (name, value) ∈ entries) : entries.lookup name = some value := by
  induction entries with
  | nil => simp at hmem
  | cons entry entries ih =>
    obtain ⟨key, other⟩ := entry
    rw [List.map_cons, List.nodup_cons] at hnodup
    rw [List.lookup_cons]
    rcases List.mem_cons.mp hmem with hsame | htail
    · cases hsame
      simp
    · have hne : name ≠ key := by
        rintro rfl
        exact hnodup.1 (List.mem_map.mpr ⟨_, htail, rfl⟩)
      rw [beq_eq_false_iff_ne.mpr hne]
      exact ih hnodup.2 htail

/-- The reader of a struct finds its own fields in any order of the entries. -/
theorem fields_of_perm {names : List String} {entries : List (String × Cbor)} (hnodup : names.Nodup)
    (hperm : (entries.map Prod.fst).Perm names) :
    fields names (struct entries) = some entries ∧
      ∀ name value, (name, value) ∈ entries → entries.lookup name = some value := by
  have hnodup' : (entries.map Prod.fst).Nodup := hperm.nodup_iff.mpr hnodup
  have hknown : entries.filter (fun entry => entry.1 ∈ names) = entries := by
    rw [List.filter_eq_self]
    intro entry hentry
    exact decide_eq_true (hperm.mem_iff.mp (List.mem_map_of_mem hentry))
  refine ⟨?_, fun name value hmem => lookup_eq_of_mem hnodup' hmem⟩
  rw [struct, fields, text_entries_map, Option.bind_eq_bind, Option.bind_some, hknown, if_pos hnodup']

theorem buffered_Array (values : List Cbor) : buffered (.Array values) = values.all buffered := by
  rw [buffered]
  induction values with
  | nil => rfl
  | cons value values ih => rw [buffered_list, ih, List.all_cons]

theorem buffered_Map (entries : List (Cbor × Cbor)) :
    buffered (.Map entries) = entries.all fun entry => buffered entry.1 && buffered entry.2 := by
  rw [buffered]
  induction entries with
  | nil => rfl
  | cons entry entries ih => rw [buffered_entries, ih, List.all_cons]

/-- The kinds of items that `Content` holds. -/
def Content : Cbor → Prop
  | .Tag _ _ => False
  | .Integer value => (value.toUInt64?.isSome || value.toInt64?.isSome) = true
  | .Bytes _ | .Float _ | .Text _ | .Bool _ | .Null | .Array _ | .Map _ => True

theorem buffered_iff (item : Cbor) : buffered item = true ↔ item.Every Content := by
  induction item with
  | Integer value => rfl
  | Bytes value => simp [buffered, Cbor.Every, Content]
  | Float bits => simp [buffered, Cbor.Every, Content]
  | Text value => simp [buffered, Cbor.Every, Content]
  | Bool value => simp [buffered, Cbor.Every, Content]
  | Null => simp [buffered, Cbor.Every, Content]
  | Tag tag value ih => simp [buffered, Cbor.Every, Content]
  | Array values ih =>
    rw [buffered_Array, List.all_eq_true, Cbor.Every_Array_iff, Content, true_and]
    exact forall₂_congr ih
  | Map entries ih =>
    rw [buffered_Map, List.all_eq_true, Cbor.Every_Map_iff, Content, true_and]
    apply forall₂_congr
    intro entry hentry
    rw [Bool.and_eq_true, (ih entry hentry).1, (ih entry hentry).2]

@[simp]
theorem buffered_struct (fields : List (String × Cbor)) :
    buffered (struct fields) = fields.all fun field => buffered field.2 := by
  rw [struct, buffered_Map, List.all_map]
  rfl

end Serde
