import SurrealSync.Native.Wire
import SurrealSync.Package.Base64

open Std Except

namespace serde_json

variable {F : Type}

/-- `Map::insert`: the entries stay in key order, and a later value replaces an earlier one. -/
def Map.insert (key : String) (value : Value F) : List (String × Value F) → List (String × Value F)
  | [] => [(key, value)]
  | entry :: entries =>
    match compare key entry.1 with
    | .lt => (key, value) :: entry :: entries
    | .eq => (key, value) :: entries
    | .gt => entry :: Map.insert key value entries

/-- `Map::from_iter`. -/
def Map.from_iter (entries : List (String × Value F)) : List (String × Value F) :=
  entries.foldl (fun map entry => Map.insert entry.1 entry.2 map) []

def Number.from_f64 : surrealdb.types.F64 F → Option (Number F)
  | .finite value => some (.Float value)
  | .inf | .neg_inf | .NaN => none

/-- The macro `json!`, for an object. -/
def json (entries : List (String × Value F)) : Value F := .Object (Map.from_iter entries)

theorem Map.insert_last {key : String} {value : Value F} {entries : List (String × Value F)}
    (hlast : ∀ entry ∈ entries, compare entry.1 key = .lt) : Map.insert key value entries = entries ++ [(key, value)] := by
  induction entries with
  | nil => rfl
  | cons entry entries ih =>
    obtain ⟨hentry, hentries⟩ := List.forall_mem_cons.mp hlast
    simp only [Map.insert, OrientedCmp.gt_of_lt hentry, ih hentries, List.cons_append]

theorem Map.foldl_insert {map entries : List (String × Value F)} (hordered : Entries.Ordered (map ++ entries)) :
    entries.foldl (fun map entry => Map.insert entry.1 entry.2 map) map = map ++ entries := by
  induction entries generalizing map with
  | nil => simp
  | cons entry entries ih =>
    have hlast : ∀ earlier ∈ map, compare earlier.1 entry.1 = .lt := by
      intro earlier hearlier
      exact (List.pairwise_append.mp hordered).2.2 earlier hearlier entry List.mem_cons_self
    rw [List.foldl_cons, Map.insert_last hlast, ih (by simpa using hordered)]
    simp

/-- Entries that come in key order stay as they are. -/
theorem Map.from_iter_eq {entries : List (String × Value F)} (hordered : Entries.Ordered entries) :
    Map.from_iter entries = entries :=
  Map.foldl_insert hordered

theorem json_pair {first second : String} (hless : compare first second = .lt) (value other : Value F) :
    json [(first, value), (second, other)] = .Object [(first, value), (second, other)] := by
  have hordered : Entries.Ordered [(first, value), (second, other)] := by simpa [Entries.Ordered] using hless
  rw [json, Map.from_iter_eq hordered]

end serde_json

namespace surrealdb_rn_core.wire

open surrealdb.types

variable {T : Types} (platform : Platform T)

/-! ### The tree encoder -/

mutual

/-- The tree that `encode_value_tree` prints. -/
def to_wire_value : Value T → serde_json.Value T.Finite
  | .None => serde_json.json [(TAG, .String "none")]
  | .Null => .Null
  | .Bool value => .Bool value
  | .Number (.Int value) => serde_json.json [(TAG, .String "int"), ("value", .String value.to_string)]
  | .Number (.Float (.finite value)) => ((serde_json.Number.from_f64 (.finite value)).map .Number).getD .Null
  | .Number (.Float value) =>
    serde_json.json [(TAG, .String "float"), ("value", .String ((f64.non_finite_to_string value).getD ""))]
  | .Number (.Decimal value) =>
    serde_json.json [(TAG, .String "decimal"), ("value", .String (platform.decimal_to_string value))]
  | .String value => .String value
  | .Bytes value => serde_json.json [(TAG, .String "bytes"), ("base64", .String (platform.base64.encode value))]
  | .Duration value => serde_json.json [(TAG, .String "duration"), ("value", .String (platform.duration_to_sql value))]
  | .Datetime value => serde_json.json [(TAG, .String "datetime"), ("value", .String (platform.datetime_to_sql value))]
  | .Uuid value => serde_json.json [(TAG, .String "uuid"), ("value", .String (platform.uuid_to_string value))]
  | .Geometry value => serde_json.json [(TAG, .String "geometry"), ("value", .String (platform.geometry_to_sql value))]
  | .Table value => serde_json.json [(TAG, .String "table"), ("value", .String value)]
  | .RecordId value => serde_json.json [(TAG, .String "record"), ("value", .String (platform.record_to_sql value))]
  | .File value => serde_json.json [(TAG, .String "file"), ("value", .String (platform.file_to_sql value))]
  | .Range value => serde_json.json [(TAG, .String "range"), ("value", .String (platform.range_to_sql value))]
  | .Regex value => serde_json.json [(TAG, .String "regex"), ("value", .String (platform.regex_to_sql value))]
  | .Array values => .Array (to_wire_list values)
  | .Object entries => .Object (serde_json.Map.from_iter (to_wire_entries entries))
  | .Set values => serde_json.json [(TAG, .String "set"), ("values", .Array (to_wire_list values))]

def to_wire_list : List (Value T) → List (serde_json.Value T.Finite)
  | [] => []
  | value :: values => to_wire_value value :: to_wire_list values

def to_wire_entries : List (String × Value T) → List (String × serde_json.Value T.Finite)
  | [] => []
  | (key, value) :: entries => (key, to_wire_value value) :: to_wire_entries entries

end

theorem to_wire_list_eq (values : List (Value T)) : to_wire_list platform values = values.map (to_wire_value platform) := by
  induction values with
  | nil => rfl
  | cons value values ih => rw [to_wire_list, ih, List.map_cons]

theorem to_wire_entries_eq (entries : List (String × Value T)) :
    to_wire_entries platform entries = entries.map fun entry => (entry.1, to_wire_value platform entry.2) := by
  induction entries with
  | nil => rfl
  | cons entry entries ih => rw [to_wire_entries, ih, List.map_cons]

theorem json_tagged (kind text : String) :
    serde_json.json [(TAG, .String kind), ("value", .String text)] = tagged (T := T) kind (some text) := by
  exact serde_json.json_pair (by decide) _ _

/-- Both encoders make the same of every value. -/
theorem to_wire_value_eq {value : Value T} (hformed : value.WellFormed platform.toLibrary) :
    to_wire_value platform value = encode_value platform value := by
  induction value with
  | Array values ih =>
    obtain ⟨-, hvalues⟩ := forall_parts_array.mp hformed
    rw [to_wire_value, encode_value, to_wire_list_eq, encode_list_eq]
    rw [List.map_congr_left fun value hvalue => ih value hvalue (hvalues value hvalue)]
  | Object entries ih =>
    obtain ⟨hordered, hentries⟩ := forall_parts_object.mp hformed
    have hsame : to_wire_entries platform entries = encode_entries platform entries := by
      rw [to_wire_entries_eq, encode_entries_eq]
      exact List.map_congr_left fun entry hentry => by rw [ih entry hentry (hentries entry hentry)]
    have hkeys : Entries.Ordered (encode_entries platform entries) := by
      rw [encode_entries_eq, Entries.Ordered, List.pairwise_map]
      exact hordered
    rw [to_wire_value, encode_value, hsame, serde_json.Map.from_iter_eq hkeys]
  | Set values ih =>
    obtain ⟨-, hvalues⟩ := forall_parts_set.mp hformed
    rw [to_wire_value, encode_value, to_wire_list_eq, encode_list_eq]
    rw [List.map_congr_left fun value hvalue => ih value hvalue (hvalues value hvalue)]
    exact serde_json.json_pair (by decide) _ _
  | Bytes value =>
    rw [to_wire_value, encode_value]
    exact serde_json.json_pair (by decide) _ _
  | Float value =>
    cases value with
    | finite value => rfl
    | inf | neg_inf | NaN => exact json_tagged _ _
  | None | Null | Bool _ | String _ => rfl
  | Int _ | Decimal _ | Duration _ | Datetime _ | Uuid _ | Geometry _ | Table _ | RecordId _ | File _ | Range _
    | Regex _ => exact json_tagged _ _

/-! ### The round trip -/

/-- What is relied on of the other libraries: what they print they read back, and a set is collected from the
elements it is given. -/
structure Inverse (platform : Platform T) (simple : T.RecordId → Prop) : Prop where
  decimal : ∀ value, platform.decimal_from_str (platform.decimal_to_string value) = some value
  uuid : ∀ value, platform.uuid_from_str (platform.uuid_to_string value) = some value
  parse_simple : ∀ value, simple value → platform.parse_simple (platform.record_to_sql value) = some value
  base64 : ∀ bytes, platform.base64.decode (platform.base64.encode bytes) = some bytes
  set_from : ∀ values, platform.set_from values ⊆ values

/-- A value of the kinds that are sent back, with simple record ids. -/
def Sendable (simple : T.RecordId → Prop) (value : Value T) : Prop :=
  ∀ part ∈ value.parts, match part with
    | .Duration _ | .Datetime _ | .Geometry _ | .Table _ | .File _ | .Range _ | .Regex _ => False
    | .RecordId value => simple value
    | _ => True

/-- No object has the key of a tag. -/
def Untagged (value : Value T) : Prop :=
  ∀ part ∈ value.parts, match part with
    | .Object entries => TAG ∉ entries.map Prod.fst
    | _ => True

variable {platform} {simple : T.RecordId → Prop}

theorem untagged_array_iff {values : List (Value T)} :
    Untagged (.Array values) ↔ ∀ value ∈ values, Untagged value := by
  unfold Untagged
  rw [forall_parts_array]
  simp

theorem untagged_set_iff {values : List (Value T)} : Untagged (.Set values) ↔ ∀ value ∈ values, Untagged value := by
  unfold Untagged
  rw [forall_parts_set]
  simp

theorem untagged_object_iff {entries : List (String × Value T)} :
    Untagged (.Object entries) ↔ TAG ∉ entries.map Prod.fst ∧ ∀ entry ∈ entries, Untagged entry.2 :=
  forall_parts_object

/-- A tag and its text, as they are read at any depth. -/
theorem from_wire_tagged {depth : Nat} (hroom : ¬ depth > MAX_WIRE_DEPTH) (kind text : String) :
    from_wire_value_at_depth platform depth (tagged kind (some text)) =
      decode_tagged_value platform (.String kind) [(TAG, .String kind), ("value", .String text)] none := by
  rw [tagged, from_wire_value_at_depth, if_neg hroom]
  rfl

theorem required_string_tagged (kind text : String) :
    required_string [(TAG, serde_json.Value.String (F := T.Finite) kind), ("value", .String text)] "value" = .ok text :=
  rfl

theorem from_str_non_finite (literal : String → Option (F64 T.Finite)) {value : F64 T.Finite} {text : String}
    (htext : f64.non_finite_to_string value = some text) : f64.from_str literal text = some value := by
  cases value with
  | finite _ => cases htext
  | inf | neg_inf | NaN =>
    cases htext
    rfl

theorem from_wire_non_finite {depth : Nat} (hroom : ¬ depth > MAX_WIRE_DEPTH) {value : F64 T.Finite} {text : String}
    (htext : f64.non_finite_to_string value = some text) :
    from_wire_value_at_depth platform depth (tagged "float" (some text)) = .ok (.Number (.Float value)) := by
  rw [from_wire_tagged hroom]
  simp [decode_tagged_value, required_string_tagged, parsed, okOr, from_str_non_finite _ htext, pure, Except.pure]

theorem from_wire_list_encode {values : List (Value T)} {depth : Nat}
    (hback : ∀ value ∈ values, from_wire_value_at_depth platform depth (encode_value platform value) = .ok value) :
    from_wire_list platform depth (encode_list platform values) = .ok values := by
  rw [from_wire_list_eq, encode_list_eq, mapM_eq_ok_iff, List.forall₂_map_left_iff, List.forall₂_same]
  exact hback

theorem from_wire_entries_encode {entries : List (String × Value T)} {depth : Nat}
    (hback : ∀ entry ∈ entries, from_wire_value_at_depth platform depth (encode_value platform entry.2) = .ok entry.2) :
    from_wire_entries platform depth (encode_entries platform entries) = .ok entries := by
  rw [from_wire_entries_eq, encode_entries_eq, mapM_eq_ok_iff, List.forall₂_map_left_iff, List.forall₂_same]
  intro entry hentry
  simp [hback entry hentry, pure, Except.pure]

/-- A value without the key of a tag comes back, at any depth that leaves room for it. -/
theorem from_wire_encode (hinverse : Inverse platform simple) {value : Value T}
    (hformed : value.WellFormed platform.toLibrary) (hsendable : Sendable simple value) (huntagged : Untagged value)
    {depth : Nat} (hdepth : depth + value.nesting ≤ MAX_WIRE_DEPTH) :
    from_wire_value_at_depth platform depth (encode_value platform value) = .ok value := by
  have hroom : ¬ depth > MAX_WIRE_DEPTH := by omega
  induction value generalizing depth with
  | Array values ih =>
    obtain ⟨-, hformeds⟩ := forall_parts_array.mp hformed
    obtain ⟨-, hsendables⟩ := forall_parts_array.mp hsendable
    have huntaggeds := untagged_array_iff.mp huntagged
    have hdepths : ∀ value ∈ values, value.nesting + 1 ≤ MAX_WIRE_DEPTH - depth :=
      nesting_list_le_iff.mp (by rw [Value.nesting] at hdepth; omega)
    have hvalues : from_wire_list platform (depth + 1) (encode_list platform values) = .ok values := by
      apply from_wire_list_encode
      intro value hvalue
      have hfits := hdepths value hvalue
      exact ih value hvalue (hformeds value hvalue) (hsendables value hvalue) (huntaggeds value hvalue) (by omega)
        (by omega)
    rw [encode_value, from_wire_value_at_depth, if_neg hroom, hvalues]
    rfl
  | Object entries ih =>
    obtain ⟨-, hformeds⟩ := forall_parts_object.mp hformed
    obtain ⟨-, hsendables⟩ := forall_parts_object.mp hsendable
    obtain ⟨htag, huntaggeds⟩ := untagged_object_iff.mp huntagged
    have hdepths : ∀ entry ∈ entries, entry.2.nesting + 1 ≤ MAX_WIRE_DEPTH - depth :=
      nesting_entries_le_iff.mp (by rw [Value.nesting] at hdepth; omega)
    have hentries : from_wire_entries platform (depth + 1) (encode_entries platform entries) = .ok entries := by
      apply from_wire_entries_encode
      intro entry hentry
      have hfits := hdepths entry hentry
      exact ih entry hentry (hformeds entry hentry) (hsendables entry hentry) (huntaggeds entry hentry) (by omega)
        (by omega)
    have hlookup : (encode_entries platform entries).lookup TAG = none := by
      rw [encode_entries_eq, Entries.lookup_map_snd, Entries.lookup_eq_none_iff_not_mem.mpr htag, Option.map_none]
    rw [encode_value, from_wire_value_at_depth, if_neg hroom, hlookup, hentries]
    rfl
  | Set values ih =>
    obtain ⟨hset, hformeds⟩ := forall_parts_set.mp hformed
    obtain ⟨-, hsendables⟩ := forall_parts_set.mp hsendable
    have huntaggeds := untagged_set_iff.mp huntagged
    have hdepths : ∀ value ∈ values, value.nesting + 1 ≤ MAX_WIRE_DEPTH - depth :=
      nesting_list_le_iff.mp (by rw [Value.nesting] at hdepth; omega)
    have hvalues : from_wire_list platform (depth + 1) (encode_list platform values) = .ok values := by
      apply from_wire_list_encode
      intro value hvalue
      have hfits := hdepths value hvalue
      exact ih value hvalue (hformeds value hvalue) (hsendables value hvalue) (huntaggeds value hvalue) (by omega)
        (by omega)
    have hnested : from_wire_set platform (depth + 1) [(TAG, .String "set"), ("values",
        .Array (encode_list platform values))] = some (from_wire_list platform (depth + 1) (encode_list platform values)) :=
      rfl
    rw [encode_value, from_wire_value_at_depth, if_neg hroom, hnested, hvalues]
    simp only at hset
    simp [TAG, decode_tagged_value, okOr, hset, pure, Except.pure]
  | Int value =>
    rw [encode_value, from_wire_tagged hroom]
    simp [decode_tagged_value, required_string_tagged, parsed, okOr, Int64.from_str_to_string, pure, Except.pure]
  | Float value =>
    cases value with
    | finite value => simp [encode_value, from_wire_value_at_depth, hroom, from_wire_number]
    | inf | neg_inf | NaN => exact from_wire_non_finite hroom rfl
  | Decimal value =>
    rw [encode_value, from_wire_tagged hroom]
    simp [decode_tagged_value, required_string_tagged, parsed, okOr, hinverse.decimal, pure, Except.pure]
  | Uuid value =>
    rw [encode_value, from_wire_tagged hroom]
    simp [decode_tagged_value, required_string_tagged, parsed, okOr, hinverse.uuid, pure, Except.pure]
  | RecordId value =>
    have hsimple : simple value := hsendable _ List.mem_cons_self
    rw [encode_value, from_wire_tagged hroom]
    simp [decode_tagged_value, required_string_tagged, parsed, okOr, hinverse.parse_simple value hsimple, pure,
      Except.pure]
  | Bytes value =>
    simp [encode_value, from_wire_value_at_depth, hroom, TAG, List.lookup_cons, decode_tagged_value, required_string,
      parsed, okOr, hinverse.base64, pure, Except.pure]
  | None => simp [encode_value, tagged, from_wire_value_at_depth, hroom, TAG, decode_tagged_value]
  | Null | Bool _ | String _ => simp [encode_value, from_wire_value_at_depth, hroom]
  | Duration _ | Datetime _ | Geometry _ | Table _ | File _ | Range _ | Regex _ =>
    exact (hsendable _ List.mem_cons_self).elim

/-- The elements of a set are those of one entry. -/
theorem exists_of_from_wire_set {depth : Nat} {entries : List (String × serde_json.Value T.Finite)}
    {read : Except SurrealRnError (List (Value T))} (hset : from_wire_set platform depth entries = some read) :
    ∃ entry ∈ entries, ∃ values, entry.2 = .Array values ∧ from_wire_list platform depth values = read := by
  induction entries with
  | nil => cases hset
  | cons entry entries ih =>
    obtain ⟨key, value⟩ := entry
    have hrest : from_wire_set platform depth entries = some read →
        ∃ entry ∈ (key, value) :: entries, ∃ values, entry.2 = .Array values ∧
          from_wire_list platform depth values = read := by
      intro hset
      obtain ⟨entry, hentry, hvalues⟩ := ih hset
      exact ⟨entry, List.mem_cons_of_mem _ hentry, hvalues⟩
    cases value with
    | Array values =>
      rw [from_wire_set] at hset
      split at hset
      · exact ⟨_, List.mem_cons_self, values, rfl, Option.some.inj hset⟩
      · exact hrest hset
    | Null | Bool _ | Number _ | String _ | Object _ =>
      simp only [from_wire_set] at hset
      split at hset
      · cases hset
      · exact hrest hset

/-- A tagged value is a set of the elements that were read, or it has no parts. -/
theorem decode_tagged_value_eq_ok {tag : serde_json.Value T.Finite} {object : List (String × serde_json.Value T.Finite)}
    {nested : Option (Except SurrealRnError (List (Value T)))} {value : Value T}
    (hdecode : decode_tagged_value platform tag object nested = .ok value) :
    Untagged value ∨ ∃ values, nested = some (.ok values) ∧ value = .Set (platform.set_from values) := by
  have hleaf : ∀ leaf : Value T, leaf.parts = [leaf] → (∀ entries, leaf ≠ .Object entries) → Untagged leaf := by
    intro leaf hparts hother part hpart
    rw [hparts, List.mem_singleton] at hpart
    subst hpart
    split
    · exact absurd rfl (hother _)
    · trivial
  unfold decode_tagged_value at hdecode
  split at hdecode
  case h_8 =>
    obtain ⟨values, hvalues, hdecode⟩ := bind_eq_ok_iff.mp hdecode
    obtain ⟨read, rfl, hdecode⟩ := bind_eq_ok_iff.mp hdecode
    cases hdecode
    exact .inr ⟨read, okOr_eq_ok_iff.mp hvalues, rfl⟩
  case h_1 =>
    cases hdecode
    exact .inl (hleaf _ rfl (by simp))
  all_goals first
    | cases hdecode
    | obtain ⟨text, _, hdecode⟩ := bind_eq_ok_iff.mp hdecode
      obtain ⟨read, _, hdecode⟩ := bind_eq_ok_iff.mp hdecode
      cases hdecode
      exact .inl (hleaf _ rfl (by simp))

/-- Nothing that is read has an object with the key of a tag. -/
theorem untagged_of_from_wire (hinverse : Inverse platform simple) {wire : serde_json.Value T.Finite} {depth : Nat}
    {value : Value T} (hread : from_wire_value_at_depth platform depth wire = .ok value) : Untagged value := by
  induction wire generalizing depth value with
  | Null | Bool _ | Number _ | String _ =>
    rw [from_wire_value_at_depth] at hread
    split at hread
    · cases hread
    · cases hread
      simp [Untagged, Value.parts]
  | Array wires ih =>
    rw [from_wire_value_at_depth] at hread
    split at hread
    · cases hread
    · obtain ⟨values, hvalues, hread⟩ := bind_eq_ok_iff.mp hread
      cases hread
      rw [from_wire_list_eq, mapM_eq_ok_iff] at hvalues
      rw [untagged_array_iff]
      intro value hvalue
      obtain ⟨wire, hwire, hread⟩ := hvalues.flip.exists_of_mem hvalue
      exact ih wire hwire hread
  | Object wires ih =>
    rw [from_wire_value_at_depth] at hread
    split at hread
    · cases hread
    rename_i hroom
    split at hread
    · rcases decode_tagged_value_eq_ok hread with huntagged | ⟨values, hset, rfl⟩
      · exact huntagged
      · obtain ⟨entry, hentry, wires, hwires, hvalues⟩ := exists_of_from_wire_set hset
        -- the elements of the set are those of the array, read at the same depth
        have harray : from_wire_value_at_depth platform depth entry.2 = .ok (.Array values) := by
          rw [hwires, from_wire_value_at_depth, if_neg hroom, hvalues]
          rfl
        have huntagged := untagged_array_iff.mp (ih entry hentry harray)
        exact untagged_set_iff.mpr fun value hvalue => huntagged value (hinverse.set_from values hvalue)
    · rename_i hlookup
      obtain ⟨entries, hentries, hread⟩ := bind_eq_ok_iff.mp hread
      cases hread
      rw [from_wire_entries_eq, mapM_eq_ok_iff] at hentries
      have hstep : ∀ entry ∈ entries, ∃ wire ∈ wires, wire.1 = entry.1 ∧
          from_wire_value_at_depth platform (depth + 1) wire.2 = .ok entry.2 := by
        intro entry hentry
        obtain ⟨wire, hwire, hread⟩ := hentries.flip.exists_of_mem hentry
        obtain ⟨value, hvalue, heq⟩ := bind_eq_ok_iff.mp hread
        cases heq
        exact ⟨wire, hwire, rfl, hvalue⟩
      refine untagged_object_iff.mpr ⟨fun htag => ?_, fun entry hentry => ?_⟩
      · obtain ⟨entry, hentry, hkey⟩ := List.mem_map.mp htag
        obtain ⟨wire, hwire, hsame, _⟩ := hstep entry hentry
        exact Entries.lookup_eq_none_iff_not_mem.mp hlookup (List.mem_map.mpr ⟨wire, hwire, hsame.trans hkey⟩)
      · obtain ⟨wire, hwire, _, hvalue⟩ := hstep entry hentry
        exact ih wire hwire hvalue

/-- Both encoders agree on every value, and what the decoder reads of it is the value itself exactly when none of its
objects has the key of a tag. -/
theorem query_value_survives_iff (hinverse : Inverse platform simple) {value : Value T}
    (hformed : value.WellFormed platform.toLibrary) :
    to_wire_value platform value = encode_value platform value ∧
      (Sendable simple value → value.nesting ≤ MAX_WIRE_DEPTH →
        (from_wire_value platform (encode_value platform value) = .ok value ↔ Untagged value)) := by
  refine ⟨to_wire_value_eq platform hformed, fun hsendable hnesting => ⟨fun hread => ?_, fun huntagged => ?_⟩⟩
  · exact untagged_of_from_wire hinverse hread
  · exact from_wire_encode hinverse hformed hsendable huntagged (by omega)

section Sample

/-- Decimals, ids and the rest as their texts. -/
def text_types : Types := ⟨Rat, String, String, String, String, String, String, String, String, String⟩

/-- The sets of the samples are in order, and so they are collected as they are. -/
def text_platform : Platform text_types where
  decimal_to_string := id
  decimal_from_str := some
  uuid_to_string := id
  uuid_from_str := some
  duration_to_sql := id
  datetime_to_sql := id
  geometry_to_sql := id
  file_to_sql := id
  range_to_sql := id
  regex_to_sql := id
  record_to_sql := id
  parse_simple := some
  set_from := id
  base64 := ⟨fun bytes => String.ofList (react_native_surrealdb.wire.encodeBase64 bytes),
    fun text => react_native_surrealdb.wire.decodeBase64 text.toList⟩
  float_literal _ := none
  from_u64 value := (value.toNat : Rat)

theorem text_inverse : Inverse text_platform fun _ => True where
  decimal _ := rfl
  uuid _ := rfl
  parse_simple _ _ := rfl
  base64 bytes := by
    change react_native_surrealdb.wire.decodeBase64
      (String.ofList (react_native_surrealdb.wire.encodeBase64 bytes)).toList = some bytes
    rw [String.toList_ofList, react_native_surrealdb.wire.decodeBase64_encodeBase64]
  set_from values := List.Subset.refl values

/-- An object with a set, an infinite number and a record id comes back. -/
theorem query_value_survives_iff_nested :
    from_wire_value text_platform (encode_value text_platform (.Object [("author", .RecordId "person:ada"),
      ("limit", .Number (.Float .inf)), ("seen", .Set [.Number (.Int 1), .String "x"])])) =
      .ok (.Object [("author", .RecordId "person:ada"), ("limit", .Number (.Float .inf)),
        ("seen", .Set [.Number (.Int 1), .String "x"])]) := by
  refine ((query_value_survives_iff text_inverse ?_).2 ?_ (by decide)).mpr ?_
  · simp [Value.WellFormed, Value.parts, parts_entries, parts_list, Entries.Ordered, text_platform]
    decide
  · simp [Sendable, Value.parts, parts_entries, parts_list]
  · simp [Untagged, Value.parts, parts_entries, parts_list, TAG]

/-- An object with the key of a tag comes back as the value it looks like. -/
theorem tagged_object_read_as_none :
    from_wire_value text_platform (encode_value text_platform (.Object [("$surreal", .String "none")])) = .ok .None ∧
      from_wire_value text_platform (encode_value text_platform (.Object [("$surreal", .String "none")])) ≠
        .ok (.Object [("$surreal", .String "none")]) := by
  have hread : from_wire_value text_platform (encode_value text_platform (.Object [("$surreal", .String "none")])) =
      .ok .None := rfl
  refine ⟨hread, ?_⟩
  rw [hread]
  simp

end Sample

end surrealdb_rn_core.wire
