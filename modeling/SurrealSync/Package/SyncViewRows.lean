import SurrealSync.Package.SyncReadAnswers

open Std Except
open surrealdb.types (F64 Types)
open surrealdb_sync_protocol surrealdb_sync_protocol.canonical surrealdb_sync_client
open surrealdb_rn_core.sync_view surrealdb_rn_core.sync_client surrealdb_rn_core.sync_codec

namespace react_native_surrealdb.sync_view

open wire sync_read_codec

/-! ### Paths -/

section Paths

variable {T : Types} {library : surrealdb_rn_core.wire.Platform T.recorded}

/-- A path leads from a canonical value to canonical values. -/
theorem canonical_of_lookup_path {path : List String} {value found : serde_json.Value CanonicalFloat}
    (hcanonical : Canonical library value) (hfound : lookup_path value path = some found) : Canonical library found := by
  induction path generalizing value with
  | nil =>
    cases hfound
    exact hcanonical
  | cons key path ih =>
    rw [lookup_path] at hfound
    split at hfound
    · cases hfound
    · rename_i hplain
      obtain ⟨next, hnext, hrest⟩ := Option.bind_eq_some_iff.mp hfound
      cases value with
      | Object entries =>
        have hatom : entries.lookup TAG = none := Option.not_isSome_iff_eq_none.mp hplain
        obtain ⟨earlier, later, rfl, _⟩ := List.lookup_eq_some_iff.mp hnext
        have hmem : (key, next) ∈ earlier ++ (key, next) :: later := List.mem_append_right _ List.mem_cons_self
        exact ih (hcanonical.entries hatom _ hmem) hrest
      | Null => cases hnext
      | Bool value => cases hnext
      | Number value => cases hnext
      | String value => cases hnext
      | Array values => cases hnext

end Paths

variable {F : Type} {engine : Engine F}

/-! ### The work of an answer -/

/-- A small counter is read as it was written. -/
theorem safeInteger_counter (hexact : engine.Exact) {n : Nat} (hn : n < 2 ^ 53) :
    safeInteger engine (some (.Number (.PosInt (.ofNat n)))) = some (n : Int) := by
  have hnat : (UInt64.ofNat n).toNat = n := UInt64.toNat_ofNat_of_lt' (Nat.lt_trans hn (by decide))
  have hinteger := hexact.integer (.ofNat n) (by rwa [hnat])
  rw [hnat] at hinteger
  rw [safeInteger, hinteger, Option.filter_some, if_pos]
  rw [decide_eq_true_eq, Int.natAbs_natCast]
  omega

theorem workProperty_counter (hexact : engine.Exact) {work : List (String × serde_json.Value F)} {key : String} {n : Nat}
    (hn : n < 2 ^ 53) (hlookup : work.lookup key = some (.Number (.PosInt (.ofNat n)))) :
    workProperty engine work key = .ok (n : Int) := by
  unfold workProperty
  rw [hlookup, safeInteger_counter hexact hn]
  change (do
    refuse ((n : Int) < 0) error
    return (n : Int)) = Except.ok (n : Int)
  rw [bind_of_ok (refuse_of_not (by omega))]
  rfl

theorem validateWork_to_value (hexact : engine.Exact) {work : Work} (hbounded : work.Bounded) :
    validateWork engine (some work.to_value) = .ok () := by
  have hvisits : work.records_visited + work.operations_visited ≤ 16384 := hbounded.visits
  have hnodes : work.value_nodes_visited ≤ 65536 := hbounded.nodes
  have hbytes : work.value_bytes_visited ≤ 4194304 := hbounded.bytes
  unfold validateWork Work.to_value
  simp only [object, ok_bind]
  rw [bind_of_ok (workProperty_counter hexact (n := work.records_visited) (by omega) rfl),
    bind_of_ok (workProperty_counter hexact (n := work.operations_visited) (by omega) rfl),
    bind_of_ok (workProperty_counter hexact (n := work.value_nodes_visited) (by omega) rfl),
    bind_of_ok (workProperty_counter hexact (n := work.value_bytes_visited) (by omega) rfl)]
  exact refuse_of_not (by omega)

/-! ### Counts -/

theorem exists_decodeCount {properties : List (String × serde_json.Value F)} {count : Nat}
    (hcount : properties.lookup "observedCount" = some (.String count.repr)) (hrows : properties.lookup "rows" = none)
    (hbound : count ≤ 16384) : ∃ result, decodeCount properties = .ok result := by
  have hdecimal : isDecimal 4 count.repr = true := isDecimal_repr (by omega)
  have hexceeds : ¬ exceeds count.repr 16384 = true := by
    rw [exceeds_repr]
    omega
  refine ⟨.count properties count.repr, ?_⟩
  unfold decodeCount
  simp [hcount, hrows, hdecimal, hexceeds, refuse, pure, Except.pure]

/-! ### Rows -/

/-- A path is parsed and written again as it stands. -/
theorem stringify_path_wire (path : List String) : stringify engine (path_wire path) = stringifyPath path := by
  have helements : ∀ segments : List String,
      serde_json.to_strings (fun number => engine.text (engine.parse number)) (segments.map .String) =
        segments.map serde_json.quote := by
    intro segments
    induction segments with
    | nil => rfl
    | cons segment segments ih => simp [serde_json.to_strings, serde_json.to_string, ih]
  simp only [stringify, path_wire, serde_json.to_string, helements, stringifyPath]

section Rows

variable {T : Types} {library : surrealdb_rn_core.wire.Platform T.recorded} {engine : Engine CanonicalFloat}

theorem exists_decodeField (hreadable : Readable library engine.toDoubles) {path : List String}
    {found : Option (serde_json.Value CanonicalFloat)} (hfound : ∀ value, found = some value → Canonical library value) :
    ∃ shown, decodeField engine (Field.to_value ⟨path, found⟩) path = .ok shown := by
  have hpath : (some (path_wire path)).map (stringify engine) = some (stringifyPath path) :=
    congrArg some (stringify_path_wire path)
  unfold decodeField Field.to_value
  simp only [object, ok_bind, List.lookup_cons, beq_self_eq_true, String.reduceBEq, hpath]
  rw [bind_of_ok (refuse_of_not (not_not.mpr rfl))]
  cases found with
  | none => exact ⟨⟨false, .null⟩, rfl⟩
  | some value =>
    obtain ⟨shown, hshown⟩ := exists_decodeValueCopy hreadable (hfound value rfl)
    refine ⟨⟨true, shown⟩, ?_⟩
    simp [refuse, decodeSurrealValue_eq_copy, hshown, pure, Except.pure]

theorem exists_decodeFields (hreadable : Readable library engine.toDoubles) {value : serde_json.Value CanonicalFloat}
    (hcanonical : Canonical library value) (projection : List (List String)) :
    ∃ shown, decodeFields engine ((projected projection value).map Field.to_value) projection = .ok shown := by
  induction projection with
  | nil => exact ⟨[], rfl⟩
  | cons path projection ih =>
    have hpart : ∀ found, lookup_path value path = some found → Canonical library found :=
      fun found hfound => canonical_of_lookup_path hcanonical hfound
    obtain ⟨field, hfield⟩ := @exists_decodeField T library engine hreadable path _ hpart
    obtain ⟨fields, hfields⟩ := ih
    refine ⟨field :: fields, ?_⟩
    simp only [projected, List.map_cons, decodeFields] at hfields ⊢
    rw [bind_of_ok hfield, bind_of_ok hfields]
    rfl

/-- A row that JavaScript takes: its id can be held by the database, its summary is presented, and its fields are the
projection of a canonical value. -/
structure Showable (library : surrealdb_rn_core.wire.Platform T.recorded) (projection : List (List String))
    (row : Row CanonicalFloat) : Prop where
  nonempty : row.record_id.val ≠ ""
  size : row.record_id.val.utf8ByteSize ≤ 4096
  summary : Presented row.summary
  fields : ∃ value, Canonical library value ∧ row.fields = projected projection value

theorem exists_decodeRow (hreadable : Readable library engine.toDoubles) {projection : List (List String)}
    {row : Row CanonicalFloat} (hshowable : Showable library projection row) {ids : List String}
    (hfresh : row.record_id.val ∉ ids) :
    ∃ shown, decodeRow engine projection ids row.to_value = .ok shown ∧ shown.recordId = row.record_id.val := by
  obtain ⟨value, hcanonical, hfields⟩ := hshowable.fields
  obtain ⟨fields, hdecoded⟩ := exists_decodeFields hreadable hcanonical projection
  rw [← hfields] at hdecoded
  have hunits : utf16Length row.record_id.val ≤ 4096 := Nat.le_trans (utf16Length_le _) hshowable.size
  have hlength : (row.fields.map Field.to_value).length = projection.length := by
    rw [hfields, List.length_map, projected, List.length_map]
  have hid : ¬ (row.record_id.val = "" ∨ utf16Length row.record_id.val > 4096 ∨ row.record_id.val ∈ ids) := by
    rintro (hempty | hlong | hseen)
    · exact hshowable.nonempty hempty
    · omega
    · exact hfresh hseen
  unfold decodeRow Row.to_value
  simp only [object, ok_bind, List.lookup_cons, beq_self_eq_true, String.reduceBEq]
  rw [bind_of_ok (refuse_of_not hid), bind_of_ok (validateSyncReadSummary_eq_ok hshowable.summary rfl rfl rfl),
    bind_of_ok (refuse_of_not (not_not.mpr hlength)), bind_of_ok hdecoded]
  exact ⟨_, rfl, rfl⟩

theorem exists_decodeRows (hreadable : Readable library engine.toDoubles) {projection : List (List String)}
    {rows : List (Row CanonicalFloat)} (hshowable : ∀ row ∈ rows, Showable library projection row)
    (hdistinct : (rows.map fun row => row.record_id.val).Nodup) {ids : List String}
    (hfresh : ∀ row ∈ rows, row.record_id.val ∉ ids) :
    ∃ shown, decodeRows engine projection ids (rows.map Row.to_value) = .ok shown := by
  induction rows generalizing ids with
  | nil => exact ⟨[], rfl⟩
  | cons row rows ih =>
    obtain ⟨hrow, hrows⟩ := List.forall_mem_cons.mp hshowable
    obtain ⟨hnew, hrest⟩ := List.forall_mem_cons.mp hfresh
    obtain ⟨hother, hdistinct⟩ := List.nodup_cons.mp hdistinct
    obtain ⟨first, hfirst, hid⟩ := exists_decodeRow hreadable hrow hnew
    have hnext : ∀ later ∈ rows, later.record_id.val ∉ ids ++ [first.recordId] := by
      intro later hlater hseen
      rcases List.mem_append.mp hseen with hearlier | hsame
      · exact hrest later hlater hearlier
      · rw [hid, List.mem_singleton] at hsame
        exact hother (List.mem_map.mpr ⟨later, hlater, hsame⟩)
    obtain ⟨shown, hshown⟩ := ih hrows hdistinct hnext
    refine ⟨first :: shown, ?_⟩
    rw [List.map_cons, decodeRows, bind_of_ok hfirst, bind_of_ok hshown]
    rfl

/-! ### Pages -/

/-- A page with a cursor is full, and a cursor is not long. -/
structure Paged (rows : List (Row CanonicalFloat)) (limit : Nat) (cursor : Option String) : Prop where
  length : rows.length ≤ limit
  full : ∀ text, cursor = some text → rows.length = limit ∧ text.utf8ByteSize ≤ 8192

theorem exists_decodePage (hexact : engine.Exact) (hreadable : Readable library engine.toDoubles)
    {projection : List (List String)} {rows : List (Row CanonicalFloat)}
    (hshowable : ∀ row ∈ rows, Showable library projection row)
    (hdistinct : (rows.map fun row => row.record_id.val).Nodup) {limit : F64 CanonicalFloat} {n : Nat}
    (hlimit : integer engine limit = some (n : Int)) {cursor : Option String} (hpaged : Paged rows n cursor)
    {properties : List (String × serde_json.Value CanonicalFloat)}
    (hrows : properties.lookup "rows" = some (.Array (rows.map Row.to_value)))
    (hcursor : properties.lookup "nextCursor" = some (cursor.elim .Null .String)) :
    ∃ result, decodePage engine properties projection limit = .ok result := by
  have hfresh : ∀ row ∈ rows, row.record_id.val ∉ ([] : List String) := fun _ _ => List.not_mem_nil
  obtain ⟨shown, hshown⟩ := exists_decodeRows hreadable hshowable hdistinct hfresh
  have hcompare : engine.compare (rows.map Row.to_value).length limit = some (compare (rows.length : Int) n) := by
    rw [List.length_map]
    match limit with
    | .finite value => exact hexact.compare rows.length value n hlimit
    | .inf => cases hlimit
    | .neg_inf => cases hlimit
    | .NaN => cases hlimit
  have hlength := hpaged.length
  have hfits : ¬ some (compare (rows.length : Int) n) = some .gt := by
    rw [Option.some.injEq, Int.compare_eq_gt]
    omega
  unfold decodePage
  simp only [hrows, hcompare]
  rw [bind_of_ok (refuse_of_not hfits), hcursor]
  cases cursor with
  | none =>
    refine ⟨.page properties shown none, ?_⟩
    simp [hshown, pure, Except.pure]
  | some text =>
    obtain ⟨hfull, hsize⟩ := hpaged.full text rfl
    have hunits : ¬ utf16Length text > 8192 := Nat.not_lt.mpr (Nat.le_trans (utf16Length_le text) hsize)
    have heq : compare (rows.length : Int) n = .eq := by
      rw [Int.compare_eq_eq]
      omega
    refine ⟨.page properties shown (some text), ?_⟩
    simp [hunits, heq, refuse, hshown, pure, Except.pure]

end Rows

end react_native_surrealdb.sync_view
