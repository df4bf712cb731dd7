import SurrealSync.Basic.Greedy
import SurrealSync.Native.Enqueue
import SurrealSync.Native.JsonText

open Except

namespace surrealdb_rn_core.sync_queue

structure NativePendingWindow where
  revision : UInt64
  commits : List String
  /-- UTF-8 bytes of JSON-encoded `commits`, including escapes, quotes and brackets. -/
  bytes : UInt32
  remaining_count : UInt32
  first_commit_too_large : Bool
deriving DecidableEq

/-! ### The budget of the writer -/

structure BudgetWriter where
  bytes : List UInt8
  limit : Nat

def BudgetWriter.write (writer : BudgetWriter) (input : List UInt8) : Option BudgetWriter :=
  if input.length > writer.limit - writer.bytes.length then none
  else some { writer with bytes := writer.bytes ++ input }

/-- However the library cuts a text into pieces, they are all written exactly when the text fits. -/
theorem write_pieces_iff {pieces : List (List UInt8)} {writer written : BudgetWriter}
    (hroom : writer.bytes.length ≤ writer.limit) :
    pieces.foldlM BudgetWriter.write writer = some written ↔
      writer.bytes.length + pieces.flatten.length ≤ writer.limit ∧
        written = { writer with bytes := writer.bytes ++ pieces.flatten } := by
  induction pieces generalizing writer with
  | nil => simp [hroom, eq_comm]
  | cons input pieces ih =>
    rw [List.foldlM_cons, BudgetWriter.write, List.flatten_cons, List.length_append]
    split
    · constructor
      · intro hwritten
        cases hwritten
      · rintro ⟨hfits, _⟩
        omega
    · rename_i hinput
      have hnext : (writer.bytes ++ input).length ≤ writer.limit := by
        rw [List.length_append]
        omega
      rw [Option.bind_eq_bind, Option.bind_some, ih hnext]
      simp [Nat.add_assoc]

theorem bounded_json_eq_some_iff {text : Option String} {limit : Nat} {written : String} :
    bounded_json text limit = some written ↔ text = some written ∧ written.utf8ByteSize ≤ limit := by
  simp [bounded_json, Option.filter_eq_some_iff]

/-- The text that a writer with an empty buffer takes in pieces. -/
theorem bounded_json_eq_write {text : String} {pieces : List (List UInt8)} (hpieces : pieces.flatten = text.as_bytes)
    (limit : Nat) :
    (pieces.foldlM BudgetWriter.write ⟨[], limit⟩).map BudgetWriter.bytes =
      (bounded_json (some text) limit).map String.as_bytes := by
  have hwrite (written : BudgetWriter) := @write_pieces_iff pieces ⟨[], limit⟩ written (Nat.zero_le limit)
  simp only [List.length_nil, Nat.zero_add, List.nil_append, hpieces, String.length_as_bytes] at hwrite
  by_cases hfits : text.utf8ByteSize ≤ limit
  · rw [(hwrite _).mpr ⟨hfits, rfl⟩, bounded_json_eq_some_iff.mpr ⟨rfl, hfits⟩]
    rfl
  · have hrefused : pieces.foldlM BudgetWriter.write ⟨[], limit⟩ = none := by
      rw [Option.eq_none_iff_forall_ne_some]
      intro written hwritten
      exact hfits ((hwrite written).mp hwritten).1
    have hlong : bounded_json (some text) limit = none := by
      rw [Option.eq_none_iff_forall_ne_some]
      intro written hwritten
      obtain ⟨htext, hshort⟩ := bounded_json_eq_some_iff.mp hwritten
      cases htext
      exact hfits hshort
    rw [hrefused, hlong]
    rfl

/-! ### The window -/

section Window

variable {T : Type} (json : JsonWriter T)

/-- One pass of the loop; there is none when it is left. -/
def observe (max_bytes : UInt32) (result : NativePendingWindow) (value : T) : Option NativePendingWindow := do
  let available := max_bytes.toNat - result.bytes.toNat
  let raw ← bounded_json (json.item value) available
  let comma := (!result.commits.isEmpty).toNat
  let quoted ← bounded_json (some (json.string raw)) (available - comma)
  return { result with
    bytes := result.bytes + .ofNat (quoted.utf8ByteSize + comma)
    commits := result.commits ++ [raw] }

def empty_window (revision : UInt64) : NativePendingWindow where
  revision
  commits := []
  bytes := 2
  remaining_count := 0
  first_commit_too_large := false

/-- The loop, which the first item that does not fit breaks. -/
def observe_all (revision : UInt64) (items : List T) (max_bytes : UInt32) : NativePendingWindow :=
  let (result, rest) := Greedy.run (observe json max_bytes) (empty_window revision) items
  if rest = [] then result else { result with first_commit_too_large := result.commits.isEmpty }

def window (revision : UInt64) (items : List T) (count max_bytes : UInt32) : NativeResult NativePendingWindow := do
  limits count max_bytes
  let total := items.length
  let result := observe_all json revision (items.take count.toNat) max_bytes
  let remaining_count ← sync_client.try_from (total - result.commits.length)
  return { result with remaining_count }

end Window

/-! ### The array of the texts -/

/-- The JSON array of the JSON strings of some texts. -/
def array_json (commits : List String) : String :=
  "[" ++ serde_json.comma_separated (commits.map serde_json.quote) ++ "]"

theorem array_json_nil_size : (array_json []).utf8ByteSize = 2 := rfl

theorem array_json_append_size (commits : List String) (raw : String) :
    (array_json (commits ++ [raw])).utf8ByteSize =
      (array_json commits).utf8ByteSize + ((serde_json.quote raw).utf8ByteSize + (!commits.isEmpty).toNat) := by
  have hopen : ("[").utf8ByteSize = 1 := rfl
  have hclose : ("]").utf8ByteSize = 1 := rfl
  have hcomma : (",").utf8ByteSize = 1 := rfl
  have hempty : ("").utf8ByteSize = 0 := rfl
  rw [array_json, List.map_append, List.map_singleton, serde_json.comma_separated_append, array_json]
  cases commits with
  | nil =>
    simp only [List.map_nil, if_true, serde_json.comma_separated, String.utf8ByteSize_append, hopen, hclose, hempty,
      List.isEmpty_nil, Bool.not_true, Bool.toNat_false]
    omega
  | cons first commits =>
    simp only [List.map_cons, reduceCtorEq, if_false, String.utf8ByteSize_append, hopen, hclose, hcomma,
      List.isEmpty_cons, Bool.not_false, Bool.toNat_true]
    omega

theorem array_json_size_le (commits others : List String) :
    (array_json commits).utf8ByteSize ≤ (array_json (commits ++ others)).utf8ByteSize := by
  induction others using List.reverseRecOn with
  | nil => rw [List.append_nil]
  | append_singleton others raw ih =>
    rw [← List.append_assoc, array_json_append_size]
    omega

section Loops

variable {T : Type} {item : T → Option String}

/-- The library's writer for strings beside any writer for the items. -/
def json_writer (item : T → Option String) : JsonWriter T := ⟨item, serde_json.quote⟩

/-- The JSON array of JSON strings that some items make fits into a limit. -/
def Fits (item : T → Option String) (limit : Nat) (items : List T) : Prop :=
  ∃ commits, items.mapM item = some commits ∧ (array_json commits).utf8ByteSize ≤ limit

/-- The two bounded writes of a pass, after items whose array takes `bytes`: they succeed exactly when the array with
the next item fits. A string takes room, so that no room stays for it when a comma does not fit. -/
theorem bounded_writes_iff {limit bytes comma : Nat} {value : T} {raw quoted : String} (hbytes : bytes ≤ limit)
    (hcomma : comma ≤ 1) :
    (bounded_json (item value) (limit - bytes) = some raw ∧
      bounded_json (some (serde_json.quote raw)) (limit - bytes - comma) = some quoted) ↔
      item value = some raw ∧ serde_json.quote raw = quoted ∧ bytes + (quoted.utf8ByteSize + comma) ≤ limit := by
  have hquote := serde_json.lt_quote_size raw
  simp only [bounded_json_eq_some_iff, Option.some.injEq]
  constructor
  · rintro ⟨⟨hraw, _⟩, rfl, hroom⟩
    exact ⟨hraw, rfl, by omega⟩
  · rintro ⟨hraw, rfl, hroom⟩
    exact ⟨⟨hraw, by omega⟩, rfl, by omega⟩

theorem mapM_append_singleton {items : List T} {value : T} {commits : List String} :
    (items ++ [value]).mapM item = some commits ↔
      ∃ before raw, items.mapM item = some before ∧ item value = some raw ∧ commits = before ++ [raw] := by
  simp only [List.mapM_append, List.mapM_cons, List.mapM_nil, Option.bind_eq_bind, Option.bind_eq_some_iff,
    Option.pure_def, Option.some.injEq]
  constructor
  · rintro ⟨before, hbefore, _, ⟨raw, hraw, _, rfl, rfl⟩, rfl⟩
    exact ⟨before, raw, hbefore, hraw, rfl⟩
  · rintro ⟨before, raw, hbefore, hraw, rfl⟩
    exact ⟨before, hbefore, [raw], ⟨raw, hraw, [], rfl, rfl⟩, rfl⟩

theorem length_of_mapM {items : List T} {commits : List String} (hcommits : items.mapM item = some commits) :
    commits.length = items.length := by
  induction items using List.reverseRecOn generalizing commits with
  | nil =>
    cases hcommits
    rfl
  | append_singleton items value ih =>
    obtain ⟨before, raw, hbefore, _, rfl⟩ := mapM_append_singleton.mp hcommits
    simp [ih hbefore]

/-- The window after some items, with nothing left out. -/
def filled (revision : UInt64) (commits : List String) : NativePendingWindow :=
  { empty_window revision with bytes := .ofNat (array_json commits).utf8ByteSize, commits }

theorem bytes_filled {revision : UInt64} {commits : List String} {max_bytes : UInt32}
    (hfits : (array_json commits).utf8ByteSize ≤ max_bytes.toNat) :
    (filled revision commits).bytes.toNat = (array_json commits).utf8ByteSize := by
  exact UInt32.toNat_ofNat_of_lt (Nat.lt_of_le_of_lt hfits max_bytes.toNat_lt)

theorem observe_filled {revision : UInt64} {commits : List String} {max_bytes : UInt32}
    (hfits : (array_json commits).utf8ByteSize ≤ max_bytes.toNat) {value : T} {next : NativePendingWindow} :
    observe (json_writer item) max_bytes (filled revision commits) value = some next ↔
      ∃ raw, item value = some raw ∧ (array_json (commits ++ [raw])).utf8ByteSize ≤ max_bytes.toNat ∧
        next = filled revision (commits ++ [raw]) := by
  have hcomma := Bool.toNat_le (!commits.isEmpty)
  have hsize := array_json_append_size commits
  have hpass (raw : String) : ({ filled revision commits with
      bytes := (filled revision commits).bytes +
        .ofNat ((serde_json.quote raw).utf8ByteSize + (!(filled revision commits).commits.isEmpty).toNat)
      commits := (filled revision commits).commits ++ [raw] } : NativePendingWindow) =
        filled revision (commits ++ [raw]) := by
    simp only [filled, hsize, UInt32.ofNat_add]
  have hwrites (raw quoted : String) := @bounded_writes_iff T item _ _ _ value raw quoted hfits hcomma
  simp only [observe, bytes_filled hfits, json_writer, Option.bind_eq_bind, Option.bind_eq_some_iff, Option.pure_def,
    Option.some.injEq]
  constructor
  · rintro ⟨raw, hraw, quoted, hquoted, rfl⟩
    obtain ⟨hitem, rfl, hroom⟩ := (hwrites raw quoted).mp ⟨hraw, hquoted⟩
    rw [hpass]
    exact ⟨raw, hitem, by rw [hsize]; exact hroom, rfl⟩
  · rintro ⟨raw, hitem, hroom, rfl⟩
    obtain ⟨hraw, hquoted⟩ := (hwrites raw _).mpr ⟨hitem, rfl, by rw [← hsize]; exact hroom⟩
    exact ⟨raw, hraw, _, hquoted, hpass raw⟩

theorem charge_filled {commits : List String} {bytes : UInt32} (hfits : (array_json commits).utf8ByteSize ≤ bytes.toNat)
    {value : T} {next : Nat × Bool} :
    charge (json_writer item) bytes ((array_json commits).utf8ByteSize, !commits.isEmpty) value = .ok next ↔
      ∃ raw, item value = some raw ∧ (array_json (commits ++ [raw])).utf8ByteSize ≤ bytes.toNat ∧
        next = ((array_json (commits ++ [raw])).utf8ByteSize, true) := by
  have hcomma := Bool.toNat_le (!commits.isEmpty)
  have hsize := array_json_append_size commits
  have hwrites (raw quoted : String) := @bounded_writes_iff T item _ _ _ value raw quoted hfits hcomma
  simp only [charge, json_writer, bind_eq_ok_iff, okOr_eq_ok_iff, pure, Except.pure, ok.injEq]
  constructor
  · rintro ⟨raw, hraw, quoted, hquoted, rfl⟩
    obtain ⟨hitem, rfl, hroom⟩ := (hwrites raw quoted).mp ⟨hraw, hquoted⟩
    refine ⟨raw, hitem, by rw [hsize]; exact hroom, ?_⟩
    rw [hsize, Nat.add_assoc]
  · rintro ⟨raw, hitem, hroom, rfl⟩
    obtain ⟨hraw, hquoted⟩ := (hwrites raw _).mpr ⟨hitem, rfl, by rw [← hsize]; exact hroom⟩
    refine ⟨raw, hraw, _, hquoted, ?_⟩
    rw [hsize, Nat.add_assoc]

theorem empty_window_eq_filled (revision : UInt64) : empty_window revision = filled revision [] := by
  simp [empty_window, filled, array_json_nil_size]

/-- The loop of `window` gets through exactly the items whose array fits. -/
theorem foldlM_observe_iff {revision : UInt64} {max_bytes : UInt32} (hmax : 2 ≤ max_bytes.toNat) {items : List T}
    {result : NativePendingWindow} :
    items.foldlM (observe (json_writer item) max_bytes) (empty_window revision) = some result ↔
      ∃ commits, items.mapM item = some commits ∧ (array_json commits).utf8ByteSize ≤ max_bytes.toNat ∧
        result = filled revision commits := by
  induction items using List.reverseRecOn generalizing result with
  | nil => simp [empty_window_eq_filled, array_json_nil_size, hmax, eq_comm]
  | append_singleton items value ih =>
    simp only [List.foldlM_append, List.foldlM_cons, List.foldlM_nil, Option.bind_eq_bind,
      Option.bind_eq_some_iff, ih, mapM_append_singleton, Option.pure_def, Option.some.injEq]
    constructor
    · rintro ⟨_, ⟨before, hbefore, hfits, rfl⟩, _, hpass, rfl⟩
      obtain ⟨raw, hitem, hroom, rfl⟩ := (observe_filled hfits).mp hpass
      exact ⟨_, ⟨before, raw, hbefore, hitem, rfl⟩, hroom, rfl⟩
    · rintro ⟨_, ⟨before, raw, hbefore, hitem, rfl⟩, hroom, rfl⟩
      have hfits : (array_json before).utf8ByteSize ≤ max_bytes.toNat := by
        rw [array_json_append_size] at hroom
        omega
      exact ⟨_, ⟨before, hbefore, hfits, rfl⟩, _, (observe_filled hfits).mpr ⟨raw, hitem, hroom, rfl⟩, rfl⟩

/-- And so does the loop of `admits`. -/
theorem foldlM_charge_iff {bytes : UInt32} (hbytes : 2 ≤ bytes.toNat) {items : List T} {charged : Nat × Bool} :
    items.foldlM (charge (json_writer item) bytes) (2, false) = .ok charged ↔
      ∃ commits, items.mapM item = some commits ∧ (array_json commits).utf8ByteSize ≤ bytes.toNat ∧
        charged = ((array_json commits).utf8ByteSize, !commits.isEmpty) := by
  induction items using List.reverseRecOn generalizing charged with
  | nil => simp [array_json_nil_size, hbytes, pure, Except.pure, eq_comm]
  | append_singleton items value ih =>
    simp only [List.foldlM_append, List.foldlM_cons, List.foldlM_nil, bind_eq_ok_iff, ih, mapM_append_singleton, pure,
      Except.pure, ok.injEq]
    constructor
    · rintro ⟨_, ⟨before, hbefore, hfits, rfl⟩, _, hpass, rfl⟩
      obtain ⟨raw, hitem, hroom, rfl⟩ := (charge_filled hfits).mp hpass
      exact ⟨_, ⟨before, raw, hbefore, hitem, rfl⟩, hroom, by simp⟩
    · rintro ⟨_, ⟨before, raw, hbefore, hitem, rfl⟩, hroom, rfl⟩
      have hfits : (array_json before).utf8ByteSize ≤ bytes.toNat := by
        rw [array_json_append_size] at hroom
        omega
      exact ⟨_, ⟨before, hbefore, hfits, rfl⟩, _, (charge_filled hfits).mpr ⟨raw, hitem, hroom, rfl⟩, by simp⟩

/-! ### The longest prefix -/

structure LongestPrefix (item : T → Option String) (items : List T) (count limit kept : Nat) : Prop where
  within_count : kept ≤ count
  within_items : kept ≤ items.length
  fits : Fits item limit (items.take kept)
  longest : ∀ other, other ≤ count → other ≤ items.length → Fits item limit (items.take other) → other ≤ kept

/-- A window of the first `kept` items, before and after what is left out is counted. -/
structure Exact (item : T → Option String) (revision : UInt64) (items : List T) (max_bytes : UInt32) (kept : Nat)
    (result : NativePendingWindow) : Prop where
  revision : result.revision = revision
  commits : (items.take kept).mapM item = some result.commits
  bytes : result.bytes.toNat = (array_json result.commits).utf8ByteSize
  within : result.bytes ≤ max_bytes
  remaining : result.remaining_count.toNat = items.length - kept
  too_large : result.first_commit_too_large = true ↔ items ≠ [] ∧ ¬ Fits item max_bytes.toNat (items.take 1)

/-- Neither loop leaves the machine's range: in no pass is more subtracted than there is, nor more added than fits. -/
structure NoOverflow (item : T → Option String) (revision : UInt64) (bytes : UInt32) : Prop where
  window : ∀ (taken : List T) (result : NativePendingWindow),
    taken.foldlM (observe (json_writer item) bytes) (empty_window revision) = some result →
      result.bytes ≤ bytes ∧ result.commits.length ≤ taken.length ∧
        ∀ value next raw, observe (json_writer item) bytes result value = some next → item value = some raw →
          result.bytes.toNat + ((serde_json.quote raw).utf8ByteSize + (!result.commits.isEmpty).toNat) < 2 ^ 32
  admits : ∀ (taken : List T) (charged : Nat) (seen : Bool),
    taken.foldlM (charge (json_writer item) bytes) (2, false) = .ok (charged, seen) →
      charged ≤ bytes.toNat ∧
        ∀ value next, charge (json_writer item) bytes (charged, seen) value = .ok next → next.1 < 2 ^ 32

theorem noOverflow (revision : UInt64) {bytes : UInt32} (hbytes : 2 ≤ bytes.toNat) : NoOverflow item revision bytes where
  window taken result hfold := by
    obtain ⟨commits, hcommits, hfits, rfl⟩ := (foldlM_observe_iff hbytes).mp hfold
    refine ⟨?_, ?_, ?_⟩
    · rw [UInt32.le_iff_toNat_le, bytes_filled hfits]
      exact hfits
    · exact Nat.le_of_eq (length_of_mapM hcommits)
    · intro value next raw hpass hitem
      obtain ⟨found, hfound, hroom, _⟩ := (observe_filled hfits).mp hpass
      cases hitem.symm.trans hfound
      rw [array_json_append_size] at hroom
      rw [bytes_filled hfits]
      exact Nat.lt_of_le_of_lt hroom bytes.toNat_lt
  admits taken charged seen hfold := by
    obtain ⟨commits, _, hfits, heq⟩ := (foldlM_charge_iff hbytes).mp hfold
    cases heq
    refine ⟨hfits, ?_⟩
    intro value next hpass
    obtain ⟨raw, _, hroom, rfl⟩ := (charge_filled hfits).mp hpass
    exact Nat.lt_of_le_of_lt hroom bytes.toNat_lt

/-- The loop of `window` stops behind the longest prefix that fits. -/
theorem run_observe {revision : UInt64} {items : List T} {count max_bytes : UInt32} (hmax : 2 ≤ max_bytes.toNat) :
    ∃ kept commits, LongestPrefix item items count.toNat max_bytes.toNat kept ∧
      (items.take kept).mapM item = some commits ∧ (array_json commits).utf8ByteSize ≤ max_bytes.toNat ∧
      Greedy.run (observe (json_writer item) max_bytes) (empty_window revision) (items.take count.toNat) =
        (filled revision commits, (items.take count.toNat).drop kept) := by
  obtain ⟨result, rest, hrun⟩ : ∃ result rest, Greedy.run (observe (json_writer item) max_bytes)
    (empty_window revision) (items.take count.toNat) = (result, rest) := ⟨_, _, rfl⟩
  obtain ⟨taken, hitems, hfold, _⟩ := Greedy.run_eq hrun
  obtain ⟨commits, hcommits, hfits, rfl⟩ := (foldlM_observe_iff hmax).mp hfold
  have hlength := congrArg List.length hitems
  rw [List.length_take, List.length_append] at hlength
  have htaken : items.take taken.length = taken := by
    have hlongest := congrArg (List.take taken.length) hitems
    rwa [List.take_take, Nat.min_eq_left (by omega), List.take_left] at hlongest
  refine ⟨taken.length, commits, ⟨by omega, by omega, ⟨commits, ?_, hfits⟩, ?_⟩, ?_, hfits, ?_⟩
  · rw [htaken]
    exact hcommits
  · rintro other hcount hother ⟨others, hothers, hroom⟩
    have hwithin : other ≤ (items.take count.toNat).length := by
      rw [List.length_take]
      omega
    have hreached : ((items.take count.toNat).take other).foldlM (observe (json_writer item) max_bytes)
        (empty_window revision) = some (filled revision others) := by
      rw [List.take_take, Nat.min_eq_left hcount]
      exact (foldlM_observe_iff hmax).mpr ⟨others, hothers, hroom, rfl⟩
    have hbound := Greedy.run_longest hrun hwithin hreached
    rw [hitems, List.length_append] at hbound
    omega
  · rw [htaken]
    exact hcommits
  · rw [hrun, hitems, List.drop_left]

theorem limits_eq {count bytes : UInt32} (hcount : 1 ≤ count.toNat ∧ count.toNat ≤ 64)
    (hbytes : 2 ≤ bytes.toNat ∧ bytes.toNat ≤ 4 * 1024 * 1024) : limits count bytes = .ok () := by
  have hcount_bounds : ¬ count = 0 ∧ ¬ count > MAX_COMMITS := by
    rw [gt_iff_lt, UInt32.lt_iff_toNat_lt, ← UInt32.toNat_inj]
    exact ⟨Nat.ne_of_gt hcount.1, Nat.not_lt.mpr hcount.2⟩
  have hbytes_bounds : 2 ≤ bytes ∧ bytes ≤ MAX_BYTES := by
    rw [UInt32.le_iff_toNat_le, UInt32.le_iff_toNat_le]
    exact hbytes
  simp [limits, refuse_eq_ok_iff, hcount_bounds, hbytes_bounds]

/-- The first item alone fits exactly when the prefix holds an item. -/
theorem LongestPrefix.fits_first_iff {items : List T} {count limit kept : Nat}
    (hlongest : LongestPrefix item items count limit kept) (hcount : 1 ≤ count) (hitems : items ≠ []) :
    Fits item limit (items.take 1) ↔ 1 ≤ kept := by
  constructor
  · intro hfirst
    exact hlongest.longest 1 hcount (List.length_pos_iff.mpr hitems) hfirst
  · intro hkept
    obtain ⟨commits, hcommits, hroom⟩ := hlongest.fits
    rw [← List.take_append_drop 1 (items.take kept), List.take_take, Nat.min_eq_left hkept, List.mapM_append] at hcommits
    obtain ⟨first, hfirst, hrest⟩ := Option.bind_eq_some_iff.mp hcommits
    obtain ⟨rest, _, heq⟩ := Option.bind_eq_some_iff.mp hrest
    cases heq
    exact ⟨first, hfirst, Nat.le_trans (array_json_size_le first rest) hroom⟩

/-- The first item is too large when there is one and none was taken. -/
theorem observe_all_eq {revision : UInt64} {items : List T} {count max_bytes : UInt32} (hcount : 1 ≤ count.toNat)
    (hmax : 2 ≤ max_bytes.toNat) :
    ∃ kept commits, LongestPrefix item items count.toNat max_bytes.toNat kept ∧
      (items.take kept).mapM item = some commits ∧ (array_json commits).utf8ByteSize ≤ max_bytes.toNat ∧
      observe_all (json_writer item) revision (items.take count.toNat) max_bytes =
        { filled revision commits with first_commit_too_large := decide (items ≠ [] ∧ kept = 0) } := by
  obtain ⟨kept, commits, hlongest, hcommits, hfits, hrun⟩ := @run_observe T item revision items count _ hmax
  refine ⟨kept, commits, hlongest, hcommits, hfits, ?_⟩
  have hlength : commits.length = kept := by
    rw [length_of_mapM hcommits, List.length_take, Nat.min_eq_left hlongest.within_items]
  rw [observe_all, hrun]
  dsimp only
  split
  · rename_i hleft
    have hfirst : ¬ (items ≠ [] ∧ kept = 0) := by
      rintro ⟨hitems, rfl⟩
      rw [List.drop_zero, List.take_eq_nil_iff] at hleft
      exact hleft.elim (by omega) hitems
    simp [filled, empty_window, hfirst]
  · rename_i hleft
    have hitems : items ≠ [] := by
      rintro rfl
      simp at hleft
    have hempty : commits.isEmpty = decide (kept = 0) := by
      rw [Bool.eq_iff_iff, List.isEmpty_iff, ← List.length_eq_zero_iff, hlength, decide_eq_true_iff]
    simp [filled, hempty, hitems]

/-- What `window` returns, and that it is refused only for what it cannot count. -/
theorem window_eq (revision : UInt64) (items : List T) {count max_bytes : UInt32}
    (hcount : 1 ≤ count.toNat ∧ count.toNat ≤ 64) (hbytes : 2 ≤ max_bytes.toNat ∧ max_bytes.toNat ≤ 4 * 1024 * 1024) :
    ∃ kept, LongestPrefix item items count.toNat max_bytes.toNat kept ∧
      if items.length - kept < 2 ^ 32 then
        ∃ result, window (json_writer item) revision items count max_bytes = .ok result ∧
          Exact item revision items max_bytes kept result
      else window (json_writer item) revision items count max_bytes = .error .Internal := by
  obtain ⟨kept, commits, hlongest, hcommits, hfits, hloop⟩ := @observe_all_eq T item revision items _ _ hcount.1 hbytes.1
  refine ⟨kept, hlongest, ?_⟩
  have hlength : (filled revision commits).commits.length = kept := by
    rw [filled, length_of_mapM hcommits, List.length_take, Nat.min_eq_left hlongest.within_items]
  rw [window, limits_eq hcount hbytes, ok_bind, hloop]
  dsimp only
  rw [hlength]
  split
  · rename_i hleft
    rw [sync_client.try_from, if_pos hleft, ok_bind]
    have hbytes_eq := @bytes_filled revision commits max_bytes hfits
    refine ⟨_, rfl, rfl, hcommits, hbytes_eq, ?_, UInt32.toNat_ofNat_of_lt hleft, ?_⟩
    · rw [UInt32.le_iff_toNat_le]
      exact hbytes_eq.trans_le hfits
    · rw [decide_eq_true_eq]
      apply and_congr_right
      intro hitems
      rw [hlongest.fits_first_iff hcount.1 hitems]
      omega
  · rename_i hleft
    rw [sync_client.try_from, if_neg hleft]
    rfl

theorem admits_iff (items : List T) (candidate : T) {count bytes : UInt32}
    (hcount : 1 ≤ count.toNat ∧ count.toNat ≤ 64) (hbytes : 2 ≤ bytes.toNat ∧ bytes.toNat ≤ 4 * 1024 * 1024) :
    admits (json_writer item) items candidate count bytes = .ok () ↔
      items.length < count.toNat ∧ Fits item bytes.toNat (items ++ [candidate]) := by
  have hfold (charged : Nat × Bool) := @foldlM_charge_iff T item _ hbytes.1 (items ++ [candidate]) charged
  simp only [admits, limits_eq hcount hbytes, ok_bind, bind_eq_ok_iff, refuse_eq_ok_iff, hfold, ge_iff_le, Nat.not_le,
    Fits, exists_const]
  constructor
  · rintro ⟨hroom, _, ⟨commits, hcommits, hfits, _⟩, _⟩
    exact ⟨hroom, commits, hcommits, hfits⟩
  · rintro ⟨hroom, commits, hcommits, hfits⟩
    exact ⟨hroom, _, ⟨commits, hcommits, hfits, rfl⟩, rfl⟩

/-- Windows and admission keep to one exact budget: a window takes the longest prefix whose array fits, and a commit is
admitted exactly when a window over the queue behind it returns every commit. -/
theorem pending_window_budget (revision : UInt64) (items : List T) {count max_bytes : UInt32}
    (hcount : 1 ≤ count.toNat ∧ count.toNat ≤ 64) (hbytes : 2 ≤ max_bytes.toNat ∧ max_bytes.toNat ≤ 4 * 1024 * 1024) :
    (∃ kept, LongestPrefix item items count.toNat max_bytes.toNat kept ∧
      if items.length - kept < 2 ^ 32 then
        ∃ result, window (json_writer item) revision items count max_bytes = .ok result ∧
          Exact item revision items max_bytes kept result
      else window (json_writer item) revision items count max_bytes = .error .Internal) ∧
    (∀ candidate, admits (json_writer item) items candidate count max_bytes = .ok () ↔
      ∃ result, window (json_writer item) revision (items ++ [candidate]) count max_bytes = .ok result ∧
        (items ++ [candidate]).mapM item = some result.commits) ∧
    NoOverflow item revision max_bytes := by
  refine ⟨window_eq revision items hcount hbytes, ?_, noOverflow revision hbytes.1⟩
  intro candidate
  rw [admits_iff items candidate hcount hbytes]
  obtain ⟨kept, hlongest, hwindow⟩ := @window_eq T item revision (items ++ [candidate]) _ _ hcount hbytes
  have hlength : (items ++ [candidate]).length = items.length + 1 := by simp
  constructor
  · rintro ⟨hroom, hfits⟩
    have hkept : kept = items.length + 1 := by
      have hle := hlongest.longest (items.length + 1) (by omega) (by omega)
        (by rw [← hlength, List.take_length]; exact hfits)
      have hwithin := hlongest.within_items
      omega
    rw [if_pos (by omega)] at hwindow
    obtain ⟨result, hresult, hexact⟩ := hwindow
    have hcommits := hexact.commits
    rw [hkept, ← hlength, List.take_length] at hcommits
    exact ⟨result, hresult, hcommits⟩
  · rintro ⟨result, hresult, hcommits⟩
    rw [hresult] at hwindow
    split at hwindow
    · obtain ⟨_, heq, hexact⟩ := hwindow
      cases heq
      have hall := length_of_mapM hcommits
      have hsome := length_of_mapM hexact.commits
      rw [List.length_take] at hsome
      have hcount_kept := hlongest.within_count
      refine ⟨by omega, result.commits, hcommits, ?_⟩
      rw [← hexact.bytes]
      exact UInt32.le_iff_toNat_le.mp hexact.within
    · cases hwindow

/-- A queue of two texts, whose array takes all the bytes there are. -/
theorem pending_window_budget_quoted :
    (∃ kept, LongestPrefix some ["a", "\""] 2 10 kept ∧
      if 2 - kept < 2 ^ 32 then
        ∃ result, window (json_writer some) 9 ["a", "\""] 2 10 = .ok result ∧ Exact some 9 ["a", "\""] 10 kept result
      else window (json_writer some) 9 ["a", "\""] 2 10 = .error .Internal) ∧
    (∀ candidate, admits (json_writer some) ["a", "\""] candidate 2 10 = .ok () ↔
      ∃ result, window (json_writer some) 9 (["a", "\""] ++ [candidate]) 2 10 = .ok result ∧
        (["a", "\""] ++ [candidate]).mapM some = some result.commits) ∧
    @NoOverflow String some 9 10 :=
  @pending_window_budget String some 9 ["a", "\""] 2 10 (by decide) (by decide)

end Loops

/-- A prefix of at most `count` items leaves the others out, and a window that cannot count them is refused. -/
theorem window_of_uncounted {T : Type} {item : T → Option String} {revision : UInt64} {items : List T}
    {count max_bytes : UInt32} (hcount : 1 ≤ count.toNat ∧ count.toNat ≤ 64)
    (hbytes : 2 ≤ max_bytes.toNat ∧ max_bytes.toNat ≤ 4 * 1024 * 1024) (hmany : 2 ^ 32 + count.toNat ≤ items.length) :
    window (json_writer item) revision items count max_bytes = .error .Internal := by
  obtain ⟨kept, hlongest, hwindow⟩ := @window_eq T item revision items _ _ hcount hbytes
  have hkept := hlongest.within_count
  rw [if_neg (by omega)] at hwindow
  exact hwindow

open surrealdb_sync_protocol surrealdb_sync_client.transitions in
theorem pending_window_uncounted : ∃ items : List (ClientCommit String),
    items.length = 2 ^ 32 + 1 ∧ window (json_writer sync_client.text_json.item) 1 items 1 2 = .error .Internal := by
  obtain ⟨queue, hqueue⟩ : ∃ queue, queue = List.replicate (2 ^ 32 + 1) (commit "one" []) := ⟨_, rfl⟩
  have hlength : queue.length = 2 ^ 32 + 1 := by rw [hqueue, List.length_replicate]
  exact ⟨queue, hlength, window_of_uncounted (by decide) (by decide) hlength.ge⟩

end surrealdb_rn_core.sync_queue
