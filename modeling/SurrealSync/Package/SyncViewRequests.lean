import SurrealSync.Native.ViewPages
import SurrealSync.Package.SyncView

open Except
open surrealdb.types (F64)
open surrealdb_sync_client
open surrealdb_rn_core.sync_read (NativeSyncError)
open surrealdb_rn_core.sync_view (Serde Selector Request ViewJournal)

namespace react_native_surrealdb.sync_view

open wire

variable {F : Type}

/-! ### The request that the other side reads -/

def Wanted.native : Wanted → serde_json.Value F
  | .null => .Null
  | .boolean value => .Bool value
  | .string value => .String value

def Equation.native (value : Equation) : Selector F := .Eq value.path value.value.native

def SyncViewSelector.native : SyncViewSelector → Selector F
  | .all => .All
  | .eq value => value.native
  | .and terms => .And (terms.map Equation.native)

/-- A limit is read when it is an integer of its type. -/
def SyncViewRequest.native (engine : Engine F) : SyncViewRequest F → Option (Request F)
  | .count selector => some (.Count 1 selector.native)
  | .page selector projection limit cursor =>
    match integer engine limit with
    | some limit =>
      if 0 ≤ limit ∧ limit < 2 ^ 32 then some (.Page 1 selector.native projection (.ofNat limit.toNat) cursor.join)
      else none
    | none => none

/-! ### What both sides ask of a request -/

/-- A key that a path may have, of whatever size. -/
structure PlainSegment (segment : String) : Prop where
  nonempty : segment ≠ ""
  unreserved : segment ∉ ["__proto__", "prototype", "constructor", "$surreal"]
  printable : segment.toList.any isControl = false

structure PlainPath (path : List String) : Prop where
  nonempty : path ≠ []
  length : path.length ≤ 8
  segments : ∀ segment ∈ path, PlainSegment segment

def SyncViewSelector.equations : SyncViewSelector → List Equation
  | .all => []
  | .eq value => [value]
  | .and terms => terms

/-- A conjunction has between one and eight terms. -/
def SyncViewSelector.Counted : SyncViewSelector → Prop
  | .all => True
  | .eq _ => True
  | .and terms => terms ≠ [] ∧ terms.length ≤ 8

def SyncViewRequest.selector : SyncViewRequest F → SyncViewSelector
  | .count selector => selector
  | .page selector _ _ _ => selector

def SyncViewRequest.projection : SyncViewRequest F → List (List String)
  | .count _ => []
  | .page _ projection _ _ => projection

def SyncViewRequest.cursor : SyncViewRequest F → Option String
  | .count _ => none
  | .page _ _ _ cursor => cursor.join

/-- A page has a limit and between one and sixteen distinct paths. -/
def SyncViewRequest.Counted (engine : Engine F) : SyncViewRequest F → Prop
  | .count _ => True
  | .page _ projection limit _ =>
    (∃ n, integer engine limit = some n ∧ 1 ≤ n ∧ n ≤ 64) ∧ projection ≠ [] ∧ projection.length ≤ 16 ∧ projection.Nodup

/-- The paths of a request. -/
def SyncViewRequest.paths (request : SyncViewRequest F) : List (List String) :=
  request.selector.equations.map Equation.path ++ request.projection

/-- Everything that is asked of a request but for the sizes of its texts. -/
structure SyncViewRequest.Shaped (engine : Engine F) (request : SyncViewRequest F) : Prop where
  selector : request.selector.Counted
  page : request.Counted engine
  paths : ∀ path ∈ request.paths, PlainPath path

/-- The texts of a request stay within their bounds, in a measure of texts. -/
structure SyncViewRequest.Within (engine : Engine F) (size : String → Nat) (request : SyncViewRequest F) : Prop where
  segments : ∀ path ∈ request.paths, ∀ segment ∈ path, size segment ≤ 128
  wanted : ∀ equation ∈ request.selector.equations, ∀ text, equation.value = .string text → size text ≤ 1024
  request : size (request.stringify engine) ≤ 16384

/-- The query of a page, as a cursor holds it. -/
def SyncViewRequest.query (engine : Engine F) : SyncViewRequest F → String
  | .count _ => ""
  | .page selector projection limit _ =>
    "[" ++ selector.stringify ++ ",[" ++ serde_json.comma_separated (projection.map stringifyPath) ++ "]," ++
      stringifyNumber engine limit ++ "]"

/-! ### Sizes -/

theorem utf16Length_le (text : String) : utf16Length text ≤ text.utf8ByteSize := by
  have hchars : ∀ chars : List Char,
      (chars.map fun char => if char.toNat < 65536 then 1 else 2).sum ≤ (String.ofList chars).utf8ByteSize := by
    intro chars
    induction chars with
    | nil => exact Nat.zero_le _
    | cons char chars ih =>
      have hsize : (if char.toNat < 65536 then 1 else 2) ≤ char.utf8Size := by
        have hpositive := char.utf8Size_pos
        by_cases hsmall : char.toNat < 65536
        · rw [if_pos hsmall]
          exact hpositive
        · rw [if_neg hsmall]
          have hlong : char.utf8Size ≠ 1 := by
            intro hone
            have hascii : char.toNat ≤ 127 := UInt32.le_iff_toNat_le.mp (Char.utf8Size_eq_one_iff.mp hone)
            omega
          omega
      rw [List.map_cons, List.sum_cons, serde_json.utf8ByteSize_cons]
      omega
  have htext := hchars text.toList
  rwa [String.ofList_toList] at htext

theorem utf16Length_eq_zero_iff {text : String} : utf16Length text = 0 ↔ text = "" := by
  constructor
  · intro hzero
    unfold utf16Length at hzero
    cases hchars : text.toList with
    | nil => exact String.toList_eq_nil_iff.mp hchars
    | cons char chars =>
      rw [hchars, List.map_cons, List.sum_cons] at hzero
      split at hzero <;> omega
  · rintro rfl
    rfl

theorem SyncViewRequest.Within.mono {engine : Engine F} {size other : String → Nat}
    (hle : ∀ text, size text ≤ other text) {request : SyncViewRequest F} (hwithin : request.Within engine other) :
    request.Within engine size where
  segments path hpath segment hsegment := Nat.le_trans (hle segment) (hwithin.segments path hpath segment hsegment)
  wanted equation hequation text htext := Nat.le_trans (hle text) (hwithin.wanted equation hequation text htext)
  request := Nat.le_trans (hle _) hwithin.request

/-! ### Paths are told apart by their texts -/

theorem quote_append_inj {first second : String} {rest others : List Char}
    (hsame : (serde_json.quote first).toList ++ rest = (serde_json.quote second).toList ++ others) :
    first = second ∧ rest = others := by
  have hfirst := serde_json.read_quoted_quote first rest
  rw [hsame, serde_json.read_quoted_quote, Option.some.injEq, Prod.mk.injEq] at hfirst
  exact ⟨hfirst.1.symm, hfirst.2.symm⟩

theorem toList_stringify_cons (segment : String) (segments : List String) :
    (serde_json.comma_separated ((segment :: segments).map serde_json.quote)).toList =
      (serde_json.quote segment).toList ++ match segments with
        | [] => []
        | _ => ',' :: (serde_json.comma_separated (segments.map serde_json.quote)).toList := by
  cases segments with
  | nil => simp [serde_json.comma_separated]
  | cons second segments => simp [serde_json.comma_separated, String.toList_append]

theorem comma_separated_quote_ne_nil (segment : String) (segments : List String) :
    (serde_json.comma_separated ((segment :: segments).map serde_json.quote)).toList ≠ [] := by
  rw [toList_stringify_cons]
  simp [serde_json.quote]

theorem comma_separated_quote_injective {segments others : List String}
    (hsame : (serde_json.comma_separated (segments.map serde_json.quote)).toList =
      (serde_json.comma_separated (others.map serde_json.quote)).toList) : segments = others := by
  induction segments generalizing others with
  | nil =>
    cases others with
    | nil => rfl
    | cons other others => exact absurd hsame.symm (comma_separated_quote_ne_nil other others)
  | cons segment segments ih =>
    cases others with
    | nil => exact absurd hsame (comma_separated_quote_ne_nil segment segments)
    | cons other others =>
      rw [toList_stringify_cons, toList_stringify_cons] at hsame
      obtain ⟨rfl, hrest⟩ := quote_append_inj hsame
      cases segments with
      | nil =>
        cases others with
        | nil => rfl
        | cons other others => cases hrest
      | cons second segments =>
        cases others with
        | nil => cases hrest
        | cons third others => rw [ih (List.tail_eq_of_cons_eq hrest)]

theorem stringifyPath_injective : Function.Injective stringifyPath := by
  intro first second hsame
  have hlist := congrArg String.toList hsame
  simp only [stringifyPath, String.toList_append] at hlist
  exact comma_separated_quote_injective (List.append_cancel_left (List.append_cancel_right hlist))

/-! ### What `encodeSyncViewRequest` accepts -/

theorem invalidSegment_eq_false_iff {segment : String} :
    invalidSegment segment = false ↔ PlainSegment segment ∧ utf16Length segment ≤ 128 := by
  have hzero := @utf16Length_eq_zero_iff segment
  simp only [invalidSegment, Bool.or_eq_false_iff, decide_eq_false_iff_not, Nat.not_lt, gt_iff_lt]
  constructor
  · rintro ⟨⟨⟨hnonempty, hlength⟩, hcontrol⟩, hreserved⟩
    exact ⟨⟨fun hempty => by have := hzero.mpr hempty; omega, hreserved, hcontrol⟩, hlength⟩
  · rintro ⟨hplain, hlength⟩
    have hpositive : utf16Length segment ≠ 0 := fun hlength => hplain.nonempty (hzero.mp hlength)
    exact ⟨⟨⟨by omega, hlength⟩, hplain.printable⟩, hplain.unreserved⟩

theorem path_eq_ok_iff {value : List String} {u : Unit} :
    (path value : Except (WireError F) Unit) = .ok u ↔
      PlainPath value ∧ ∀ segment ∈ value, utf16Length segment ≤ 128 := by
  simp only [path, refuse_eq_ok_iff, not_or, Nat.not_lt, gt_iff_lt, Bool.not_eq_true, List.any_eq_false]
  have hlength : 1 ≤ value.length ↔ value ≠ [] := List.length_pos_iff
  constructor
  · rintro ⟨hnonempty, hbound, hsegments⟩
    have hvalid := fun segment hsegment => invalidSegment_eq_false_iff.mp (by simpa using hsegments segment hsegment)
    exact ⟨⟨hlength.mp hnonempty, hbound, fun segment hsegment => (hvalid segment hsegment).1⟩,
      fun segment hsegment => (hvalid segment hsegment).2⟩
  · rintro ⟨⟨hnonempty, hbound, hsegments⟩, hsizes⟩
    refine ⟨hlength.mpr hnonempty, hbound, fun segment hsegment => ?_⟩
    rw [invalidSegment_eq_false_iff.mpr ⟨hsegments segment hsegment, hsizes segment hsegment⟩]

theorem invalidWanted_eq_false_iff {value : Wanted} :
    invalidWanted value = false ↔ ∀ text, value = .string text → utf16Length text ≤ 1024 := by
  cases value <;> simp [invalidWanted]

/-- What an equation passes, in a measure of texts. -/
def Equation.Passes (size : String → Nat) (value : Equation) : Prop :=
  (PlainPath value.path ∧ ∀ segment ∈ value.path, size segment ≤ 128) ∧
    ∀ text, value.value = .string text → size text ≤ 1024

theorem equation_eq_ok_iff {value : Equation} {u : Unit} :
    (equation value : Except (WireError F) Unit) = .ok u ↔ value.Passes utf16Length := by
  simp only [equation, bind_eq_ok_iff, path_eq_ok_iff, refuse_eq_ok_iff, Bool.not_eq_true, invalidWanted_eq_false_iff,
    Equation.Passes]
  exact ⟨fun ⟨_, hpath, hwanted⟩ => ⟨hpath, hwanted⟩, fun ⟨hpath, hwanted⟩ => ⟨(), hpath, hwanted⟩⟩

theorem selector_eq_ok_iff {value : SyncViewSelector} {u : Unit} :
    (selector value : Except (WireError F) Unit) = .ok u ↔
      value.Counted ∧ ∀ equation ∈ value.equations, equation.Passes utf16Length := by
  cases value with
  | all => simp [selector, SyncViewSelector.Counted, SyncViewSelector.equations]
  | eq value => simp [selector, SyncViewSelector.Counted, SyncViewSelector.equations, equation_eq_ok_iff]
  | and terms =>
    simp only [selector, bind_eq_ok_iff, refuse_eq_ok_iff, not_not, forM_eq_ok_iff, equation_eq_ok_iff,
      SyncViewSelector.Counted, SyncViewSelector.equations, gt_iff_lt, List.length_pos_iff]
    constructor
    · rintro ⟨_, hcount, hterms⟩
      exact ⟨hcount, hterms⟩
    · rintro ⟨hcount, hterms⟩
      exact ⟨(), hcount, hterms⟩

variable {engine : Engine F}

theorem invalidCursor_eq_false {cursor : Option (Option String)}
    (hcursor : ∀ text, cursor.join = some text → utf16Length text ≤ 8192) : invalidCursor cursor = false := by
  match cursor with
  | none => rfl
  | some none => rfl
  | some (some text) => exact decide_eq_false (Nat.not_lt.mpr (hcursor text rfl))

theorem pageRequest_eq_ok_iff {projection : List (List String)} {limit : F64 F} {cursor : Option (Option String)}
    (hvalid : invalidCursor cursor = false) {u : Unit} :
    pageRequest engine projection limit cursor = .ok u ↔
      ((∃ n, integer engine limit = some n ∧ 1 ≤ n ∧ n ≤ 64) ∧ projection ≠ [] ∧ projection.length ≤ 16 ∧
        projection.Nodup) ∧
      ∀ value ∈ projection, PlainPath value ∧ ∀ segment ∈ value, utf16Length segment ≤ 128 := by
  have hlimit : (integer engine limit).any (fun limit => 1 ≤ limit ∧ limit ≤ 64) = true ↔
      ∃ n, integer engine limit = some n ∧ 1 ≤ n ∧ n ≤ 64 := by simp [Option.any_eq_true]
  have hdistinct : (projection.map stringifyPath).dedup.length = projection.length ↔ projection.Nodup := by
    rw [← List.nodup_map_iff stringifyPath_injective, ← List.dedup_eq_self]
    constructor
    · intro hlength
      exact (List.dedup_sublist _).eq_of_length (by rw [hlength, List.length_map])
    · intro hsame
      rw [hsame, List.length_map]
  have hnonempty : 1 ≤ projection.length ↔ projection ≠ [] := List.length_pos_iff
  simp only [pageRequest, bind_eq_ok_iff, refuse_eq_ok_iff, forM_eq_ok_iff, path_eq_ok_iff, hvalid, not_or, not_not,
    ne_eq, hlimit, hdistinct, Nat.not_lt, gt_iff_lt, hnonempty]
  constructor
  · rintro ⟨_, ⟨hlimit, hnonempty, hbound⟩, _, hpaths, _, hnodup, _⟩
    exact ⟨⟨hlimit, hnonempty, hbound, hnodup⟩, hpaths⟩
  · rintro ⟨⟨hlimit, hnonempty, hbound, hnodup⟩, hpaths⟩
    exact ⟨(), ⟨hlimit, hnonempty, hbound⟩, (), hpaths, (), hnodup, by simp⟩

/-- The request passes its checks apart from the one of its whole text. -/
theorem shaped_and_within_iff {size : String → Nat} {request : SyncViewRequest F} :
    request.Shaped engine ∧ request.Within engine size ↔
      (request.selector.Counted ∧ ∀ equation ∈ request.selector.equations, equation.Passes size) ∧
      (request.Counted engine ∧
        ∀ value ∈ request.projection, PlainPath value ∧ ∀ segment ∈ value, size segment ≤ 128) ∧
      size (request.stringify engine) ≤ 16384 := by
  have hpaths : ∀ P : List String → Prop, (∀ path ∈ request.paths, P path) ↔
      (∀ equation ∈ request.selector.equations, P equation.path) ∧ ∀ path ∈ request.projection, P path := by
    intro P
    simp only [SyncViewRequest.paths, List.forall_mem_append, List.forall_mem_map]
  constructor
  · rintro ⟨hshaped, hwithin⟩
    obtain ⟨hplain, hplains⟩ := (hpaths _).mp hshaped.paths
    obtain ⟨hsizes, hsizesOf⟩ := (hpaths _).mp hwithin.segments
    refine ⟨⟨hshaped.selector, fun equation hequation => ?_⟩, ⟨hshaped.page, fun value hvalue => ?_⟩, hwithin.request⟩
    · exact ⟨⟨hplain equation hequation, hsizes equation hequation⟩, hwithin.wanted equation hequation⟩
    · exact ⟨hplains value hvalue, hsizesOf value hvalue⟩
  · rintro ⟨⟨hselector, hequations⟩, ⟨hpage, hprojection⟩, hsize⟩
    refine ⟨⟨hselector, hpage, (hpaths _).mpr ⟨?_, ?_⟩⟩, ⟨(hpaths _).mpr ⟨?_, ?_⟩, ?_, hsize⟩⟩
    · exact fun equation hequation => (hequations equation hequation).1.1
    · exact fun value hvalue => (hprojection value hvalue).1
    · exact fun equation hequation => (hequations equation hequation).1.2
    · exact fun value hvalue => (hprojection value hvalue).2
    · exact fun equation hequation => (hequations equation hequation).2

/-- A request is encoded exactly when it has the shape and its texts are short enough in UTF-16. -/
theorem exists_encodeSyncViewRequest_iff {request : SyncViewRequest F}
    (hcursor : ∀ text, request.cursor = some text → utf16Length text ≤ 8192) :
    (∃ text, encodeSyncViewRequest engine request = .ok text) ↔
      request.Shaped engine ∧ request.Within engine utf16Length := by
  rw [shaped_and_within_iff]
  cases request with
  | count selector =>
    simp only [encodeSyncViewRequest, bind_eq_ok_iff, selector_eq_ok_iff, refuse_eq_ok_iff, gt_iff_lt, Nat.not_lt, pure,
      Except.pure, ok.injEq, SyncViewRequest.selector, SyncViewRequest.Counted, SyncViewRequest.projection]
    constructor
    · rintro ⟨_, _, hselector, _, hsize, _⟩
      exact ⟨hselector, ⟨trivial, by simp⟩, hsize⟩
    · rintro ⟨hselector, _, hsize⟩
      exact ⟨_, (), hselector, (), hsize, rfl⟩
  | page selector projection limit cursor =>
    simp only [encodeSyncViewRequest, bind_eq_ok_iff, selector_eq_ok_iff, refuse_eq_ok_iff, gt_iff_lt, Nat.not_lt, pure,
      Except.pure, ok.injEq, SyncViewRequest.selector, SyncViewRequest.Counted, SyncViewRequest.projection,
      pageRequest_eq_ok_iff (invalidCursor_eq_false hcursor)]
    constructor
    · rintro ⟨_, _, hselector, _, hpage, _, hsize, _⟩
      exact ⟨hselector, hpage, hsize⟩
    · rintro ⟨hselector, hpage, hsize⟩
      exact ⟨_, (), hselector, (), hpage, (), hsize, rfl⟩

theorem first_cursor_short {request : SyncViewRequest F} (hfirst : request.cursor = none) :
    ∀ text, request.cursor = some text → utf16Length text ≤ 8192 := by
  simp [hfirst]

/-! ### What the native read accepts -/

open surrealdb_rn_core.sync_view

theorem is_control_eq : is_control = isControl := by
  funext char
  rw [is_control, isControl, Bool.eq_iff_iff]
  simp only [Bool.or_eq_true, Bool.and_eq_true, decide_eq_true_eq]
  omega

theorem path_valid_iff {path : List String} :
    path_valid path = true ↔ PlainPath path ∧ ∀ segment ∈ path, segment.utf8ByteSize ≤ 128 := by
  have hreserved : ∀ segment : String, segment ∈ ["__proto__", "constructor", "prototype", "$surreal"] ↔
      segment ∈ ["__proto__", "prototype", "constructor", "$surreal"] := by
    intro segment
    simp only [List.mem_cons, List.not_mem_nil, or_false]
    tauto
  simp only [path_valid, Bool.and_eq_true, decide_eq_true_eq, List.all_eq_true, Bool.not_eq_true', is_control_eq,
    ne_eq, hreserved]
  constructor
  · rintro ⟨⟨hnonempty, hlength⟩, hsegments⟩
    refine ⟨⟨hnonempty, hlength, fun segment hsegment => ?_⟩, fun segment hsegment => ?_⟩
    · obtain ⟨⟨⟨hnonempty, _⟩, hunreserved⟩, hprintable⟩ := hsegments segment hsegment
      exact ⟨hnonempty, hunreserved, hprintable⟩
    · exact (hsegments segment hsegment).1.1.2
  · rintro ⟨⟨hnonempty, hlength, hsegments⟩, hsizes⟩
    refine ⟨⟨hnonempty, hlength⟩, fun segment hsegment => ?_⟩
    have hplain := hsegments segment hsegment
    exact ⟨⟨⟨hplain.nonempty, hsizes segment hsegment⟩, hplain.unreserved⟩, hplain.printable⟩

theorem wanted_valid_iff {value : Wanted} :
    wanted_valid (value.native : serde_json.Value F) = true ↔
      ∀ text, value = .string text → text.utf8ByteSize ≤ 1024 := by
  cases value <;> simp [Wanted.native, wanted_valid]

theorem validate_term_native_iff {value : Equation} {u : Unit} :
    validate_term (value.native : Selector F) = .ok u ↔ value.Passes String.utf8ByteSize := by
  simp only [Equation.native, validate_term, refuse_eq_ok_iff, not_not, path_valid_iff, wanted_valid_iff, Equation.Passes]

theorem validate_selector_native_iff {value : SyncViewSelector} {u : Unit} :
    validate_selector (value.native : Selector F) = .ok u ↔
      value.Counted ∧ ∀ equation ∈ value.equations, equation.Passes String.utf8ByteSize := by
  cases value with
  | all => simp [SyncViewSelector.native, validate_selector, SyncViewSelector.Counted, SyncViewSelector.equations]
  | eq value =>
    change validate_term (value.native : Selector F) = _ ↔ _
    simp [validate_term_native_iff, SyncViewSelector.Counted, SyncViewSelector.equations]
  | and terms =>
    simp only [SyncViewSelector.native, validate_selector, bind_eq_ok_iff, refuse_eq_ok_iff, forM_eq_ok_iff,
      List.forall_mem_map, validate_term_native_iff, SyncViewSelector.Counted, SyncViewSelector.equations,
      List.map_eq_nil_iff, List.length_map, not_or, gt_iff_lt, Nat.not_lt, ne_eq]
    constructor
    · rintro ⟨_, hcount, hterms⟩
      exact ⟨hcount, hterms⟩
    · rintro ⟨hcount, hterms⟩
      exact ⟨(), hcount, hterms⟩

theorem validate_selector_within (selector : Selector F) :
    Within .InvalidInput (fun _ => True) (validate_selector selector) := by
  have hterm : ∀ term : Selector F, Within .InvalidInput (fun _ => True) (validate_term term) := by
    intro term
    cases term with
    | All => exact .inr rfl
    | Eq path value => exact (Within.refuse _).mono fun _ _ => trivial
    | And terms => exact .inr rfl
  cases selector with
  | All => exact .ok trivial
  | Eq path value =>
    rw [validate_selector]
    exact hterm _
  | And terms => exact (Within.refuse _).bind fun _ _ => .forM hterm terms

theorem query_of_within (serde : Serde F) (request : Request F) :
    Within .InvalidInput (fun _ => True) (query_of serde request) := by
  cases request with
  | Count version selector => exact .ok trivial
  | Page version selector projection limit cursor =>
    exact (Within.refuse _).bind fun _ _ => (Within.refuse _).bind fun _ _ => .ok trivial

/-! The texts of a query are those that the caller writes. -/

theorem to_string_native (serde : Serde F) (value : Wanted) :
    serde_json.to_string serde.number value.native = value.stringify := by
  match value with
  | .null => rfl
  | .boolean true => rfl
  | .boolean false => rfl
  | .string text => rfl

theorem equation_to_string_native (serde : Serde F) (value : Equation) :
    Selector.to_string serde value.native = value.stringify := by
  rw [Equation.native, Selector.to_string_eq, to_string_native]
  with_unfolding_all rfl

theorem selector_to_string_native (serde : Serde F) (value : SyncViewSelector) :
    Selector.to_string serde value.native = value.stringify := by
  cases value with
  | all => with_unfolding_all rfl
  | eq value => exact equation_to_string_native serde value
  | and terms =>
    have hterms : Selector.to_string serde ∘ Equation.native = Equation.stringify :=
      funext fun term => equation_to_string_native serde term
    rw [SyncViewSelector.native, Selector.to_string_and, List.map_map, hterms]
    with_unfolding_all rfl

/-- Behind the checks, only a budget can refuse a first request. -/
theorem answer_ne_invalidInput [DecidableEq F] {serde : Serde F} (runtime : ClientRuntime (serde_json.Value F))
    (journal : ViewJournal) (token : String) {query : String} {request : Request F}
    (hquery : query_of serde request = .ok query) :
    (match request with
      | .Count _ selector => read_count runtime selector
      | .Page _ selector projection limit _ =>
        read_page serde runtime journal token query none selector projection limit) ≠ .error .InvalidInput := by
  intro hinvalid
  cases request with
  | Count version selector =>
    have hcharged : Charged (fun _ => True) (read_count runtime selector) :=
      (effective_charged runtime _).bind fun found _ => (count_rows_charged selector _ 0 found.2).bind
        fun _ _ => .ok trivial
    obtain ⟨_, hok, _⟩ | hbudget := hcharged
    · cases hok.symm.trans hinvalid
    · cases hbudget.symm.trans hinvalid
  | Page version selector projection limit cursor =>
    have hlimit : 1 ≤ limit := by
      simp only [query_of, Except.bind_eq_ok_iff, Except.refuse_eq_ok_iff, not_or, not_not] at hquery
      obtain ⟨_, ⟨hlimit, _⟩, _⟩ := hquery
      exact hlimit.1
    obtain ⟨_, hok, _⟩ | hbudget := read_page_charged serde runtime journal token query none selector projection hlimit
    · cases hok.symm.trans hinvalid
    · cases hbudget.symm.trans hinvalid

/-- Every check of the read but for the budgets refuses a first request as invalid input. -/
theorem read_ne_invalidInput_iff [DecidableEq F] {serde : Serde F} {runtime : ClientRuntime (serde_json.Value F)}
    {journal : ViewJournal} {token input : String} {request : Request F}
    (htexts : ¬ (runtime.state.partition_id.val.utf8ByteSize > 4096 ∨
      runtime.state.requested_scope.val.utf8ByteSize > 4096))
    (hreads : serde.request input = some request) (hversion : request.protocol_version = 1)
    (hfirst : ∀ query, after_cursor serde runtime journal query request = .ok (some none)) :
    read serde runtime journal token input ≠ .error .InvalidInput ↔
      input.utf8ByteSize ≤ MAX_INPUT ∧ validate_selector request.selector = .ok () ∧
        ∃ query, query_of serde request = .ok query ∧ query.utf8ByteSize ≤ 4096 := by
  unfold surrealdb_rn_core.sync_view.read
  rw [(Within.refuse _).bind_ne_iff]
  simp only [refuse_eq_ok_iff, gt_iff_lt, Nat.not_lt, exists_and_left]
  rw [Except.bind_of_ok (Except.okOr_eq_ok_iff.mpr hreads),
    Except.bind_of_ok (Except.refuse_of_not (not_not.mpr hversion)), (validate_selector_within _).bind_ne_iff,
    Except.bind_of_ok (Except.refuse_of_not htexts), (query_of_within serde request).bind_ne_iff]
  simp only [(Within.refuse _).bind_ne_iff, hfirst, Except.ok_bind, refuse_eq_ok_iff, Nat.not_lt]
  constructor
  · rintro ⟨hsize, _, _, hselector, query, hquery, _, hquery_le, _⟩
    exact ⟨hsize, hselector, query, hquery, hquery_le⟩
  · rintro ⟨hsize, hselector, query, hquery, hquery_le⟩
    exact ⟨hsize, (), (), hselector, query, hquery, (), hquery_le,
      answer_ne_invalidInput runtime journal token hquery⟩

/-- The limit of a page passes, and its text is the one that the caller wrote. -/
theorem limit_iff (hexact : engine.Exact) {limit : F64 F} {n : Int} (hinteger : integer engine limit = some n)
    (hrange : 0 ≤ n ∧ n < 2 ^ 32) :
    (1 ≤ UInt32.ofNat n.toNat ∧ UInt32.ofNat n.toNat ≤ 64 ↔ 1 ≤ n ∧ n ≤ 64) ∧
      (UInt32.ofNat n.toNat).toNat.repr = stringifyNumber engine limit := by
  obtain ⟨k, rfl⟩ := Int.eq_ofNat_of_zero_le hrange.1
  have hk : k < 2 ^ 32 := by omega
  have hnat : (UInt32.ofNat (k : Int).toNat).toNat = k := by
    rw [Int.toNat_natCast, UInt32.toNat_ofNat_of_lt' hk]
  refine ⟨?_, ?_⟩
  · rw [UInt32.le_iff_toNat_le, UInt32.le_iff_toNat_le, hnat]
    have hone : (1 : UInt32).toNat = 1 := rfl
    have hmost : (64 : UInt32).toNat = 64 := rfl
    omega
  · rw [hnat]
    match limit with
    | .finite value => exact (hexact.text value k hinteger (by omega)).symm
    | .inf => cases hinteger
    | .neg_inf => cases hinteger
    | .NaN => cases hinteger

theorem query_of_page_iff {serde : Serde F} (hexact : engine.Exact) {value : SyncViewSelector}
    {projection : List (List String)} {limit : F64 F} {cursor : Option (Option String)} {n : Int}
    (hinteger : integer engine limit = some n) (hrange : 0 ≤ n ∧ n < 2 ^ 32) {query : String} :
    query_of serde (.Page 1 value.native projection (.ofNat n.toNat) cursor.join) = .ok query ↔
      ((SyncViewRequest.page value projection limit cursor).Counted engine ∧
        ∀ path ∈ projection, PlainPath path ∧ ∀ segment ∈ path, segment.utf8ByteSize ≤ 128) ∧
      query = (SyncViewRequest.page value projection limit cursor).query engine := by
  obtain ⟨hlimit, htext⟩ := limit_iff hexact hinteger hrange
  have hcounted : (∃ n, integer engine limit = some n ∧ 1 ≤ n ∧ n ≤ 64) ↔ 1 ≤ n ∧ n ≤ 64 := by simp [hinteger]
  have hquery : query_to_string serde value.native projection (.ofNat n.toNat) =
      (SyncViewRequest.page value projection limit cursor).query engine := by
    unfold query_to_string SyncViewRequest.query
    rw [selector_to_string_native, htext]
    rfl
  have hpaths : (¬ ∃ path ∈ projection, ¬ path_valid path = true) ↔
      ∀ path ∈ projection, PlainPath path ∧ ∀ segment ∈ path, segment.utf8ByteSize ≤ 128 := by
    constructor
    · intro hnone path hpath
      rw [← path_valid_iff]
      by_contra hinvalid
      exact hnone ⟨path, hpath, hinvalid⟩
    · rintro hall ⟨path, hpath, hinvalid⟩
      exact hinvalid (path_valid_iff.mpr (hall path hpath))
  simp only [query_of, bind_eq_ok_iff, refuse_eq_ok_iff, not_or, not_not, hpaths, gt_iff_lt, Nat.not_lt, hlimit, hquery,
    ok.injEq, SyncViewRequest.Counted, hcounted]
  constructor
  · rintro ⟨_, ⟨hlimit, hnonempty, hbound, hpaths⟩, _, hnodup, rfl⟩
    exact ⟨⟨⟨hlimit, hnonempty, hbound, hnodup⟩, hpaths⟩, rfl⟩
  · rintro ⟨⟨⟨hlimit, hnonempty, hbound, hnodup⟩, hpaths⟩, rfl⟩
    exact ⟨(), ⟨hlimit, hnonempty, hbound, hpaths⟩, (), hnodup, rfl⟩

/-- A first request is not refused as invalid exactly when it has the shape and its texts are short enough in UTF-8. -/
theorem read_stringify_iff [DecidableEq F] {serde : Serde F} {runtime : ClientRuntime (serde_json.Value F)}
    {journal : ViewJournal} {token : String} {request : SyncViewRequest F} (hexact : engine.Exact)
    (hfirst : request.cursor = none) (hreads : serde.request (request.stringify engine) = request.native engine)
    (htexts : ¬ (runtime.state.partition_id.val.utf8ByteSize > 4096 ∨
      runtime.state.requested_scope.val.utf8ByteSize > 4096)) :
    read serde runtime journal token (request.stringify engine) ≠ .error .InvalidInput ↔
      (request.Shaped engine ∧ request.Within engine String.utf8ByteSize) ∧
        (request.query engine).utf8ByteSize ≤ 4096 := by
  rw [shaped_and_within_iff]
  have hrefused : request.native engine = none →
      read serde runtime journal token (request.stringify engine) = .error .InvalidInput := by
    intro hnone
    unfold surrealdb_rn_core.sync_view.read refuse
    split
    · rfl
    · rw [hreads, hnone]
      rfl
  cases request with
  | count selector =>
    rw [read_ne_invalidInput_iff htexts hreads rfl fun _ => rfl]
    simp only [SyncViewRequest.selector, SyncViewRequest.Counted, SyncViewRequest.projection, SyncViewRequest.query,
      Request.selector, validate_selector_native_iff, query_of, ok.injEq, exists_eq_left']
    constructor
    · rintro ⟨hsize, hselector, hquery⟩
      exact ⟨⟨hselector, ⟨trivial, by simp⟩, hsize⟩, hquery⟩
    · rintro ⟨⟨hselector, _, hsize⟩, hquery⟩
      exact ⟨hsize, hselector, hquery⟩
  | page selector projection limit cursor =>
    have hcounted : (SyncViewRequest.page selector projection limit cursor).Counted engine →
        ∃ n, integer engine limit = some n ∧ 1 ≤ n ∧ n ≤ 64 := fun hcounted => hcounted.1
    cases hinteger : integer engine limit with
    | none =>
      refine iff_of_false (fun hread => hread (hrefused ?_)) fun hholds => ?_
      · simp [SyncViewRequest.native, hinteger]
      · obtain ⟨n, hn, _⟩ := hcounted hholds.1.2.1.1
        rw [hinteger] at hn
        cases hn
    | some n =>
      by_cases hrange : 0 ≤ n ∧ n < 2 ^ 32
      · have hnative : (SyncViewRequest.page selector projection limit cursor).native engine =
            some (.Page 1 selector.native projection (.ofNat n.toNat) none) := by
          change cursor.join = none at hfirst
          simp only [SyncViewRequest.native, hinteger, if_pos hrange, hfirst]
        rw [hnative] at hreads
        have hpage := fun query => @query_of_page_iff _ _ serde hexact selector projection limit cursor n hinteger
          hrange query
        change cursor.join = none at hfirst
        rw [hfirst] at hpage
        rw [read_ne_invalidInput_iff htexts hreads rfl fun _ => rfl]
        simp only [Request.selector, validate_selector_native_iff, hpage, SyncViewRequest.selector,
          SyncViewRequest.projection]
        constructor
        · rintro ⟨hsize, hselector, query, ⟨hprojection, rfl⟩, hquery⟩
          exact ⟨⟨hselector, hprojection, hsize⟩, hquery⟩
        · rintro ⟨⟨hselector, hprojection, hsize⟩, hquery⟩
          exact ⟨hsize, hselector, _, ⟨hprojection, rfl⟩, hquery⟩
      · refine iff_of_false (fun hread => hread (hrefused ?_)) fun hholds => ?_
        · simp only [SyncViewRequest.native, hinteger, if_neg hrange]
        · obtain ⟨m, hm, hlower, hupper⟩ := hcounted hholds.1.2.1.1
          rw [hinteger] at hm
          cases hm
          omega

/-- Both sides agree on a first request exactly when no text of it is short enough in UTF-16 and too long in UTF-8. -/
theorem requests_agree_iff [DecidableEq F] {serde : Serde F} {runtime : ClientRuntime (serde_json.Value F)}
    {journal : ViewJournal} {token : String} {request : SyncViewRequest F} (hexact : engine.Exact)
    (hfirst : request.cursor = none) (hreads : serde.request (request.stringify engine) = request.native engine)
    (htexts : ¬ (runtime.state.partition_id.val.utf8ByteSize > 4096 ∨
      runtime.state.requested_scope.val.utf8ByteSize > 4096)) :
    ((∃ text, encodeSyncViewRequest engine request = .ok text) ↔
        read serde runtime journal token (request.stringify engine) ≠ .error .InvalidInput) ↔
      (request.Shaped engine → request.Within engine utf16Length →
        request.Within engine String.utf8ByteSize ∧ (request.query engine).utf8ByteSize ≤ 4096) := by
  rw [exists_encodeSyncViewRequest_iff (first_cursor_short hfirst), read_stringify_iff hexact hfirst hreads htexts]
  have hmono : request.Within engine String.utf8ByteSize → request.Within engine utf16Length := .mono utf16Length_le
  tauto

end react_native_surrealdb.sync_view
