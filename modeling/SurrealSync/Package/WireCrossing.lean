import Mathlib.Data.List.Dedup
import SurrealSync.Package.Wire

open Except

namespace react_native_surrealdb.wire

open surrealdb.types surrealdb_rn_core.wire

variable {F : Type}

section Modes

variable [DecidableEq F] (doubles : Doubles F)

theorem copyList_eq (values : List (serde_json.Value F)) :
    copyList doubles values = values.mapM (decodeValueCopy doubles) := by
  induction values with
  | nil => rfl
  | cons value values ih => rw [copyList, ih, List.mapM_cons]

theorem copyEntries_eq (entries : List (String × serde_json.Value F)) :
    copyEntries doubles entries = entries.mapM fun entry => do return (entry.1, ← decodeValueCopy doubles entry.2) := by
  induction entries with
  | nil => rfl
  | cons entry entries ih => simp [copyEntries, ih, List.mapM_cons]

theorem overwriteList_eq {values : List (serde_json.Value F)}
    (hsame : ∀ value ∈ values, decodeValueInPlace doubles value = decodeValueCopy doubles value)
    (decoded : List (SurrealValue F)) :
    overwriteList doubles decoded values = do return decoded ++ (← copyList doubles values) := by
  induction values generalizing decoded with
  | nil => simp [overwriteList, copyList, pure, Except.pure]
  | cons value values ih =>
    obtain ⟨hvalue, hvalues⟩ := List.forall_mem_cons.mp hsame
    simp [overwriteList, copyList, hvalue, ih hvalues]

theorem overwriteEntries_eq {entries : List (String × serde_json.Value F)}
    (hsame : ∀ entry ∈ entries, decodeValueInPlace doubles entry.2 = decodeValueCopy doubles entry.2)
    (decoded : List (String × SurrealValue F)) :
    overwriteEntries doubles decoded entries = do return decoded ++ (← copyEntries doubles entries) := by
  induction entries generalizing decoded with
  | nil => simp [overwriteEntries, copyEntries, pure, Except.pure]
  | cons entry entries ih =>
    obtain ⟨hentry, hentries⟩ := List.forall_mem_cons.mp hsame
    simp [overwriteEntries, copyEntries, hentry, ih hentries]

theorem mapList_eq {values : List (serde_json.Value F)}
    (hsame : ∀ value ∈ values, decodeValueInPlace doubles value = decodeValueCopy doubles value) :
    mapList doubles values = copyList doubles values := by
  induction values with
  | nil => rfl
  | cons value values ih =>
    obtain ⟨hvalue, hvalues⟩ := List.forall_mem_cons.mp hsame
    rw [mapList, copyList, hvalue, ih hvalues]

theorem inPlaceSet_eq {entries : List (String × serde_json.Value F)}
    (hsame : ∀ entry ∈ entries, ∀ values, entry.2 = .Array values → mapList doubles values = copyList doubles values) :
    inPlaceSet doubles entries = copySet doubles entries := by
  induction entries with
  | nil => rfl
  | cons entry entries ih =>
    obtain ⟨hentry, hentries⟩ := List.forall_mem_cons.mp hsame
    obtain ⟨key, value⟩ := entry
    cases value with
    | Array values => rw [inPlaceSet, copySet, hentry values rfl, ih hentries]
    | _ => simp only [inPlaceSet, copySet, ih hentries]

/-- Both modes give the same tree or the same error, whatever is decoded. -/
theorem decodeValueInPlace_eq_copy (value : serde_json.Value F) :
    decodeValueInPlace doubles value = decodeValueCopy doubles value := by
  -- A set is decoded below its object, so that the induction also carries the elements of an array.
  suffices hboth : decodeValueInPlace doubles value = decodeValueCopy doubles value ∧
      ∀ values, value = .Array values → mapList doubles values = copyList doubles values from hboth.1
  induction value with
  | Null => exact ⟨rfl, fun _ heq => nomatch heq⟩
  | Bool value => exact ⟨rfl, fun _ heq => nomatch heq⟩
  | Number value => exact ⟨rfl, fun _ heq => nomatch heq⟩
  | String value => exact ⟨rfl, fun _ heq => nomatch heq⟩
  | Array values ih =>
    constructor
    · simp [decodeValueInPlace, decodeValueCopy, overwriteList_eq doubles (fun value hvalue => (ih value hvalue).1) []]
    · rintro _ ⟨⟩
      exact mapList_eq doubles fun value hvalue => (ih value hvalue).1
  | Object entries ih =>
    refine ⟨?_, fun _ heq => nomatch heq⟩
    rw [decodeValueInPlace, decodeValueCopy, inPlaceSet_eq doubles fun entry hentry => (ih entry hentry).2]
    simp [overwriteEntries_eq doubles (fun entry hentry => (ih entry hentry).1) []]

theorem decodeSurrealValue_eq_copy (value : serde_json.Value F) (mode : SurrealDecodeMode) :
    decodeSurrealValue doubles value mode = decodeValueCopy doubles value := by
  cases mode with
  | copy => rfl
  | inPlace => exact decodeValueInPlace_eq_copy doubles value

end Modes

/-! ### Sets -/

section Sets

variable [DecidableEq F]

theorem eq_of_sameValueZero {a b : SurrealValue F} (hsame : sameValueZero a b = true) : a = b := by
  unfold sameValueZero at hsame
  split at hsame <;> simp_all

/-- One round of `new Set`. -/
def addMember (members : List (SurrealValue F)) (value : SurrealValue F) : List (SurrealValue F) :=
  if members.any (sameValueZero value) then members else members ++ [value]

theorem foldl_addMember_of_nodup {members values : List (SurrealValue F)} (hnodup : (members ++ values).Nodup) :
    values.foldl addMember members = members ++ values := by
  induction values generalizing members with
  | nil => simp
  | cons value values ih =>
    have hfresh : members.any (sameValueZero value) = false := by
      rw [List.any_eq_false]
      intro member hmember hsame
      have heq := eq_of_sameValueZero hsame
      subst heq
      exact (List.nodup_append.mp hnodup).2.2 value hmember value List.mem_cons_self rfl
    rw [List.append_cons] at hnodup ⊢
    rw [List.foldl_cons, addMember, hfresh, if_neg (by simp), ih hnodup]

theorem foldl_addMember_sublist (members values : List (SurrealValue F)) :
    (values.foldl addMember members).Sublist (members ++ values) := by
  induction values generalizing members with
  | nil => simp
  | cons value values ih =>
    refine (ih (addMember members value)).trans ?_
    unfold addMember
    split
    · exact (List.Sublist.refl _).append (List.sublist_cons_self _ _)
    · rw [List.append_assoc, List.singleton_append]

theorem newSet_of_nodup {values : List (SurrealValue F)} (hnodup : values.Nodup) : newSet values = values := by
  exact foldl_addMember_of_nodup hnodup

/-- A set with as many members as there were elements has all of them. -/
theorem eq_of_length_newSet {values : List (SurrealValue F)} (hlength : (newSet values).length = values.length) :
    newSet values = values :=
  (foldl_addMember_sublist [] values).eq_of_length hlength

end Sets

/-! ### Integers -/

theorem trim_of_forall {text : List Char} (hplain : ∀ char ∈ text, isWhiteSpace char = false) : trim text = text := by
  have hkept : ∀ {text : List Char}, (∀ char ∈ text, isWhiteSpace char = false) → text.dropWhile isWhiteSpace = text := by
    intro text hplain
    cases text with
    | nil => rfl
    | cons char text => rw [List.dropWhile_cons_of_neg (by simp [hplain char List.mem_cons_self])]
  unfold trim
  rw [hkept hplain, hkept fun char hchar => hplain char (List.mem_reverse.mp hchar), List.reverse_reverse]

theorem isWhiteSpace_of_isDigit {char : Char} (hdigit : char.isDigit) : isWhiteSpace char = false := by
  simp only [Char.isDigit, Bool.and_eq_true, decide_eq_true_eq, UInt32.le_iff_toNat_le] at hdigit
  obtain ⟨hlower, hupper⟩ := hdigit
  change 48 ≤ char.toNat at hlower
  change char.toNat ≤ 57 at hupper
  simp only [isWhiteSpace, List.mem_cons, List.not_mem_nil, or_false, decide_eq_false_iff_not]
  omega

theorem isWhiteSpace_of_mem_toDigits {n : Nat} {char : Char} (hchar : char ∈ Nat.toDigits 10 n) :
    isWhiteSpace char = false :=
  isWhiteSpace_of_isDigit (Nat.isDigit_of_mem_toDigits (by omega) (by omega) hchar)

theorem BigInt_of_signedInteger {text : String} {n : Int} (htrim : trim text.toList = text.toList)
    (hvalue : signedInteger text.toList = some n) : BigInt text = some n := by
  unfold BigInt
  rw [htrim]
  split
  · rename_i hempty
    rw [hempty] at hvalue
    simp [signedInteger, Decimal.digits] at hvalue
  · rw [hvalue, Option.some_or]

/-- An integer is read back from its decimal text. -/
theorem BigInt_repr (n : Int) : BigInt n.repr = some n := by
  cases n with
  | ofNat m =>
    rw [show (Int.ofNat m).repr = m.repr from rfl]
    apply BigInt_of_signedInteger
    · rw [Nat.toList_repr]
      exact trim_of_forall fun char => isWhiteSpace_of_mem_toDigits
    · rw [Nat.toList_repr]
      unfold signedInteger
      split
      · rename_i rest heq
        exact absurd heq (Decimal.head_toDigits_ne (by decide) m rest)
      · rename_i rest heq
        exact absurd heq (Decimal.head_toDigits_ne (by decide) m rest)
      · rw [Decimal.digits_toDigits]
        rfl
  | negSucc m =>
    rw [show (Int.negSucc m).repr = "-" ++ (m + 1).repr from rfl]
    apply BigInt_of_signedInteger
    · rw [String.toList_append, Nat.toList_repr]
      apply trim_of_forall
      intro char hchar
      rcases List.mem_append.mp hchar with hsign | hdigit
      · rw [show "-".toList = ['-'] from rfl, List.mem_singleton] at hsign
        subst hsign
        decide
      · exact isWhiteSpace_of_mem_toDigits hdigit
    · rw [String.toList_append, Nat.toList_repr]
      change signedInteger ('-' :: Nat.toDigits 10 (m + 1)) = _
      rw [signedInteger, Decimal.digits_toDigits]
      rfl

/-! ### The values on the other side -/

variable {T : Types}

section Shown

variable (library : Library T)

mutual

/-- What a value of the database is to be in JavaScript. -/
def surrealValue : Value T → SurrealValue T.Finite
  | .None => .NONE
  | .Null => .null
  | .Bool value => .boolean value
  | .Number (.Int value) => .bigint value.toInt
  | .Number (.Float value) => .number value
  | .Number (.Decimal value) => .SurrealDecimal (library.decimal_to_string value)
  | .String value => .string value
  | .Bytes value => .Uint8Array value
  | .Duration value => .SurrealSqlValue .duration (library.duration_to_sql value)
  | .Datetime value => .SurrealSqlValue .datetime (library.datetime_to_sql value)
  | .Uuid value => .SurrealUuid (library.uuid_to_string value)
  | .Geometry value => .SurrealSqlValue .geometry (library.geometry_to_sql value)
  | .Table value => .SurrealSqlValue .table value
  | .RecordId value => .SurrealRecordId (library.record_to_sql value)
  | .File value => .SurrealSqlValue .file (library.file_to_sql value)
  | .Range value => .SurrealSqlValue .range (library.range_to_sql value)
  | .Regex value => .SurrealSqlValue .regex (library.regex_to_sql value)
  | .Array values => .array (surrealList values)
  | .Object entries => .object (surrealEntries entries)
  | .Set values => .Set (surrealList values)

def surrealList : List (Value T) → List (SurrealValue T.Finite)
  | [] => []
  | value :: values => surrealValue value :: surrealList values

def surrealEntries : List (String × Value T) → List (String × SurrealValue T.Finite)
  | [] => []
  | (key, value) :: entries => (key, surrealValue value) :: surrealEntries entries

end

theorem surrealList_eq (values : List (Value T)) : surrealList library values = values.map (surrealValue library) := by
  induction values with
  | nil => rfl
  | cons value values ih => rw [surrealList, ih, List.map_cons]

theorem surrealEntries_eq (entries : List (String × Value T)) :
    surrealEntries library entries = entries.map fun entry => (entry.1, surrealValue library entry.2) := by
  induction entries with
  | nil => rfl
  | cons entry entries ih => rw [surrealEntries, ih, List.map_cons]

end Shown

/-- What is relied on of the other libraries and of the numbers of both languages. -/
structure Faithful (platform : Platform T) (doubles : Doubles T.Finite) (simple : T.RecordId → Prop)
    (integral : T.Finite → Prop) : Prop where
  decimal : ∀ value, platform.decimal_from_str (platform.decimal_to_string value) = some value
  uuid : ∀ value, platform.uuid_from_str (platform.uuid_to_string value) = some value
  duration : Function.Injective platform.duration_to_sql
  datetime : Function.Injective platform.datetime_to_sql
  geometry : Function.Injective platform.geometry_to_sql
  file : Function.Injective platform.file_to_sql
  range : Function.Injective platform.range_to_sql
  regex : Function.Injective platform.regex_to_sql
  record : Function.Injective platform.record_to_sql
  parse_simple : ∀ value, simple value → platform.parse_simple (platform.record_to_sql value) = some value
  set_from : ∀ values, (platform.set_from values).Nodup
  base64_encode : ∀ bytes, platform.base64.encode bytes = String.ofList (encodeBase64 bytes)
  base64_decode : ∀ bytes, platform.base64.decode (platform.base64.encode bytes) = some bytes
  parse : ∀ value, doubles.parse (.Float value) = value
  stringify : ∀ value, ¬ integral value → doubles.stringify value = .Float value

/-- No infinite number, and no object with a key that is read as a tag. -/
def Crossable (value : Value T) : Prop :=
  ∀ part ∈ value.parts, match part with
    | .Number (.Float .inf) => False
    | .Number (.Float .neg_inf) => False
    | .Object entries => TAG ∉ entries.map Prod.fst
    | _ => True

/-- No kind that is sent as SQL, no record id outside the simple form and no finite float of integral value. -/
def Returnable (simple : T.RecordId → Prop) (integral : T.Finite → Prop) (value : Value T) : Prop :=
  ∀ part ∈ value.parts, match part with
    | .Duration _ | .Datetime _ | .Geometry _ | .Table _ | .File _ | .Range _ | .Regex _ => False
    | .RecordId value => simple value
    | .Number (.Float (.finite value)) => ¬ integral value
    | _ => True

variable {platform : Platform T} {doubles : Doubles T.Finite} {simple : T.RecordId → Prop}
  {integral : T.Finite → Prop}

/-- Two lists with the same images are the same where the function is injective at the elements of the first. -/
theorem eq_of_map_eq {A B : Type} {f : A → B} {l m : List A} (hinjective : ∀ a ∈ l, ∀ b, f a = f b → a = b)
    (heq : l.map f = m.map f) : l = m := by
  induction l generalizing m with
  | nil => exact (List.map_eq_nil_iff.mp heq.symm).symm
  | cons a l ih =>
    cases m with
    | nil => cases heq
    | cons b m =>
      obtain ⟨hhead, htail⟩ := List.cons.inj heq
      obtain ⟨ha, hl⟩ := List.forall_mem_cons.mp hinjective
      rw [ha b hhead, ih hl htail]

theorem injective_of_inverse {A : Type} {to_string : A → String} {from_str : String → Option A}
    (hinverse : ∀ value, from_str (to_string value) = some value) : Function.Injective to_string := by
  intro a b heq
  have ha := hinverse a
  rw [heq, hinverse, Option.some.injEq] at ha
  exact ha.symm

theorem surrealValue_injective (hfaithful : Faithful platform doubles simple integral) :
    Function.Injective (surrealValue platform.toLibrary) := by
  intro v w heq
  induction v generalizing w
  case Array values ih =>
    cases w using Value.induct with
    | Array others =>
      simp only [surrealValue, surrealList_eq, SurrealValue.array.injEq] at heq
      rw [eq_of_map_eq (fun value hvalue other hsame => ih value hvalue hsame) heq]
    | _ => simp [surrealValue] at heq
  case Set values ih =>
    cases w using Value.induct with
    | Set others =>
      simp only [surrealValue, surrealList_eq, SurrealValue.Set.injEq] at heq
      rw [eq_of_map_eq (fun value hvalue other hsame => ih value hvalue hsame) heq]
    | _ => simp [surrealValue] at heq
  case Object entries ih =>
    cases w using Value.induct with
    | Object others =>
      simp only [surrealValue, surrealEntries_eq, SurrealValue.object.injEq] at heq
      refine congrArg Value.Object (eq_of_map_eq (fun entry hentry other hsame => ?_) heq)
      exact Prod.ext (Prod.mk.inj hsame).1 (ih entry hentry (Prod.mk.inj hsame).2)
    | _ => simp [surrealValue] at heq
  all_goals
    cases w using Value.induct <;>
      simp_all [surrealValue, (injective_of_inverse hfaithful.decimal).eq_iff, (injective_of_inverse hfaithful.uuid).eq_iff,
        hfaithful.duration.eq_iff, hfaithful.datetime.eq_iff, hfaithful.geometry.eq_iff, hfaithful.file.eq_iff,
        hfaithful.range.eq_iff, hfaithful.regex.eq_iff, hfaithful.record.eq_iff, Int64.toInt_inj]

/-! ### Crossing -/

section Decoded

variable [DecidableEq T.Finite]

/-- No tagged value is a plain object. -/
theorem decodeTagged_ne_object {tag : serde_json.Value T.Finite} {value : List (String × serde_json.Value T.Finite)}
    {nested : Option (Except (WireError T.Finite) (List (SurrealValue T.Finite)))}
    {entries : List (String × SurrealValue T.Finite)} :
    decodeTagged doubles tag value nested ≠ .ok (.object entries) := by
  intro hdecode
  unfold decodeTagged at hdecode
  split at hdecode
  case h_3 =>
    obtain ⟨text, -, hnumber⟩ := bind_eq_ok_iff.mp hdecode
    split at hnumber <;> cases hnumber
  all_goals simp [bind_eq_ok_iff, pure, Except.pure] at hdecode

/-- The names Rust gives to the infinite numbers are not those of JavaScript. -/
theorem Number_names (doubles : Doubles F) :
    Number doubles "inf" = .NaN ∧ Number doubles "-inf" = .NaN ∧ Number doubles "NaN" = .NaN :=
  ⟨rfl, rfl, rfl⟩

theorem decodeValueCopy_encode_iff (hfaithful : Faithful platform doubles simple integral) {value : Value T}
    (hformed : value.WellFormed platform.toLibrary) :
    decodeValueCopy doubles (encode_value platform value) = .ok (surrealValue platform.toLibrary value) ↔
      Crossable value := by
  induction value with
  | Array values ih =>
    obtain ⟨-, hvalues⟩ := forall_parts_array.mp hformed
    rw [encode_value, decodeValueCopy, encode_list_eq, copyList_eq]
    simp only [surrealValue, surrealList_eq, Crossable, forall_parts_array, true_and, bind_eq_ok_iff, pure, Except.pure,
      ok.injEq, SurrealValue.array.injEq, exists_eq_right, mapM_map_eq_ok_iff]
    exact forall₂_congr fun value hvalue => ih value hvalue (hvalues value hvalue)
  | Object entries ih =>
    obtain ⟨-, hentries⟩ := forall_parts_object.mp hformed
    rw [encode_value, decodeValueCopy, encode_entries_eq, Entries.lookup_map_snd]
    by_cases htag : TAG ∈ entries.map Prod.fst
    · obtain ⟨tag, hlookup⟩ : ∃ tag, entries.lookup TAG = some tag := by
        rw [← Option.isSome_iff_exists, ← Option.ne_none_iff_isSome, ne_eq, Entries.lookup_eq_none_iff_not_mem, not_not]
        exact htag
      rw [hlookup, Option.map_some, surrealValue]
      refine iff_of_false decodeTagged_ne_object fun hcrossable => ?_
      exact (forall_parts_object.mp hcrossable).1 htag
    · rw [Entries.lookup_eq_none_iff_not_mem.mpr htag, Option.map_none, copyEntries_eq]
      simp only [surrealValue, surrealEntries_eq, Crossable, forall_parts_object, htag, not_false_eq_true, true_and,
        bind_eq_ok_iff, pure, Except.pure, ok.injEq, SurrealValue.object.injEq, exists_eq_right, mapM_map_eq_ok_iff,
        Prod.mk.injEq]
      exact forall₂_congr fun entry hentry => ih entry hentry (hentries entry hentry)
  | Set values ih =>
    obtain ⟨hset, hvalues⟩ := forall_parts_set.mp hformed
    have hnodup : (values.map (surrealValue platform.toLibrary)).Nodup := by
      apply List.Nodup.map (surrealValue_injective hfaithful)
      rw [← hset]
      exact hfaithful.set_from values
    have hnested : copySet doubles [(surrealdb_rn_core.wire.TAG, .String "set"), ("values",
        .Array (encode_list platform values))] = some (copyList doubles (encode_list platform values)) := rfl
    have htagged : decodeValueCopy doubles (encode_value platform (.Set values)) = (do
        return .Set (newSet (← copyList doubles (encode_list platform values)))) := by
      rw [encode_value, decodeValueCopy, hnested]
      rfl
    rw [htagged, surrealValue, surrealList_eq, encode_list_eq, copyList_eq]
    simp only [Crossable, forall_parts_set, true_and, bind_eq_ok_iff, pure, Except.pure, ok.injEq,
      SurrealValue.Set.injEq]
    have helements : (∃ decoded, (values.map (encode_value platform)).mapM (decodeValueCopy doubles) = .ok decoded ∧
        newSet decoded = values.map (surrealValue platform.toLibrary)) ↔
        ∀ value ∈ values, decodeValueCopy doubles (encode_value platform value) =
          .ok (surrealValue platform.toLibrary value) := by
      rw [← mapM_map_eq_ok_iff]
      constructor
      · rintro ⟨decoded, hdecoded, hmembers⟩
        have hlength := (mapM_eq_ok_iff.mp hdecoded).length_eq
        rw [List.length_map] at hlength
        have hall := @eq_of_length_newSet _ _ decoded (by rw [hmembers, List.length_map, hlength])
        rw [hdecoded, ← hmembers, hall]
      · intro hdecoded
        exact ⟨_, hdecoded, newSet_of_nodup hnodup⟩
    rw [helements]
    exact forall₂_congr fun value hvalue => ih value hvalue (hvalues value hvalue)
  | Int value =>
    have hread : BigInt value.to_string = some value.toInt := BigInt_repr value.toInt
    simp [encode_value, tagged, decodeValueCopy, surrealValue, surrealdb_rn_core.wire.TAG, TAG, List.lookup_cons, decodeTagged,
      requireString, Crossable, Value.parts, hread, okOr, pure, Except.pure]
  | Bytes value =>
    simp [encode_value, decodeValueCopy, surrealValue, surrealdb_rn_core.wire.TAG, TAG, List.lookup_cons, decodeTagged,
      requireString, Crossable, Value.parts, hfaithful.base64_encode, decodeBase64_encodeBase64, okOr, pure, Except.pure]
  | Float value =>
    cases value with
    | finite value => simp [encode_value, decodeValueCopy, surrealValue, hfaithful.parse, Crossable, Value.parts]
    | inf =>
      refine iff_of_false ?_ fun hcrossable => hcrossable _ List.mem_cons_self
      simp [encode_value, f64.non_finite_to_string, tagged, decodeValueCopy, surrealdb_rn_core.wire.TAG, TAG,
        List.lookup_cons, decodeTagged, requireString, (Number_names doubles).1, throw, throwThe, MonadExceptOf.throw]
    | neg_inf =>
      refine iff_of_false ?_ fun hcrossable => hcrossable _ List.mem_cons_self
      simp [encode_value, f64.non_finite_to_string, tagged, decodeValueCopy, surrealdb_rn_core.wire.TAG, TAG,
        List.lookup_cons, decodeTagged, requireString, (Number_names doubles).2.1, throw, throwThe, MonadExceptOf.throw]
    | NaN =>
      simp [encode_value, f64.non_finite_to_string, tagged, decodeValueCopy, surrealdb_rn_core.wire.TAG, TAG,
        List.lookup_cons, decodeTagged, requireString, (Number_names doubles).2.2, surrealValue, Crossable, Value.parts,
        pure, Except.pure]
  | _ =>
    simp [encode_value, tagged, decodeValueCopy, surrealValue, surrealdb_rn_core.wire.TAG, TAG, List.lookup_cons, decodeTagged,
      requireString, Crossable, Value.parts, Functor.map, Except.map]

end Decoded

/-! ### Returning -/

theorem encodeList_eq (doubles : Doubles F) (values : List (SurrealValue F)) :
    encodeList doubles values = values.mapM (encodeValue doubles) := by
  induction values with
  | nil => rfl
  | cons value values ih => rw [encodeList, ih, List.mapM_cons]

theorem encodeEntries_eq (doubles : Doubles F) (entries : List (String × SurrealValue F)) :
    encodeEntries doubles entries = entries.mapM fun entry => do return (entry.1, ← encodeValue doubles entry.2) := by
  induction entries with
  | nil => rfl
  | cons entry entries ih => simp [encodeEntries, ih, List.mapM_cons]

/-- An encoded object has the keys of the object. -/
theorem keys_of_encodeEntries {doubles : Doubles F} {entries : List (String × SurrealValue F)}
    {encoded : List (String × serde_json.Value F)} (hencode : encodeEntries doubles entries = .ok encoded) :
    encoded.map Prod.fst = entries.map Prod.fst := by
  induction entries generalizing encoded with
  | nil =>
    cases hencode
    rfl
  | cons entry entries ih =>
    simp only [encodeEntries, bind_eq_ok_iff, pure, Except.pure, ok.injEq] at hencode
    obtain ⟨value, -, rest, hrest, rfl⟩ := hencode
    rw [List.map_cons, List.map_cons, ih hrest]

theorem exists_returned_list {values : List (Value T)} {depth : Nat}
    (hreturned : ∀ value ∈ values, ∃ wire, encodeValue doubles (surrealValue platform.toLibrary value) = .ok wire ∧
      from_wire_value_at_depth platform depth wire = .ok value) :
    ∃ wires, encodeList doubles (surrealList platform.toLibrary values) = .ok wires ∧
      from_wire_list platform depth wires = .ok values := by
  obtain ⟨wires, hencode, hdecode⟩ := @exists_mapM_of_forall _ _ _ _
    (fun value => encodeValue doubles (surrealValue platform.toLibrary value))
    (from_wire_value_at_depth platform depth) values hreturned
  refine ⟨wires, ?_, ?_⟩
  · rw [surrealList_eq, encodeList_eq, List.mapM_map]
    exact hencode
  · rw [from_wire_list_eq]
    exact hdecode

theorem exists_returned_entries {entries : List (String × Value T)} {depth : Nat}
    (hreturned : ∀ entry ∈ entries, ∃ wire, encodeValue doubles (surrealValue platform.toLibrary entry.2) = .ok wire ∧
      from_wire_value_at_depth platform depth wire = .ok entry.2) :
    ∃ wires, encodeEntries doubles (surrealEntries platform.toLibrary entries) = .ok wires ∧
      from_wire_entries platform depth wires = .ok entries := by
  obtain ⟨wires, hencode, hdecode⟩ := @exists_mapM_of_forall (WireError T.Finite) SurrealRnError _ _
    (fun entry => do return (entry.1, ← encodeValue doubles (surrealValue platform.toLibrary entry.2)))
    (fun entry => do return (entry.1, ← from_wire_value_at_depth platform depth entry.2)) entries (by
      intro entry hentry
      obtain ⟨wire, hencode, hdecode⟩ := hreturned entry hentry
      exact ⟨(entry.1, wire), by simp [hencode], by simp [hdecode]⟩)
  refine ⟨wires, ?_, ?_⟩
  · rw [surrealEntries_eq, encodeEntries_eq, List.mapM_map]
    exact hencode
  · rw [from_wire_entries_eq]
    exact hdecode

/-- The wire form of a string under a tag, as the other side reads it. -/
theorem from_wire_taggedString {depth : Nat} (hroom : ¬ depth > MAX_WIRE_DEPTH) (kind text : String) :
    from_wire_value_at_depth platform depth (taggedString kind text) =
      decode_tagged_value platform (.String kind) [(TAG, .String kind), ("value", .String text)] none := by
  rw [taggedString, from_wire_value_at_depth, if_neg hroom]
  rfl

theorem required_string_taggedString (kind text : String) :
    required_string [(TAG, serde_json.Value.String (F := F) kind), ("value", .String text)] "value" = .ok text := rfl

theorem from_str_NaN (literal : String → Option (F64 F)) : f64.from_str literal "NaN" = some .NaN := rfl

/-- What JavaScript was given it sends back, at any depth that leaves room for the value. -/
theorem exists_returned (hfaithful : Faithful platform doubles simple integral) {value : Value T}
    (hformed : value.WellFormed platform.toLibrary) (hcrossable : Crossable value)
    (hreturnable : Returnable simple integral value) {depth : Nat} (hdepth : depth + value.nesting ≤ MAX_WIRE_DEPTH) :
    ∃ wire, encodeValue doubles (surrealValue platform.toLibrary value) = .ok wire ∧
      from_wire_value_at_depth platform depth wire = .ok value := by
  have hroom : ¬ depth > MAX_WIRE_DEPTH := by omega
  induction value generalizing depth with
  | Array values ih =>
    obtain ⟨-, hformeds⟩ := forall_parts_array.mp hformed
    obtain ⟨-, hcrossables⟩ := forall_parts_array.mp hcrossable
    obtain ⟨-, hreturnables⟩ := forall_parts_array.mp hreturnable
    have hdepths : ∀ value ∈ values, value.nesting + 1 ≤ MAX_WIRE_DEPTH - depth :=
      nesting_list_le_iff.mp (by rw [Value.nesting] at hdepth; omega)
    obtain ⟨wires, hencode, hdecode⟩ := exists_returned_list fun value hvalue =>
      have hfits := hdepths value hvalue
      @ih value hvalue (hformeds value hvalue) (hcrossables value hvalue) (hreturnables value hvalue) (depth + 1)
        (by omega) (by omega)
    refine ⟨.Array wires, ?_, ?_⟩
    · simp [surrealValue, encodeValue, hencode]
    · simp [from_wire_value_at_depth, hroom, hdecode]
  | Object entries ih =>
    obtain ⟨-, hformeds⟩ := forall_parts_object.mp hformed
    obtain ⟨htag, hcrossables⟩ := forall_parts_object.mp hcrossable
    obtain ⟨-, hreturnables⟩ := forall_parts_object.mp hreturnable
    have hdepths : ∀ entry ∈ entries, entry.2.nesting + 1 ≤ MAX_WIRE_DEPTH - depth :=
      nesting_entries_le_iff.mp (by rw [Value.nesting] at hdepth; omega)
    obtain ⟨wires, hencode, hdecode⟩ := exists_returned_entries fun entry hentry =>
      have hfits := hdepths entry hentry
      @ih entry hentry (hformeds entry hentry) (hcrossables entry hentry) (hreturnables entry hentry) (depth + 1)
        (by omega) (by omega)
    have huntagged : wires.lookup surrealdb_rn_core.wire.TAG = none := by
      rw [Entries.lookup_eq_none_iff_not_mem, keys_of_encodeEntries hencode, surrealEntries_eq, List.map_map]
      exact htag
    refine ⟨.Object wires, ?_, ?_⟩
    · simp [surrealValue, encodeValue, hencode]
    · simp [from_wire_value_at_depth, hroom, huntagged, hdecode]
  | Set values ih =>
    obtain ⟨hset, hformeds⟩ := forall_parts_set.mp hformed
    obtain ⟨-, hcrossables⟩ := forall_parts_set.mp hcrossable
    obtain ⟨-, hreturnables⟩ := forall_parts_set.mp hreturnable
    have hdepths : ∀ value ∈ values, value.nesting + 1 ≤ MAX_WIRE_DEPTH - depth :=
      nesting_list_le_iff.mp (by rw [Value.nesting] at hdepth; omega)
    obtain ⟨wires, hencode, hdecode⟩ := exists_returned_list fun value hvalue =>
      have hfits := hdepths value hvalue
      @ih value hvalue (hformeds value hvalue) (hcrossables value hvalue) (hreturnables value hvalue) (depth + 1)
        (by omega) (by omega)
    have hnested : from_wire_set platform (depth + 1) [(TAG, .String "set"), ("values", .Array wires)] =
        some (from_wire_list platform (depth + 1) wires) := rfl
    refine ⟨.Object [(TAG, .String "set"), ("values", .Array wires)], ?_, ?_⟩
    · simp [surrealValue, encodeValue, hencode]
    · rw [from_wire_value_at_depth, if_neg hroom, hnested, hdecode]
      simp only at hset
      simp [surrealdb_rn_core.wire.TAG, TAG, decode_tagged_value, okOr, hset, pure, Except.pure]
  | Int value =>
    refine ⟨_, rfl, ?_⟩
    have hread : Int64.from_str value.toInt.repr = some value := Int64.from_str_to_string value
    rw [from_wire_taggedString hroom]
    simp [decode_tagged_value, required_string_taggedString, parsed, okOr, hread, pure, Except.pure]
  | Float value =>
    have hpart := hreturnable _ List.mem_cons_self
    have hcross := hcrossable _ List.mem_cons_self
    cases value with
    | finite value =>
      refine ⟨_, rfl, ?_⟩
      simp [from_wire_value_at_depth, hroom, hfaithful.stringify value hpart, from_wire_number]
    | inf => exact hcross.elim
    | neg_inf => exact hcross.elim
    | NaN =>
      refine ⟨_, rfl, ?_⟩
      rw [from_wire_taggedString hroom, nonFiniteToString]
      simp [decode_tagged_value, required_string_taggedString, parsed, okOr, from_str_NaN, pure, Except.pure]
  | Decimal value =>
    refine ⟨_, rfl, ?_⟩
    rw [from_wire_taggedString hroom]
    simp [decode_tagged_value, required_string_taggedString, parsed, okOr, hfaithful.decimal, pure, Except.pure]
  | Uuid value =>
    refine ⟨_, rfl, ?_⟩
    rw [from_wire_taggedString hroom]
    simp [decode_tagged_value, required_string_taggedString, parsed, okOr, hfaithful.uuid, pure, Except.pure]
  | RecordId value =>
    have hread := hfaithful.parse_simple value (hreturnable _ List.mem_cons_self)
    refine ⟨_, rfl, ?_⟩
    rw [from_wire_taggedString hroom]
    simp [decode_tagged_value, required_string_taggedString, parsed, okOr, hread, pure, Except.pure]
  | Bytes value =>
    have hread := hfaithful.base64_decode value
    rw [hfaithful.base64_encode] at hread
    refine ⟨_, rfl, ?_⟩
    simp [from_wire_value_at_depth, hroom, surrealdb_rn_core.wire.TAG, TAG, List.lookup_cons,
      decode_tagged_value, required_string, parsed, okOr, hread, pure, Except.pure]
  | None =>
    refine ⟨_, rfl, ?_⟩
    simp [from_wire_value_at_depth, hroom, surrealdb_rn_core.wire.TAG, TAG, decode_tagged_value]
  | Null | Bool _ | String _ =>
    refine ⟨_, rfl, ?_⟩
    simp [from_wire_value_at_depth, hroom]
  | Duration _ | Datetime _ | Geometry _ | Table _ | File _ | Range _ | Regex _ =>
    exact (hreturnable _ List.mem_cons_self).elim

/-- A value arrives in either mode as what it is to be, and comes back where it can. -/
structure Crosses [DecidableEq T.Finite] (platform : Platform T) (doubles : Doubles T.Finite)
    (simple : T.RecordId → Prop) (integral : T.Finite → Prop) (value : Value T) : Prop where
  decoded : ∀ mode, decodeSurrealValue doubles (encode_value platform value) mode =
    .ok (surrealValue platform.toLibrary value)
  returned : Returnable simple integral value →
    ∃ wire, encodeSurrealValue doubles (surrealValue platform.toLibrary value) = .ok wire ∧
      from_wire_value platform wire = .ok value

section Main

variable [DecidableEq T.Finite]

/-- The values that arrive stay distinct, and those that arrive are all but the infinite numbers and the objects
with a key that is read as a tag, and what contains one of them. -/
theorem crosses_iff (hfaithful : Faithful platform doubles simple integral) :
    Function.Injective (surrealValue platform.toLibrary) ∧
      (∀ json mode, decodeSurrealValue doubles json mode = decodeSurrealValue doubles json .copy) ∧
      ∀ value : Value T, value.WellFormed platform.toLibrary → value.nesting ≤ MAX_WIRE_DEPTH →
        (Crosses platform doubles simple integral value ↔ Crossable value) := by
  refine ⟨surrealValue_injective hfaithful, decodeSurrealValue_eq_copy doubles, ?_⟩
  intro value hformed hnesting
  constructor
  · intro hcrosses
    exact (decodeValueCopy_encode_iff hfaithful hformed).mp (hcrosses.decoded .copy)
  · intro hcrossable
    refine ⟨fun mode => ?_, fun hreturnable => ?_⟩
    · rw [decodeSurrealValue_eq_copy]
      exact (decodeValueCopy_encode_iff hfaithful hformed).mpr hcrossable
    · exact exists_returned hfaithful hformed hcrossable hreturnable (by omega)

end Main

/-! ### A platform whose values are their texts -/

def plain_types : Types :=
  ⟨Rat, String, String, String, String, String, String, String, String, String⟩

instance : DecidableEq plain_types.Finite := inferInstanceAs (DecidableEq Rat)

noncomputable def plain_platform : Platform plain_types where
  decimal_to_string := id
  decimal_from_str := some
  uuid_to_string := id
  uuid_from_str := some
  duration_to_sql := id
  datetime_to_sql := id
  geometry_to_sql := id
  file_to_sql := id
  range_to_sql := id
  regex_to_sql := id
  record_to_sql := id
  parse_simple := some
  set_from := @List.dedup _ (Classical.decEq _)
  base64 := ⟨fun bytes => String.ofList (encodeBase64 bytes), fun text => decodeBase64 text.toList⟩
  float_literal := fun _ => none
  from_u64 := fun value => (value.toNat : Rat)

def plain_doubles : Doubles plain_types.Finite where
  parse
    | .PosInt value => (value.toNat : Rat)
    | .NegInt value _ => (value.toInt : Rat)
    | .Float value => value
  stringify value := if Rat.den value = 1 then .from_i64 (.ofInt (Rat.num value)) else .Float value
  literal _ := .finite (0 : Rat)

def plain_integral (value : plain_types.Finite) : Prop := Rat.den value = 1

theorem plain_faithful : Faithful plain_platform plain_doubles (fun _ => True) plain_integral where
  decimal _ := rfl
  uuid _ := rfl
  duration := Function.injective_id
  datetime := Function.injective_id
  geometry := Function.injective_id
  file := Function.injective_id
  range := Function.injective_id
  regex := Function.injective_id
  record := Function.injective_id
  parse_simple _ _ := rfl
  set_from values := @List.nodup_dedup _ (Classical.decEq _) values
  base64_encode _ := rfl
  base64_decode bytes := by
    change decodeBase64 (String.ofList (encodeBase64 bytes)).toList = some bytes
    rw [String.toList_ofList, decodeBase64_encodeBase64]
  parse _ := rfl
  stringify _ hfraction := if_neg hfraction

/-- An object of a record, a fraction and an integer crosses. -/
theorem crosses_iff_point :
    Crosses plain_platform plain_doubles (fun _ => True) plain_integral (.Object [("author", .RecordId "person:ada"),
      ("ratio", .Number (.Float (.finite (1 / 2 : Rat)))), ("size", .Number (.Int 7))]) := by
  refine ((crosses_iff plain_faithful).2.2 _ ?_ ?_).mpr ?_
  · simp [Value.WellFormed, Value.parts, parts_entries, Entries.Ordered]
    decide
  · decide
  · simp [Crossable, Value.parts, parts_entries, TAG]

/-- Infinity is refused on arrival, and an object that looks like a tag arrives as another value. -/
theorem infinity_refused :
    (∀ mode, decodeSurrealValue plain_doubles (encode_value plain_platform (.Number (.Float .inf))) mode =
      .error (.TypeError "invalid tagged float")) ∧
    ∀ mode, decodeSurrealValue plain_doubles (encode_value plain_platform (.Object [("$surreal", .String "none")])) mode =
      decodeSurrealValue plain_doubles (encode_value plain_platform .None) mode := by
  constructor
  · intro mode
    cases mode <;> rfl
  · intro mode
    cases mode <;> rfl

end react_native_surrealdb.wire
