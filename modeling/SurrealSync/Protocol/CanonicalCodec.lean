import SurrealSync.Protocol.Preflight
import Mathlib.Algebra.Order.BigOperators.Group.List
import Mathlib.Algebra.Order.Ring.Nat

open Std Except

namespace surrealdb_sync_protocol.canonical

/-! ### Values and their lists -/

variable {p q : CanonicalTree → Prop}

theorem EachValue_Array_iff {values : List CanonicalTree} :
    EachValue p (.Array values) ↔ p (.Array values) ∧ ∀ value ∈ values, EachValue p value := by
  have hlist : EachOfList p values ↔ ∀ value ∈ values, EachValue p value := by
    induction values with
    | nil => simp [EachOfList]
    | cons value values ih => rw [EachOfList, ih, List.forall_mem_cons]
  rw [EachValue, hlist]

theorem EachValue_Object_iff {values : List (String × CanonicalTree)} :
    EachValue p (.Object values) ↔ p (.Object values) ∧ ∀ entry ∈ values, EachValue p entry.2 := by
  have hlist : EachOfEntries p values ↔ ∀ entry ∈ values, EachValue p entry.2 := by
    induction values with
    | nil => simp [EachOfEntries]
    | cons entry entries ih => rw [EachOfEntries, ih, List.forall_mem_cons]
  rw [EachValue, hlist]

theorem EachValue.imp {value : CanonicalTree} (h : EachValue p value) (himp : ∀ part, p part → q part) :
    EachValue q value := by
  induction value with
  | None => exact himp _ h
  | Null => exact himp _ h
  | Bool value => exact himp _ h
  | Int value => exact himp _ h
  | Float value => exact himp _ h
  | String value => exact himp _ h
  | Bytes value => exact himp _ h
  | Array values ih =>
    rw [EachValue_Array_iff] at h ⊢
    exact ⟨himp _ h.1, fun value hvalue => ih value hvalue (h.2 value hvalue)⟩
  | Object values ih =>
    rw [EachValue_Object_iff] at h ⊢
    exact ⟨himp _ h.1, fun entry hentry => ih entry hentry (h.2 entry hentry)⟩
  | RecordId table key ih => exact ⟨himp _ h.1, ih h.2⟩

theorem to_cbor_list_eq (values : List CanonicalTree) : to_cbor_list values = values.map to_cbor := by
  induction values with
  | nil => rfl
  | cons value values ih => rw [to_cbor_list, ih, List.map_cons]

theorem to_cbor_entries_eq (values : List (String × CanonicalTree)) :
    to_cbor_entries values = values.map fun entry => (entry.1, to_cbor entry.2) := by
  induction values with
  | nil => rfl
  | cons entry values ih => rw [to_cbor_entries, ih, List.map_cons]

theorem sort_entries_perm {α : Type} (entries : List (String × α)) : (sort_entries entries).Perm entries :=
  List.perm_insertionSort _ _

instance : TransCmp key_cmp :=
  inferInstanceAs (TransCmp (compareLex (compareOn String.utf8ByteSize) (compareOn String.as_bytes)))

theorem sort_entries_pairwise {α : Type} (entries : List (String × α)) :
    (sort_entries entries).Pairwise fun left right => (key_cmp left.1 right.1).isLE = true := by
  let le (left right : String × α) : Prop := (key_cmp left.1 right.1).isLE = true
  have htotal : Std.Total le := by
    refine ⟨fun left right => ?_⟩
    have hswap : key_cmp right.1 left.1 = (key_cmp left.1 right.1).swap := OrientedCmp.eq_swap
    simp only [le, hswap]
    cases key_cmp left.1 right.1 <;> simp
  have htrans : IsTrans (String × α) le := ⟨fun _ _ _ => TransCmp.isLE_trans⟩
  exact List.pairwise_insertionSort le entries

/-- The entries of the CBOR map of an object, in their canonical order. -/
def object_entries (values : List (String × CanonicalTree)) : List (Cbor × Cbor) :=
  (sort_entries (to_cbor_entries values)).map fun entry => (.Text entry.1, entry.2)

theorem to_cbor_Object (values : List (String × CanonicalTree)) :
    to_cbor (.Object values) = .Map (object_entries values) := rfl

theorem object_entries_perm (values : List (String × CanonicalTree)) :
    (object_entries values).Perm (values.map fun entry => (.Text entry.1, to_cbor entry.2)) := by
  have hperm := (sort_entries_perm (to_cbor_entries values)).map fun entry => (Cbor.Text entry.1, entry.2)
  rw [to_cbor_entries_eq, List.map_map] at hperm
  rw [object_entries, to_cbor_entries_eq]
  exact hperm

theorem items_to_cbor_Array (values : List CanonicalTree) :
    (to_cbor (.Array values)).items = 1 + (values.map fun value => (to_cbor value).items).sum := by
  rw [to_cbor, Cbor.items_Array, to_cbor_list_eq, List.map_map]
  rfl

theorem items_to_cbor_Object (values : List (String × CanonicalTree)) :
    (to_cbor (.Object values)).items = 1 + (values.map fun entry => 1 + (to_cbor entry.2).items).sum := by
  have hsum := ((object_entries_perm values).map fun entry => entry.1.items + entry.2.items).sum_eq
  rw [List.map_map] at hsum
  rw [to_cbor_Object, Cbor.items_Map, hsum]
  rfl

/-! ### What validation has checked -/

mutual

/-- The levels below a value as validation counts them. -/
def nesting : CanonicalTree → Nat
  | .Array values => nesting_of_list values
  | .Object values => nesting_of_entries values
  | .RecordId _ key => nesting key + 1
  | .None | .Null | .Bool _ | .Int _ | .Float _ | .String _ | .Bytes _ => 0

def nesting_of_list : List CanonicalTree → Nat
  | [] => 0
  | value :: values => max (nesting value + 1) (nesting_of_list values)

def nesting_of_entries : List (String × CanonicalTree) → Nat
  | [] => 0
  | (_, value) :: entries => max (nesting value + 1) (nesting_of_entries entries)

end

mutual

/-- The bytes of all strings, keys and table names of a value. -/
def text_bytes : CanonicalTree → Nat
  | .String value => value.utf8ByteSize
  | .Bytes value => value.length
  | .Array values => text_bytes_of_list values
  | .Object values => text_bytes_of_entries values
  | .RecordId table key => table.utf8ByteSize + text_bytes key
  | .None | .Null | .Bool _ | .Int _ | .Float _ => 0

def text_bytes_of_list : List CanonicalTree → Nat
  | [] => 0
  | value :: values => text_bytes value + text_bytes_of_list values

def text_bytes_of_entries : List (String × CanonicalTree) → Nat
  | [] => 0
  | (key, value) :: entries => key.utf8ByteSize + text_bytes value + text_bytes_of_entries entries

end

/-- The checks of validation on one value that no budget decides. -/
def Shaped : CanonicalTree → Prop
  | .String value => value.utf8ByteSize ≤ MAX_STRING_BYTES
  | .Bytes value => value.length ≤ MAX_STRING_BYTES
  | .Array values => values.length ≤ MAX_CONTAINER_ITEMS
  | .Object values =>
    values.length ≤ MAX_CONTAINER_ITEMS ∧ ∀ entry ∈ values, entry.1.utf8ByteSize ≤ MAX_STRING_BYTES
  | .RecordId table key => table ≠ "" ∧ table.utf8ByteSize ≤ MAX_STRING_BYTES ∧ is_record_key key = true
  | .None | .Null | .Bool _ | .Int _ | .Float _ => True

theorem spends_take_string (length : Nat) :
    Spends (take_string length) () (length ≤ MAX_STRING_BYTES) 0 length := by
  apply (Spends.lift_refuse.bind fun _ => Spends.take_bytes length).congr rfl
  · simp
  · simp
  · simp

private theorem spends_validate_list {values : List CanonicalTree} {depth : Nat} (hdepth : depth ≤ MAX_DEPTH)
    (hvalidate : ∀ value ∈ values, Spends (validate_with_budget value (depth + 1)) ()
      (EachValue Shaped value ∧ depth + 1 + nesting value ≤ MAX_DEPTH) (to_cbor value).items (text_bytes value)) :
    Spends (validate_list values (depth + 1)) ()
      ((∀ value ∈ values, EachValue Shaped value) ∧ depth + nesting_of_list values ≤ MAX_DEPTH)
      (values.map fun value => (to_cbor value).items).sum (text_bytes_of_list values) := by
  induction values with
  | nil => exact (Spends.pure ()).congr rfl (by simpa [nesting_of_list] using hdepth) rfl rfl
  | cons value values ih =>
    obtain ⟨hvalue, hvalues⟩ := List.forall_mem_cons.mp hvalidate
    apply (hvalue.bind fun _ => ih hvalues).congr rfl
    · rw [List.forall_mem_cons, nesting_of_list]
      grind
    · rw [List.map_cons, List.sum_cons]
    · rw [text_bytes_of_list]

private theorem spends_validate_entries {values : List (String × CanonicalTree)} {depth : Nat}
    (hdepth : depth ≤ MAX_DEPTH)
    (hvalidate : ∀ entry ∈ values, Spends (validate_with_budget entry.2 (depth + 1)) ()
      (EachValue Shaped entry.2 ∧ depth + 1 + nesting entry.2 ≤ MAX_DEPTH) (to_cbor entry.2).items
      (text_bytes entry.2)) :
    Spends (validate_entries values (depth + 1)) ()
      ((∀ entry ∈ values, entry.1.utf8ByteSize ≤ MAX_STRING_BYTES ∧ EachValue Shaped entry.2) ∧
        depth + nesting_of_entries values ≤ MAX_DEPTH)
      (values.map fun entry => (to_cbor entry.2).items).sum (text_bytes_of_entries values) := by
  induction values with
  | nil => exact (Spends.pure ()).congr rfl (by simpa [nesting_of_entries] using hdepth) rfl rfl
  | cons entry values ih =>
    obtain ⟨hvalue, hvalues⟩ := List.forall_mem_cons.mp hvalidate
    apply ((spends_take_string _).bind fun _ => hvalue.bind fun _ => ih hvalues).congr rfl
    · rw [List.forall_mem_cons, nesting_of_entries]
      grind
    · rw [List.map_cons, List.sum_cons, Nat.zero_add]
    · rw [text_bytes_of_entries, Nat.add_assoc]

/-- The entry of every validated value: its depth and its own item. -/
private theorem spends_enter {depth : Nat} {x : Budgeted Unit} {condition : Prop} {items bytes : Nat}
    (hx : depth ≤ MAX_DEPTH → Spends x () condition items bytes) :
    Spends (do refuse (depth > MAX_DEPTH) CodecError.DepthLimit; take_items 1; x) ()
      (depth ≤ MAX_DEPTH ∧ condition) (1 + items) bytes := by
  apply (Spends.lift_refuse.bind fun hdepth =>
    (Spends.take_items 1).bind fun _ => hx (Nat.not_lt.mp hdepth)).congr rfl
  · simp
  · omega
  · omega

/-- What a validation checks and takes from the budget. -/
theorem spends_validate (value : CanonicalTree) (depth : Nat) :
    Spends (validate_with_budget value depth) () (EachValue Shaped value ∧ depth + nesting value ≤ MAX_DEPTH)
      (to_cbor value).items (text_bytes value) := by
  induction value generalizing depth with
  | None =>
    rw [validate_with_budget]
    apply (spends_enter fun _ => Spends.take_items 1).congr rfl
    · simp [EachValue, Shaped, nesting]
    · simp [to_cbor, Cbor.items]
    · rfl
  | Null =>
    rw [validate_with_budget]
    apply (spends_enter fun _ => Spends.pure ()).congr rfl
    · simp [EachValue, Shaped, nesting]
    · simp [to_cbor, Cbor.items]
    · rfl
  | Bool value =>
    rw [validate_with_budget]
    apply (spends_enter fun _ => Spends.pure ()).congr rfl
    · simp [EachValue, Shaped, nesting]
    · simp [to_cbor, Cbor.items]
    · rfl
  | Int value =>
    rw [validate_with_budget]
    apply (spends_enter fun _ => Spends.pure ()).congr rfl
    · simp [EachValue, Shaped, nesting]
    · simp [to_cbor, Cbor.items]
    · rfl
  | Float value =>
    rw [validate_with_budget]
    apply (spends_enter fun _ => Spends.pure ()).congr rfl
    · simp [EachValue, Shaped, nesting]
    · simp [to_cbor, Cbor.items]
    · rfl
  | String value =>
    rw [validate_with_budget]
    apply (spends_enter fun _ => spends_take_string _).congr rfl
    · simp [EachValue, Shaped, nesting, and_comm]
    · simp [to_cbor, Cbor.items]
    · rfl
  | Bytes value =>
    rw [validate_with_budget]
    apply (spends_enter fun _ => spends_take_string _).congr rfl
    · simp [EachValue, Shaped, nesting, and_comm]
    · simp [to_cbor, Cbor.items]
    · rfl
  | Array values ih =>
    rw [validate_with_budget]
    apply (spends_enter fun hdepth => Spends.lift_refuse.bind fun _ =>
      spends_validate_list hdepth fun value hvalue => ih value hvalue (depth + 1)).congr rfl
    · rw [EachValue_Array_iff, Shaped, nesting]
      grind
    · rw [items_to_cbor_Array, Nat.zero_add]
    · rw [text_bytes, Nat.zero_add]
  | Object values ih =>
    have hlength : (values.map fun entry => 1 + (to_cbor entry.2).items).sum =
        values.length + (values.map fun entry => (to_cbor entry.2).items).sum := by
      rw [List.sum_map_add]
      simp
    rw [validate_with_budget]
    apply (spends_enter fun hdepth => Spends.lift_refuse.bind fun _ => (Spends.take_items _).bind fun _ =>
      spends_validate_entries hdepth fun entry hentry => ih entry hentry (depth + 1)).congr rfl
    · rw [EachValue_Object_iff, Shaped, nesting]
      grind
    · rw [items_to_cbor_Object, hlength, Nat.zero_add]
    · rw [text_bytes, Nat.zero_add, Nat.zero_add]
  | RecordId table key ih =>
    rw [validate_with_budget]
    apply (spends_enter fun _ => Spends.lift_refuse.bind fun _ => (spends_take_string _).bind fun _ =>
      Spends.lift_refuse.bind fun _ => (Spends.take_items 2).bind fun _ => ih (depth + 1)).congr rfl
    · simp only [EachValue, Shaped, nesting]
      grind
    · simp [to_cbor, Cbor.items, Cbor.itemsOfList]
      omega
    · rw [text_bytes]
      omega

theorem validate_eq_ok_iff {value : CanonicalTree} :
    validate value = .ok () ↔
      EachValue Shaped value ∧ nesting value ≤ MAX_DEPTH ∧ (to_cbor value).items ≤ MAX_TOTAL_ITEMS ∧
        text_bytes value ≤ MAX_ENCODED_BYTES := by
  have hspends := spends_validate value 0
  rw [Nat.zero_add] at hspends
  constructor
  · intro h
    obtain ⟨rest, hrun⟩ := StateT.run'_eq_ok_iff.mp h
    obtain ⟨⟨hshaped, hnesting⟩, -, hitems, hbytes⟩ := (hspends _ _).mp hrun
    dsimp only at hitems hbytes
    exact ⟨hshaped, hnesting, by omega, by omega⟩
  · rintro ⟨hshaped, hnesting, hitems, hbytes⟩
    have hrun := hspends.succeeds ⟨hshaped, hnesting⟩ ⟨MAX_TOTAL_ITEMS, MAX_ENCODED_BYTES⟩ hitems hbytes
    exact StateT.run'_eq_ok_iff.mpr ⟨_, hrun⟩

/-- A value that passes within an encoder's budget passes on its own. -/
theorem emits_validate (value : CanonicalTree) :
    Emits (validate_with_budget value 0) () (validate value = .ok ()) (to_cbor value).items := by
  intro budget r hbounded hrun
  obtain ⟨hmost, hmost'⟩ := hbounded
  obtain ⟨⟨hshaped, hnesting⟩, hvalue, hitems, hbytes⟩ := (spends_validate value 0 budget r).mp hrun
  exact ⟨validate_eq_ok_iff.mpr ⟨hshaped, by omega, by omega, by omega⟩, hvalue, by omega, by omega, by omega⟩

/-- The checks of validation that are not limits: a record id has a table and a key of
one of four kinds. -/
def RecordShaped : CanonicalTree → Prop
  | .RecordId table key => table ≠ "" ∧ is_record_key key = true
  | .None | .Null | .Bool _ | .Int _ | .Float _ | .String _ | .Bytes _ | .Array _ | .Object _ => True

private theorem limited_enter {depth : Nat} {x : Budgeted Unit} (hx : Limited x) :
    Limited (do refuse (depth > MAX_DEPTH) CodecError.DepthLimit; take_items 1; x) :=
  (Limited.refuse fun _ => by trivial).bind fun _ => (Limited.take_items 1).bind fun _ => hx

private theorem limited_take_string (length : Nat) : Limited (take_string length) :=
  (Limited.refuse fun _ => by trivial).bind fun _ => Limited.take_bytes length

private theorem limited_validate_list {values : List CanonicalTree} {depth : Nat}
    (hvalidate : ∀ value ∈ values, Limited (validate_with_budget value depth)) :
    Limited (validate_list values depth) := by
  induction values with
  | nil => exact Limited.pure ()
  | cons value values ih =>
    obtain ⟨hvalue, hvalues⟩ := List.forall_mem_cons.mp hvalidate
    exact hvalue.bind fun _ => ih hvalues

private theorem limited_validate_entries {values : List (String × CanonicalTree)} {depth : Nat}
    (hvalidate : ∀ entry ∈ values, Limited (validate_with_budget entry.2 depth)) :
    Limited (validate_entries values depth) := by
  induction values with
  | nil => exact Limited.pure ()
  | cons entry values ih =>
    obtain ⟨hvalue, hvalues⟩ := List.forall_mem_cons.mp hvalidate
    exact (limited_take_string _).bind fun _ => hvalue.bind fun _ => ih hvalues

/-- A value with well-formed record ids fails validation at a limit only. -/
theorem limited_validate {value : CanonicalTree} (hshaped : EachValue RecordShaped value) (depth : Nat) :
    Limited (validate_with_budget value depth) := by
  induction value generalizing depth with
  | None =>
    rw [validate_with_budget]
    exact limited_enter (Limited.take_items 1)
  | Null =>
    rw [validate_with_budget]
    exact limited_enter (Limited.pure ())
  | Bool value =>
    rw [validate_with_budget]
    exact limited_enter (Limited.pure ())
  | Int value =>
    rw [validate_with_budget]
    exact limited_enter (Limited.pure ())
  | Float value =>
    rw [validate_with_budget]
    exact limited_enter (Limited.pure ())
  | String value =>
    rw [validate_with_budget]
    exact limited_enter (limited_take_string _)
  | Bytes value =>
    rw [validate_with_budget]
    exact limited_enter (limited_take_string _)
  | Array values ih =>
    obtain ⟨-, hvalues⟩ := EachValue_Array_iff.mp hshaped
    rw [validate_with_budget]
    exact limited_enter ((Limited.refuse fun _ => by trivial).bind fun _ =>
      limited_validate_list fun value hvalue => ih value hvalue (hvalues value hvalue) (depth + 1))
  | Object values ih =>
    obtain ⟨-, hvalues⟩ := EachValue_Object_iff.mp hshaped
    rw [validate_with_budget]
    exact limited_enter ((Limited.refuse fun _ => by trivial).bind fun _ => (Limited.take_items _).bind fun _ =>
      limited_validate_entries fun entry hentry => ih entry hentry (hvalues entry hentry) (depth + 1))
  | RecordId table key ih =>
    obtain ⟨⟨htable, hkind⟩, hkey⟩ := hshaped
    rw [validate_with_budget]
    exact limited_enter ((Limited.refuse fun hempty => absurd hempty htable).bind fun _ =>
      (limited_take_string _).bind fun _ => (Limited.refuse fun hother => by simp [hkind] at hother).bind fun _ =>
      (Limited.take_items 2).bind fun _ => ih hkey (depth + 1))

theorem recordShaped_of_validate {value : CanonicalTree} (hvalid : validate value = .ok ()) :
    EachValue RecordShaped value := by
  apply (validate_eq_ok_iff.mp hvalid).1.imp
  intro part hshaped
  cases part with
  | RecordId table key => exact ⟨hshaped.1, hshaped.2.2⟩
  | _ => trivial

/-! ### Parts of a valid value -/

private theorem le_nesting_of_list {values : List CanonicalTree} {value : CanonicalTree} (hmem : value ∈ values) :
    nesting value ≤ nesting_of_list values ∧ text_bytes value ≤ text_bytes_of_list values := by
  induction values with
  | nil => simp at hmem
  | cons other values ih =>
    rw [nesting_of_list, text_bytes_of_list]
    rcases List.mem_cons.mp hmem with rfl | hmem
    · omega
    · have htail := ih hmem
      omega

private theorem le_nesting_of_entries {values : List (String × CanonicalTree)} {entry : String × CanonicalTree}
    (hmem : entry ∈ values) :
    nesting entry.2 ≤ nesting_of_entries values ∧ text_bytes entry.2 ≤ text_bytes_of_entries values := by
  induction values with
  | nil => simp at hmem
  | cons other values ih =>
    rw [nesting_of_entries, text_bytes_of_entries]
    rcases List.mem_cons.mp hmem with rfl | hmem
    · omega
    · have htail := ih hmem
      omega

theorem validate_of_mem_Array {values : List CanonicalTree} {value : CanonicalTree}
    (hvalid : validate (.Array values) = .ok ()) (hmem : value ∈ values) : validate value = .ok () := by
  rw [validate_eq_ok_iff, EachValue_Array_iff, items_to_cbor_Array, nesting, text_bytes] at hvalid
  obtain ⟨⟨-, hshaped⟩, hnesting, hitems, hbytes⟩ := hvalid
  obtain ⟨hle, hle'⟩ := le_nesting_of_list hmem
  have hsum := List.single_le_sum (fun _ _ => Nat.zero_le _) _
    (List.mem_map_of_mem (f := fun value => (to_cbor value).items) hmem)
  rw [validate_eq_ok_iff]
  exact ⟨hshaped value hmem, by omega, by omega, by omega⟩

theorem validate_of_mem_Object {values : List (String × CanonicalTree)} {entry : String × CanonicalTree}
    (hvalid : validate (.Object values) = .ok ()) (hmem : entry ∈ values) : validate entry.2 = .ok () := by
  rw [validate_eq_ok_iff, EachValue_Object_iff, items_to_cbor_Object, nesting, text_bytes] at hvalid
  obtain ⟨⟨-, hshaped⟩, hnesting, hitems, hbytes⟩ := hvalid
  obtain ⟨hle, hle'⟩ := le_nesting_of_entries hmem
  have hsum := List.single_le_sum (fun _ _ => Nat.zero_le _) _
    (List.mem_map_of_mem (f := fun entry => 1 + (to_cbor entry.2).items) hmem)
  rw [validate_eq_ok_iff]
  exact ⟨hshaped entry hmem, by omega, by omega, by omega⟩

theorem validate_of_RecordId {table : String} {key : CanonicalTree}
    (hvalid : validate (.RecordId table key) = .ok ()) : validate key = .ok () := by
  rw [validate_eq_ok_iff, nesting, text_bytes] at hvalid
  obtain ⟨⟨-, hshaped⟩, hnesting, hitems, hbytes⟩ := hvalid
  simp only [to_cbor, Cbor.items, Cbor.itemsOfList] at hitems
  rw [validate_eq_ok_iff]
  exact ⟨hshaped, by omega, by omega, by omega⟩

/-! ### Reading back the CBOR form -/

theorem object_entries_eq (values : List (String × CanonicalTree)) :
    object_entries values = (sort_entries values).map fun entry => (.Text entry.1, to_cbor entry.2) := by
  have hsort : (sort_entries values).map (fun entry => (entry.1, to_cbor entry.2)) =
      sort_entries (values.map fun entry => (entry.1, to_cbor entry.2)) :=
    List.map_insertionSort _ _ _ _ fun _ _ _ _ => Iff.rfl
  rw [object_entries, to_cbor_entries_eq, ← hsort, List.map_map]
  rfl

/-- The loop over map entries keeps the object it builds in key order and takes every entry. -/
private theorem entries_from_cbor_of_fresh {entries object : List (String × CanonicalTree)}
    (hread : ∀ entry ∈ entries, tree_from_cbor (to_cbor entry.2) = .ok entry.2)
    (hnodup : ((entries ++ object).map Prod.fst).Nodup) (hordered : Entries.Ordered object) :
    ∃ next, entries_from_cbor (entries.map fun entry => (.Text entry.1, to_cbor entry.2)) object = .ok next ∧
      next.Perm (entries ++ object) ∧ Entries.Ordered next := by
  induction entries generalizing object with
  | nil => exact ⟨object, rfl, List.Perm.refl _, hordered⟩
  | cons entry entries ih =>
    obtain ⟨hentry, hentries⟩ := List.forall_mem_cons.mp hread
    rw [List.cons_append, List.map_cons, List.nodup_cons] at hnodup
    have hfresh : entry.1 ∉ object.map Prod.fst := by
      intro hmem
      exact hnodup.1 (by rw [List.map_append]; exact List.mem_append_right _ hmem)
    obtain ⟨middle, hinsert⟩ := Option.isSome_iff_exists.mp (Entries.insert_isSome entry.2 hfresh)
    have hperm := Entries.insert_perm hinsert
    have hpermall : (entries ++ middle).Perm (entry :: (entries ++ object)) :=
      (hperm.append_left entries).trans List.perm_middle
    have hmiddle : ((entries ++ middle).map Prod.fst).Nodup := by
      rw [(hpermall.map Prod.fst).nodup_iff]
      exact List.nodup_cons.mpr hnodup
    obtain ⟨next, hnext, hall, hlast⟩ := ih hentries hmiddle (Entries.ordered_insert hordered hinsert)
    refine ⟨next, ?_, hall.trans hpermall, hlast⟩
    simp [entries_from_cbor, hentry, hinsert, okOr, hnext]

private theorem list_from_cbor_map {values : List CanonicalTree}
    (hread : ∀ value ∈ values, tree_from_cbor (to_cbor value) = .ok value) :
    list_from_cbor (values.map to_cbor) = .ok values := by
  induction values with
  | nil => rfl
  | cons value values ih =>
    obtain ⟨hvalue, hvalues⟩ := List.forall_mem_cons.mp hread
    simp [list_from_cbor, hvalue, ih hvalues, pure, Except.pure]

/-- The decoder validates every record id on its own. -/
def RecordValidates : CanonicalTree → Prop
  | .RecordId table key => validate (.RecordId table key) = .ok ()
  | .None | .Null | .Bool _ | .Int _ | .Float _ | .String _ | .Bytes _ | .Array _ | .Object _ => True

theorem records_validate {value : CanonicalTree} (hvalid : validate value = .ok ()) :
    EachValue RecordValidates value := by
  induction value with
  | None => trivial
  | Null => trivial
  | Bool value => trivial
  | Int value => trivial
  | Float value => trivial
  | String value => trivial
  | Bytes value => trivial
  | Array values ih =>
    rw [EachValue_Array_iff]
    exact ⟨trivial, fun value hvalue => ih value hvalue (validate_of_mem_Array hvalid hvalue)⟩
  | Object values ih =>
    rw [EachValue_Object_iff]
    exact ⟨trivial, fun entry hentry => ih entry hentry (validate_of_mem_Object hvalid hentry)⟩
  | RecordId table key ih => exact ⟨hvalid, ih (validate_of_RecordId hvalid)⟩

/-- The decoder gives back every value whose record ids pass their own validation. -/
theorem tree_from_cbor_to_cbor {value : CanonicalTree} (hordered : EachValue KeysOrdered value)
    (hrecords : EachValue RecordValidates value) : tree_from_cbor (to_cbor value) = .ok value := by
  induction value with
  | None => rfl
  | Null => rfl
  | Bool value => rfl
  | Int value => simp [to_cbor, tree_from_cbor, okOr, Except.map]
  | Float value =>
    have hfinite := value.finite
    have hzero := value.normalized
    simp [to_cbor, tree_from_cbor, CanonicalFloat.new, hfinite, hzero, Except.map]
  | String value => rfl
  | Bytes value => rfl
  | Array values ih =>
    obtain ⟨-, hordered⟩ := EachValue_Array_iff.mp hordered
    obtain ⟨-, hrecords⟩ := EachValue_Array_iff.mp hrecords
    have hlist : list_from_cbor (values.map to_cbor) = .ok values :=
      list_from_cbor_map fun value hvalue => ih value hvalue (hordered value hvalue) (hrecords value hvalue)
    rw [to_cbor, to_cbor_list_eq, tree_from_cbor, hlist]
    rfl
  | Object values ih =>
    obtain ⟨hkeys, hordered⟩ := EachValue_Object_iff.mp hordered
    obtain ⟨-, hrecords⟩ := EachValue_Object_iff.mp hrecords
    have hperm := sort_entries_perm values
    have hread : ∀ entry ∈ sort_entries values, tree_from_cbor (to_cbor entry.2) = .ok entry.2 := by
      intro entry hentry
      have hentry := hperm.mem_iff.mp hentry
      exact ih entry hentry (hordered entry hentry) (hrecords entry hentry)
    have hnodup : ((sort_entries values ++ []).map Prod.fst).Nodup := by
      rw [List.append_nil, (hperm.map Prod.fst).nodup_iff]
      exact Entries.Ordered.nodup hkeys
    obtain ⟨next, hnext, hnextperm, hnextordered⟩ := entries_from_cbor_of_fresh hread hnodup List.Pairwise.nil
    rw [List.append_nil] at hnextperm
    have hsame : next = values := Entries.Ordered.eq_of_perm hnextordered hkeys (hnextperm.trans hperm)
    rw [to_cbor_Object, object_entries_eq, tree_from_cbor, hnext, hsame]
    rfl
  | RecordId table key ih =>
    obtain ⟨hvalid, hrecords⟩ := hrecords
    have hkey := ih hordered.2 hrecords
    rw [RecordValidates] at hvalid
    simp [to_cbor, tree_from_cbor, record_id_from_cbor, hkey, hvalid, NONE_TAG, RECORD_ID_TAG, pure, Except.pure]

/-! ### What the decoder builds -/

private theorem ordered_of_entries_from_cbor {entries : List (Cbor × Cbor)}
    (hread : ∀ entry ∈ entries, ∀ value, tree_from_cbor entry.2 = .ok value → EachValue KeysOrdered value)
    {object next : List (String × CanonicalTree)} (hobject : EachValue KeysOrdered (.Object object))
    (h : entries_from_cbor entries object = .ok next) : EachValue KeysOrdered (.Object next) := by
  induction entries generalizing object with
  | nil =>
    cases h
    exact hobject
  | cons entry entries ih =>
    obtain ⟨hentry, hentries⟩ := List.forall_mem_cons.mp hread
    obtain ⟨key, value⟩ := entry
    cases key with
    | Text key =>
      simp only [entries_from_cbor, bind_eq_ok_iff, okOr_eq_ok_iff] at h
      obtain ⟨tree, htree, middle, hinsert, hrest⟩ := h
      obtain ⟨hkeys, hvalues⟩ := EachValue_Object_iff.mp hobject
      apply ih hentries _ hrest
      rw [EachValue_Object_iff]
      refine ⟨Entries.ordered_insert hkeys hinsert, ?_⟩
      intro other hother
      rcases List.mem_cons.mp ((Entries.insert_perm hinsert).mem_iff.mp hother) with rfl | hother
      · exact hentry tree htree
      · exact hvalues other hother
    | Integer value => simp [entries_from_cbor, throw, throwThe, MonadExceptOf.throw] at h
    | Bytes value => simp [entries_from_cbor, throw, throwThe, MonadExceptOf.throw] at h
    | Float bits => simp [entries_from_cbor, throw, throwThe, MonadExceptOf.throw] at h
    | Bool value => simp [entries_from_cbor, throw, throwThe, MonadExceptOf.throw] at h
    | Null => simp [entries_from_cbor, throw, throwThe, MonadExceptOf.throw] at h
    | Tag tag value => simp [entries_from_cbor, throw, throwThe, MonadExceptOf.throw] at h
    | Array values => simp [entries_from_cbor, throw, throwThe, MonadExceptOf.throw] at h
    | Map entries => simp [entries_from_cbor, throw, throwThe, MonadExceptOf.throw] at h

private theorem ordered_of_list_from_cbor {values : List Cbor}
    (hread : ∀ value ∈ values, ∀ tree, tree_from_cbor value = .ok tree → EachValue KeysOrdered tree)
    {trees : List CanonicalTree} (h : list_from_cbor values = .ok trees) :
    ∀ tree ∈ trees, EachValue KeysOrdered tree := by
  induction values generalizing trees with
  | nil =>
    cases h
    simp
  | cons value values ih =>
    obtain ⟨hvalue, hvalues⟩ := List.forall_mem_cons.mp hread
    simp only [list_from_cbor, bind_eq_ok_iff, pure, Except.pure, ok.injEq] at h
    obtain ⟨tree, htree, rest, hrest, rfl⟩ := h
    exact List.forall_mem_cons.mpr ⟨hvalue tree htree, ih hvalues hrest⟩

private theorem exists_of_map_eq_ok {α β : Type} {x : Result α} {f : α → β} {b : β} (h : x.map f = .ok b) :
    ∃ a, x = .ok a ∧ f a = b := by
  cases x with
  | error e => cases h
  | ok a => exact ⟨a, rfl, Except.ok.inj h⟩

/-- A record id is read from an array, so its key is a grandchild of the tagged
item; the statement about both readers carries the induction. -/
private theorem ordered_of_readers (item : Cbor) :
    (∀ tree, tree_from_cbor item = .ok tree → EachValue KeysOrdered tree) ∧
      (∀ tree, record_id_from_cbor item = .ok tree → EachValue KeysOrdered tree) := by
  induction item with
  | Integer value =>
    refine ⟨fun tree h => ?_, fun tree h => by simp [record_id_from_cbor] at h⟩
    obtain ⟨_, _, rfl⟩ := exists_of_map_eq_ok h
    trivial
  | Float bits =>
    refine ⟨fun tree h => ?_, fun tree h => by simp [record_id_from_cbor] at h⟩
    obtain ⟨_, _, rfl⟩ := exists_of_map_eq_ok h
    trivial
  | Bytes value =>
    refine ⟨fun tree h => ?_, fun tree h => by simp [record_id_from_cbor] at h⟩
    cases h
    trivial
  | Text value =>
    refine ⟨fun tree h => ?_, fun tree h => by simp [record_id_from_cbor] at h⟩
    cases h
    trivial
  | Bool value =>
    refine ⟨fun tree h => ?_, fun tree h => by simp [record_id_from_cbor] at h⟩
    cases h
    trivial
  | Null =>
    refine ⟨fun tree h => ?_, fun tree h => by simp [record_id_from_cbor] at h⟩
    cases h
    trivial
  | Tag tag value ih =>
    refine ⟨fun tree h => ?_, fun tree h => by simp [record_id_from_cbor] at h⟩
    rw [tree_from_cbor] at h
    split_ifs at h with hnone hrecord
    · cases h
      trivial
    · exact ih.2 tree h
  | Array values ih =>
    refine ⟨fun tree h => ?_, fun tree h => ?_⟩
    · obtain ⟨trees, htrees, rfl⟩ := exists_of_map_eq_ok h
      rw [EachValue_Array_iff]
      exact ⟨trivial, ordered_of_list_from_cbor (fun value hvalue => (ih value hvalue).1) htrees⟩
    · rw [record_id_from_cbor.eq_def] at h
      split at h
      · rename_i table key hvalues
        cases hvalues
        obtain ⟨tree', hkey, h⟩ := bind_eq_ok_iff.mp h
        split at h
        · obtain ⟨_, _, h⟩ := bind_eq_ok_iff.mp h
          cases h
          exact ⟨trivial, (ih key (by simp)).1 tree' hkey⟩
        · cases h
      · cases h
  | Map entries ih =>
    refine ⟨fun tree h => ?_, fun tree h => by simp [record_id_from_cbor] at h⟩
    obtain ⟨object, hobject, rfl⟩ := exists_of_map_eq_ok h
    exact ordered_of_entries_from_cbor (fun entry hentry => (ih entry hentry).2.1)
      (EachValue_Object_iff.mpr ⟨List.Pairwise.nil, by simp⟩) hobject

def from_cbor (value : Cbor) : Result CanonicalValue :=
  match h : tree_from_cbor value with
  | .ok tree => .ok ⟨tree, (ordered_of_readers value).1 tree h⟩
  | .error e => .error e

theorem from_cbor_eq_ok_iff {item : Cbor} {value : CanonicalValue} :
    from_cbor item = .ok value ↔ tree_from_cbor item = .ok value.tree := by
  obtain ⟨tree, hordered⟩ := value
  unfold from_cbor
  split
  · rename_i other hother
    simp [hother]
  · rename_i e he
    simp [he]

theorem from_cbor_to_cbor {value : CanonicalValue} (hvalid : validate value.tree = .ok ()) :
    from_cbor (to_cbor value.tree) = .ok value :=
  from_cbor_eq_ok_iff.mpr (tree_from_cbor_to_cbor value.ordered (records_validate hvalid))

theorem regular_to_cbor (value : CanonicalTree) : (to_cbor value).Every Cbor.Regular := by
  induction value with
  | None => exact ⟨⟨by decide, by decide⟩, trivial⟩
  | Null => trivial
  | Bool value => trivial
  | Int value => trivial
  | Float value => exact value.finite
  | String value => trivial
  | Bytes value => trivial
  | Array values ih =>
    rw [to_cbor, to_cbor_list_eq, Cbor.Every_Array_iff]
    refine ⟨trivial, ?_⟩
    intro item hitem
    obtain ⟨value, hvalue, rfl⟩ := List.mem_map.mp hitem
    exact ih value hvalue
  | Object values ih =>
    rw [to_cbor_Object, Cbor.Every_Map_iff]
    refine ⟨trivial, ?_⟩
    intro item hitem
    obtain ⟨entry, hentry, rfl⟩ := List.mem_map.mp ((object_entries_perm values).mem_iff.mp hitem)
    exact ⟨trivial, ih entry hentry⟩
  | RecordId table key ih => exact ⟨⟨by decide, by decide⟩, trivial, trivial, ih, trivial⟩

/-- Values that pass validation keep to the limits of the scanner. -/
theorem withinLimits_to_cbor {value : CanonicalTree} (hshaped : EachValue Shaped value) :
    (to_cbor value).Every WithinLimits := by
  induction value with
  | None => exact ⟨trivial, trivial⟩
  | Null => trivial
  | Bool value => trivial
  | Int value => trivial
  | Float value => trivial
  | String value => exact hshaped
  | Bytes value => exact hshaped
  | Array values ih =>
    obtain ⟨hlength, hshaped⟩ := EachValue_Array_iff.mp hshaped
    rw [to_cbor, to_cbor_list_eq, Cbor.Every_Array_iff]
    refine ⟨by rw [WithinLimits, List.length_map]; exact hlength, ?_⟩
    intro item hitem
    obtain ⟨value, hvalue, rfl⟩ := List.mem_map.mp hitem
    exact ih value hvalue (hshaped value hvalue)
  | Object values ih =>
    obtain ⟨⟨hlength, hkeys⟩, hshaped⟩ := EachValue_Object_iff.mp hshaped
    have hperm := object_entries_perm values
    rw [to_cbor_Object, Cbor.Every_Map_iff]
    refine ⟨by rw [WithinLimits, hperm.length_eq, List.length_map]; exact hlength, ?_⟩
    intro item hitem
    obtain ⟨entry, hentry, rfl⟩ := List.mem_map.mp (hperm.mem_iff.mp hitem)
    exact ⟨hkeys entry hentry, ih entry hentry (hshaped entry hentry)⟩
  | RecordId table key ih =>
    obtain ⟨⟨-, htable, -⟩, hkey⟩ := hshaped
    exact ⟨trivial, by simp [WithinLimits, MAX_CONTAINER_ITEMS], htable, ih hkey, trivial⟩

/-! ### The codec of one value -/

variable (ciborium : Ciborium)

def canonical_cbor (value : CanonicalValue) : Result (List UInt8) := do
  validate value.tree
  let bytes ← encode_cbor_value ciborium (to_cbor value.tree)
  preflight_canonical_cbor bytes
  return bytes

def decode_canonical_cbor (bytes : List UInt8) : Result CanonicalValue := do
  let decoded ← read_cbor_value ciborium MAX_ENCODED_BYTES bytes
  let value ← from_cbor decoded
  validate value.tree
  let encoded ← canonical_cbor ciborium value
  refuse (encoded ≠ bytes) .NonCanonical
  return value

variable {ciborium}

theorem canonical_cbor_eq_ok_iff {value : CanonicalValue} {bytes : List UInt8} :
    canonical_cbor ciborium value = .ok bytes ↔
      validate value.tree = .ok () ∧ encode_cbor_value ciborium (to_cbor value.tree) = .ok bytes ∧
        preflight_canonical_cbor bytes = .ok () := by
  simp only [canonical_cbor, bind_eq_ok_iff, Unique.exists_iff, PUnit.default_eq_unit, pure, Except.pure, ok.injEq]
  grind

private theorem canonical_cbor_of_decode {value : CanonicalValue} {bytes : List UInt8}
    (hdecode : decode_canonical_cbor ciborium bytes = .ok value) : canonical_cbor ciborium value = .ok bytes := by
  simp only [decode_canonical_cbor, bind_eq_ok_iff, refuse_eq_ok_iff, pure, Except.pure, ok.injEq,
    Decidable.not_not] at hdecode
  obtain ⟨_, _, _, _, _, _, encoded, hencoded, _, rfl, rfl⟩ := hdecode
  exact hencoded

private theorem decode_of_canonical_cbor {value : CanonicalValue} {bytes : List UInt8}
    (hencode : canonical_cbor ciborium value = .ok bytes) : decode_canonical_cbor ciborium bytes = .ok value := by
  obtain ⟨hvalid, hwrite, hpreflight⟩ := canonical_cbor_eq_ok_iff.mp hencode
  obtain ⟨hbytes, hlength⟩ := encode_cbor_value_eq_ok_iff.mp hwrite
  have hread : read_cbor_value ciborium MAX_ENCODED_BYTES bytes = .ok (to_cbor value.tree) := by
    rw [read_cbor_value_iff (regular_to_cbor _) hwrite hlength]
    rw [hbytes, preflight_encode_iff (fits_of_encode_cbor_value hwrite)] at hpreflight
    exact ⟨hpreflight, rfl⟩
  simp [decode_canonical_cbor, hread, from_cbor_to_cbor hvalid, hvalid, hencode, refuse, pure, Except.pure]

/-- The canonical value codec is a bijection between the values it encodes and the
bytes it accepts. -/
theorem canonical_codec_bijective (ciborium : Ciborium) :
    (∀ value bytes, canonical_cbor ciborium value = .ok bytes →
      decode_canonical_cbor ciborium bytes = .ok value) ∧
    (∀ bytes value, decode_canonical_cbor ciborium bytes = .ok value →
      canonical_cbor ciborium value = .ok bytes) ∧
    (∀ value other bytes, canonical_cbor ciborium value = .ok bytes →
      canonical_cbor ciborium other = .ok bytes → value = other) ∧
    (∀ bytes others value, decode_canonical_cbor ciborium bytes = .ok value →
      decode_canonical_cbor ciborium others = .ok value → bytes = others) := by
  refine ⟨fun _ _ => decode_of_canonical_cbor, fun _ _ => canonical_cbor_of_decode, ?_, ?_⟩
  · intro value other bytes hvalue hother
    have hdecode := decode_of_canonical_cbor hvalue
    rw [decode_of_canonical_cbor hother] at hdecode
    exact (Except.ok.inj hdecode).symm
  · intro bytes others value hbytes hothers
    have hencode := canonical_cbor_of_decode hbytes
    rw [canonical_cbor_of_decode hothers] at hencode
    exact (Except.ok.inj hencode).symm

/-- An object whose keys are in another order on the wire than in the map. -/
def two_keys : CanonicalValue where
  tree := .Object [("aa", .Int 1), ("b", .Int 2)]
  ordered := EachValue_Object_iff.mpr ⟨(by decide : Entries.Ordered _), by simp [EachValue, KeysOrdered]⟩

theorem canonical_codec_bijective_two_keys :
    canonical_cbor Cbor.deterministic two_keys = .ok [0xa2, 0x61, 0x62, 0x02, 0x62, 0x61, 0x61, 0x01] ∧
      decode_canonical_cbor Cbor.deterministic [0xa2, 0x61, 0x62, 0x02, 0x62, 0x61, 0x61, 0x01] = .ok two_keys :=
  ⟨rfl, (canonical_codec_bijective Cbor.deterministic).1 two_keys _ rfl⟩

end surrealdb_sync_protocol.canonical
