import Mathlib.Data.List.Basic
import Mathlib.Algebra.BigOperators.Group.List.Basic
import Mathlib.Algebra.Order.Ring.Int

/-- An integer data item: what the two integer major types can carry. -/
structure CborInteger where
  val : Int
  bounds : -18446744073709551616 ≤ val ∧ val < 18446744073709551616
deriving DecidableEq

/-- One CBOR data item as a tree. Floats are kept as the bits of a binary64. -/
inductive Cbor where
  | Integer (value : CborInteger)
  | Bytes (value : List UInt8)
  | Float (bits : UInt64)
  | Text (value : String)
  | Bool (value : Bool)
  | Null
  | Tag (tag : UInt64) (value : Cbor)
  | Array (values : List Cbor)
  | Map (entries : List (Cbor × Cbor))

namespace CborInteger

theorem ext {a b : CborInteger} (h : a.val = b.val) : a = b := by
  cases a
  cases b
  simp_all

def ofUInt64 (n : UInt64) : CborInteger where
  val := n.toNat
  bounds := by
    have hn := n.toNat_lt
    omega

def ofInt64 (n : Int64) : CborInteger where
  val := n.toInt
  bounds := by
    have hlower := n.le_toInt
    have hupper := n.toInt_lt
    omega

def toUInt64? (n : CborInteger) : Option UInt64 :=
  if 0 ≤ n.val then some (UInt64.ofNat n.val.toNat) else none

def toInt64? (n : CborInteger) : Option Int64 :=
  if -9223372036854775808 ≤ n.val ∧ n.val < 9223372036854775808 then some (Int64.ofInt n.val) else none

@[simp]
theorem toUInt64?_ofUInt64 (n : UInt64) : (ofUInt64 n).toUInt64? = some n := by
  simp [toUInt64?, ofUInt64]

theorem eq_ofUInt64_of_toUInt64? {n : CborInteger} {value : UInt64} (h : n.toUInt64? = some value) :
    n = ofUInt64 value := by
  have hbounds := n.bounds
  simp only [toUInt64?, Option.ite_none_right_eq_some, Option.some.injEq] at h
  obtain ⟨hpositive, rfl⟩ := h
  apply ext
  have hfits : n.val.toNat < UInt64.size := by
    simp only [UInt64.size]
    omega
  simp only [ofUInt64, UInt64.toNat_ofNat_of_lt' hfits]
  omega

@[simp]
theorem toInt64?_ofInt64 (n : Int64) : (ofInt64 n).toInt64? = some n := by
  have hlower := n.le_toInt
  have hupper := n.toInt_lt
  have hfits : -9223372036854775808 ≤ n.toInt ∧ n.toInt < 9223372036854775808 := by omega
  simp [toInt64?, ofInt64, hfits]

end CborInteger

namespace Cbor

/-- Induction over a data item, with the children of an array or a map as members
of its list. -/
@[induction_eliminator, elab_as_elim]
theorem induct {P : Cbor → Prop} (Integer : ∀ value, P (.Integer value)) (Bytes : ∀ value, P (.Bytes value))
    (Float : ∀ bits, P (.Float bits)) (Text : ∀ value, P (.Text value)) (Bool : ∀ value, P (.Bool value))
    (Null : P .Null) (Tag : ∀ tag value, P value → P (.Tag tag value))
    (Array : ∀ values, (∀ value ∈ values, P value) → P (.Array values))
    (Map : ∀ entries, (∀ entry ∈ entries, P entry.1 ∧ P entry.2) → P (.Map entries)) (value : Cbor) :
    P value := by
  refine @Cbor.rec P (fun values => ∀ value ∈ values, P value)
    (fun entries => ∀ entry ∈ entries, P entry.1 ∧ P entry.2) (fun entry => P entry.1 ∧ P entry.2)
    Integer Bytes Float Text Bool Null Tag Array Map ?_ ?_ ?_ ?_ ?_ value
  · simp
  · intro value values hvalue hvalues
    exact List.forall_mem_cons.mpr ⟨hvalue, hvalues⟩
  · simp
  · intro entry entries hentry hentries
    exact List.forall_mem_cons.mpr ⟨hentry, hentries⟩
  · intro key value hkey hvalue
    exact ⟨hkey, hvalue⟩

mutual

/-- The number of data items of the tree, keys and tags included. -/
def items : Cbor → Nat
  | .Tag _ value => 1 + value.items
  | .Array values => 1 + itemsOfList values
  | .Map entries => 1 + itemsOfEntries entries
  | .Integer _ | .Bytes _ | .Float _ | .Text _ | .Bool _ | .Null => 1

def itemsOfList : List Cbor → Nat
  | [] => 0
  | value :: values => value.items + itemsOfList values

def itemsOfEntries : List (Cbor × Cbor) → Nat
  | [] => 0
  | (key, value) :: entries => key.items + value.items + itemsOfEntries entries

end

mutual

/-- The number of levels below the item: an item without children has depth zero. -/
def depth : Cbor → Nat
  | .Tag _ value => value.depth + 1
  | .Array values => depthOfList values
  | .Map entries => depthOfEntries entries
  | .Integer _ | .Bytes _ | .Float _ | .Text _ | .Bool _ | .Null => 0

def depthOfList : List Cbor → Nat
  | [] => 0
  | value :: values => max (value.depth + 1) (depthOfList values)

def depthOfEntries : List (Cbor × Cbor) → Nat
  | [] => 0
  | (key, value) :: entries => max (max (key.depth + 1) (value.depth + 1)) (depthOfEntries entries)

end

mutual

/-- Every item of the tree satisfies `p`. -/
def Every (p : Cbor → Prop) : Cbor → Prop
  | .Tag tag value => p (.Tag tag value) ∧ value.Every p
  | .Array values => p (.Array values) ∧ EveryOfList p values
  | .Map entries => p (.Map entries) ∧ EveryOfEntries p entries
  | .Integer value => p (.Integer value)
  | .Bytes value => p (.Bytes value)
  | .Float bits => p (.Float bits)
  | .Text value => p (.Text value)
  | .Bool value => p (.Bool value)
  | .Null => p .Null

def EveryOfList (p : Cbor → Prop) : List Cbor → Prop
  | [] => True
  | value :: values => value.Every p ∧ EveryOfList p values

def EveryOfEntries (p : Cbor → Prop) : List (Cbor × Cbor) → Prop
  | [] => True
  | (key, value) :: entries => (key.Every p ∧ value.Every p) ∧ EveryOfEntries p entries

end

/-! ### The measures over lists -/

theorem items_Array (values : List Cbor) : (Cbor.Array values).items = 1 + (values.map items).sum := by
  have hlist : itemsOfList values = (values.map items).sum := by
    induction values with
    | nil => rfl
    | cons value values ih => simp [itemsOfList, ih]
  rw [items, hlist]

theorem items_Map (entries : List (Cbor × Cbor)) :
    (Cbor.Map entries).items = 1 + (entries.map fun entry => entry.1.items + entry.2.items).sum := by
  have hlist : itemsOfEntries entries = (entries.map fun entry => entry.1.items + entry.2.items).sum := by
    induction entries with
    | nil => rfl
    | cons entry entries ih => simp [itemsOfEntries, ih]
  rw [items, hlist]

theorem depth_Array_lt_iff {values : List Cbor} {levels : Nat} :
    (Cbor.Array values).depth < levels + 1 ↔ ∀ value ∈ values, value.depth < levels := by
  rw [depth]
  induction values with
  | nil => simp [depthOfList]
  | cons value values ih =>
    rw [depthOfList, List.forall_mem_cons, ← ih]
    omega

theorem depth_Map_lt_iff {entries : List (Cbor × Cbor)} {levels : Nat} :
    (Cbor.Map entries).depth < levels + 1 ↔
      ∀ entry ∈ entries, entry.1.depth < levels ∧ entry.2.depth < levels := by
  rw [depth]
  induction entries with
  | nil => simp [depthOfEntries]
  | cons entry entries ih =>
    rw [depthOfEntries, List.forall_mem_cons, ← ih]
    omega

variable {p q : Cbor → Prop}

theorem Every_Array_iff {values : List Cbor} :
    (Cbor.Array values).Every p ↔ p (.Array values) ∧ ∀ value ∈ values, value.Every p := by
  have hlist : EveryOfList p values ↔ ∀ value ∈ values, value.Every p := by
    induction values with
    | nil => simp [EveryOfList]
    | cons value values ih => rw [EveryOfList, ih, List.forall_mem_cons]
  rw [Every, hlist]

theorem Every_Map_iff {entries : List (Cbor × Cbor)} :
    (Cbor.Map entries).Every p ↔
      p (.Map entries) ∧ ∀ entry ∈ entries, entry.1.Every p ∧ entry.2.Every p := by
  have hlist : EveryOfEntries p entries ↔ ∀ entry ∈ entries, entry.1.Every p ∧ entry.2.Every p := by
    induction entries with
    | nil => simp [EveryOfEntries]
    | cons entry entries ih => rw [EveryOfEntries, ih, List.forall_mem_cons]
  rw [Every, hlist]

theorem Every.self {value : Cbor} (h : value.Every p) : p value := by
  cases value with
  | Tag tag value => exact h.1
  | Array values => exact h.1
  | Map entries => exact h.1
  | Integer value => exact h
  | Bytes value => exact h
  | Float bits => exact h
  | Text value => exact h
  | Bool value => exact h
  | Null => exact h

theorem Every_and_iff {value : Cbor} :
    value.Every (fun item => p item ∧ q item) ↔ value.Every p ∧ value.Every q := by
  induction value with
  | Integer value => rfl
  | Bytes value => rfl
  | Float bits => rfl
  | Text value => rfl
  | Bool value => rfl
  | Null => rfl
  | Tag tag value ih =>
    simp only [Every, ih]
    tauto
  | Array values ih =>
    simp only [Every_Array_iff]
    constructor
    · rintro ⟨⟨hp, hq⟩, hall⟩
      exact ⟨⟨hp, fun value hvalue => ((ih value hvalue).mp (hall value hvalue)).1⟩,
        hq, fun value hvalue => ((ih value hvalue).mp (hall value hvalue)).2⟩
    · rintro ⟨⟨hp, hallp⟩, hq, hallq⟩
      exact ⟨⟨hp, hq⟩, fun value hvalue => (ih value hvalue).mpr ⟨hallp value hvalue, hallq value hvalue⟩⟩
  | Map entries ih =>
    simp only [Every_Map_iff]
    constructor
    · rintro ⟨⟨hp, hq⟩, hall⟩
      have hkeys := fun entry hentry => (ih entry hentry).1.mp (hall entry hentry).1
      have hvalues := fun entry hentry => (ih entry hentry).2.mp (hall entry hentry).2
      exact ⟨⟨hp, fun entry hentry => ⟨(hkeys entry hentry).1, (hvalues entry hentry).1⟩⟩,
        hq, fun entry hentry => ⟨(hkeys entry hentry).2, (hvalues entry hentry).2⟩⟩
    · rintro ⟨⟨hp, hallp⟩, hq, hallq⟩
      refine ⟨⟨hp, hq⟩, fun entry hentry => ⟨?_, ?_⟩⟩
      · exact (ih entry hentry).1.mpr ⟨(hallp entry hentry).1, (hallq entry hentry).1⟩
      · exact (ih entry hentry).2.mpr ⟨(hallp entry hentry).2, (hallq entry hentry).2⟩

theorem items_pos (value : Cbor) : 0 < value.items := by
  cases value <;> simp only [items] <;> omega

end Cbor
