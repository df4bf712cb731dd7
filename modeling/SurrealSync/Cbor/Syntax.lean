import SurrealSync.Cbor.Encode

/-! Data items of definite length as they are written: every width of an argument, and any content of its strings and
simple values. -/

namespace Cbor.Syntax

/-- The argument of a head, in the initial byte or in the next 1, 2, 4 or 8 bytes. -/
structure Argument where
  additional : Nat
  payload : List UInt8
  written : (additional < 24 ∧ payload.length = 0) ∨ (additional = 24 ∧ payload.length = 1) ∨
    (additional = 25 ∧ payload.length = 2) ∨ (additional = 26 ∧ payload.length = 4) ∨
    (additional = 27 ∧ payload.length = 8)

namespace Argument

def value (argument : Argument) : Nat :=
  if argument.additional < 24 then argument.additional else ofBigEndian argument.payload

theorem additional_lt (argument : Argument) : argument.additional < 32 := by
  have hwritten := argument.written
  omega

end Argument

structure Head where
  major : Nat
  argument : Argument
  major_lt : major < 8

namespace Head

def initial (head : Head) : UInt8 := .ofNat (32 * head.major + head.argument.additional)

theorem toNat_initial (head : Head) : head.initial.toNat = 32 * head.major + head.argument.additional := by
  have hmajor := head.major_lt
  have hadditional := head.argument.additional_lt
  exact UInt8.toNat_ofNat_of_lt (show 32 * head.major + head.argument.additional < 256 by omega)

theorem initial_mod (head : Head) : head.initial.toNat % 32 = head.argument.additional := by
  have hadditional := head.argument.additional_lt
  rw [toNat_initial]
  omega

theorem initial_div (head : Head) : head.initial.toNat / 32 = head.major := by
  have hadditional := head.argument.additional_lt
  rw [toNat_initial]
  omega

/-- The bytes of a string behind its head. -/
def stringBytes (head : Head) : Nat :=
  if head.major = 2 ∨ head.major = 3 then head.argument.value else 0

/-- The items inside an array, a map or a tag. -/
def contents (head : Head) : Nat :=
  if head.major = 4 then head.argument.value
  else if head.major = 5 then head.argument.value * 2
  else if head.major = 6 then 1
  else 0

end Head

/-- A head with the bytes and the items that follow it. -/
inductive Item where
  | node (head : Head) (string : List UInt8) (children : List Item)

namespace Item

def head : Item → Head
  | .node head _ _ => head

mutual

def encode : Item → List UInt8
  | .node head string children => head.initial :: (head.argument.payload ++ (string ++ encodeAll children))

def encodeAll : List Item → List UInt8
  | [] => []
  | item :: items => item.encode ++ encodeAll items

end

mutual

/-- As many bytes and items follow each head as it announces. -/
def WellFormed : Item → Prop
  | .node head string children =>
    string.length = head.stringBytes ∧ children.length = head.contents ∧ AllWellFormed children

def AllWellFormed : List Item → Prop
  | [] => True
  | item :: items => item.WellFormed ∧ AllWellFormed items

end

mutual

/-- A property of every head in an item. -/
def Every (p : Head → Prop) : Item → Prop
  | .node head _ children => p head ∧ EveryAll p children

def EveryAll (p : Head → Prop) : List Item → Prop
  | [] => True
  | item :: items => item.Every p ∧ EveryAll p items

end

mutual

/-- The number of data items: the item itself and the items inside it. -/
def count : Item → Nat
  | .node _ _ children => countAll children + 1

def countAll : List Item → Nat
  | [] => 0
  | item :: items => item.count + countAll items

end

mutual

/-- The levels below an item. -/
def depth : Item → Nat
  | .node _ _ children => depthAll children

def depthAll : List Item → Nat
  | [] => 0
  | item :: items => max (item.depth + 1) (depthAll items)

end

theorem depthAll_lt_iff {items : List Item} {levels : Nat} :
    depthAll items < levels + 1 ↔ ∀ item ∈ items, item.depth < levels := by
  induction items with
  | nil => simp [depthAll]
  | cons item items ih =>
    rw [depthAll, List.forall_mem_cons, ← ih]
    omega

end Item

end Cbor.Syntax
