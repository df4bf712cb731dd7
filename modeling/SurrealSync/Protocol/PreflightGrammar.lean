import Mathlib.Tactic.IntervalCases
import SurrealSync.Cbor.Syntax
import SurrealSync.Protocol.Preflight

namespace surrealdb_sync_protocol.canonical

open Except
open Cbor.Syntax

/-! ### What the scanner accepts of any bytes -/

/-- The limits of the scanner on the strings and containers that a head announces. -/
structure HeadWithinLimits (head : Head) : Prop where
  string : head.major = 2 ∨ head.major = 3 → head.argument.value ≤ MAX_STRING_BYTES
  container : head.major = 4 ∨ head.major = 5 → head.argument.value ≤ MAX_CONTAINER_ITEMS

/-- An item that the scanner gets through with `levels` levels and `remaining` items left. -/
structure Scannable (levels remaining : Nat) (item : Item) : Prop where
  well_formed : item.WellFormed
  limits : item.Every HeadWithinLimits
  depth : item.depth < levels
  count : item.count ≤ remaining

/-- An argument behind the initial byte, of the width that the additional information stands for. -/
theorem read_cbor_argument_wide {bytes : List UInt8} {additional width : Nat}
    (hwidth : (additional = 24 ∧ width = 1) ∨ (additional = 25 ∧ width = 2) ∨ (additional = 26 ∧ width = 4) ∨
      (additional = 27 ∧ width = 8)) :
    read_cbor_argument bytes additional = (do
      refuse (bytes.length < width) .Decode
      return (Cbor.ofBigEndian (bytes.take width), bytes.drop width)) := by
  rcases hwidth with ⟨rfl, rfl⟩ | ⟨rfl, rfl⟩ | ⟨rfl, rfl⟩ | ⟨rfl, rfl⟩ <;> rfl

theorem read_cbor_argument_reserved {bytes : List UInt8} {additional : Nat} (hreserved : 28 ≤ additional) :
    read_cbor_argument bytes additional = .error .Decode := by
  rw [read_cbor_argument, if_neg (by omega)]
  split <;> first | omega | rfl

theorem read_cbor_argument_iff {bytes rest : List UInt8} {additional n : Nat} :
    read_cbor_argument bytes additional = .ok (n, rest) ↔
      ∃ argument : Argument, argument.additional = additional ∧ argument.value = n ∧ bytes = argument.payload ++ rest := by
  constructor
  · intro hread
    rcases Nat.lt_or_ge additional 24 with hsmall | hlarge
    · rw [read_cbor_argument, if_pos hsmall] at hread
      cases hread
      exact ⟨⟨additional, [], .inl ⟨hsmall, rfl⟩⟩, rfl, by simp [Argument.value, hsmall], rfl⟩
    · rcases Nat.lt_or_ge additional 28 with hwide | hreserved
      · obtain ⟨width, hwidth⟩ : ∃ width, (additional = 24 ∧ width = 1) ∨ (additional = 25 ∧ width = 2) ∨
            (additional = 26 ∧ width = 4) ∨ (additional = 27 ∧ width = 8) :=
          ⟨2 ^ (additional - 24), by interval_cases additional <;> decide⟩
        rw [read_cbor_argument_wide hwidth] at hread
        obtain ⟨_, hroom, hread⟩ := bind_eq_ok_iff.mp hread
        have hlength : (bytes.take width).length = width :=
          List.length_take_of_le (Nat.not_lt.mp (refuse_eq_ok_iff.mp hroom))
        cases hread
        refine ⟨⟨additional, bytes.take width, .inr (by rw [hlength]; exact hwidth)⟩, rfl, ?_,
          (List.take_append_drop _ _).symm⟩
        exact if_neg (Nat.not_lt.mpr hlarge)
      · rw [read_cbor_argument_reserved hreserved] at hread
        cases hread
  · rintro ⟨⟨additional, payload, hwritten⟩, rfl, rfl, rfl⟩
    rcases hwritten with ⟨hsmall, hempty⟩ | hwritten
    · cases List.length_eq_zero_iff.mp hempty
      simp [read_cbor_argument, Argument.value, hsmall]
    · have hvalue : (Argument.mk additional payload (.inr hwritten)).value = Cbor.ofBigEndian payload :=
        if_neg (by dsimp only; omega)
      dsimp only
      rw [read_cbor_argument_wide hwritten, refuse_of_not (by simp), List.take_left, List.drop_left, hvalue]
      rfl

theorem scan_many_one {scan : ScanState → Result ScanState} {state : ScanState} : scan_many scan 1 state = scan state := by
  rw [scan_many]
  cases scan state <;> rfl

theorem scan_payload_iff {scan : ScanState → Result ScanState} {head : Head} {bytes : List UInt8} {remaining : Nat}
    {next : ScanState} :
    scan_payload scan head.major head.argument.value (bytes, remaining) = .ok next ↔
      HeadWithinLimits head ∧ ∃ string rest, bytes = string ++ rest ∧ string.length = head.stringBytes ∧
        scan_many scan head.contents (rest, remaining) = .ok next := by
  obtain ⟨major, argument, hmajor⟩ := head
  have hlimits : HeadWithinLimits ⟨major, argument, hmajor⟩ ↔
      (major = 2 ∨ major = 3 → argument.value ≤ MAX_STRING_BYTES) ∧
        (major = 4 ∨ major = 5 → argument.value ≤ MAX_CONTAINER_ITEMS) :=
    ⟨fun ⟨hstring, hcontainer⟩ => ⟨hstring, hcontainer⟩, fun ⟨hstring, hcontainer⟩ => ⟨hstring, hcontainer⟩⟩
  have hstring :
      (do
        refuse (argument.value > MAX_STRING_BYTES) .StringLimit
        refuse (bytes.length < argument.value) .Decode
        return (bytes.drop argument.value, remaining) : Result ScanState) = .ok next ↔
        argument.value ≤ MAX_STRING_BYTES ∧ ∃ string rest, bytes = string ++ rest ∧ string.length = argument.value ∧
          (rest, remaining) = next := by
    simp only [bind_eq_ok_iff, refuse_eq_ok_iff, exists_const, gt_iff_lt, Nat.not_lt, pure, Except.pure, ok.injEq]
    apply and_congr_right
    intro _
    constructor
    · rintro ⟨hlong, heq⟩
      exact ⟨_, _, (List.take_append_drop _ _).symm, List.length_take_of_le hlong, heq⟩
    · rintro ⟨string, rest, rfl, hlength, heq⟩
      rw [← hlength, List.drop_left]
      exact ⟨by simp, heq⟩
  rw [hlimits]
  interval_cases major
  · simp [scan_payload, Head.stringBytes, Head.contents, scan_many]
  · simp [scan_payload, Head.stringBytes, Head.contents, scan_many]
  · simpa [scan_payload, Head.stringBytes, Head.contents, scan_many, pure, Except.pure] using hstring
  · simpa [scan_payload, Head.stringBytes, Head.contents, scan_many, pure, Except.pure] using hstring
  · simp [scan_payload, Head.stringBytes, Head.contents, refuse_eq_ok_iff, bind_eq_ok_iff]
  · simp [scan_payload, Head.stringBytes, Head.contents, refuse_eq_ok_iff, bind_eq_ok_iff]
  · simp [scan_payload, Head.stringBytes, Head.contents, scan_many_one]
  · simp [scan_payload, Head.stringBytes, Head.contents, scan_many]

theorem scan_many_iff {scan : ScanState → Result ScanState} {levels : Nat}
    (hscan : ∀ {bytes rest : List UInt8} {remaining left : Nat}, scan (bytes, remaining) = .ok (rest, left) ↔
      ∃ item : Item, bytes = item.encode ++ rest ∧ Scannable levels remaining item ∧ left + item.count = remaining)
    {count : Nat} {bytes rest : List UInt8} {remaining left : Nat} :
    scan_many scan count (bytes, remaining) = .ok (rest, left) ↔
      ∃ items : List Item, items.length = count ∧ bytes = Item.encodeAll items ++ rest ∧ Item.AllWellFormed items ∧
        Item.EveryAll HeadWithinLimits items ∧ (∀ item ∈ items, item.depth < levels) ∧
        left + Item.countAll items = remaining := by
  induction count generalizing bytes remaining with
  | zero =>
    constructor
    · intro hdone
      cases hdone
      exact ⟨[], rfl, rfl, trivial, trivial, by simp, rfl⟩
    · rintro ⟨items, hlength, rfl, _, _, _, hleft⟩
      cases List.length_eq_zero_iff.mp hlength
      cases hleft
      rfl
  | succ count ih =>
    rw [scan_many, bind_eq_ok_iff]
    constructor
    · rintro ⟨⟨after, between⟩, hfirst, hrest⟩
      obtain ⟨item, rfl, hitem, hspent⟩ := hscan.mp hfirst
      obtain ⟨items, rfl, rfl, hformed, hlimits, hdepth, rfl⟩ := ih.mp hrest
      exact ⟨item :: items, rfl, by rw [Item.encodeAll, List.append_assoc], ⟨hitem.well_formed, hformed⟩,
        ⟨hitem.limits, hlimits⟩, List.forall_mem_cons.mpr ⟨hitem.depth, hdepth⟩, by rw [Item.countAll]; omega⟩
    · rintro ⟨items, hlength, rfl, hformed, hlimits, hdepth, hleft⟩
      cases items with
      | nil => cases hlength
      | cons item items =>
        obtain ⟨hdepth_item, hdepth⟩ := List.forall_mem_cons.mp hdepth
        rw [Item.countAll] at hleft
        refine ⟨(Item.encodeAll items ++ rest, left + Item.countAll items), hscan.mpr ⟨item, ?_, ?_, by omega⟩,
          ih.mpr ⟨items, Nat.succ.inj hlength, rfl, hformed.2, hlimits.2, hdepth, rfl⟩⟩
        · rw [Item.encodeAll, List.append_assoc]
        · exact ⟨hformed.1, hlimits.1, hdepth_item, by omega⟩

theorem scan_cbor_item_iff {levels : Nat} {bytes rest : List UInt8} {remaining left : Nat} :
    scan_cbor_item levels (bytes, remaining) = .ok (rest, left) ↔
      ∃ item : Item, bytes = item.encode ++ rest ∧ Scannable levels remaining item ∧ left + item.count = remaining := by
  induction levels generalizing bytes rest remaining left with
  | zero =>
    constructor
    · intro hscan
      cases hscan
    · rintro ⟨item, _, hitem, _⟩
      exact absurd hitem.depth (Nat.not_lt_zero _)
  | succ levels ih =>
    constructor
    · intro hscan
      cases bytes with
      | nil =>
        rw [scan_cbor_item] at hscan
        · obtain ⟨_, _, hscan⟩ := bind_eq_ok_iff.mp hscan
          cases hscan
        · simp
      | cons initial bytes =>
        rw [scan_cbor_item] at hscan
        obtain ⟨_, hbudget, hread⟩ := bind_eq_ok_iff.mp hscan
        have hpositive := Nat.not_lt.mp (refuse_eq_ok_iff.mp hbudget)
        obtain ⟨⟨n, after⟩, hargument, hpayload⟩ := bind_eq_ok_iff.mp hread
        obtain ⟨argument, hadditional, rfl, rfl⟩ := read_cbor_argument_iff.mp hargument
        have hinitial := initial.toNat_lt
        let head : Head := ⟨initial.toNat / 32, argument, by omega⟩
        obtain ⟨hhead, string, behind, rfl, hstring, hmany⟩ := (@scan_payload_iff _ head _ _ _).mp hpayload
        obtain ⟨children, hcontents, rfl, hformed, hlimits, hdepth, hspent⟩ := (scan_many_iff ih).mp hmany
        have hhead_initial : head.initial = initial := by
          rw [← UInt8.toNat_inj, Head.toNat_initial, hadditional]
          exact Nat.div_add_mod initial.toNat 32
        refine ⟨.node head string children, ?_, ⟨⟨hstring, hcontents, hformed⟩, ⟨hhead, hlimits⟩, ?_, ?_⟩, ?_⟩
        · simp [Item.encode, hhead_initial, head]
        · rw [Item.depth, Item.depthAll_lt_iff]
          exact hdepth
        · rw [Item.count]
          omega
        · rw [Item.count]
          omega
    · rintro ⟨⟨head, string, children⟩, rfl, ⟨⟨hstring, hcontents, hformed⟩, ⟨hhead, hlimits⟩, hdepth, hcount⟩, hleft⟩
      rw [Item.depth, Item.depthAll_lt_iff] at hdepth
      rw [Item.count] at hcount hleft
      have hchildren : scan_many (scan_cbor_item levels) head.contents (Item.encodeAll children ++ rest, remaining - 1) =
          .ok (rest, left) :=
        (scan_many_iff ih).mpr ⟨children, hcontents, rfl, hformed, hlimits, hdepth, by omega⟩
      have hargument : read_cbor_argument (head.argument.payload ++ (string ++ (Item.encodeAll children ++ rest)))
          head.argument.additional = .ok (head.argument.value, string ++ (Item.encodeAll children ++ rest)) :=
        read_cbor_argument_iff.mpr ⟨head.argument, rfl, rfl, rfl⟩
      rw [Item.encode, List.cons_append, scan_cbor_item, refuse_of_not (by omega), ok_bind, head.initial_mod,
        head.initial_div, List.append_assoc, List.append_assoc, hargument, ok_bind]
      exact scan_payload_iff.mpr ⟨hhead, string, _, rfl, hstring, hchildren⟩

/-- What a scan leaves unread is the end of what it was given. -/
theorem scan_cbor_item_suffix {levels remaining : Nat} {bytes : List UInt8} {next : ScanState}
    (hscan : scan_cbor_item levels (bytes, remaining) = .ok next) : next.1 <:+ bytes := by
  obtain ⟨item, rfl, _⟩ := scan_cbor_item_iff.mp hscan
  exact List.suffix_append _ _

/-- The preflight accepts exactly the bytes of one item within its limits, and no scan of an item in them leaves the
input. -/
theorem preflight_accepts_one_item (bytes : List UInt8) :
    (preflight_canonical_cbor bytes = .ok () ↔
      ∃ item : Item, item.encode = bytes ∧ item.WellFormed ∧ item.count ≤ MAX_TOTAL_ITEMS ∧ item.depth ≤ MAX_DEPTH ∧
        item.Every HeadWithinLimits) ∧
    ∀ unread, unread <:+ bytes → ∀ levels remaining next, scan_cbor_item levels (unread, remaining) = .ok next →
      next.1 <:+ bytes := by
  refine ⟨?_, fun unread hunread levels remaining next hscan => (scan_cbor_item_suffix hscan).trans hunread⟩
  rw [preflight_canonical_cbor, bind_eq_ok_iff]
  constructor
  · rintro ⟨⟨rest, left⟩, hscan, hrest⟩
    obtain ⟨item, rfl, hitem, _⟩ := scan_cbor_item_iff.mp hscan
    cases not_not.mp (refuse_eq_ok_iff.mp hrest)
    exact ⟨item, (List.append_nil _).symm, hitem.well_formed, hitem.count, Nat.lt_succ_iff.mp hitem.depth, hitem.limits⟩
  · rintro ⟨item, rfl, hformed, hcount, hdepth, hlimits⟩
    refine ⟨([], MAX_TOTAL_ITEMS - item.count), scan_cbor_item_iff.mpr ⟨item, (List.append_nil _).symm, ?_, by omega⟩,
      refuse_of_not (by simp)⟩
    exact ⟨hformed, hlimits, Nat.lt_succ_iff.mpr hdepth, hcount⟩

end surrealdb_sync_protocol.canonical
