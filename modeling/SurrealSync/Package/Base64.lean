import Mathlib.Data.List.Basic
import Mathlib.Data.Nat.Bitwise
import Mathlib.Tactic.IntervalCases

namespace react_native_surrealdb.wire

def BASE64 : List Char := "ABCDEFGHIJKLMNOPQRSTUVWXYZabcdefghijklmnopqrstuvwxyz0123456789+/".toList

/-- `BASE64[index]`, for an index of six bits. -/
def symbol (index : Nat) : Char := BASE64.getD index '='

/-- `BASE64.indexOf(char)`, unless it is negative. -/
def indexOf (char : Char) : Option Nat := if char ∈ BASE64 then some (BASE64.idxOf char) else none

/-- One iteration of the loop of `encodeBase64` for each three bytes; missing bytes count as zero. -/
def encodeBase64 : List UInt8 → List Char
  | [] => []
  | a :: rest =>
    let b := rest.headD 0
    let c := rest.tail.headD 0
    let bits := (a.toNat <<< 16) ||| (b.toNat <<< 8) ||| c.toNat
    symbol ((bits >>> 18) &&& 63) :: symbol ((bits >>> 12) &&& 63)
      :: (if rest ≠ [] then symbol ((bits >>> 6) &&& 63) else '=')
      :: (if rest.tail ≠ [] then symbol (bits &&& 63) else '=') :: encodeBase64 rest.tail.tail
termination_by bytes => bytes.length
decreasing_by simp; omega

/-- The third and the fourth symbol of a group may be a padding. -/
def indexOfPadded (char : Char) : Option Nat := if char = '=' then some 0 else indexOf char

/-- The three bytes of one iteration of the loop of `decodeBase64`. -/
def decodeGroup (first second third fourth : Char) : Option (List UInt8) := do
  let a ← indexOf first
  let b ← indexOf second
  let c ← indexOfPadded third
  let d ← indexOfPadded fourth
  let bits := (a <<< 18) ||| (b <<< 12) ||| (c <<< 6) ||| d
  return [.ofNat ((bits >>> 16) &&& 255), .ofNat ((bits >>> 8) &&& 255), .ofNat (bits &&& 255)]

def decodeGroups : List Char → Option (List UInt8)
  | first :: second :: third :: fourth :: rest => do
    return (← decodeGroup first second third fourth) ++ (← decodeGroups rest)
  | _ => some []

/-- The test of `/^[A-Za-z0-9+/]*={0,2}$/`. -/
def isBase64 (input : List Char) : Bool :=
  input.dropWhile (· ∈ BASE64) ∈ [[], ['='], ['=', '=']]

def decodeBase64 (input : List Char) : Option (List UInt8) :=
  if input.length % 4 ≠ 0 ∨ ¬ isBase64 input then none
  else
    let padding := if ['=', '='] <:+ input then 2 else if ['='] <:+ input then 1 else 0
    (decodeGroups input).map (·.take (input.length / 4 * 3 - padding))

theorem indexOf_symbol {index : Nat} (hindex : index < 64) : indexOf (symbol index) = some index := by
  interval_cases index <;> decide

theorem symbol_mem {index : Nat} (hindex : index < 64) : symbol index ∈ BASE64 := by
  interval_cases index <;> decide

theorem padding_not_mem : '=' ∉ BASE64 := by decide

theorem symbol_ne_padding {index : Nat} (hindex : index < 64) : symbol index ≠ '=' := by
  intro heq
  exact padding_not_mem (heq ▸ symbol_mem hindex)

/-- The bits of three bytes, as numbers. -/
theorem joined_bits {a b c : Nat} (hb : b < 256) (hc : c < 256) :
    (a <<< 16) ||| (b <<< 8) ||| c = a * 65536 + b * 256 + c := by
  have hlow : (b <<< 8) ||| c = b * 256 + c := by
    rw [← Nat.shiftLeft_add_eq_or_of_lt (by omega : c < 2 ^ 8), Nat.shiftLeft_eq]
  rw [Nat.or_assoc, hlow, ← Nat.shiftLeft_add_eq_or_of_lt (by omega : b * 256 + c < 2 ^ 16), Nat.shiftLeft_eq]
  omega

theorem six_bits (n k : Nat) : (n >>> k) &&& 63 = n / 2 ^ k % 64 := by
  rw [Nat.shiftRight_eq_div_pow, show (63 : Nat) = 2 ^ 6 - 1 from rfl, Nat.and_two_pow_sub_one_eq_mod]

theorem eight_bits (n k : Nat) : (n >>> k) &&& 255 = n / 2 ^ k % 256 := by
  rw [Nat.shiftRight_eq_div_pow, show (255 : Nat) = 2 ^ 8 - 1 from rfl, Nat.and_two_pow_sub_one_eq_mod]

/-- The bits of four symbols, as numbers. -/
theorem joined_symbols {a b c d : Nat} (hb : b < 64) (hc : c < 64) (hd : d < 64) :
    (a <<< 18) ||| (b <<< 12) ||| (c <<< 6) ||| d = a * 262144 + b * 4096 + c * 64 + d := by
  have hlow : (c <<< 6) ||| d = c * 64 + d := by
    rw [← Nat.shiftLeft_add_eq_or_of_lt (by omega : d < 2 ^ 6), Nat.shiftLeft_eq]
  have hmiddle : (b <<< 12) ||| (c * 64 + d) = b * 4096 + (c * 64 + d) := by
    rw [← Nat.shiftLeft_add_eq_or_of_lt (by omega : c * 64 + d < 2 ^ 12), Nat.shiftLeft_eq]
  rw [Nat.or_assoc, Nat.or_assoc, hlow, hmiddle,
    ← Nat.shiftLeft_add_eq_or_of_lt (by omega : b * 4096 + (c * 64 + d) < 2 ^ 18), Nat.shiftLeft_eq]
  omega

/-- A group is decoded to its three bytes; a padding stands for six bits that are zero. -/
theorem decodeGroup_encoded (a b c : UInt8) {third fourth : Char}
    (hthird : third = symbol ((((a.toNat <<< 16) ||| (b.toNat <<< 8) ||| c.toNat) >>> 6) &&& 63) ∨
      third = '=' ∧ b.toNat = 0 ∧ c.toNat = 0)
    (hfourth : fourth = symbol (((a.toNat <<< 16) ||| (b.toNat <<< 8) ||| c.toNat) &&& 63) ∨
      fourth = '=' ∧ c.toNat = 0) :
    decodeGroup (symbol ((((a.toNat <<< 16) ||| (b.toNat <<< 8) ||| c.toNat) >>> 18) &&& 63))
      (symbol ((((a.toNat <<< 16) ||| (b.toNat <<< 8) ||| c.toNat) >>> 12) &&& 63)) third fourth = some [a, b, c] := by
  have ha := a.toNat_lt
  have hb := b.toNat_lt
  have hc := c.toNat_lt
  have hbits := @joined_bits a.toNat b.toNat c.toNat (by omega) (by omega)
  generalize (a.toNat <<< 16) ||| (b.toNat <<< 8) ||| c.toNat = bits at *
  have hlast := six_bits bits 0
  rw [Nat.shiftRight_zero] at hlast
  rw [six_bits] at hthird
  rw [hlast] at hfourth
  have hread : ∀ k : Nat, indexOf (symbol (bits / 2 ^ k % 64)) = some (bits / 2 ^ k % 64) :=
    fun k => indexOf_symbol (Nat.mod_lt _ (by omega))
  have hthirdRead : indexOfPadded third = some (bits / 2 ^ 6 % 64) := by
    unfold indexOfPadded
    rcases hthird with rfl | ⟨rfl, hbzero, hczero⟩
    · rw [if_neg (symbol_ne_padding (Nat.mod_lt _ (by omega))), hread]
    · have hzero : 0 = bits / 2 ^ 6 % 64 := by omega
      rw [if_pos rfl, ← hzero]
  have hfourthRead : indexOfPadded fourth = some (bits / 2 ^ 0 % 64) := by
    unfold indexOfPadded
    rcases hfourth with rfl | ⟨rfl, hczero⟩
    · rw [if_neg (symbol_ne_padding (Nat.mod_lt _ (by omega))), hread]
    · have hzero : 0 = bits / 2 ^ 0 % 64 := by omega
      rw [if_pos rfl, ← hzero]
  have hjoined := @joined_symbols (bits / 2 ^ 18 % 64) (bits / 2 ^ 12 % 64) (bits / 2 ^ 6 % 64) (bits / 2 ^ 0 % 64)
    (Nat.mod_lt _ (by omega)) (Nat.mod_lt _ (by omega)) (Nat.mod_lt _ (by omega))
  have hsame : bits / 2 ^ 18 % 64 * 262144 + bits / 2 ^ 12 % 64 * 4096 + bits / 2 ^ 6 % 64 * 64 + bits / 2 ^ 0 % 64 =
      bits := by
    omega
  rw [hsame] at hjoined
  have hlow := eight_bits bits 0
  rw [Nat.shiftRight_zero] at hlow
  have hbytes : UInt8.ofNat (bits / 2 ^ 16 % 256) = a ∧ UInt8.ofNat (bits / 2 ^ 8 % 256) = b ∧
      UInt8.ofNat (bits / 2 ^ 0 % 256) = c := by
    refine ⟨?_, ?_, ?_⟩
    all_goals
      apply UInt8.toNat_inj.mp
      rw [UInt8.toNat_ofNat']
      omega
  obtain ⟨hfirst, hsecond, hfinal⟩ := hbytes
  unfold decodeGroup
  rw [six_bits, six_bits, hread, hread, hthirdRead, hfourthRead]
  simp only [Option.bind_eq_bind, Option.bind_some, Option.pure_def]
  rw [hjoined, eight_bits, eight_bits, hlow, hfirst, hsecond, hfinal]

theorem decodeGroups_cons {first second third fourth : Char} {rest : List Char} {group bytes : List UInt8}
    (hgroup : decodeGroup first second third fourth = some group) (hrest : decodeGroups rest = some bytes) :
    decodeGroups (first :: second :: third :: fourth :: rest) = some (group ++ bytes) := by
  rw [decodeGroups, hgroup, hrest]
  rfl

/-- The bytes of the groups, with the zeros that filled up the last one. -/
theorem decodeGroups_encodeBase64 (bytes : List UInt8) :
    ∃ zeros, decodeGroups (encodeBase64 bytes) = some (bytes ++ zeros) := by
  induction bytes using encodeBase64.induct with
  | case1 => exact ⟨[], by simp [encodeBase64, decodeGroups]⟩
  | case2 a rest ih =>
    obtain ⟨zeros, hzeros⟩ := ih
    rcases rest with _ | ⟨b, _ | ⟨c, rest⟩⟩
    · have hgroup := decodeGroup_encoded a 0 0 (.inr ⟨rfl, rfl, rfl⟩) (.inr ⟨rfl, rfl⟩)
      refine ⟨0 :: 0 :: zeros, ?_⟩
      have hall := decodeGroups_cons hgroup hzeros
      rw [encodeBase64]
      exact hall
    · have hgroup := decodeGroup_encoded a b 0 (.inl rfl) (.inr ⟨rfl, rfl⟩)
      refine ⟨0 :: zeros, ?_⟩
      have hall := decodeGroups_cons hgroup hzeros
      rw [encodeBase64]
      exact hall
    · have hgroup := decodeGroup_encoded a b c (.inl rfl) (.inl rfl)
      refine ⟨zeros, ?_⟩
      have hall := decodeGroups_cons hgroup hzeros
      rw [encodeBase64]
      exact hall

theorem symbol_bits_mem (bits k : Nat) : symbol ((bits >>> k) &&& 63) ∈ BASE64 := by
  rw [six_bits]
  exact symbol_mem (Nat.mod_lt _ (by omega))

/-- The text is symbols and then the paddings that stand for the missing bytes of the last group. -/
theorem encodeBase64_eq (bytes : List UInt8) :
    ∃ symbols padding, encodeBase64 bytes = symbols ++ List.replicate padding '=' ∧ (∀ char ∈ symbols, char ∈ BASE64) ∧
      padding ≤ 2 ∧ 4 * (bytes.length + padding) = 3 * (encodeBase64 bytes).length := by
  induction bytes using encodeBase64.induct with
  | case1 => exact ⟨[], 0, by simp [encodeBase64]⟩
  | case2 a rest ih =>
    rcases rest with _ | ⟨b, _ | ⟨c, rest⟩⟩
    · refine ⟨(encodeBase64 [a]).take 2, 2, ?_, ?_, by omega, ?_⟩
      · simp [encodeBase64]
      · simp [encodeBase64, symbol_bits_mem]
      · simp [encodeBase64]
    · refine ⟨(encodeBase64 [a, b]).take 3, 1, ?_, ?_, by omega, ?_⟩
      · simp [encodeBase64]
      · simp [encodeBase64, symbol_bits_mem]
      · simp [encodeBase64]
    · obtain ⟨symbols, padding, heq, hmem, hpadding, hlength⟩ := ih
      have hgroup : ∀ char ∈ (encodeBase64 (a :: b :: c :: rest)).take 4, char ∈ BASE64 := by
        rw [encodeBase64]
        have hlast := symbol_bits_mem ((a.toNat <<< 16) ||| (b.toNat <<< 8) ||| c.toNat) 0
        rw [Nat.shiftRight_zero] at hlast
        simpa [symbol_bits_mem] using hlast
      refine ⟨(encodeBase64 (a :: b :: c :: rest)).take 4 ++ symbols, padding, ?_, ?_, hpadding, ?_⟩
      · rw [List.append_assoc, ← heq, encodeBase64]
        rfl
      · exact fun char hchar => (List.mem_append.mp hchar).elim (hgroup char) (hmem char)
      · rw [encodeBase64]
        simp only [List.tail_cons, List.length_cons] at hlength ⊢
        omega

/-- The paddings at the end of a text of symbols and at most two of them. -/
theorem padding_of_suffix {symbols : List Char} {padding : Nat} (hmem : ∀ char ∈ symbols, char ∈ BASE64)
    (hpadding : padding ≤ 2) :
    (if ['=', '='] <:+ symbols ++ List.replicate padding '=' then 2
      else if ['='] <:+ symbols ++ List.replicate padding '=' then 1 else 0) = padding := by
  have hsymbols : ¬ ['='] <:+ symbols := fun hsuffix => padding_not_mem (hmem '=' (hsuffix.subset (by simp)))
  interval_cases padding
  · have hnone : ¬ ['=', '='] <:+ symbols := fun hsuffix => padding_not_mem (hmem '=' (hsuffix.subset (by simp)))
    simp [hnone, hsymbols]
  · have hone : ¬ ['=', '='] <:+ symbols ++ ['='] := by
      rintro ⟨front, hfront⟩
      rw [show front ++ ['=', '='] = (front ++ ['=']) ++ ['='] by simp] at hfront
      exact hsymbols ⟨front, List.append_cancel_right hfront⟩
    simp [hone]
  · simp

/-- Bytes are read back from their text. -/
theorem decodeBase64_encodeBase64 (bytes : List UInt8) : decodeBase64 (encodeBase64 bytes) = some bytes := by
  obtain ⟨zeros, hgroups⟩ := decodeGroups_encodeBase64 bytes
  obtain ⟨symbols, padding, heq, hmem, hpadding, hlength⟩ := encodeBase64_eq bytes
  have hdrop : (encodeBase64 bytes).dropWhile (· ∈ BASE64) = List.replicate padding '=' := by
    rw [heq, List.dropWhile_append_of_pos (by simpa using hmem)]
    cases padding with
    | zero => rfl
    | succ padding => rw [List.replicate_succ, List.dropWhile_cons_of_neg (by simpa using padding_not_mem)]
  have hbase64 : isBase64 (encodeBase64 bytes) := by
    unfold isBase64
    rw [hdrop]
    interval_cases padding <;> decide
  have hsuffix : (if ['=', '='] <:+ encodeBase64 bytes then 2 else if ['='] <:+ encodeBase64 bytes then 1 else 0) =
      padding := by
    rw [heq]
    exact padding_of_suffix hmem hpadding
  have haccepted : ¬ ((encodeBase64 bytes).length % 4 ≠ 0 ∨ ¬ isBase64 (encodeBase64 bytes)) := by
    rw [not_or, not_not, not_not]
    exact ⟨by omega, hbase64⟩
  unfold decodeBase64
  rw [if_neg haccepted, hsuffix, hgroups, Option.map_some, Option.some.injEq]
  have htake : (encodeBase64 bytes).length / 4 * 3 - padding = bytes.length := by omega
  rw [htake, List.take_left]

end react_native_surrealdb.wire
