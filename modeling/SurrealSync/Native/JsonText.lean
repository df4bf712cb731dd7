import SurrealSync.Native.WireRoundTrip

open Std

namespace serde_json

variable {F : Type}

deriving instance DecidableEq for Number

mutual

/-- Equality of values; objects compare their entries in key order. -/
def value_beq [DecidableEq F] : Value F → Value F → Bool
  | .Null, .Null => true
  | .Bool a, .Bool b => a == b
  | .Number a, .Number b => a == b
  | .String a, .String b => a == b
  | .Array a, .Array b => values_beq a b
  | .Object a, .Object b => entries_beq a b
  | _, _ => false

def values_beq [DecidableEq F] : List (Value F) → List (Value F) → Bool
  | [], [] => true
  | a :: as, b :: bs => value_beq a b && values_beq as bs
  | _, _ => false

def entries_beq [DecidableEq F] : List (String × Value F) → List (String × Value F) → Bool
  | [], [] => true
  | (key, a) :: as, (other, b) :: bs => key == other && value_beq a b && entries_beq as bs
  | _, _ => false

end

theorem value_beq_iff [DecidableEq F] (a b : Value F) : value_beq a b = true ↔ a = b := by
  induction a generalizing b with
  | Null => cases b <;> simp [value_beq]
  | Bool value => cases b <;> simp [value_beq]
  | Number value => cases b <;> simp [value_beq]
  | String value => cases b <;> simp [value_beq]
  | Array values ih =>
    cases b with
    | Array others =>
      simp only [value_beq, Value.Array.injEq]
      induction values generalizing others with
      | nil => cases others <;> simp [values_beq]
      | cons value values ihs =>
        obtain ⟨hvalue, hvalues⟩ := List.forall_mem_cons.mp ih
        cases others with
        | nil => simp [values_beq]
        | cons other others => simp [values_beq, hvalue other, ihs hvalues others]
    | _ => simp [value_beq]
  | Object entries ih =>
    cases b with
    | Object others =>
      simp only [value_beq, Value.Object.injEq]
      induction entries generalizing others with
      | nil => cases others <;> simp [entries_beq]
      | cons entry entries ihs =>
        obtain ⟨hentry, hentries⟩ := List.forall_mem_cons.mp ih
        cases others with
        | nil => simp [entries_beq]
        | cons other others =>
          obtain ⟨key, value⟩ := entry
          obtain ⟨found, held⟩ := other
          simp [entries_beq, hentry held, ihs hentries others]
    | _ => simp [value_beq]

instance [DecidableEq F] : DecidableEq (Value F) := fun a b => decidable_of_iff _ (value_beq_iff a b)

/-- `value.as_object().and_then(|o| o.get(key))`. -/
def get_key (value : Value F) (key : String) : Option (Value F) :=
  match value with
  | .Object entries => entries.lookup key
  | _ => none

/-- `value.is_null() || value.is_boolean() || value.is_string()`. -/
def is_scalar : Value F → Bool
  | .Null => true
  | .Bool _ => true
  | .String _ => true
  | .Number _ => false
  | .Array _ => false
  | .Object _ => false

/-! ### Texts -/

/-- The lower-case hexadecimal digit of an escape. -/
def hex_digit (n : Nat) : Char := "0123456789abcdef".toList.getD n '0'

/-- How a character is written inside a string. -/
def escape (c : Char) : List Char :=
  if c = '"' then ['\\', '"']
  else if c = '\\' then ['\\', '\\']
  else if c.val = 8 then ['\\', 'b']
  else if c.val = 9 then ['\\', 't']
  else if c.val = 10 then ['\\', 'n']
  else if c.val = 12 then ['\\', 'f']
  else if c.val = 13 then ['\\', 'r']
  else if c.val < 32 then ['\\', 'u', '0', '0', hex_digit (c.toNat / 16), hex_digit (c.toNat % 16)]
  else [c]

def quote (text : String) : String := String.ofList ('"' :: text.toList.flatMap escape ++ ['"'])

/-- Elements and entries are separated by a comma and nothing else. -/
def comma_separated : List String → String
  | [] => ""
  | [text] => text
  | text :: texts => text ++ "," ++ comma_separated texts

mutual

/-- The compact text of a value, with the platform's text for numbers. -/
def to_string (number : Number F → String) : Value F → String
  | .Null => "null"
  | .Bool true => "true"
  | .Bool false => "false"
  | .Number value => number value
  | .String value => quote value
  | .Array values => "[" ++ comma_separated (to_strings number values) ++ "]"
  | .Object entries => "\x7b" ++ comma_separated (entries_to_strings number entries) ++ "\x7d"

def to_strings (number : Number F → String) : List (Value F) → List String
  | [] => []
  | value :: values => to_string number value :: to_strings number values

def entries_to_strings (number : Number F → String) : List (String × Value F) → List String
  | [] => []
  | (key, value) :: entries =>
    (quote key ++ ":" ++ to_string number value) :: entries_to_strings number entries

end

/-! ### Reading texts back -/

def hex_value (c : Char) : Option Nat := "0123456789abcdef".toList.findIdx? (· = c)

/-- The characters of a string up to its closing quote, and what follows. -/
def unescape : List Char → Option (List Char × List Char)
  | [] => none
  | '"' :: rest => some ([], rest)
  | '\\' :: 'u' :: '0' :: '0' :: high :: low :: rest => do
    let high ← hex_value high
    let low ← hex_value low
    let (text, rest) ← unescape rest
    some (Char.ofNat (16 * high + low) :: text, rest)
  | '\\' :: c :: rest => do
    let (text, rest) ← unescape rest
    match c with
    | '"' => some ('"' :: text, rest)
    | '\\' => some ('\\' :: text, rest)
    | 'b' => some (Char.ofNat 8 :: text, rest)
    | 't' => some (Char.ofNat 9 :: text, rest)
    | 'n' => some (Char.ofNat 10 :: text, rest)
    | 'f' => some (Char.ofNat 12 :: text, rest)
    | 'r' => some (Char.ofNat 13 :: text, rest)
    | _ => none
  | c :: rest => do
    let (text, rest) ← unescape rest
    some (c :: text, rest)

theorem hex_value_hex_digit {n : Nat} (hn : n < 16) : hex_value (hex_digit n) = some n := by
  revert n
  decide

theorem char_eq_of_val {c : Char} {n : Nat} (hn : c.val.toNat = n) : Char.ofNat n = c := by
  rw [← hn]
  exact Char.ofNat_toNat c

theorem unescape_escape {c : Char} {rest : List Char} {text last : List Char}
    (hrest : unescape rest = some (text, last)) : unescape (escape c ++ rest) = some (c :: text, last) := by
  unfold escape
  split
  · subst_vars
    simp [unescape, hrest]
  split
  · subst_vars
    simp [unescape, hrest]
  split
  · rename_i hval
    have hc : Char.ofNat 8 = c := char_eq_of_val (by rw [hval]; rfl)
    simp [unescape, hrest, ← hc]
  split
  · rename_i hval
    have hc : Char.ofNat 9 = c := char_eq_of_val (by rw [hval]; rfl)
    simp [unescape, hrest, ← hc]
  split
  · rename_i hval
    have hc : Char.ofNat 10 = c := char_eq_of_val (by rw [hval]; rfl)
    simp [unescape, hrest, ← hc]
  split
  · rename_i hval
    have hc : Char.ofNat 12 = c := char_eq_of_val (by rw [hval]; rfl)
    simp [unescape, hrest, ← hc]
  split
  · rename_i hval
    have hc : Char.ofNat 13 = c := char_eq_of_val (by rw [hval]; rfl)
    simp [unescape, hrest, ← hc]
  split
  · rename_i hval
    have hsmall : c.toNat < 32 := hval
    have hhigh := hex_value_hex_digit (n := c.toNat / 16) (by omega)
    have hlow := hex_value_hex_digit (n := c.toNat % 16) (by omega)
    have hc : Char.ofNat (16 * (c.toNat / 16) + c.toNat % 16) = c := by
      rw [Nat.div_add_mod]
      exact Char.ofNat_toNat c
    simp only [List.cons_append, List.nil_append, unescape, hhigh, hlow, hrest]
    exact congrArg (fun c => some (c :: text, last)) hc
  · rename_i hquote hslash _ _ _ _ _ _
    rw [List.cons_append, List.nil_append, unescape.eq_def]
    split <;> simp_all

theorem unescape_quoted (text : List Char) (rest : List Char) :
    unescape (text.flatMap escape ++ '"' :: rest) = some (text, rest) := by
  induction text with
  | nil => rfl
  | cons c text ih =>
    rw [List.flatMap_cons, List.append_assoc]
    exact unescape_escape ih

/-- A fixed text, and what follows. -/
def expect (literal : String) (text : List Char) : Option (List Char) :=
  if literal.toList.isPrefixOf text then some (text.drop literal.toList.length) else none

theorem expect_append (literal : String) (rest : List Char) : expect literal (literal.toList ++ rest) = some rest := by
  have hstarts : literal.toList.isPrefixOf (literal.toList ++ rest) = true :=
    List.isPrefixOf_iff_prefix.mpr (List.prefix_append _ _)
  rw [expect, if_pos hstarts, List.drop_left]

/-- A string with its quotes, and what follows. -/
def read_quoted (text : List Char) : Option (String × List Char) := do
  let rest ← expect "\"" text
  let (text, rest) ← unescape rest
  some (String.ofList text, rest)

theorem read_quoted_quote (text : String) (rest : List Char) :
    read_quoted ((quote text).toList ++ rest) = some (text, rest) := by
  have hquote : (quote text).toList ++ rest = "\"".toList ++ (text.toList.flatMap escape ++ '"' :: rest) := by
    simp [quote]
  rw [hquote, read_quoted, expect_append]
  simp [unescape_quoted]

/-! ### Sizes -/

theorem utf8ByteSize_cons (c : Char) (l : List Char) :
    (String.ofList (c :: l)).utf8ByteSize = c.utf8Size + (String.ofList l).utf8ByteSize := by
  rw [String.ofList_cons, String.utf8ByteSize_append, String.utf8ByteSize_singleton]

/-- A text takes at most six times its room when it is quoted. -/
theorem quote_size_le (text : String) : (quote text).utf8ByteSize ≤ 6 * text.utf8ByteSize + 2 := by
  have hdigit : ∀ n, (hex_digit n).utf8Size = 1 := by
    intro n
    by_cases hn : n < 16
    · interval_cases n <;> rfl
    · rw [hex_digit, List.getD_eq_default _ _ (Nat.not_lt.mp hn)]
      rfl
  have hescape : ∀ c, (String.ofList (escape c)).utf8ByteSize ≤ 6 * c.utf8Size := by
    intro c
    have hsize := c.utf8Size_pos
    have hsolidus : ('\\').utf8Size = 1 := rfl
    have hletters : ('"').utf8Size = 1 ∧ ('b').utf8Size = 1 ∧ ('t').utf8Size = 1 ∧ ('n').utf8Size = 1 ∧
        ('f').utf8Size = 1 ∧ ('r').utf8Size = 1 ∧ ('u').utf8Size = 1 ∧ ('0').utf8Size = 1 := by decide
    unfold escape
    repeat' split
    all_goals
      simp only [utf8ByteSize_cons, hdigit, String.ofList_nil, String.utf8ByteSize_empty]
      omega
  have hescaped : ∀ l : List Char,
      (String.ofList (l.flatMap escape)).utf8ByteSize ≤ 6 * (String.ofList l).utf8ByteSize := by
    intro l
    induction l with
    | nil => exact Nat.zero_le _
    | cons c l ih =>
      have hc := hescape c
      rw [List.flatMap_cons, String.ofList_append, String.utf8ByteSize_append, utf8ByteSize_cons]
      omega
  have htext := hescaped text.toList
  have hquote : ('"').utf8Size = 1 := rfl
  rw [String.ofList_toList] at htext
  simp only [quote, List.cons_append, utf8ByteSize_cons, String.ofList_append, String.utf8ByteSize_append,
    String.ofList_nil, String.utf8ByteSize_empty, hquote]
  omega

/-- A quoted text keeps the characters of the text between two quotes. -/
theorem lt_quote_size (text : String) : text.utf8ByteSize + 2 ≤ (quote text).utf8ByteSize := by
  have hescape : ∀ c, c.utf8Size ≤ (String.ofList (escape c)).utf8ByteSize := by
    intro c
    unfold escape
    split_ifs with hquote hsolidus hbackspace htab hline hfeed hreturn hcontrol
    · rw [hquote]
      decide
    · rw [hsolidus]
      decide
    all_goals
      simp only [utf8ByteSize_cons, String.ofList_nil, String.utf8ByteSize_empty]
    case neg => omega
    all_goals
      have hone : c.utf8Size = 1 := by
        rw [Char.utf8Size_eq_one_iff]
        grind
      have hsolidus : ('\\').utf8Size = 1 := rfl
      omega
  have hescaped : ∀ l : List Char,
      (String.ofList l).utf8ByteSize ≤ (String.ofList (l.flatMap escape)).utf8ByteSize := by
    intro l
    induction l with
    | nil => exact Nat.zero_le _
    | cons c l ih =>
      have hc := hescape c
      rw [List.flatMap_cons, String.ofList_append, String.utf8ByteSize_append, utf8ByteSize_cons]
      omega
  have htext := hescaped text.toList
  have hquote : ('"').utf8Size = 1 := rfl
  rw [String.ofList_toList] at htext
  simp only [quote, List.cons_append, utf8ByteSize_cons, String.ofList_append, String.utf8ByteSize_append,
    String.ofList_nil, String.utf8ByteSize_empty, hquote]
  omega

theorem comma_separated_append (texts : List String) (text : String) :
    comma_separated (texts ++ [text]) = if texts = [] then text else comma_separated texts ++ "," ++ text := by
  induction texts with
  | nil => rfl
  | cons first texts ih =>
    cases texts with
    | nil => rfl
    | cons second texts =>
      rw [List.cons_append, List.cons_append, comma_separated, ← List.cons_append, ih]
      · simp [comma_separated, String.append_assoc]
      · simp

end serde_json
