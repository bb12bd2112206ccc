import Mathlib
import MmoServer.Lib.JsonAccept

set_option autoImplicit false

namespace JsonText

open Runes

section Unquote

def codeUnit (a b c d : Hex) : Nat := ((a.value.val * 16 + b.value.val) * 16 + c.value.val) * 16 + d.value.val

def plainPrefix : List StringUnit → List UInt8
  | .plain byte _ :: rest => byte :: plainPrefix rest
  | _ => []

def Short.char : Short → Char
  | .quote => '"'
  | .backslash => '\\'
  | .slash => '/'
  | .backspace => '\x08'
  | .formFeed => '\x0c'
  | .newline => '\n'
  | .carriageReturn => '\r'
  | .tab => '\t'

def replacement : Char := Char.ofNat 0xFFFD

-- The characters of a string literal. The first argument counts units that
-- belong to the character before.
def chars : Nat → List StringUnit → List Char
  | _, [] => []
  | skipped + 1, _ :: rest => chars skipped rest
  | 0, .plain byte _ :: rest =>
    match decodeRune (byte :: plainPrefix rest) with
    | some c => c :: chars (c.utf8Size - 1) rest
    | none => replacement :: chars 0 rest
  | 0, .short letter :: rest => letter.char :: chars 0 rest
  | 0, .unicode a b c d :: rest =>
    let high := codeUnit a b c d
    if 0xD800 ≤ high ∧ high < 0xE000 then
      match rest with
      | .unicode a b c d :: _ =>
        let low := codeUnit a b c d
        if high < 0xDC00 ∧ 0xDC00 ≤ low ∧ low < 0xE000 then
          Char.ofNat ((high - 0xD800) * 0x400 + (low - 0xDC00) + 0x10000) :: chars 1 rest
        else replacement :: chars 0 rest
      | _ => replacement :: chars 0 rest
    else Char.ofNat high :: chars 0 rest

def unquote (units : List StringUnit) : List UInt8 := encode (chars 0 units)

end Unquote

section Quote

def hexDigit (value : Fin 16) : Hex where
  byte := if value.val < 10 then UInt8.ofNat (48 + value.val) else UInt8.ofNat (87 + value.val)
  value := value
  read := by revert value; decide

def escapedByte (byte : UInt8) : StringUnit :=
  .unicode (hexDigit 0) (hexDigit 0) (hexDigit ⟨byte.toNat / 16, by have := byte.toNat_lt; omega⟩)
    (hexDigit ⟨byte.toNat % 16, by omega⟩)

def escapedSeparator (last : Fin 16) : StringUnit := .unicode (hexDigit 2) (hexDigit 0) (hexDigit 2) (hexDigit last)

def unitOf (byte : UInt8) : StringUnit := if ok : isPlain byte = true then .plain byte ok else escapedByte byte

def escapeChar (c : Char) : List StringUnit :=
  if c = '"' then [.short .quote]
  else if c = '\\' then [.short .backslash]
  else if c = '\x08' then [.short .backspace]
  else if c = '\x0c' then [.short .formFeed]
  else if c = '\n' then [.short .newline]
  else if c = '\r' then [.short .carriageReturn]
  else if c = '\t' then [.short .tab]
  else if c = '<' ∨ c = '>' ∨ c = '&' then [escapedByte (UInt8.ofNat c.toNat)]
  else if c.toNat = 0x2028 then [escapedSeparator 8]
  else if c.toNat = 0x2029 then [escapedSeparator 9]
  else (String.utf8EncodeChar c).map unitOf

def replacementUnit : StringUnit := .unicode (hexDigit 15) (hexDigit 15) (hexDigit 15) (hexDigit 13)

-- A Go string as Marshal writes it; bytes that are no UTF-8 are replaced.
def quoteFrom : Nat → List UInt8 → List StringUnit
  | _, [] => []
  | skipped + 1, _ :: rest => quoteFrom skipped rest
  | 0, byte :: rest =>
    match decodeRune (byte :: rest) with
    | some c => escapeChar c ++ quoteFrom (c.utf8Size - 1) rest
    | none => replacementUnit :: quoteFrom 0 rest

def quote (bytes : List UInt8) : List StringUnit := quoteFrom 0 bytes

def separatorAt (units : List StringUnit) : Option (Fin 16) :=
  if (plainPrefix units).take 3 = [0xE2, 0x80, 0xA8] then some 8
  else if (plainPrefix units).take 3 = [0xE2, 0x80, 0xA9] then some 9
  else none

def htmlUnit : StringUnit → StringUnit
  | .plain byte ok => if byte = 60 ∨ byte = 62 ∨ byte = 38 then escapedByte byte else .plain byte ok
  | unit => unit

def htmlEscapeFrom : Nat → List StringUnit → List StringUnit
  | _, [] => []
  | skipped + 1, _ :: rest => htmlEscapeFrom skipped rest
  | 0, unit :: rest =>
    match separatorAt (unit :: rest) with
    | some last => escapedSeparator last :: htmlEscapeFrom 2 rest
    | none => htmlUnit unit :: htmlEscapeFrom 0 rest

def htmlEscape (units : List StringUnit) : List StringUnit := htmlEscapeFrom 0 units

end Quote

section RoundTrip

theorem char_head (c : Char) : ∃ byte more, String.utf8EncodeChar c = byte :: more ∧ more.length = c.utf8Size - 1 := by
  cases bytes : String.utf8EncodeChar c with
  | nil => exact absurd bytes String.utf8EncodeChar_ne_nil
  | cons byte more =>
    have length := String.length_utf8EncodeChar c
    rw [bytes, List.length_cons] at length
    exact ⟨byte, more, rfl, by omega⟩

theorem quote_skipped (first rest : List UInt8) : quoteFrom first.length (first ++ rest) = quoteFrom 0 rest := by
  induction first with
  | nil => rfl
  | cons byte first ih => simpa [quoteFrom] using ih

theorem quote_char (c : Char) (rest : List UInt8) :
    quote (String.utf8EncodeChar c ++ rest) = escapeChar c ++ quote rest := by
  have decoded := decode_rune_char c rest
  obtain ⟨byte, more, bytes, length⟩ := char_head c
  rw [bytes, List.cons_append] at decoded ⊢
  rw [quote, quoteFrom, decoded]
  simp only [← length, quote_skipped, quote]

theorem chars_skipped (first rest : List StringUnit) : chars first.length (first ++ rest) = chars 0 rest := by
  induction first with
  | nil => rfl
  | cons unit first ih => simpa [chars] using ih

theorem plain_prefix_units (bytes : List UInt8) (plain : ∀ byte ∈ bytes, isPlain byte = true) (rest : List StringUnit) :
    plainPrefix (bytes.map unitOf ++ rest) = bytes ++ plainPrefix rest := by
  induction bytes with
  | nil => rfl
  | cons byte bytes ih =>
    rw [List.forall_mem_cons] at plain
    simp [unitOf, plain.1, plainPrefix, ih plain.2]

theorem chars_plain (c : Char) (plain : ∀ byte ∈ String.utf8EncodeChar c, isPlain byte = true) (rest : List StringUnit) :
    chars 0 ((String.utf8EncodeChar c).map unitOf ++ rest) = c :: chars 0 rest := by
  have decoded := decode_rune_char c (plainPrefix rest)
  obtain ⟨byte, more, bytes, length⟩ := char_head c
  rw [bytes] at plain decoded ⊢
  rw [List.forall_mem_cons] at plain
  have units : unitOf byte = .plain byte plain.1 := by rw [unitOf, dif_pos plain.1]
  rw [List.map_cons, List.cons_append, units, chars, plain_prefix_units more plain.2, ← List.cons_append, decoded]
  have skipped := chars_skipped (more.map unitOf) rest
  rw [List.length_map, length] at skipped
  simp only [skipped]

theorem is_plain_iff (byte : UInt8) : isPlain byte = true ↔ 32 ≤ byte.toNat ∧ byte.toNat ≠ 34 ∧ byte.toNat ≠ 92 := by
  simp only [isPlain, Bool.and_eq_true, decide_eq_true_eq, bne_iff_ne, ne_eq, UInt8.le_iff_toNat_le, ← UInt8.toNat_inj, and_assoc]
  rfl

theorem to_nat_ne (c d : Char) (apart : c ≠ d) : c.toNat ≠ d.toNat := fun same => apart (Char.toNat_inj.mp same)

theorem high_byte (low base : Nat) (above : 128 ≤ base) (within : low + base < 256) :
    128 ≤ (UInt8.ofNat (low + base)).toNat := by
  rw [UInt8.toNat_ofNat']
  omega

theorem char_bytes (c : Char) : String.utf8EncodeChar c = [UInt8.ofNat c.toNat] ∧ c.toNat < 128 ∨
    128 ≤ c.toNat ∧ ∀ byte ∈ String.utf8EncodeChar c, 128 ≤ byte.toNat := by
  have code : c.val.toNat = c.toNat := rfl
  rw [String.utf8EncodeChar.eq_1, code]
  split_ifs with one two three
  · exact .inl ⟨rfl, by omega⟩
  all_goals
    refine .inr ⟨by omega, ?_⟩
    simp only [List.forall_mem_cons, List.not_mem_nil, false_imp_iff, implies_true, and_true]
    repeat' apply And.intro
    all_goals exact high_byte _ _ (by omega) (by omega)

theorem char_plain (c : Char) (printable : 32 ≤ c.toNat) (quote : c ≠ '"') (backslash : c ≠ '\\') :
    ∀ byte ∈ String.utf8EncodeChar c, isPlain byte = true := by
  intro byte member
  rw [is_plain_iff]
  rcases char_bytes c with ⟨single, small⟩ | ⟨_, high⟩
  · rw [single, List.mem_singleton] at member
    have code : byte.toNat = c.toNat := by rw [member, UInt8.toNat_ofNat']; omega
    exact code ▸ ⟨printable, to_nat_ne c '"' quote, to_nat_ne c '\\' backslash⟩
  · have above := high byte member
    omega

theorem chars_escaped_byte (byte : UInt8) (rest : List StringUnit) :
    chars 0 (escapedByte byte :: rest) = Char.ofNat byte.toNat :: chars 0 rest := by
  have code : codeUnit (hexDigit 0) (hexDigit 0) (hexDigit ⟨byte.toNat / 16, by have := byte.toNat_lt; omega⟩)
      (hexDigit ⟨byte.toNat % 16, by omega⟩) = byte.toNat := by
    simp only [codeUnit, hexDigit]
    have small := byte.toNat_lt
    simp
    omega
  have small := byte.toNat_lt
  rw [escapedByte, chars.eq_def]
  simp only [code]
  rw [if_neg (by omega)]

theorem control_units (c : Char) (control : c.toNat < 32) :
    (String.utf8EncodeChar c).map unitOf = [escapedByte (UInt8.ofNat c.toNat)] := by
  have single : String.utf8EncodeChar c = [UInt8.ofNat c.toNat] := by
    rcases char_bytes c with ⟨single, _⟩ | ⟨high, _⟩
    · exact single
    · omega
  have code : (UInt8.ofNat c.toNat).toNat = c.toNat := by rw [UInt8.toNat_ofNat']; omega
  have hidden : ¬ isPlain (UInt8.ofNat c.toNat) = true := by rw [is_plain_iff, code]; omega
  rw [single, List.map_singleton, unitOf, dif_neg hidden]

theorem chars_escape (c : Char) (rest : List StringUnit) : chars 0 (escapeChar c ++ rest) = c :: chars 0 rest := by
  have itself : Char.ofNat c.toNat = c := Char.ofNat_toNat c
  fun_cases escapeChar c with
  | case1 | case2 | case3 | case4 | case5 | case6 | case7 =>
    rename_i same
    rw [same]
    rfl
  | case8 _ _ _ _ _ _ _ html =>
    rw [List.cons_append, List.nil_append, chars_escaped_byte]
    rcases html with rfl | rfl | rfl <;> rfl
  | case9 _ _ _ _ _ _ _ _ line =>
    rw [← itself, line]
    rfl
  | case10 _ _ _ _ _ _ _ _ _ paragraph =>
    rw [← itself, paragraph]
    rfl
  | case11 quote backslash =>
    by_cases printable : 32 ≤ c.toNat
    · exact chars_plain c (char_plain c printable quote backslash) rest
    · have code : (UInt8.ofNat c.toNat).toNat = c.toNat := by rw [UInt8.toNat_ofNat']; omega
      rw [control_units c (not_le.mp printable), List.cons_append, List.nil_append, chars_escaped_byte, code, itself]

theorem unquote_quote (text : List Char) : chars 0 (quote (encode text)) = text := by
  induction text with
  | nil => rfl
  | cons c text ih => rw [encode_cons, quote_char, chars_escape, ih]

end RoundTrip

section Marks

def isMark (byte : UInt8) : Bool := byte == 34 || byte == 92

def marks (bytes : List UInt8) : Nat := bytes.countP isMark

@[simp] theorem marks_nil : marks [] = 0 := rfl

@[simp] theorem marks_append (first second : List UInt8) : marks (first ++ second) = marks first + marks second :=
  List.countP_append

theorem plain_unmarked (byte : UInt8) (plain : isPlain byte = true) : isMark byte = false := by
  simp only [isPlain, Bool.and_eq_true, bne_iff_ne, ne_eq] at plain
  simp [isMark, plain.1.2, plain.2]

theorem marks_plain (bytes : List UInt8) (plain : ∀ byte ∈ bytes, isPlain byte = true) : marks bytes = 0 := by
  rw [marks, List.countP_eq_zero]
  intro byte member marked
  rw [plain_unmarked byte (plain byte member)] at marked
  cases marked

def StringUnit.leaves : StringUnit → Nat
  | .plain _ _ => 0
  | .short letter => if letter = .quote ∨ letter = .backslash then 1 else 0
  | .unicode a b c d => if codeUnit a b c d = 34 ∨ codeUnit a b c d = 92 then 1 else 0

def leaves (units : List StringUnit) : Nat := (units.map StringUnit.leaves).sum

variable (unit : StringUnit) (rest : List StringUnit) (units : List StringUnit)

theorem leaves_cons : leaves (unit :: rest) = unit.leaves + leaves rest := by
  simp [leaves]

theorem marks_char (c : Char) : marks (String.utf8EncodeChar c) ≤ if c.toNat = 34 ∨ c.toNat = 92 then 1 else 0 := by
  rcases char_bytes c with ⟨single, small⟩ | ⟨above, high⟩
  · rw [single]
    split
    · exact List.countP_le_length
    · rename_i other
      refine (marks_plain [] (by simp)).le.trans' ?_
      have code : (UInt8.ofNat c.toNat).toNat = c.toNat := by rw [UInt8.toNat_ofNat']; omega
      have unmarked : isMark (UInt8.ofNat c.toNat) = false := by
        simp only [isMark, Bool.or_eq_false_iff, beq_eq_false_iff_ne, ne_eq, ← UInt8.toNat_inj, code]
        exact not_or.mp other
      simp [marks, unmarked]
  · refine le_of_eq_of_le (marks_plain _ fun byte member => ?_) (Nat.zero_le _)
    have far := high byte member
    rw [is_plain_iff]
    omega

theorem plain_prefix_plain : ∀ byte ∈ plainPrefix units, isPlain byte = true := by
  induction units with
  | nil => simp [plainPrefix]
  | cons unit rest ih =>
    cases unit with
    | plain byte ok => simpa [plainPrefix, ok] using ih
    | short | unicode => simp [plainPrefix]

theorem marks_decoded (byte : UInt8) (ok : isPlain byte = true) (rest : List StringUnit) (c : Char)
    (decoded : decodeRune (byte :: plainPrefix rest) = some c) : marks (String.utf8EncodeChar c) = 0 := by
  obtain ⟨tail, bytes⟩ := decode_rune_some _ c decoded
  have plain : ∀ other ∈ byte :: plainPrefix rest, isPlain other = true := by
    simpa [ok] using plain_prefix_plain rest
  rw [bytes] at plain
  exact marks_plain _ fun other member => plain other (List.mem_append_left _ member)

theorem char_code (code : Nat) : (Char.ofNat code).toNat = code ∨ (Char.ofNat code).toNat = 0 := by
  rw [Char.ofNat.eq_1]
  split
  · exact .inl rfl
  · exact .inr rfl

theorem marks_code (code : Nat) : marks (String.utf8EncodeChar (Char.ofNat code)) ≤ if code = 34 ∨ code = 92 then 1 else 0 := by
  refine (marks_char (Char.ofNat code)).trans ?_
  rcases char_code code with same | zero
  · rw [same]
  · rw [zero]
    exact Nat.zero_le _

theorem chars_step :
    ∃ c skipped, chars 0 (unit :: rest) = c :: chars skipped rest ∧ marks (String.utf8EncodeChar c) ≤ unit.leaves := by
  have replaced : marks (String.utf8EncodeChar replacement) = 0 := by decide +kernel
  cases unit with
  | plain byte ok =>
    cases decoded : decodeRune (byte :: plainPrefix rest) with
    | some c => exact ⟨c, c.utf8Size - 1, by rw [chars, decoded], (marks_decoded byte ok rest c decoded).le⟩
    | none => exact ⟨replacement, 0, by rw [chars, decoded], replaced.le⟩
  | short letter => exact ⟨letter.char, 0, rfl, by cases letter <;> decide⟩
  | unicode a b c d =>
    rw [chars.eq_def]
    simp only
    split
    · split
      · split
        · refine ⟨_, _, rfl, (marks_code _).trans ?_⟩
          rw [if_neg (by omega)]
          exact Nat.zero_le _
        · exact ⟨replacement, 0, rfl, replaced ▸ Nat.zero_le _⟩
      · exact ⟨replacement, 0, rfl, replaced ▸ Nat.zero_le _⟩
    · exact ⟨_, 0, rfl, marks_code _⟩

theorem marks_chars (skipped : Nat) : marks (encode (chars skipped units)) ≤ leaves units := by
  induction units generalizing skipped with
  | nil => cases skipped <;> exact Nat.zero_le _
  | cons unit rest ih =>
    rw [leaves_cons]
    cases skipped with
    | succ skipped =>
      have later := ih skipped
      rw [chars]
      omega
    | zero =>
      obtain ⟨c, skipped, step, few⟩ := chars_step unit rest
      have later := ih skipped
      rw [step, encode_cons, marks_append]
      omega

theorem html_unit_leaves : (htmlUnit unit).leaves ≤ unit.leaves := by
  cases unit with
  | plain byte ok =>
    rw [htmlUnit]
    split
    · rename_i special
      rcases special with rfl | rfl | rfl <;> exact Nat.zero_le _
    · exact le_refl _
  | short | unicode => exact le_refl _

theorem separator_leaves (last : Fin 16) : (escapedSeparator last).leaves = 0 := by
  revert last
  decide

theorem leaves_html (skipped : Nat) : leaves (htmlEscapeFrom skipped units) ≤ leaves units := by
  induction units generalizing skipped with
  | nil => cases skipped <;> exact Nat.zero_le _
  | cons unit rest ih =>
    rw [leaves_cons]
    cases skipped with
    | succ skipped =>
      have later := ih skipped
      rw [htmlEscapeFrom]
      omega
    | zero =>
      rw [htmlEscapeFrom]
      split
      · rename_i last _
        have separator := separator_leaves last
        have later := ih 2
        rw [leaves_cons, separator]
        omega
      · have later := ih 0
        have same := html_unit_leaves unit
        rw [leaves_cons]
        omega

theorem leaves_le_marks : leaves units ≤ marks (writeUnits units) := by
  induction units with
  | nil => exact Nat.zero_le _
  | cons unit rest ih =>
    have text : writeUnits (unit :: rest) = unit.write ++ writeUnits rest := by simp [writeUnits]
    have here : unit.leaves ≤ marks unit.write := by
      cases unit with
      | plain byte ok => exact Nat.zero_le _
      | short letter => cases letter <;> decide
      | unicode a b c d =>
        have backslash : 1 ≤ marks (StringUnit.unicode a b c d).write :=
          List.one_le_countP_iff.mpr ⟨92, by simp [StringUnit.write], by decide⟩
        rw [StringUnit.leaves]
        split <;> omega
    rw [leaves_cons, text, marks_append]
    omega

theorem unquoted_ne (bytes : List UInt8) (units : List StringUnit) (spells : Spells bytes (.string units))
    (text : List Char) (few : marks (encode text) ≤ leaves units) : encode text ≠ bytes := by
  obtain ⟨before, after, _, _, split⟩ := spells
  rw [write, string_text] at split
  have quotes : ∀ tail, marks (34 :: tail) = marks tail + 1 := fun tail => List.countP_cons_of_pos (by decide)
  have more : marks bytes = marks before + (marks (writeUnits units) + (marks after + 1) + 1) := by
    rw [split, marks_append, quotes, marks_append, quotes]
  have literal := leaves_le_marks units
  intro equal
  rw [equal] at few
  omega

end Marks

end JsonText
