import Mathlib.Data.List.TakeWhile
import MmoServer.Lib.JsonRead

set_option autoImplicit false

-- What the readers accept: the texts of strings with the space around them.
namespace JsonText

section Literals

theorem read_hex_byte (byte : UInt8) (hex : Hex) (read : readHex byte = some hex) : hex.byte = byte := by
  rw [readHex] at read
  split at read <;> cases read
  rfl

theorem read_short_byte (byte : UInt8) (letter : Short) (read : Short.read byte = some letter) : letter.byte = byte := by
  have found := List.find?_some read
  exact beq_iff_eq.mp found

variable (bytes : List UInt8)

theorem read_units_text (units : List StringUnit) (rest : List UInt8) (read : readUnits bytes = some (units, rest)) :
    bytes = writeUnits units ++ 34 :: rest := by
  have cut : ∀ (unit : StringUnit) (units : List StringUnit) (rest : List UInt8),
      writeUnits (unit :: units) ++ 34 :: rest = unit.write ++ (writeUnits units ++ 34 :: rest) := by
    simp [writeUnits]
  fun_induction readUnits bytes generalizing units rest with
  | case1 | case3 | case5 | case8 => cases read
  | case2 tail =>
    cases read
    rfl
  | case4 a b c d tail _ ih =>
    simp only [Option.bind_eq_bind, Option.bind_eq_some_iff] at read
    obtain ⟨a', hexA, b', hexB, c', hexC, d', hexD, ⟨more, after⟩, later, same⟩ := read
    cases same
    rw [cut, ← ih more after later, StringUnit.write, read_hex_byte a a' hexA, read_hex_byte b b' hexB, read_hex_byte c c' hexC,
      read_hex_byte d d' hexD]
    rfl
  | case6 letter tail _ _ ih =>
    simp only [Option.bind_eq_bind, Option.bind_eq_some_iff] at read
    obtain ⟨short, escape, ⟨more, after⟩, later, same⟩ := read
    cases same
    rw [cut, ← ih more after later, StringUnit.write, read_short_byte letter short escape]
    rfl
  | case7 byte tail _ _ ok ih =>
    simp only [Option.bind_eq_bind, Option.bind_eq_some_iff] at read
    obtain ⟨⟨more, after⟩, later, same⟩ := read
    cases same
    rw [cut, ← ih more after later]
    rfl

def IsText : Value → Prop
  | .null | .string _ => True
  | _ => False

def Spells (bytes : List UInt8) (value : Value) : Prop :=
  ∃ before after, (∀ byte ∈ before, isSpace byte = true) ∧ (∀ byte ∈ after, isSpace byte = true) ∧
    bytes = before ++ (write value ++ after)

theorem read_word_some (word : List UInt8) (value : Value) (bytes : List UInt8) (read : Value × List UInt8)
    (found : readWord word value bytes = some read) : read.1 = value ∧ bytes = word ++ read.2 := by
  rw [readWord] at found
  split at found
  · rename_i start
    cases found
    exact ⟨rfl, (List.prefix_append_drop (start ▸ List.take_prefix _ _))⟩
  · cases found

theorem read_value_text (fuel : Nat) (value : Value) (rest : List UInt8) (text : IsText value)
    (read : readValue fuel bytes = some (value, rest)) : skip bytes = write value ++ rest := by
  cases fuel with
  | zero => cases read
  | succ fuel =>
    rw [readValue] at read
    cases start : skip bytes with
    | nil =>
      rw [start] at read
      cases read
    | cons byte tail =>
      simp only [start] at read
      split_ifs at read with quote bracket brace null
      · obtain ⟨units, lexeme, same⟩ := Option.map_eq_some_iff.mp read
        cases same
        rw [write, string_text, quote, read_units_text tail _ _ lexeme]
      · obtain ⟨items, _, same⟩ := Option.map_eq_some_iff.mp read
        cases same
        cases text
      · obtain ⟨members, _, same⟩ := Option.map_eq_some_iff.mp read
        cases same
        cases text
      · obtain ⟨rfl, same⟩ := read_word_some _ _ tail _ read
        rw [same, null]
        rfl
      · obtain ⟨rfl, _⟩ := read_word_some _ _ tail _ read
        cases text
      · obtain ⟨rfl, _⟩ := read_word_some _ _ tail _ read
        cases text
      · obtain ⟨number, _, same⟩ := Option.map_eq_some_iff.mp read
        cases same
        cases text

theorem skip_eq_nil_iff : skip bytes = [] ↔ ∀ byte ∈ bytes, isSpace byte = true :=
  List.dropWhile_eq_nil_iff

theorem ends_space (space : ∀ byte ∈ bytes, isSpace byte = true) : Ends bytes := by
  intro byte first
  exact .inl (space byte (List.mem_of_mem_head? first))

theorem read_value_skip (fuel : Nat) (bytes other : List UInt8) (same : skip bytes = skip other) :
    readValue fuel bytes = readValue fuel other := by
  cases fuel with
  | zero => rfl
  | succ fuel => rw [readValue, readValue, same]

theorem read_text_iff_spells (value : Value) (text : IsText value) : readText bytes = some value ↔ Spells bytes value := by
  have shallow : value.nesting ≤ maxNestingDepth := by
    cases value with
    | null | string => exact Nat.zero_le _
    | bool | number | array | object => cases text
  rw [read_text_some, and_iff_left shallow]
  constructor
  · intro read
    rw [parseText, whole, Option.bind_eq_some_iff] at read
    obtain ⟨⟨found, rest⟩, first, last⟩ := read
    simp only [Option.ite_none_right_eq_some, Option.some.injEq] at last
    obtain ⟨space, rfl⟩ := last
    refine ⟨bytes.takeWhile isSpace, rest, fun byte => List.mem_takeWhile_imp, (skip_eq_nil_iff rest).mp space, ?_⟩
    rw [← read_value_text bytes _ found rest text first]
    exact List.takeWhile_append_dropWhile.symm
  · rintro ⟨before, after, leading, trailing, rfl⟩
    have same : skip (before ++ (write value ++ after)) = skip (write value ++ after) :=
      List.dropWhile_append_of_pos leading
    have read := read_value value (2 * (before ++ (write value ++ after)).length + 1) after (ends_space after trailing)
      (by simp only [List.length_append]; omega)
    rw [parseText, read_value_skip _ _ _ same, read]
    exact if_pos ((skip_eq_nil_iff after).mpr trailing)

end Literals

theorem whole_map {α β : Type} (f : α → β) (read : Option (α × List UInt8)) :
    whole (read.map fun found => (f found.1, found.2)) = (whole read).map f := by
  cases read with
  | none => rfl
  | some found =>
    simp only [whole, Option.map_some, Option.bind_some]
    split <;> rfl

theorem parse_text_object (bytes : List UInt8) (value : Value) (brace : bytes.head? = some 123)
    (read : parseText bytes = some value) : ∃ members, value = .object members := by
  obtain ⟨rest, rfl⟩ : ∃ rest, bytes = 123 :: rest := List.head?_eq_some_iff.mp brace
  rw [parseText, whole, Option.bind_eq_some_iff] at read
  obtain ⟨⟨found, after⟩, first, same⟩ := read
  rw [readValue, skip_cons 123 rest (by decide)] at first
  obtain ⟨members, _, object⟩ := Option.map_eq_some_iff.mp first
  cases object
  refine ⟨members.1.map Member.entry, ?_⟩
  simp only [Option.ite_none_right_eq_some, Option.some.injEq] at same
  exact same.2.symm

theorem read_object_text (bytes : List UInt8) (pairs : List (List StringUnit × Value))
    (read : parseText bytes = some (.object pairs)) :
    ∃ members, readObject bytes = some members ∧ members.map Member.entry = pairs := by
  rw [parseText, readValue] at read
  rw [readObject]
  cases start : skip bytes with
  | nil => simp [start, whole] at read
  | cons byte rest =>
    simp only [start] at read ⊢
    have word : ∀ text value, (∀ pairs, value ≠ .object pairs) → whole (readWord text value rest) ≠ some (.object pairs) := by
      intro text value other found
      obtain ⟨found, same, last⟩ := Option.bind_eq_some_iff.mp found
      simp only [Option.ite_none_right_eq_some, Option.some.injEq] at last
      exact other pairs ((read_word_some text value rest found same).1.symm.trans last.2)
    split_ifs at read with quote bracket brace null yes no
    · obtain ⟨units, _, same⟩ := Option.map_eq_some_iff.mp ((whole_map Value.string _).symm.trans read)
      cases same
    · obtain ⟨items, _, same⟩ := Option.map_eq_some_iff.mp ((whole_map Value.array _).symm.trans read)
      cases same
    · obtain ⟨members, found, same⟩ := Option.map_eq_some_iff.mp
        ((whole_map (fun members : List Member => Value.object (members.map Member.entry)) _).symm.trans read)
      cases same
      exact ⟨members, (if_pos brace).trans found, rfl⟩
    · exact absurd read (word _ _ (by simp))
    · exact absurd read (word _ _ (by simp))
    · exact absurd read (word _ _ (by simp))
    · obtain ⟨number, _, same⟩ := Option.map_eq_some_iff.mp ((whole_map Value.number _).symm.trans read)
      cases same

end JsonText
