import MmoServer.Lib.JsonText

set_option autoImplicit false

namespace JsonText

section Lexemes

theorem read_hex_self (hex : Hex) : readHex hex.byte = some hex := by
  obtain ⟨byte, value, read⟩ := hex
  rw [readHex]
  split
  · rename_i found same
    rw [read, Option.some_inj] at same
    subst same
    rfl
  · rename_i missing
    rw [read] at missing
    cases missing

theorem read_short_self (letter : Short) : Short.read letter.byte = some letter := by
  cases letter <;> decide

theorem short_ne_u (letter : Short) : letter.byte ≠ 117 := by
  cases letter <;> decide

theorem read_unit (unit : StringUnit) (rest : List UInt8) :
    readUnits (unit.write ++ rest) = (readUnits rest).map fun read => (unit :: read.1, read.2) := by
  cases unit with
  | plain byte ok =>
    have bounds : (32 ≤ byte ∧ byte ≠ 34) ∧ byte ≠ 92 := by simpa [isPlain] using ok
    simp only [StringUnit.write, List.cons_append, List.nil_append]
    rw [readUnits.eq_def]
    simp only [if_neg bounds.1.2, if_neg bounds.2, dif_pos ok]
    cases readUnits rest <;> rfl
  | short letter =>
    simp only [StringUnit.write, List.cons_append, List.nil_append]
    rw [readUnits.eq_def]
    have quote : ¬ (92 : UInt8) = 34 := by decide
    simp only [if_neg quote, if_true, short_ne_u, if_false, read_short_self]
    cases readUnits rest <;> rfl
  | unicode a b c d =>
    simp only [StringUnit.write, List.cons_append, List.nil_append]
    rw [readUnits.eq_def]
    have quote : ¬ (92 : UInt8) = 34 := by decide
    simp only [if_neg quote, if_true, read_hex_self]
    cases readUnits rest <;> rfl

theorem read_units (units : List StringUnit) (rest : List UInt8) :
    readUnits (writeUnits units ++ 34 :: rest) = some (units, rest) := by
  induction units with
  | nil =>
    rw [readUnits.eq_def]
    rfl
  | cons unit units ih =>
    have cut : writeUnits (unit :: units) ++ 34 :: rest = unit.write ++ (writeUnits units ++ 34 :: rest) := by
      simp [writeUnits]
    rw [cut, read_unit, ih, Option.map_some]

theorem read_digit_self (digit : Fin 10) : readDigit (writeDigit digit) = some digit := by
  revert digit
  decide

def Ends (rest : List UInt8) : Prop := ∀ byte ∈ rest.head?, isSpace byte = true ∨ byte = 44 ∨ byte = 93 ∨ byte = 125

def Stops (marks : List UInt8) (rest : List UInt8) : Prop := ∀ byte ∈ rest.head?, readDigit byte = none ∧ byte ∉ marks

theorem Ends.stops (rest : List UInt8) (ends : Ends rest) : Stops [46, 69, 101] rest := by
  intro byte first
  rcases ends byte first with space | rfl | rfl | rfl
  · simp only [isSpace, Bool.or_eq_true, beq_iff_eq] at space
    obtain ((rfl | rfl) | rfl) | rfl := space <;> decide
  all_goals decide

theorem read_digits (digits : List (Fin 10)) (marks rest : List UInt8) (stops : Stops marks rest) :
    readDigits (digits.map writeDigit ++ rest) = (digits, rest) := by
  induction digits with
  | nil =>
    cases rest with
    | nil => rfl
    | cons byte rest => simp [readDigits, (stops byte rfl).1]
  | cons digit digits ih => simp [readDigits, read_digit_self, ih]

theorem read_some (digits : Digits) (marks rest : List UInt8) (stops : Stops marks rest) :
    readSome (digits.write ++ rest) = some (digits, rest) := by
  have all : digits.write ++ rest = (digits.first :: digits.rest).map writeDigit ++ rest := rfl
  rw [readSome, all, read_digits _ marks rest stops]

theorem read_whole (whole : Whole) (marks rest : List UInt8) (stops : Stops marks rest) :
    readWhole (whole.write ++ rest) = some (whole, rest) := by
  cases whole with
  | zero =>
    have digits := read_some ⟨0, []⟩ marks rest stops
    have same : Whole.zero.write ++ rest = Digits.write ⟨0, []⟩ ++ rest := rfl
    rw [readWhole, same, digits]
    rfl
  | positive first more =>
    have digits := read_some ⟨first.succ, more⟩ marks rest stops
    have same : (Whole.positive first more).write ++ rest = Digits.write ⟨first.succ, more⟩ ++ rest := by
      have sums : 48 + first.succ.val = 49 + first.val := by simp; omega
      rw [Whole.write, Digits.write, writeDigit, sums]
    rw [readWhole, same, digits]
    simp

theorem read_fraction (fraction : Option Digits) (rest : List UInt8) (stops : Stops [46] rest) :
    readFraction (fraction.elim [] (fun digits => 46 :: digits.write) ++ rest) = some (fraction, rest) := by
  cases fraction with
  | none =>
    cases rest with
    | nil => rfl
    | cons byte rest =>
      have other := (stops byte rfl).2
      simp only [List.mem_singleton] at other
      simp [readFraction, other]
  | some digits =>
    simp only [Option.elim_some, List.cons_append]
    rw [readFraction, if_pos rfl, read_some digits _ rest stops, Option.map_some]

theorem read_exponent (exponent : Option Exponent) (rest : List UInt8) (stops : Stops [69, 101] rest) :
    readExponent (exponent.elim [] Exponent.write ++ rest) = some (exponent, rest) := by
  cases exponent with
  | none =>
    cases rest with
    | nil => rfl
    | cons byte rest =>
      have other := (stops byte rfl).2
      simp only [List.mem_cons, List.not_mem_nil, or_false] at other
      simp only [Option.elim_none, List.nil_append, readExponent, if_neg other]
  | some exponent =>
    obtain ⟨upper, sign, digits⟩ := exponent
    have signed : readSign ((sign.elim [] fun minus => if minus = true then [45] else [43]) ++ (digits.write ++ rest)) =
        (sign, digits.write ++ rest) := by
      cases sign with
      | none =>
        have first : writeDigit digits.first ≠ 45 ∧ writeDigit digits.first ≠ 43 := by
          generalize digits.first = digit
          revert digit
          decide
        simp [Digits.write, readSign, first.1, first.2]
      | some minus => cases minus <;> simp [readSign]
    simp only [Option.elim_some, Exponent.write, List.cons_append, List.append_assoc]
    rw [readExponent, if_pos (by cases upper <;> simp), signed]
    simp only [read_some digits _ rest stops, Option.map_some]
    cases upper <;> rfl

theorem whole_head (whole : Whole) : ∃ byte more, whole.write = byte :: more ∧ byte ≠ 45 := by
  cases whole with
  | zero => exact ⟨48, [], rfl, by decide⟩
  | positive first more =>
    refine ⟨_, _, rfl, ?_⟩
    revert first
    decide

theorem exponent_stops (exponent : Option Exponent) (rest : List UInt8) (ends : Ends rest) :
    Stops [46] (exponent.elim [] Exponent.write ++ rest) := by
  cases exponent with
  | none => exact fun byte first => ⟨(ends.stops rest byte first).1, fun dot => (ends.stops rest byte first).2 (by simp_all)⟩
  | some exponent =>
    intro byte first
    cases upper : exponent.upper <;> simp [Exponent.write, upper] at first <;> subst first <;> decide

theorem fraction_stops (fraction : Option Digits) (exponent : Option Exponent) (rest : List UInt8) (ends : Ends rest) :
    Stops [] (fraction.elim [] (fun digits => 46 :: digits.write) ++ (exponent.elim [] Exponent.write ++ rest)) := by
  cases fraction with
  | none => exact fun byte first => ⟨(exponent_stops exponent rest ends byte first).1, List.not_mem_nil⟩
  | some digits =>
    intro byte first
    simp at first
    subst first
    decide

theorem read_number (number : Number) (rest : List UInt8) (ends : Ends rest) :
    readNumber (number.write ++ rest) = some (number, rest) := by
  obtain ⟨negative, whole, fraction, exponent⟩ := number
  have minus : readMinus ((if negative = true then [45] else []) ++ (whole.write ++
      (fraction.elim [] (fun digits => 46 :: digits.write) ++ (exponent.elim [] Exponent.write ++ rest)))) =
      (negative, whole.write ++
        (fraction.elim [] (fun digits => 46 :: digits.write) ++ (exponent.elim [] Exponent.write ++ rest))) := by
    cases negative with
    | true => simp [readMinus]
    | false =>
      obtain ⟨byte, more, written, other⟩ := whole_head whole
      simp [written, readMinus, other]
  have last : Stops [69, 101] rest := fun byte first =>
    ⟨(ends.stops rest byte first).1, fun mark => (ends.stops rest byte first).2 (List.mem_cons_of_mem _ mark)⟩
  rw [readNumber, Number.write]
  simp only [List.append_assoc, minus]
  rw [read_whole whole [] _ (fraction_stops fraction exponent rest ends)]
  simp only [Option.bind_eq_bind, Option.bind_some, read_fraction fraction _ (exponent_stops exponent rest ends),
    read_exponent exponent rest last]
  rfl

end Lexemes

section Values

theorem skip_cons (byte : UInt8) (rest : List UInt8) (other : isSpace byte = false) : skip (byte :: rest) = byte :: rest := by
  simp [skip, other]

abbrev StartsValue (byte : UInt8) : Prop := isSpace byte = false ∧ byte ≠ 93 ∧ byte ≠ 125

theorem number_head (number : Number) : ∃ byte more, number.write = byte :: more ∧ StartsValue byte ∧
    byte ≠ 34 ∧ byte ≠ 91 ∧ byte ≠ 123 ∧ byte ≠ 110 ∧ byte ≠ 116 ∧ byte ≠ 102 := by
  obtain ⟨negative, whole, fraction, exponent⟩ := number
  cases negative with
  | true => exact ⟨45, _, rfl, by decide⟩
  | false =>
    cases whole with
    | zero => exact ⟨48, _, rfl, by decide⟩
    | positive first more =>
      refine ⟨_, _, rfl, ?_⟩
      revert first
      decide

theorem write_head (value : Value) : ∃ byte more, write value = byte :: more ∧ StartsValue byte := by
  cases value with
  | null => exact ⟨110, _, rfl, by decide⟩
  | bool value => cases value <;> exact ⟨_, _, rfl, by decide⟩
  | number number =>
    obtain ⟨byte, more, written, starts, _⟩ := number_head number
    exact ⟨byte, more, by rw [write, written], starts⟩
  | string units => exact ⟨34, _, rfl, by decide⟩
  | array items => exact ⟨91, _, rfl, by decide⟩
  | object members => exact ⟨123, _, rfl, by decide⟩

theorem read_word (word : List UInt8) (value : Value) (rest : List UInt8) : readWord word value (word ++ rest) = some (value, rest) := by
  simp [readWord]

def written (entry : List StringUnit × Value) : Member := ⟨entry.1, write entry.2, entry.2⟩

theorem more_items_end (items : List Value) (rest : List UInt8) : Ends (writeMoreItems items ++ rest) := by
  cases items <;> simp [Ends, writeMoreItems]

theorem more_members_end (members : List (List StringUnit × Value)) (rest : List UInt8) : Ends (writeMoreMembers members ++ rest) := by
  cases members <;> simp [Ends, writeMoreMembers]

theorem string_text (units : List StringUnit) (rest : List UInt8) :
    writeString units ++ rest = 34 :: (writeUnits units ++ 34 :: rest) := by
  simp [writeString]

theorem read_member (name : List StringUnit) (value : Value) (fuel : Nat) (rest : List UInt8)
    (inner : readValue fuel (write value ++ rest) = some (value, rest)) :
    readMember (fuel + 1) (writeString name ++ 58 :: (write value ++ rest)) = some (written (name, value), rest) := by
  obtain ⟨byte, more, text, starts⟩ := write_head value
  have start : skip (write value ++ rest) = write value ++ rest := by
    rw [text, List.cons_append, skip_cons byte _ starts.1]
  rw [string_text, readMember, skip_cons 34 _ (by decide)]
  simp only [if_true, read_units, Option.bind_some]
  rw [skip_cons 58 _ (by decide)]
  simp only [if_true, inner, Option.map_some, start, written]
  simp

mutual

theorem read_value (value : Value) (fuel : Nat) (rest : List UInt8) (ends : Ends rest)
    (enough : 2 * (write value).length + 1 ≤ fuel) : readValue fuel (write value ++ rest) = some (value, rest) := by
  cases fuel with
  | zero => omega
  | succ fuel =>
    cases value with
    | null => exact read_word [117, 108, 108] .null rest
    | bool value =>
      cases value with
      | true => exact read_word [114, 117, 101] (.bool true) rest
      | false => exact read_word [97, 108, 115, 101] (.bool false) rest
    | number number =>
      obtain ⟨byte, more, text, starts, quote, bracket, brace, n, t, f⟩ := number_head number
      have lexeme := read_number number rest ends
      rw [write]
      rw [text, List.cons_append] at lexeme ⊢
      rw [readValue, skip_cons byte _ starts.1]
      simp only [quote, bracket, brace, n, t, f, if_false, lexeme, Option.map_some]
    | string units =>
      rw [write, string_text, readValue, skip_cons 34 _ (by decide)]
      simp only [if_true, read_units, Option.map_some]
    | array items =>
      rw [write, List.length_cons] at enough
      have inner := read_items items fuel rest (by omega)
      rw [write, List.cons_append, readValue, skip_cons 91 _ (by decide)]
      simp [inner]
    | object members =>
      rw [write, List.length_cons] at enough
      have inner := read_members members fuel rest (by omega)
      have entries : (members.map written).map Member.entry = members := by
        rw [List.map_map]
        exact List.map_id members
      rw [write, List.cons_append, readValue, skip_cons 123 _ (by decide)]
      simp only [inner, Option.map_some, entries]
      rfl

theorem read_items (items : List Value) (fuel : Nat) (rest : List UInt8) (enough : 2 * (writeItems items).length + 2 ≤ fuel) :
    readItems fuel (writeItems items ++ rest) = some (items, rest) := by
  cases fuel with
  | zero => omega
  | succ fuel =>
    cases items with
    | nil => rfl
    | cons item items =>
      obtain ⟨byte, more, text, starts⟩ := write_head item
      rw [writeItems, List.length_append] at enough
      have first := read_value item fuel (writeMoreItems items ++ rest) (more_items_end items rest) (by omega)
      have later := read_more_items items fuel rest (by rw [text, List.length_cons] at enough; omega)
      rw [writeItems, List.append_assoc]
      rw [text, List.cons_append] at first ⊢
      rw [readItems, skip_cons byte _ starts.1]
      simp only [starts.2.1, if_false, first, Option.bind_some, later, Option.map_some]

theorem read_more_items (items : List Value) (fuel : Nat) (rest : List UInt8)
    (enough : 2 * (writeMoreItems items).length + 2 ≤ fuel) :
    readMoreItems fuel (writeMoreItems items ++ rest) = some (items, rest) := by
  cases fuel with
  | zero => omega
  | succ fuel =>
    cases items with
    | nil => rfl
    | cons item items =>
      rw [writeMoreItems, List.length_cons, List.length_append] at enough
      have first := read_value item fuel (writeMoreItems items ++ rest) (more_items_end items rest) (by omega)
      have later := read_more_items items fuel rest (by omega)
      rw [writeMoreItems, List.cons_append, List.append_assoc, readMoreItems, skip_cons 44 _ (by decide)]
      simp [first, later]

theorem read_members (members : List (List StringUnit × Value)) (fuel : Nat) (rest : List UInt8)
    (enough : 2 * (writeMembers members).length + 2 ≤ fuel) :
    readMembers fuel (writeMembers members ++ rest) = some (members.map written, rest) := by
  cases members with
  | nil =>
    cases fuel with
    | zero => omega
    | succ fuel => rfl
  | cons member members =>
    obtain ⟨name, value⟩ := member
    simp only [writeMembers, List.length_append, List.length_cons] at enough
    obtain ⟨fuel, rfl⟩ : ∃ less, fuel = less + 2 := ⟨fuel - 2, by omega⟩
    have inner := read_value value fuel (writeMoreMembers members ++ rest) (more_members_end members rest) (by omega)
    have first := read_member name value fuel _ inner
    have later := read_more_members members (fuel + 1) rest (by omega)
    have text : writeMembers ((name, value) :: members) ++ rest =
        writeString name ++ 58 :: (write value ++ (writeMoreMembers members ++ rest)) := by
      simp [writeMembers]
    rw [text]
    rw [string_text] at first ⊢
    rw [readMembers, skip_cons 34 _ (by decide)]
    simp [first, later]

theorem read_more_members (members : List (List StringUnit × Value)) (fuel : Nat) (rest : List UInt8)
    (enough : 2 * (writeMoreMembers members).length + 2 ≤ fuel) :
    readMoreMembers fuel (writeMoreMembers members ++ rest) = some (members.map written, rest) := by
  cases members with
  | nil =>
    cases fuel with
    | zero => omega
    | succ fuel => rfl
  | cons member members =>
    obtain ⟨name, value⟩ := member
    simp only [writeMoreMembers, List.length_append, List.length_cons] at enough
    obtain ⟨fuel, rfl⟩ : ∃ less, fuel = less + 2 := ⟨fuel - 2, by omega⟩
    have inner := read_value value fuel (writeMoreMembers members ++ rest) (more_members_end members rest) (by omega)
    have first := read_member name value fuel _ inner
    have later := read_more_members members (fuel + 1) rest (by omega)
    have text : writeMoreMembers ((name, value) :: members) ++ rest =
        44 :: (writeString name ++ 58 :: (write value ++ (writeMoreMembers members ++ rest))) := by
      simp [writeMoreMembers]
    rw [text, readMoreMembers, skip_cons 44 _ (by decide)]
    simp [first, later]

end

theorem parse_text (value : Value) : parseText (write value) = some value := by
  have read := read_value value (2 * (write value).length + 1) [] (by simp [Ends]) (le_refl _)
  rw [List.append_nil] at read
  rw [parseText, read]
  rfl

theorem read_text_some (bytes : List UInt8) (value : Value) :
    readText bytes = some value ↔ parseText bytes = some value ∧ value.nesting ≤ maxNestingDepth := by
  rw [readText, Option.filter_eq_some_iff, decide_eq_true_iff]

theorem read_text (value : Value) (shallow : value.nesting ≤ maxNestingDepth) : readText (write value) = some value :=
  (read_text_some _ value).mpr ⟨parse_text value, shallow⟩

theorem read_object (members : List (List StringUnit × Value)) :
    readObject (write (.object members)) = some (members.map written) := by
  have read := read_members members (2 * (writeMembers members).length + 2) [] (le_refl _)
  rw [List.append_nil] at read
  rw [write, readObject, skip_cons 123 _ (by decide), List.length_cons, Nat.mul_succ]
  simp only [if_true, read]
  rfl

end Values

end JsonText
