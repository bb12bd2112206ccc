import MmoServer.Lib.Json
import MmoServer.Lib.GoMap
import MmoServer.Lib.JsonStrings

set_option autoImplicit false

-- What Unmarshal and Marshal of encoding/json do with a text and with a value.
namespace JsonText

section Naturals

def Whole.value : Whole → Nat
  | .zero => 0
  | .positive first rest => rest.foldl (fun total digit => total * 10 + digit.val) (first.val + 1)

theorem first_digit_lt (value : Nat) (small : value < 10) : value - 1 < 9 := by
  omega

theorem last_digit_lt (value : Nat) : value % 10 < 10 := by
  omega

def Whole.ofNat : Nat → Nat → Whole
  | 0, _ => .zero
  | fuel + 1, value =>
    if small : value < 10 then
      if value = 0 then .zero else .positive ⟨value - 1, first_digit_lt value small⟩ []
    else
      match Whole.ofNat fuel (value / 10) with
      | .zero => .zero
      | .positive first rest => .positive first (rest ++ [⟨value % 10, last_digit_lt value⟩])

def Number.ofNat (value : Nat) : Number := { whole := Whole.ofNat (value + 1) value }

def Number.natural (number : Number) : Option Nat :=
  if number.negative = false ∧ number.fraction = none ∧ number.exponent = none then some number.whole.value else none

theorem whole_of_nat (fuel value : Nat) (enough : value < fuel) : (Whole.ofNat fuel value).value = value := by
  induction fuel generalizing value with
  | zero => omega
  | succ fuel ih =>
    rw [Whole.ofNat]
    split
    · split
      · rename_i zero
        exact zero.symm
      · simp only [Whole.value, List.foldl_nil]
        omega
    · have shorter := ih (value / 10) (by omega)
      cases digits : Whole.ofNat fuel (value / 10) with
      | zero =>
        rw [digits, Whole.value] at shorter
        omega
      | positive first rest =>
        rw [digits, Whole.value] at shorter
        simp only [Whole.value, List.foldl_append, List.foldl_cons, List.foldl_nil, shorter]
        omega

theorem natural_of_nat (value : Nat) : (Number.ofNat value).natural = some value := by
  rw [Number.natural, if_pos ⟨rfl, rfl, rfl⟩]
  exact congrArg some (whole_of_nat (value + 1) value (Nat.lt_succ_self value))

end Naturals

-- A text that is no JSON, or a value that does not fit its target. The text of a
-- scanner error is left out.
inductive Failure where
  | malformed
  | mismatch (text : String)
deriving DecidableEq, Repr

def Value.kind : Value → String
  | .null => "null"
  | .bool _ => "bool"
  | .number _ => "number"
  | .string _ => "string"
  | .array _ => "array"
  | .object _ => "object"

section Unmarshal

variable {S : Type}

def unmarshalString (bytes : List UInt8) : Except Failure (List UInt8) :=
  match readText bytes with
  | none => .error .malformed
  | some .null => .ok []
  | some (.string units) => .ok (unquote units)
  | some value => .error (.mismatch ("json: cannot unmarshal " ++ value.kind ++ " into Go value of type string"))

structure Target (S : Type) where
  name : String
  store : Member → S → Except String S

def ascii (bytes : List UInt8) : String := String.ofList (bytes.map fun byte => Char.ofNat byte.toNat)

def storeUint (path goType : String) (bound : Nat) (put : Nat → S → S) (member : Member) (s : S) : Except String S :=
  match member.value with
  | .null => .ok s
  | .number number =>
    match number.natural with
    | some value =>
      if value < bound then .ok (put value s) else .error (Json.mismatch path goType ("number " ++ ascii number.write))
    | none => .error (Json.mismatch path goType ("number " ++ ascii number.write))
  | value => .error (Json.mismatch path goType value.kind)

def storeText (path : String) (put : List UInt8 → S → S) (member : Member) (s : S) : Except String S :=
  match member.value with
  | .null => .ok s
  | .string units => .ok (put (unquote units) s)
  | value => .error (Json.mismatch path "string" value.kind)

-- A RawMessage keeps the text of the value, null included.
def storeRaw (put : List UInt8 → S → S) (member : Member) (s : S) : Except String S := .ok (put member.raw s)

def storeMember (targets : List (Target S)) (state : S × Option String) (member : Member) : S × Option String :=
  match targets.find? fun target => Json.sameName target.name (String.ofList (chars 0 member.name)) with
  | none => state
  | some target =>
    match target.store member state.1 with
    | .ok s => (s, state.2)
    | .error err => (state.1, state.2.or (some err))

def unmarshalStruct (typeName : String) (targets : List (Target S)) (zero : S) (bytes : List UInt8) : Except Failure S :=
  match readText bytes with
  | none => .error .malformed
  | some .null => .ok zero
  | some (.object _) =>
    match readObject bytes with
    | none => .error .malformed
    | some members =>
      match members.foldl (storeMember targets) (zero, none) with
      | (s, none) => .ok s
      | (_, some err) => .error (.mismatch err)
  | some value => .error (.mismatch ("json: cannot unmarshal " ++ value.kind ++ " into Go value of type " ++ typeName))

end Unmarshal

section Marshal

mutual

-- A RawMessage as Marshal embeds it: without space and with the escapes for HTML.
def escapeValue : Value → Value
  | .string units => .string (htmlEscape units)
  | .array items => .array (escapeItems items)
  | .object members => .object (escapeMembers members)
  | value => value

def escapeItems : List Value → List Value
  | [] => []
  | item :: rest => escapeValue item :: escapeItems rest

def escapeMembers : List (List StringUnit × Value) → List (List StringUnit × Value)
  | [] => []
  | (name, value) :: rest => (htmlEscape name, escapeValue value) :: escapeMembers rest

end

def notAfter : List UInt8 → List UInt8 → Bool
  | [], _ => true
  | _ :: _, [] => false
  | first :: rest, second :: others => first < second || (first == second && notAfter rest others)

-- A map of interface values: the last of equal keys counts, and Marshal sorts them.
def sortedMembers (pairs : List (List UInt8 × Value)) : List (List StringUnit × Value) :=
  ((((∅ : GoMap (List UInt8) Value).insertPairs pairs).pairs).insertionSort fun first second =>
    notAfter first.1 second.1 = true).map fun pair => (quote pair.1, pair.2)

variable (floats : Number → Option Number)

mutual

-- Unmarshal into an interface and Marshal of the result. A number becomes a
-- float64 and is printed again, which floats stands for; none is out of range.
def remarshal : Value → Option Value
  | .number number => (floats number).map Value.number
  | .string units => some (.string (quote (unquote units)))
  | .array items => (remarshalItems items).map Value.array
  | .object members => (remarshalMembers members).map fun pairs => .object (sortedMembers pairs)
  | value => some value

def remarshalItems : List Value → Option (List Value)
  | [] => some []
  | item :: rest => (remarshal item).bind fun item => (remarshalItems rest).map fun rest => item :: rest

def remarshalMembers : List (List StringUnit × Value) → Option (List (List UInt8 × Value))
  | [] => some []
  | (name, value) :: rest =>
    (remarshal value).bind fun value => (remarshalMembers rest).map fun rest => (unquote name, value) :: rest

end

end Marshal

section Facts

theorem unmarshal_null : unmarshalString (write .null) = .ok [] := by
  rw [unmarshalString, read_text _ (Nat.zero_le _)]

theorem unmarshal_written (units : List StringUnit) : unmarshalString (write (.string units)) = .ok (unquote units) := by
  rw [unmarshalString, read_text _ (Nat.zero_le _)]

theorem unmarshal_string_ne (bytes text : List UInt8) (read : unmarshalString bytes = .ok text) : text ≠ bytes := by
  rw [unmarshalString] at read
  split at read
  · cases read
  · rename_i found
    cases read
    rintro rfl
    cases found
  · rename_i units found
    cases read
    exact unquoted_ne bytes units ((read_text_iff_spells bytes (.string units) trivial).mp found) (chars 0 units) (marks_chars units 0)
  · cases read

theorem unquote_valid (units : List StringUnit) : Runes.ValidUtf8 (unquote units) := ⟨chars 0 units, rfl⟩

theorem unmarshal_string_valid (bytes text : List UInt8) (read : unmarshalString bytes = .ok text) : Runes.ValidUtf8 text := by
  rw [unmarshalString] at read
  split at read
  · cases read
  · cases read
    exact ⟨[], rfl⟩
  · cases read
    exact unquote_valid _
  · cases read

theorem unmarshal_string_fails_iff (bytes : List UInt8) :
    (∃ failure, unmarshalString bytes = .error failure) ↔ ∀ value, IsText value → ¬ Spells bytes value := by
  constructor
  · rintro ⟨failure, failed⟩ value text spells
    rw [unmarshalString, (read_text_iff_spells bytes value text).mpr spells] at failed
    cases value with
    | null | string => cases failed
    | bool | number | array | object => cases text
  · intro other
    rw [unmarshalString]
    split
    · exact ⟨_, rfl⟩
    · rename_i read
      exact absurd ((read_text_iff_spells bytes .null trivial).mp read) (other .null trivial)
    · rename_i units read
      exact absurd ((read_text_iff_spells bytes (.string units) trivial).mp read) (other (.string units) trivial)
    · exact ⟨_, rfl⟩

theorem unmarshal_struct_malformed_iff {S : Type} (typeName : String) (targets : List (Target S)) (zero : S) (bytes : List UInt8) :
    unmarshalStruct typeName targets zero bytes = .error .malformed ↔ readText bytes = none := by
  rw [unmarshalStruct]
  split
  · rename_i refused
    simp [refused]
  · rename_i read
    simp [read]
  · rename_i pairs read
    obtain ⟨members, found, _⟩ := read_object_text bytes pairs ((read_text_some _ _).mp read).1
    simp only [found, read]
    split <;> simp
  · rename_i read
    simp [read]

theorem unquote_quote_iff (text : List UInt8) : unquote (quote text) = text ↔ Runes.ValidUtf8 text := by
  constructor
  · intro same
    exact same ▸ unquote_valid (quote text)
  · rintro ⟨chars, rfl⟩
    rw [unquote, unquote_quote]

theorem escape_null : escapeValue .null = .null := by
  rw [escapeValue] <;> simp

theorem more_members_last (members : List (List StringUnit × Value)) : (writeMoreMembers members).getLast? = some 125 := by
  induction members with
  | nil => rfl
  | cons entry members ih => simp [writeMoreMembers, List.getLast?_append, List.getLast?_cons, ih]

theorem write_braces_iff (value : Value) :
    ((write value).head? = some 123 ∧ (write value).getLast? = some 125) ↔ ∃ members, value = .object members := by
  constructor
  · rintro ⟨brace, _⟩
    exact parse_text_object (write value) value brace (parse_text value)
  · rintro ⟨members, rfl⟩
    cases members with
    | nil => exact ⟨rfl, rfl⟩
    | cons entry members =>
      simp [write, writeMembers, List.getLast?_append, List.getLast?_cons, more_members_last]

theorem remarshal_object (floats : Number → Option Number) (members : List (List StringUnit × Value)) (value : Value)
    (again : remarshal floats (.object members) = some value) : ∃ others, value = .object others := by
  rw [remarshal, Option.map_eq_some_iff] at again
  obtain ⟨pairs, _, rfl⟩ := again
  exact ⟨_, rfl⟩

end Facts

end JsonText
