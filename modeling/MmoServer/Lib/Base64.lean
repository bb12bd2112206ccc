import Mathlib.Data.List.Basic
import Mathlib.Tactic

set_option autoImplicit false

namespace Base64

def digit (value : Nat) : Char :=
  if value < 26 then Char.ofNat (65 + value)
  else if value < 52 then Char.ofNat (71 + value)
  else if value < 62 then Char.ofNat (value - 4)
  else if value = 62 then '+'
  else '/'

def encodeChars : List UInt8 → List Char
  | a :: b :: c :: rest =>
    digit (a.toNat / 4) :: digit (a.toNat % 4 * 16 + b.toNat / 16) :: digit (b.toNat % 16 * 4 + c.toNat / 64) ::
      digit (c.toNat % 64) :: encodeChars rest
  | [a, b] => [digit (a.toNat / 4), digit (a.toNat % 4 * 16 + b.toNat / 16), digit (b.toNat % 16 * 4), '=']
  | [a] => [digit (a.toNat / 4), digit (a.toNat % 4 * 16), '=', '=']
  | [] => []

def encode (bytes : List UInt8) : String := String.ofList (encodeChars bytes)

def value (byte : UInt8) : Option Nat :=
  let code := byte.toNat
  if 65 ≤ code ∧ code ≤ 90 then some (code - 65)
  else if 97 ≤ code ∧ code ≤ 122 then some (code - 71)
  else if 48 ≤ code ∧ code ≤ 57 then some (code + 4)
  else if code = 43 then some 62
  else if code = 47 then some 63
  else none

def isNewline (byte : UInt8) : Bool := byte = 10 ∨ byte = 13

def skipNewlines (position : Nat) : List UInt8 → Nat × List UInt8
  | [] => (position, [])
  | byte :: rest => if isNewline byte = true then skipNewlines (position + 1) rest else (position, byte :: rest)

def finish (position : Nat) (rest : List UInt8) (bytes : List UInt8) : Except Nat (List UInt8) :=
  match skipNewlines position rest with
  | (_, []) => .ok bytes
  | (garbage, _ :: _) => .error garbage

def decodeFrom (position : Nat) (group : List Nat) : List UInt8 → Except Nat (List UInt8)
  | [] => if group = [] then .ok [] else .error (position - group.length)
  | byte :: rest =>
    match value byte with
    | some last =>
      match group with
      | [a, b, c] =>
        match decodeFrom (position + 1) [] rest with
        | .ok bytes =>
          .ok (UInt8.ofNat (a * 4 + b / 16) :: UInt8.ofNat (b % 16 * 16 + c / 4) :: UInt8.ofNat (c % 4 * 64 + last) :: bytes)
        | .error garbage => .error garbage
      | _ => decodeFrom (position + 1) (group ++ [last]) rest
    | none =>
      if isNewline byte = true then decodeFrom (position + 1) group rest
      else if byte ≠ 61 then .error position
      else
        match group with
        | [a, b, c] => finish (position + 1) rest [UInt8.ofNat (a * 4 + b / 16), UInt8.ofNat (b % 16 * 16 + c / 4)]
        | [a, b] =>
          match skipNewlines (position + 1) rest with
          | (short, []) => .error short
          | (next, pad :: rest) =>
            if pad ≠ 61 then .error (next - 1) else finish (next + 1) rest [UInt8.ofNat (a * 4 + b / 16)]
        | _ => .error position

def decode (text : List UInt8) : Except String (List UInt8) :=
  match decodeFrom 0 [] text with
  | .ok bytes => .ok bytes
  | .error position => .error ("illegal base64 data at input byte " ++ toString position)

theorem encode_chars_length (bytes : List UInt8) : (encodeChars bytes).length = (bytes.length + 2) / 3 * 4 := by
  induction bytes using encodeChars.induct with
  | case1 a b c rest ih =>
    rw [encodeChars]
    simp only [List.length_cons, ih]
    omega
  | case2 a b => simp [encodeChars]
  | case3 a => simp [encodeChars]
  | case4 => rfl

theorem digit_ascii (value : Nat) : (digit value).utf8Size = 1 := by
  have ascii : ∀ code : Nat, code < 128 → (Char.ofNat code).utf8Size = 1 := by decide
  unfold digit
  split_ifs <;> first | rfl | exact ascii _ (by omega)

theorem encode_chars_ascii (bytes : List UInt8) : ∀ c ∈ encodeChars bytes, c.utf8Size = 1 := by
  have pad : ('=' : Char).utf8Size = 1 := by decide
  induction bytes using encodeChars.induct with
  | case1 a b c rest ih =>
    simp only [encodeChars, List.forall_mem_cons, digit_ascii, true_and]
    exact ih
  | case2 a b | case3 a => simp [encodeChars, digit_ascii, pad]
  | case4 => simp [encodeChars]

section RoundTrip

def digitByte (value : Nat) : UInt8 := UInt8.ofNat (digit value).toNat

theorem digit_bytes : ∀ digits < 64, String.utf8EncodeChar (digit digits) = [digitByte digits] ∧
    value (digitByte digits) = some digits ∧ digitByte digits ≠ 58 := by
  decide

def encodeBytes (bytes : List UInt8) : List UInt8 := (encodeChars bytes).flatMap String.utf8EncodeChar

theorem decode_group (position a b c d : Nat) (rest bytes : List UInt8) (aSmall : a < 64) (bSmall : b < 64) (cSmall : c < 64)
    (dSmall : d < 64) (decoded : decodeFrom (position + 1 + 1 + 1 + 1) [] rest = .ok bytes) :
    decodeFrom position [] (digitByte a :: digitByte b :: digitByte c :: digitByte d :: rest) =
      .ok (UInt8.ofNat (a * 4 + b / 16) :: UInt8.ofNat (b % 16 * 16 + c / 4) :: UInt8.ofNat (c % 4 * 64 + d) :: bytes) := by
  simp [decodeFrom, (digit_bytes a aSmall).2.1, (digit_bytes b bSmall).2.1, (digit_bytes c cSmall).2.1, (digit_bytes d dSmall).2.1,
    decoded]

theorem decode_two (position a b c : Nat) (aSmall : a < 64) (bSmall : b < 64) (cSmall : c < 64) :
    decodeFrom position [] [digitByte a, digitByte b, digitByte c, 61] =
      .ok [UInt8.ofNat (a * 4 + b / 16), UInt8.ofNat (b % 16 * 16 + c / 4)] := by
  have pad : value 61 = none := by decide
  have newline : isNewline 61 = false := by decide
  simp [decodeFrom, (digit_bytes a aSmall).2.1, (digit_bytes b bSmall).2.1, (digit_bytes c cSmall).2.1, pad, newline, finish,
    skipNewlines]

theorem decode_one (position a b : Nat) (aSmall : a < 64) (bSmall : b < 64) :
    decodeFrom position [] [digitByte a, digitByte b, 61, 61] = .ok [UInt8.ofNat (a * 4 + b / 16)] := by
  have pad : value 61 = none := by decide
  have newline : isNewline 61 = false := by decide
  simp [decodeFrom, (digit_bytes a aSmall).2.1, (digit_bytes b bSmall).2.1, pad, newline, finish, skipNewlines]

theorem byte_of (byte : UInt8) (number : Nat) (same : number = byte.toNat) : UInt8.ofNat number = byte := by
  rw [same, UInt8.ofNat_toNat]

theorem flat_map_digit (digits : Nat) (rest : List Char) (small : digits < 64) :
    (digit digits :: rest).flatMap String.utf8EncodeChar = digitByte digits :: rest.flatMap String.utf8EncodeChar := by
  rw [List.flatMap_cons, (digit_bytes digits small).1, List.singleton_append]

theorem decode_encode_from (bytes : List UInt8) (position : Nat) : decodeFrom position [] (encodeBytes bytes) = .ok bytes := by
  have padding : String.utf8EncodeChar '=' = [61] := by decide
  induction bytes using encodeChars.induct generalizing position with
  | case1 a b c rest ih =>
    have aSmall := a.toNat_lt
    have bSmall := b.toNat_lt
    have cSmall := c.toNat_lt
    have decoded := decode_group position (a.toNat / 4) (a.toNat % 4 * 16 + b.toNat / 16) (b.toNat % 16 * 4 + c.toNat / 64)
      (c.toNat % 64) (encodeBytes rest) rest (by omega) (by omega) (by omega) (by omega) (ih _)
    rw [byte_of a _ (by omega), byte_of b _ (by omega), byte_of c _ (by omega)] at decoded
    rw [encodeBytes, encodeChars, flat_map_digit _ _ (by omega), flat_map_digit _ _ (by omega), flat_map_digit _ _ (by omega),
      flat_map_digit _ _ (by omega)]
    exact decoded
  | case2 a b =>
    have aSmall := a.toNat_lt
    have bSmall := b.toNat_lt
    have decoded := decode_two position (a.toNat / 4) (a.toNat % 4 * 16 + b.toNat / 16) (b.toNat % 16 * 4) (by omega) (by omega)
      (by omega)
    rw [byte_of a _ (by omega), byte_of b _ (by omega)] at decoded
    rw [encodeBytes, encodeChars, flat_map_digit _ _ (by omega), flat_map_digit _ _ (by omega), flat_map_digit _ _ (by omega),
      List.flatMap_singleton, padding]
    exact decoded
  | case3 a =>
    have aSmall := a.toNat_lt
    have decoded := decode_one position (a.toNat / 4) (a.toNat % 4 * 16) (by omega) (by omega)
    rw [byte_of a _ (by omega)] at decoded
    rw [encodeBytes, encodeChars, flat_map_digit _ _ (by omega), flat_map_digit _ _ (by omega), List.flatMap_cons,
      List.flatMap_singleton, padding]
    exact decoded
  | case4 => rfl

theorem decode_encode (bytes : List UInt8) : decode (encodeBytes bytes) = .ok bytes := by
  rw [decode, decode_encode_from]

def InAlphabet (c : Char) : Prop := c = '=' ∨ ∃ digits < 64, c = digit digits

theorem encode_chars_alphabet (bytes : List UInt8) : ∀ c ∈ encodeChars bytes, InAlphabet c := by
  have symbol (digits : Nat) (small : digits < 64) : InAlphabet (digit digits) := .inr ⟨digits, small, rfl⟩
  induction bytes using encodeChars.induct with
  | case1 a b c rest ih =>
    have aSmall := a.toNat_lt
    have bSmall := b.toNat_lt
    have cSmall := c.toNat_lt
    simp only [encodeChars, List.forall_mem_cons]
    exact ⟨symbol _ (by omega), symbol _ (by omega), symbol _ (by omega), symbol _ (by omega), ih⟩
  | case2 a b =>
    have aSmall := a.toNat_lt
    have bSmall := b.toNat_lt
    simp only [encodeChars, List.forall_mem_cons]
    exact ⟨symbol _ (by omega), symbol _ (by omega), symbol _ (by omega), .inl rfl, by simp⟩
  | case3 a =>
    have aSmall := a.toNat_lt
    simp only [encodeChars, List.forall_mem_cons]
    exact ⟨symbol _ (by omega), symbol _ (by omega), .inl rfl, .inl rfl, by simp⟩
  | case4 => simp [encodeChars]

theorem encode_bytes_free (bytes : List UInt8) : ∀ byte ∈ encodeBytes bytes, byte ≠ 58 := by
  intro byte member
  obtain ⟨c, symbol, inside⟩ := List.mem_flatMap.mp member
  rcases encode_chars_alphabet bytes c symbol with rfl | ⟨digits, small, rfl⟩
  · rw [show String.utf8EncodeChar '=' = [61] by decide, List.mem_singleton] at inside
    rw [inside]
    decide
  · rw [(digit_bytes digits small).1, List.mem_singleton] at inside
    rw [inside]
    exact (digit_bytes digits small).2.2

end RoundTrip

example : encode [77, 97, 110, 33] = "TWFuIQ==" := by decide

example : decode [84, 87, 70, 117, 73, 81, 61, 61] = .ok [77, 97, 110, 33] := by decide

end Base64
