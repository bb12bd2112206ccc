import Mathlib.Tactic

set_option autoImplicit false

namespace Runes

def encode (chars : List Char) : List UInt8 := chars.flatMap String.utf8EncodeChar

-- utf8.DecodeRune, where none is RuneError with width one.
def decodeRune (bytes : List UInt8) : Option Char := bytes.toByteArray.utf8DecodeChar? 0

def ValidUtf8 (bytes : List UInt8) : Prop := ∃ chars, encode chars = bytes

@[simp] theorem encode_nil : encode [] = [] := rfl

@[simp] theorem encode_cons (c : Char) (rest : List Char) : encode (c :: rest) = String.utf8EncodeChar c ++ encode rest := rfl

theorem decode_rune_char (c : Char) (rest : List UInt8) : decodeRune (String.utf8EncodeChar c ++ rest) = some c := by
  have whole := List.utf8DecodeChar?_utf8Encode_singleton_append (b := rest.toByteArray) (c := c)
  rwa [List.utf8Encode_singleton, ← List.toByteArray_append] at whole

theorem decode_rune_some (bytes : List UInt8) (c : Char) (decoded : decodeRune bytes = some c) :
    ∃ rest, bytes = String.utf8EncodeChar c ++ rest := by
  obtain ⟨rest, same⟩ := ByteArray.exists_of_utf8DecodeChar?_eq_some decoded
  have lists := congrArg (fun bytes : ByteArray => bytes.data.toList) same
  exact ⟨rest.data.toList, by simpa using lists⟩

end Runes
