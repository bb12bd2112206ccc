import MmoServer.Lib.Json
import MmoServer.Lib.JsonText

set_option autoImplicit false

namespace Decimal

open Json

def text (value : Nat) : List UInt8 := utf8 (toString value)

theorem digit_bytes (value : Nat) (small : value < 10) : String.utf8EncodeChar value.digitChar = [UInt8.ofNat (48 + value)] := by
  interval_cases value <;> rfl

theorem text_eq (value : Nat) : text value = (if value < 10 then [] else text (value / 10)) ++ [UInt8.ofNat (48 + value % 10)] := by
  simp only [text, utf8, Nat.toString_eq_repr, Nat.toList_repr]
  rw [Nat.toDigits_eq_if (by decide)]
  split
  · rename_i small
    rw [List.flatMap_singleton, digit_bytes value small, Nat.mod_eq_of_lt small, List.nil_append]
  · rw [List.flatMap_append, List.flatMap_singleton, digit_bytes _ (Nat.mod_lt _ (by decide))]

theorem digit_byte (value : Nat) : 48 ≤ (UInt8.ofNat (48 + value % 10)).toNat ∧ (UInt8.ofNat (48 + value % 10)).toNat ≤ 57 := by
  rw [UInt8.toNat_ofNat']
  omega

theorem text_bytes (value : Nat) : ∀ byte ∈ text value, 48 ≤ byte.toNat ∧ byte.toNat ≤ 57 := by
  induction value using Nat.strongRecOn with
  | ind value ih =>
    intro byte member
    rw [text_eq, List.mem_append, List.mem_singleton] at member
    rcases member with higher | rfl
    · split at higher
      · cases higher
      · exact ih (value / 10) (by omega) byte higher
    · exact digit_byte value

theorem text_length (digits value : Nat) (small : value < 10 ^ (digits + 1)) : (text value).length ≤ digits + 1 := by
  induction digits generalizing value with
  | zero =>
    rw [text_eq, if_pos (by omega)]
    rfl
  | succ digits ih =>
    have higher := ih (value / 10) (by rw [Nat.pow_succ] at small; omega)
    rw [text_eq, List.length_append, List.length_singleton]
    split
    · rw [List.length_nil]
      omega
    · omega

theorem text_digits (value : Nat) : ∃ first rest, text value = List.map JsonText.writeDigit (first :: rest) ∧
    (first :: rest).foldl (fun total digit => total * 10 + digit.val) 0 = value := by
  induction value using Nat.strongRecOn with
  | ind value ih =>
    have last : JsonText.writeDigit ⟨value % 10, Nat.mod_lt _ (by decide)⟩ = UInt8.ofNat (48 + value % 10) := rfl
    by_cases small : value < 10
    · refine ⟨⟨value % 10, Nat.mod_lt _ (by decide)⟩, [], ?_, ?_⟩
      · rw [text_eq, if_pos small, List.map_singleton, last, List.nil_append]
      · simpa using Nat.mod_eq_of_lt small
    · obtain ⟨first, rest, written, read⟩ := ih (value / 10) (by omega)
      refine ⟨first, rest ++ [⟨value % 10, Nat.mod_lt _ (by decide)⟩], ?_, ?_⟩
      · rw [text_eq, if_neg small, written, ← List.cons_append, List.map_append, List.map_singleton, last]
      · rw [← List.cons_append, List.foldl_append, read]
        simp only [List.foldl_cons, List.foldl_nil]
        omega

end Decimal
