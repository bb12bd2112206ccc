import MmoServer.Lib.Bytes

set_option autoImplicit false

namespace MmoServer.Security

-- The curve P-256: y² = x³ - 3x + b over the field of p elements.
def fieldPrime : Nat := 0xffffffff00000001000000000000000000000000ffffffffffffffffffffffff

def curveB : Nat := 0x5ac635d8aa3a93e7b3ebbd55769886bc651d06b0cc53b0f63bce3c3e27d2604b

structure Coordinates where
  x : Nat
  y : Nat
deriving DecidableEq, Repr

def OnCurve (at_ : Coordinates) : Prop :=
  at_.x < fieldPrime ∧ at_.y < fieldPrime ∧
    (at_.y ^ 2 + 3 * at_.x) % fieldPrime = (at_.x ^ 3 + curveB) % fieldPrime

instance decidableOnCurve (at_ : Coordinates) : Decidable (OnCurve at_) := inferInstanceAs (Decidable (_ ∧ _ ∧ _))

structure PublicKey where
  point : Coordinates
  onCurve : OnCurve point
deriving DecidableEq

def marshal (key : PublicKey) : List UInt8 := 4 :: (Bytes.putNat 32 key.point.x ++ Bytes.putNat 32 key.point.y)

def unmarshal (data : List UInt8) : Option PublicKey :=
  match data with
  | 4 :: rest =>
    if rest.length = 64 then
      let point : Coordinates := ⟨Bytes.getNat (rest.take 32), Bytes.getNat (rest.drop 32)⟩
      if valid : OnCurve point then some ⟨point, valid⟩ else none
    else none
  | _ => none

@[simp] theorem marshal_length (key : PublicKey) : (marshal key).length = 65 := by
  simp [marshal]

theorem marshal_point (first second : PublicKey) (same : marshal first = marshal second) : first.point = second.point := by
  have small : ∀ value, value < fieldPrime → value < 256 ^ 32 := by
    intro value below
    have : fieldPrime < 256 ^ 32 := by decide +kernel
    omega
  obtain ⟨xs, ys⟩ := List.append_inj (List.cons_inj_right _ |>.mp same) (by simp)
  have back : ∀ a b, a < fieldPrime → b < fieldPrime → Bytes.putNat 32 a = Bytes.putNat 32 b → a = b := by
    intro a b aSmall bSmall bytes
    have read := congrArg Bytes.getNat bytes
    rwa [Bytes.get_put_nat, Bytes.get_put_nat, Nat.mod_eq_of_lt (small a aSmall), Nat.mod_eq_of_lt (small b bSmall)] at read
  have x := back _ _ first.onCurve.1 second.onCurve.1 xs
  have y := back _ _ first.onCurve.2.1 second.onCurve.2.1 ys
  rw [Coordinates.mk.injEq]
  exact ⟨x, y⟩

theorem unmarshal_length (data : List UInt8) (wrong : data.length ≠ 65) : unmarshal data = none := by
  unfold unmarshal
  split
  · rename_i rest
    rw [if_neg]
    simp only [List.length_cons] at wrong
    omega
  · rfl

structure PrivateKey where
  d : Nat
  publicKey : PublicKey

def natBytes (value : Nat) : List UInt8 := (Nat.digits 256 value).reverse.map UInt8.ofNat

-- What the standard library computes: ScalarMult (its x coordinate), SHA-256, and
-- AES-GCM, given the key and the nonce.
structure Primitives where
  scalarMult : PublicKey → List UInt8 → Option Nat
  sum256 : List UInt8 → Vector UInt8 32
  gcmSeal : List UInt8 → List UInt8 → List UInt8 → List UInt8
  gcmOpen : List UInt8 → List UInt8 → List UInt8 → Option (List UInt8)

-- AES-GCM opens a ciphertext only under the key that sealed it.
def Primitives.KeyBound (prims : Primitives) : Prop :=
  ∀ key other nonce ciphertext plaintext otherText, prims.gcmOpen key nonce ciphertext = some plaintext →
    prims.gcmOpen other nonce ciphertext = some otherText → key = other

end MmoServer.Security
