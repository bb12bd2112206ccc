import MmoServer.Security.Crypto

set_option autoImplicit false

namespace MmoServer.Security

open Bytes

-- AES-GCM opens what it sealed, under the same key and nonce.
def Primitives.Opens (prims : Primitives) : Prop :=
  ∀ key nonce plaintext, prims.gcmOpen key nonce (prims.gcmSeal key nonce plaintext) = some plaintext

def IsUnix (now : Int) : Prop := -2 ^ 63 ≤ now ∧ now < 2 ^ 63

namespace CryptoManager

def deadline (sealed ttlSeconds : Int) : Int := toInt64 (sealed + ttlSeconds % 2 ^ 32)

section Lifetime

theorem to_int64_mod (value : Int) (unix : IsUnix value) : toInt64 ((value % 2 ^ 64).toNat : Int) = value := by
  obtain ⟨low, high⟩ := unix
  rw [toInt64, Int.toNat_of_nonneg (Int.emod_nonneg _ (by decide)), Int.bmod_eq_iff (by decide)]
  omega

theorem check_timestamped (sealed ttlSeconds now : Int) (plaintext : List UInt8) (unix : IsUnix sealed) :
    checkTimestamp now (timestamped sealed ttlSeconds plaintext) =
      if deadline sealed ttlSeconds < now then .error "message expired"
      else if now < sealed then .error "invalid message timestamp"
      else .ok plaintext := by
  have stamp : (timestamped sealed ttlSeconds plaintext).take 8 = putNat 8 (sealed % 2 ^ 64).toNat := by
    rw [timestamped, List.append_assoc, List.take_left' (put_nat_length _ _)]
  have header : (putNat 8 (sealed % 2 ^ 64).toNat ++ putNat 4 (ttlSeconds % 2 ^ 32).toNat).length = 12 := by
    rw [List.length_append, put_nat_length, put_nat_length]
  have lives : ((timestamped sealed ttlSeconds plaintext).take 12).drop 8 = putNat 4 (ttlSeconds % 2 ^ 32).toNat := by
    rw [timestamped, List.take_left' header, List.drop_left' (put_nat_length _ _)]
  have payload : (timestamped sealed ttlSeconds plaintext).drop 12 = plaintext := by
    rw [timestamped, List.drop_left' header]
  have long : ¬ (timestamped sealed ttlSeconds plaintext).length < 12 := by
    rw [timestamped, List.length_append, header]
    omega
  have second : ((getNat (putNat 8 (sealed % 2 ^ 64).toNat) : Nat) : Int) = ((sealed % 2 ^ 64).toNat : Int) := by
    rw [get_put_nat]
    omega
  have ttl : ((getNat (putNat 4 (ttlSeconds % 2 ^ 32).toNat) : Nat) : Int) = ttlSeconds % 2 ^ 32 := by
    rw [get_put_nat]
    omega
  rw [checkTimestamp, if_neg long]
  simp only [stamp, lives, payload, second, ttl, to_int64_mod sealed unix]
  change (if deadline sealed ttlSeconds < now then _ else if now < sealed ∨ deadline sealed ttlSeconds < now then _ else _) = _
  split
  · rfl
  · rename_i alive
    simp only [alive, or_false]

variable (prims : Primitives) (opens : prims.Opens) (sender receiver : CryptoManager) (sealed ttlSeconds : Int)
  (random : Except String (Vector UInt8 12)) (plaintext : List UInt8) (sessionID : String) (em : EncryptedMessage)
  (produced : sender.encryptWithTimestamp prims sealed random plaintext sessionID ttlSeconds = .ok em)
  (sameKey : receiver.sessionKeys.lookup sessionID = sender.sessionKeys.lookup sessionID)

include opens produced sameKey

theorem decrypt_produced : receiver.decrypt prims em = .ok (timestamped sealed ttlSeconds plaintext) := by
  rw [encryptWithTimestamp, encrypt] at produced
  split at produced
  · cases produced
  · split at produced
    · cases produced
    · rename_i key found
      split at produced
      · cases produced
      · rename_i nonce
        cases produced
        have held : receiver.cipherKey sessionID = .ok key := by rwa [cipherKey, sameKey]
        have size : ¬ nonce.toList.length ≠ nonceSize := by simp [nonceSize]
        rw [decrypt]
        simp only [held, if_neg size, opens key nonce.toList]

theorem accepted_iff_alive (unix : IsUnix sealed) (now : Int) :
    (receiver.decryptWithTimestamp prims now em).isOk = true ↔ sealed ≤ now ∧ now ≤ deadline sealed ttlSeconds := by
  have opened := decrypt_produced prims opens sender receiver sealed ttlSeconds random plaintext sessionID em produced sameKey
  rw [decryptWithTimestamp, opened]
  change (checkTimestamp now (timestamped sealed ttlSeconds plaintext)).isOk = true ↔ _
  rw [check_timestamped sealed ttlSeconds now plaintext unix]
  split
  · rename_i expired
    simp only [Except.isOk, Except.toBool]
    constructor
    · intro impossible
      cases impossible
    · omega
  · split
    · simp only [Except.isOk, Except.toBool]
      constructor
      · intro impossible
        cases impossible
      · omega
    · exact iff_of_true rfl (by omega)

end Lifetime

section Histories

structure Presentation where
  now : Int
  message : EncryptedMessage
deriving DecidableEq, Repr

def Ordered (calls : List Presentation) : Prop := calls.Pairwise fun first later => first.now ≤ later.now

variable (prims : Primitives)

def acceptances (cm : CryptoManager) (em : EncryptedMessage) (calls : List Presentation) : Nat :=
  (calls.filter fun call => call.message = em).countP fun call => (cm.decryptWithTimestamp prims call.now call.message).isOk

-- A message is accepted at most once exactly when no two presentations of it fall into its lifetime.
theorem accepted_once_iff (opens : prims.Opens) (sender receiver : CryptoManager) (sealed ttlSeconds : Int) (unix : IsUnix sealed)
    (random : Except String (Vector UInt8 12)) (plaintext : List UInt8) (sessionID : String) (em : EncryptedMessage)
    (produced : sender.encryptWithTimestamp prims sealed random plaintext sessionID ttlSeconds = .ok em)
    (sameKey : receiver.sessionKeys.lookup sessionID = sender.sessionKeys.lookup sessionID) (calls : List Presentation)
    (ordered : Ordered calls) :
    receiver.acceptances prims em calls ≤ 1 ↔ (calls.filter fun call => call.message = em).Pairwise fun first again =>
      ¬ (sealed ≤ first.now ∧ again.now ≤ deadline sealed ttlSeconds) := by
  have alive := accepted_iff_alive prims opens sender receiver sealed ttlSeconds random plaintext sessionID em produced sameKey unix
  have presented : Ordered (calls.filter fun call => call.message = em) := ordered.filter _
  rw [acceptances, History.count_le_one_iff]
  have same : ∀ call ∈ calls.filter fun call => call.message = em, call.message = em := by
    intro call member
    simpa using (List.mem_filter.mp member).2
  constructor
  · intro apart
    refine (apart.and presented).imp_of_mem ?_
    rintro first again inFirst inAgain ⟨notBoth, before⟩ ⟨born, stillAlive⟩
    apply notBoth
    rw [same first inFirst, same again inAgain, alive, alive]
    omega
  · intro apart
    refine apart.imp_of_mem ?_
    rintro first again inFirst inAgain outside both
    rw [same first inFirst, same again inAgain, alive, alive] at both
    exact outside ⟨both.1.1, both.2.2⟩

def frontPrims : Primitives where
  scalarMult peer _ := some peer.point.x
  sum256 _ := Vector.replicate 32 7
  gcmSeal key _ plaintext := key ++ plaintext
  gcmOpen key _ ciphertext := if ciphertext.take key.length = key then some (ciphertext.drop key.length) else none

theorem front_opens : frontPrims.Opens := by
  intro key nonce plaintext
  simp [frontPrims]

def doubleKey : PrivateKey where
  d := 2
  publicKey := ⟨⟨0x7cf27b188d034f7e8a52380304b51ac3c08969e277f21b35a60b48fc47669978,
    0x07775510db8ed040293d9ac69f7430dbba7dade63ce982299e04b79d227873d1⟩, by decide +kernel⟩

def oneSession : CryptoManager := ⟨(∅ : GoMap _ _).insert "alice" (List.replicate 32 1), doubleKey, 0, defaultKeyRotationInterval⟩

def transfer : EncryptedMessage :=
  ⟨List.replicate 12 0, frontPrims.gcmSeal (List.replicate 32 1) (List.replicate 12 0) (timestamped 100 60 [104, 105]), "alice"⟩

theorem transfer_produced :
    oneSession.encryptWithTimestamp frontPrims 100 (.ok (Vector.replicate 12 0)) [104, 105] "alice" 60 = .ok transfer := by
  decide +kernel

theorem late_replay_refused : oneSession.acceptances frontPrims transfer [⟨100, transfer⟩, ⟨161, transfer⟩] ≤ 1 := by
  refine (accepted_once_iff frontPrims front_opens oneSession oneSession 100 60 ⟨by decide, by decide⟩ _ [104, 105] "alice" transfer
    transfer_produced rfl [⟨100, transfer⟩, ⟨161, transfer⟩] (by simp [Ordered])).mpr ?_
  have late : deadline 100 60 = 160 := by decide
  simp [late]

theorem replay_accepted :
    Ordered [⟨100, transfer⟩, ⟨130, transfer⟩] ∧ oneSession.acceptances frontPrims transfer [⟨100, transfer⟩, ⟨130, transfer⟩] = 2 ∧
      oneSession.decryptWithTimestamp frontPrims 130 transfer = .ok [104, 105] := by
  refine ⟨by simp [Ordered], ?_, ?_⟩
  · decide +kernel
  · decide +kernel

end Histories

end CryptoManager

end MmoServer.Security
