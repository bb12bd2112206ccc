import MmoServer.Security.Replay

set_option autoImplicit false

namespace MmoServer.Security.CryptoManager

def LivesExactly (prims : Primitives) (cm : CryptoManager) (nonce : Vector UInt8 12) (plaintext : List UInt8) (sessionID : String)
    (sealed ttlSeconds : Int) : Prop :=
  ∃ em, cm.encryptWithTimestamp prims sealed (.ok nonce) plaintext sessionID ttlSeconds = .ok em ∧
    ∀ now, 0 ≤ now → now < 2 ^ 63 →
      if sealed ≤ now ∧ now ≤ sealed + ttlSeconds then cm.decryptWithTimestamp prims now em = .ok plaintext
      else ∃ err, cm.decryptWithTimestamp prims now em = .error err

section Window

variable (prims : Primitives) (cm : CryptoManager) (nonce : Vector UInt8 12) (plaintext : List UInt8) (sessionID : String)
  (sealed ttlSeconds : Int)

theorem encrypts (key : List UInt8) (held : cm.sessionKeys.lookup sessionID = some key) (size : key.length = 32)
    (short : plaintext.length ≤ maxPayloadSize - 12) :
    ∃ em, cm.encryptWithTimestamp prims sealed (.ok nonce) plaintext sessionID ttlSeconds = .ok em := by
  have usable : cm.cipherKey sessionID = .ok key := by simp [cipherKey, held, size]
  have length : ¬ maxPayloadSize < (timestamped sealed ttlSeconds plaintext).length := by
    rw [timestamped, List.length_append, List.length_append, Bytes.put_nat_length, Bytes.put_nat_length]
    rw [maxPayloadSize] at short ⊢
    omega
  simp [encryptWithTimestamp, encrypt, length, usable]

section

variable (opens : prims.Opens) (unix : IsUnix sealed) (em : EncryptedMessage)
  (produced : cm.encryptWithTimestamp prims sealed (.ok nonce) plaintext sessionID ttlSeconds = .ok em)

include opens unix produced

theorem opens_until (now : Int) :
    cm.decryptWithTimestamp prims now em =
      if deadline sealed ttlSeconds < now then .error "message expired"
      else if now < sealed then .error "invalid message timestamp"
      else .ok plaintext := by
  have opened := decrypt_produced prims opens cm cm sealed ttlSeconds (.ok nonce) plaintext sessionID em produced rfl
  rw [decryptWithTimestamp, opened]
  exact check_timestamped sealed ttlSeconds now plaintext unix

theorem lives_exactly_iff_deadline :
    LivesExactly prims cm nonce plaintext sessionID sealed ttlSeconds ↔
      ∀ now, 0 ≤ now → now < 2 ^ 63 → sealed ≤ now → (now ≤ sealed + ttlSeconds ↔ now ≤ deadline sealed ttlSeconds) := by
  have until_ := opens_until prims cm nonce plaintext sessionID sealed ttlSeconds opens unix em produced
  constructor
  · rintro ⟨other, same, lives⟩ now low high born
    obtain rfl : em = other := Except.ok.inj (produced.symm.trans same)
    have here := lives now low high
    rw [until_ now] at here
    constructor
    · intro inside
      rw [if_pos ⟨born, inside⟩] at here
      by_contra late
      rw [if_pos (by omega)] at here
      cases here
    · intro inTime
      by_contra past
      rw [if_neg (by omega), if_neg (by omega), if_neg (by omega)] at here
      obtain ⟨err, failed⟩ := here
      cases failed
  · intro agree
    refine ⟨em, produced, fun now low high => ?_⟩
    rw [until_ now]
    by_cases born : sealed ≤ now
    · have same := agree now low high born
      by_cases inside : now ≤ sealed + ttlSeconds
      · rw [if_pos ⟨born, inside⟩, if_neg (by omega), if_neg (by omega)]
      · rw [if_neg (by omega), if_pos (by omega)]
        exact ⟨_, rfl⟩
    · rw [if_neg (by omega)]
      split
      · exact ⟨_, rfl⟩
      · rw [if_pos (by omega)]
        exact ⟨_, rfl⟩

end

end Window

theorem deadline_in_range (sealed ttlSeconds : Int) (low : 0 ≤ sealed) (high : sealed + ttlSeconds % 2 ^ 32 < 2 ^ 63) :
    deadline sealed ttlSeconds = sealed + ttlSeconds % 2 ^ 32 := by
  rw [deadline, toInt64]
  apply Int.bmod_eq_of_le <;> omega

-- The TTL travels as 32 bits without a sign. One that fits them is kept to the second;
-- one that does not is longer or shorter than it was meant to be.
theorem lifetime_exact_iff (prims : Primitives) (opens : prims.Opens) (cm : CryptoManager) (nonce : Vector UInt8 12)
    (plaintext key : List UInt8) (sessionID : String) (held : cm.sessionKeys.lookup sessionID = some key) (size : key.length = 32)
    (short : plaintext.length ≤ maxPayloadSize - 12) (sealed ttlSeconds : Int) (low : 0 ≤ sealed) (high : sealed < 2 ^ 63) :
    (0 ≤ ttlSeconds → ttlSeconds < 2 ^ 32 → sealed + ttlSeconds < 2 ^ 63 →
      LivesExactly prims cm nonce plaintext sessionID sealed ttlSeconds) ∧
    (sealed + 2 ^ 32 < 2 ^ 63 →
      (LivesExactly prims cm nonce plaintext sessionID sealed ttlSeconds ↔ 0 ≤ ttlSeconds ∧ ttlSeconds < 2 ^ 32)) := by
  obtain ⟨em, produced⟩ := encrypts prims cm nonce plaintext sessionID sealed ttlSeconds key held size short
  have unix : IsUnix sealed := ⟨by omega, high⟩
  rw [lives_exactly_iff_deadline prims cm nonce plaintext sessionID sealed ttlSeconds opens unix em produced]
  have fits (nonneg : 0 ≤ ttlSeconds) (small : ttlSeconds < 2 ^ 32) (room : sealed + ttlSeconds < 2 ^ 63) (now : Int) :
      now ≤ sealed + ttlSeconds ↔ now ≤ deadline sealed ttlSeconds := by
    rw [deadline_in_range sealed ttlSeconds low (by omega), Int.emod_eq_of_lt nonneg small]
  refine ⟨fun nonneg small room now _ _ _ => fits nonneg small room now, fun room => ⟨fun agree => ?_, ?_⟩⟩
  · rw [deadline_in_range sealed ttlSeconds low (by omega)] at agree
    constructor
    · -- A negative TTL leaves the message open in the second of its sealing.
      have atOnce := agree sealed low high (le_refl sealed)
      omega
    · -- One that is too long is over in the second behind the truncated one.
      have after := agree (sealed + ttlSeconds % 2 ^ 32 + 1) (by omega) (by omega) (by omega)
      omega
  · rintro ⟨nonneg, small⟩ now _ _ _
    exact fits nonneg small (by omega) now

theorem minute_lives_exactly :
    LivesExactly frontPrims oneSession (Vector.replicate 12 0) [104, 105] "alice" 100 60 ∧
      ¬ LivesExactly frontPrims oneSession (Vector.replicate 12 0) [104, 105] "alice" 100 (-1) := by
  have exactly := fun ttlSeconds => (lifetime_exact_iff frontPrims front_opens oneSession (Vector.replicate 12 0) [104, 105]
    (List.replicate 32 1) "alice" rfl rfl (by decide) 100 ttlSeconds (by decide) (by decide)).2 (by decide)
  exact ⟨(exactly 60).mpr (by decide), fun lives => absurd ((exactly (-1)).mp lives) (by decide)⟩

theorem odd_lifetimes :
    (∃ em, oneSession.encryptWithTimestamp frontPrims 100 (.ok (Vector.replicate 12 0)) [104, 105] "alice" (-1) = .ok em ∧
      oneSession.decryptWithTimestamp frontPrims 315360100 em = .ok [104, 105]) ∧
    ∃ em, oneSession.encryptWithTimestamp frontPrims 100 (.ok (Vector.replicate 12 0)) [104, 105] "alice" 4294967301 = .ok em ∧
      oneSession.decryptWithTimestamp frontPrims 105 em = .ok [104, 105] ∧
      oneSession.decryptWithTimestamp frontPrims 106 em = .error "message expired" := by
  refine ⟨⟨_, rfl, ?_⟩, ⟨_, rfl, ?_, ?_⟩⟩
  · decide +kernel
  · decide +kernel
  · decide +kernel

end MmoServer.Security.CryptoManager
