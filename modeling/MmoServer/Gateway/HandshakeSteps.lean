import MmoServer.Gateway.SecureFraming
import MmoServer.Lib.Runs
import MmoServer.Security.Replay

set_option autoImplicit false

namespace MmoServer.Gateway

open Security

-- The part of a handshake that uses the CryptoManager, by the atomic step it takes
-- next: DeriveSharedKey with RotateKeys inside it, then GetPublicKeyBytes. Only the
-- stores are made under the lock.
inductive Phase where
  | checking
  | generating
  | rotating (fresh : PrivateKey)
  | storingPublic (fresh : PrivateKey)
  | storingExpiration
  | computing
  | storing (used : PrivateKey) (key : List UInt8)
  | publishing (used : PrivateKey) (key : List UInt8)
  | publishingY (used : PrivateKey) (key : List UInt8) (x : Nat)
  | answered (used : PrivateKey) (key : List UInt8) (sent : List UInt8)
  | failed (err : String)

structure Keys where
  manager : CryptoManager
  publicKey : PublicKey
  holder : Option Nat := none

structure Conn where
  sessionID : String
  peer : List UInt8
  phase : Phase := .checking

structure Handshakes where
  keys : Keys
  conns : GoMap Nat Conn := ∅

inductive Action where
  | begin (conn : Nat) (sessionID : String) (peer : List UInt8)
  | advance (conn : Nat) (env : KeyEnv)

namespace Handshakes

variable (prims : Primitives)

def derivedKey (used : PrivateKey) (peer : List UInt8) : Except String (List UInt8) :=
  match unmarshal peer with
  | none => .error "invalid public key"
  | some peerPublicKey =>
    match prims.scalarMult peerPublicKey (natBytes used.d) with
    | none => .error "could not generate shared secret"
    | some sharedSecret => .ok (prims.sum256 (natBytes sharedSecret)).toList

def advance (env : KeyEnv) (conn : Nat) (c : Conn) (k : Keys) : Option (Keys × Phase) :=
  match c.phase with
  | .checking => some (k, if k.manager.keyExpiration < env.now then .generating else .computing)
  | .generating =>
    match env.generated with
    | .error err => some (k, .failed ("failed to rotate ECDH keys: " ++ err))
    | .ok fresh => some (k, .rotating fresh)
  | .rotating fresh =>
    if k.holder = none then
      some ({ k with manager := { k.manager with privateKey := fresh }, holder := some conn }, .storingPublic fresh)
    else none
  | .storingPublic fresh => some ({ k with publicKey := fresh.publicKey }, .storingExpiration)
  | .storingExpiration =>
    let manager := { k.manager with keyExpiration := env.now + k.manager.rotationPeriod }
    some ({ k with manager, holder := none }, .computing)
  | .computing =>
    match derivedKey prims k.manager.privateKey c.peer with
    | .error err => some (k, .failed err)
    | .ok key => some (k, .storing k.manager.privateKey key)
  | .storing used key =>
    if k.holder = none then
      let sessionKeys := k.manager.sessionKeys.insert c.sessionID key
      some ({ k with manager := { k.manager with sessionKeys } }, .publishing used key)
    else none
  | .publishing used key => some (k, .publishingY used key k.publicKey.point.x)
  | .publishingY used key x =>
    -- The two coordinates are loaded one after the other; Marshal panics off the curve.
    if valid : OnCurve ⟨x, k.publicKey.point.y⟩ then some (k, .answered used key (marshal ⟨⟨x, k.publicKey.point.y⟩, valid⟩))
    else some (k, .failed "crypto/elliptic: attempted operation on invalid point")
  | .answered _ _ _ | .failed _ => none

def step (s : Handshakes) : Action → Option Handshakes
  | .begin conn sessionID peer =>
    if s.conns.lookup conn = none then some { s with conns := s.conns.insert conn { sessionID, peer } } else none
  | .advance conn env =>
    match s.conns.lookup conn with
    | none => none
    | some c =>
      (advance prims env conn c s.keys).map fun (keys, phase) =>
        { keys, conns := s.conns.insert conn { c with phase } }

def start (cm : CryptoManager) : Handshakes := { keys := { manager := cm, publicKey := cm.privateKey.publicKey } }

section Sequential

def alone (k : Keys) (conn : Nat) (c : Conn) : Handshakes := { keys := k, conns := (∅ : GoMap Nat Conn).insert conn c }

theorem run_alone (k after : Keys) (conn : Nat) (c : Conn) (env : KeyEnv) (following : Phase) (steps : Nat)
    (taken : advance prims env conn c k = some (after, following)) :
    Runs.run (step prims) (alone k conn c) (List.replicate (steps + 1) (.advance conn env)) =
      Runs.run (step prims) (alone after conn { c with phase := following }) (List.replicate steps (.advance conn env)) := by
  simp only [List.replicate_succ, Runs.run, step, alone, AList.lookup_insert, taken, Option.map_some, Option.bind_some,
    AList.insert_insert]

def outcome (derived : Except String (List UInt8) × CryptoManager) : Phase :=
  match derived.1 with
  | .error err => .failed err
  | .ok key => .answered derived.2.privateKey key derived.2.getPublicKeyBytes

def consistent (cm : CryptoManager) : Keys := { manager := cm, publicKey := cm.privateKey.publicKey }

section

variable (cm : CryptoManager) (conn : Nat) (env : KeyEnv) (sessionID : String) (peer : List UInt8)

theorem compute_alone (current : ¬ cm.keyExpiration < env.now) :
    ∃ steps, Runs.run (step prims) (alone (consistent cm) conn ⟨sessionID, peer, .computing⟩)
        (List.replicate steps (.advance conn env)) =
      some (alone (consistent (cm.deriveSharedKey prims env sessionID peer).2) conn
        ⟨sessionID, peer, outcome (cm.deriveSharedKey prims env sessionID peer)⟩) := by
  cases parsed : unmarshal peer with
  | none =>
    refine ⟨1, ?_⟩
    rw [run_alone prims _ (consistent cm) conn _ env (.failed "invalid public key") 0 (by simp [advance, derivedKey, parsed])]
    simp [Runs.run, CryptoManager.deriveSharedKey, current, parsed, outcome]
  | some peerPublicKey =>
    cases multiplied : prims.scalarMult peerPublicKey (natBytes cm.privateKey.d) with
    | none =>
      refine ⟨1, ?_⟩
      rw [run_alone prims _ (consistent cm) conn _ env (.failed "could not generate shared secret") 0
        (by simp [advance, derivedKey, parsed, consistent, multiplied])]
      simp [Runs.run, CryptoManager.deriveSharedKey, current, parsed, multiplied, outcome]
    | some sharedSecret =>
      let key := (prims.sum256 (natBytes sharedSecret)).toList
      let stored : CryptoManager := { cm with sessionKeys := cm.sessionKeys.insert sessionID key }
      have whole : OnCurve ⟨cm.privateKey.publicKey.point.x, cm.privateKey.publicKey.point.y⟩ := cm.privateKey.publicKey.onCurve
      refine ⟨4, ?_⟩
      rw [run_alone prims _ (consistent cm) conn _ env (.storing cm.privateKey key) 3
        (by simp [advance, derivedKey, parsed, consistent, multiplied, key])]
      rw [run_alone prims _ (consistent stored) conn _ env (.publishing cm.privateKey key) 2
        (by simp [advance, consistent, stored])]
      rw [run_alone prims _ (consistent stored) conn _ env (.publishingY cm.privateKey key cm.privateKey.publicKey.point.x) 1
        (by simp [advance, consistent, stored])]
      rw [run_alone prims _ (consistent stored) conn _ env (.answered cm.privateKey key (marshal cm.privateKey.publicKey)) 0
        (by simp [advance, consistent, stored, whole])]
      simp [Runs.run, CryptoManager.deriveSharedKey, current, parsed, multiplied, outcome, stored, key,
        CryptoManager.getPublicKeyBytes]

theorem handshake_alone (lasting : 0 ≤ cm.rotationPeriod) :
    ∃ steps, Runs.run (step prims) (start cm) (.begin conn sessionID peer :: List.replicate steps (.advance conn env)) =
      some (alone (consistent (cm.deriveSharedKey prims env sessionID peer).2) conn
        ⟨sessionID, peer, outcome (cm.deriveSharedKey prims env sessionID peer)⟩) := by
  have begun : ∀ actions, Runs.run (step prims) (start cm) (.begin conn sessionID peer :: actions) =
      Runs.run (step prims) (alone (consistent cm) conn ⟨sessionID, peer, .checking⟩) actions := fun actions => rfl
  by_cases expired : cm.keyExpiration < env.now
  · cases generated : env.generated with
    | error err =>
      refine ⟨2, ?_⟩
      rw [begun, run_alone prims _ (consistent cm) conn _ env .generating 1 (by simp [advance, consistent, expired])]
      rw [run_alone prims _ (consistent cm) conn _ env (.failed ("failed to rotate ECDH keys: " ++ err)) 0
        (by simp [advance, generated])]
      simp [Runs.run, CryptoManager.deriveSharedKey, CryptoManager.rotateKeys, expired, generated, outcome]
    | ok fresh =>
      let rotated : CryptoManager := { cm with privateKey := fresh, keyExpiration := env.now + cm.rotationPeriod }
      have current : ¬ rotated.keyExpiration < env.now := by
        simp only [rotated]
        omega
      have same : cm.deriveSharedKey prims env sessionID peer = rotated.deriveSharedKey prims env sessionID peer := by
        simp only [CryptoManager.deriveSharedKey, if_pos expired, if_neg current, CryptoManager.rotateKeys, generated]
        rfl
      obtain ⟨steps, computed⟩ := compute_alone prims rotated conn env sessionID peer current
      refine ⟨steps + 5, ?_⟩
      rw [begun, run_alone prims _ (consistent cm) conn _ env .generating (steps + 4) (by simp [advance, consistent, expired])]
      rw [run_alone prims _ (consistent cm) conn _ env (.rotating fresh) (steps + 3) (by simp [advance, generated])]
      rw [run_alone prims _ ⟨{ cm with privateKey := fresh }, cm.privateKey.publicKey, some conn⟩ conn _ env
        (.storingPublic fresh) (steps + 2) (by simp [advance, consistent])]
      rw [run_alone prims _ ⟨{ cm with privateKey := fresh }, fresh.publicKey, some conn⟩ conn _ env .storingExpiration (steps + 1)
        (by simp [advance])]
      rw [run_alone prims _ (consistent rotated) conn _ env .computing steps (by simp [advance, consistent, rotated])]
      rw [computed, same]
  · obtain ⟨steps, computed⟩ := compute_alone prims cm conn env sessionID peer expired
    refine ⟨steps + 1, ?_⟩
    rw [begun, run_alone prims _ (consistent cm) conn _ env .computing steps (by simp [advance, consistent, expired])]
    exact computed

end

end Sequential

section Steps

inductive Effect (conn : Nat) (c : Conn) (k : Keys) : Phase → Keys → Phase → Prop where
  | check (following : Phase) (either : following = .generating ∨ following = .computing) : Effect conn c k .checking k following
  | generate (fresh : PrivateKey) : Effect conn c k .generating k (.rotating fresh)
  | rotate (fresh : PrivateKey) (free : k.holder = none) :
      Effect conn c k (.rotating fresh) { k with manager := { k.manager with privateKey := fresh }, holder := some conn }
        (.storingPublic fresh)
  | storePublic (fresh : PrivateKey) :
      Effect conn c k (.storingPublic fresh) { k with publicKey := fresh.publicKey } .storingExpiration
  | storeExpiration (keyExpiration : Int) :
      Effect conn c k .storingExpiration { k with manager := { k.manager with keyExpiration }, holder := none } .computing
  | compute (key : List UInt8) (derived : derivedKey prims k.manager.privateKey c.peer = .ok key) :
      Effect conn c k .computing k (.storing k.manager.privateKey key)
  | store (used : PrivateKey) (key : List UInt8) :
      Effect conn c k (.storing used key)
        { k with manager := { k.manager with sessionKeys := k.manager.sessionKeys.insert c.sessionID key } } (.publishing used key)
  | publish (used : PrivateKey) (key : List UInt8) :
      Effect conn c k (.publishing used key) k (.publishingY used key k.publicKey.point.x)
  | publishY (used : PrivateKey) (key : List UInt8) (x : Nat) (valid : OnCurve ⟨x, k.publicKey.point.y⟩) :
      Effect conn c k (.publishingY used key x) k (.answered used key (marshal ⟨⟨x, k.publicKey.point.y⟩, valid⟩))
  | fail (phase : Phase) (err : String) (unanswered : ∀ used key sent, phase ≠ .answered used key sent)
      (off : ∀ used key x, phase = .publishingY used key x → ¬ OnCurve ⟨x, k.publicKey.point.y⟩) :
      Effect conn c k phase k (.failed err)

theorem advance_effect (env : KeyEnv) (conn : Nat) (c : Conn) (k after : Keys) (phase following : Phase) (at_ : c.phase = phase)
    (taken : advance prims env conn c k = some (after, following)) : Effect prims conn c k phase after following := by
  rw [advance, at_] at taken
  cases phase with
  | checking =>
    cases taken
    refine .check _ ?_
    split
    · exact .inl rfl
    · exact .inr rfl
  | generating =>
    cases generated : env.generated with
    | error err =>
      simp only [generated] at taken
      cases taken
      exact .fail _ _ (by simp) (by simp)
    | ok fresh =>
      simp only [generated] at taken
      cases taken
      exact .generate fresh
  | rotating fresh =>
    simp only at taken
    split at taken
    · rename_i free
      cases taken
      exact .rotate fresh free
    · cases taken
  | storingPublic fresh =>
    cases taken
    exact .storePublic fresh
  | storingExpiration =>
    cases taken
    exact .storeExpiration _
  | computing =>
    cases derived : derivedKey prims k.manager.privateKey c.peer with
    | error err =>
      simp only [derived] at taken
      cases taken
      exact .fail _ _ (by simp) (by simp)
    | ok key =>
      simp only [derived] at taken
      cases taken
      exact .compute key derived
  | storing used key =>
    simp only at taken
    split at taken
    · cases taken
      exact .store used key
    · cases taken
  | publishing used key =>
    cases taken
    exact .publish used key
  | publishingY used key x =>
    simp only at taken
    split at taken
    · rename_i valid
      cases taken
      exact .publishY used key x valid
    · rename_i invalid
      cases taken
      refine .fail _ _ (by simp) ?_
      intro used' key' x' same
      cases same
      exact invalid
  | answered used key sent => cases taken
  | failed err => cases taken

inductive Moves (s : Handshakes) : Action → Handshakes → Prop where
  | begin (conn : Nat) (sessionID : String) (peer : List UInt8) (fresh : s.conns.lookup conn = none) :
      Moves s (.begin conn sessionID peer) { s with conns := s.conns.insert conn { sessionID, peer } }
  | advance (conn : Nat) (env : KeyEnv) (c : Conn) (phase following : Phase) (keys : Keys) (found : s.conns.lookup conn = some c)
      (at_ : c.phase = phase) (effect : Effect prims conn c s.keys phase keys following) :
      Moves s (.advance conn env) { keys, conns := s.conns.insert conn { c with phase := following } }

theorem step_moves (s after : Handshakes) (action : Action) (taken : step prims s action = some after) :
    Moves prims s action after := by
  cases action with
  | begin conn sessionID peer =>
    rw [step] at taken
    split at taken
    · rename_i fresh
      cases taken
      exact .begin conn sessionID peer fresh
    · cases taken
  | advance conn env =>
    rw [step] at taken
    split at taken
    · cases taken
    · rename_i c found
      obtain ⟨⟨keys, following⟩, advanced, rfl⟩ := Option.map_eq_some_iff.mp taken
      exact .advance conn env c c.phase following keys found rfl (advance_effect prims env conn c s.keys keys _ following rfl advanced)

end Steps

section Tables

def Each (holds : Keys → Nat → Conn → Prop) (s : Handshakes) : Prop :=
  ∀ conn c, s.conns.lookup conn = some c → holds s.keys conn c

theorem each_insert (holds : Keys → Nat → Conn → Prop) (keys : Keys) (conns : GoMap Nat Conn) (conn : Nat) (c : Conn)
    (own : holds keys conn c) (others : ∀ other oc, other ≠ conn → conns.lookup other = some oc → holds keys other oc) :
    Each holds { keys, conns := conns.insert conn c } := by
  intro other oc found
  rw [AList.lookup_insert_eq] at found
  split at found
  · rename_i same
    cases found
    rw [same]
    exact own
  · rename_i apart
    exact others other oc apart found

def Locked (k : Keys) (conn : Nat) (c : Conn) : Prop :=
  match c.phase with
  | .storingPublic fresh => k.holder = some conn ∧ k.manager.privateKey = fresh
  | .storingExpiration => k.holder = some conn
  | _ => True

theorem locked_holder (k : Keys) (conn : Nat) (c : Conn) (locked : Locked k conn c) :
    k.holder = some conn ∨ ∀ keys, Locked keys conn c := by
  cases at_ : c.phase <;> simp_all [Locked]

theorem locked_step (s after : Handshakes) (action : Action) (locked : Each Locked s) (moves : Moves prims s action after) :
    Each Locked after := by
  cases moves with
  | begin conn sessionID peer fresh =>
    apply each_insert Locked
    · trivial
    · intro other oc _ found
      exact locked other oc found
  | advance conn env c phase following keys found at_ effect =>
    have own : Locked s.keys conn c := locked conn c found
    rw [Locked, at_] at own
    cases effect with
    | check following either =>
      refine each_insert Locked _ _ _ _ ?_ fun other oc _ present => locked other oc present
      rcases either with rfl | rfl <;> trivial
    | rotate fresh free =>
      refine each_insert Locked _ _ _ _ ⟨rfl, rfl⟩ fun other oc _ present => ?_
      rcases locked_holder s.keys other oc (locked other oc present) with held | anyway
      · rw [free] at held
        cases held
      · exact anyway _
    | storePublic fresh => exact each_insert Locked _ _ _ _ own.1 fun other oc _ present => locked other oc present
    | storeExpiration keyExpiration =>
      refine each_insert Locked _ _ _ _ trivial fun other oc apart present => ?_
      rcases locked_holder s.keys other oc (locked other oc present) with held | anyway
      · rw [own] at held
        cases held
        exact absurd rfl apart
      · exact anyway _
    | generate | compute | store | publish | publishY | fail =>
      exact each_insert Locked _ _ _ _ trivial fun other oc _ present => locked other oc present

end Tables

end Handshakes

end MmoServer.Gateway
