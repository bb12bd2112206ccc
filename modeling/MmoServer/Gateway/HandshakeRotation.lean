import MmoServer.Gateway.HandshakeSteps

set_option autoImplicit false

namespace MmoServer.Gateway

open Security CryptoManager

namespace Handshakes

variable (prims : Primitives)

section Matching

def Matched : Handshakes → Prop :=
  Each fun _ _ c => ∀ used key sent, c.phase = .answered used key sent → sent = marshal used.publicKey

-- The loaded coordinates are those of the private key that derived, or else no point at all.
def PublishesOwn (s : Handshakes) : Action → Prop
  | .begin _ _ _ => True
  | .advance conn _ => ∀ c ∈ s.conns.lookup conn, ∀ used key x, c.phase = .publishingY used key x →
      OnCurve ⟨x, s.keys.publicKey.point.y⟩ → (⟨x, s.keys.publicKey.point.y⟩ : Coordinates) = used.publicKey.point

theorem matched_insert (keys : Keys) (s : Handshakes) (conn : Nat) (c : Conn) (following : Phase) (found : s.conns.lookup conn = some c)
    (unanswered : ∀ used key sent, c.phase ≠ .answered used key sent) :
    Matched { keys, conns := s.conns.insert conn { c with phase := following } } ↔
      Matched s ∧ ∀ used key sent, following = .answered used key sent → sent = marshal used.publicKey := by
  constructor
  · intro matched
    refine ⟨fun other oc present => ?_, matched conn _ (AList.lookup_insert _)⟩
    by_cases same : other = conn
    · subst same
      cases found.symm.trans present
      intro used key sent at_
      exact absurd at_ (unanswered used key sent)
    · exact matched other oc (by rwa [AList.lookup_insert_eq, if_neg same])
  · rintro ⟨matched, own⟩
    exact each_insert _ _ _ _ _ own fun other oc _ present => matched other oc present

theorem matched_step (s after : Handshakes) (action : Action) (moves : Moves prims s action after) :
    Matched after ↔ Matched s ∧ PublishesOwn s action := by
  cases moves with
  | begin conn sessionID peer fresh =>
    constructor
    · intro matched
      refine ⟨fun other oc present => matched other oc ?_, trivial⟩
      have apart : other ≠ conn := by
        rintro rfl
        cases fresh.symm.trans present
      rwa [AList.lookup_insert_eq, if_neg apart]
    · rintro ⟨matched, -⟩
      exact each_insert _ _ _ _ _ (by simp) fun other oc _ present => matched other oc present
  | advance conn env c phase following keys found at_ effect =>
    have own : PublishesOwn s (.advance conn env) ↔ ∀ used key x, phase = .publishingY used key x →
        OnCurve ⟨x, s.keys.publicKey.point.y⟩ → (⟨x, s.keys.publicKey.point.y⟩ : Coordinates) = used.publicKey.point := by
      rw [PublishesOwn, found, ← at_]
      simp
    have unanswered : ∀ used key sent, c.phase ≠ .answered used key sent := by
      intro used key sent same
      rw [at_] at same
      subst same
      cases effect with
      | fail _ err not_ off => exact not_ used key sent rfl
    rw [matched_insert keys s conn c following found unanswered, own]
    refine and_congr_right fun _ => ?_
    cases effect with
    | publishY used key x valid =>
      simp only [Phase.answered.injEq, Phase.publishingY.injEq]
      constructor
      · rintro sent used' key' x' ⟨rfl, rfl, rfl⟩ _
        exact marshal_point _ _ (sent used key _ ⟨rfl, rfl, rfl⟩)
      · rintro loaded used' key' sent ⟨rfl, rfl, rfl⟩
        have point := loaded used key x ⟨rfl, rfl, rfl⟩ valid
        rw [marshal, marshal, ← point]
    | fail phase err not_ off =>
      refine iff_of_true (by simp) fun used key x same valid => absurd valid (off used key x same)
    | check following either =>
      refine iff_of_true ?_ (by simp)
      rcases either with rfl | rfl <;> simp
    | generate | rotate | storePublic | storeExpiration | compute | store | publish => exact iff_of_true (by simp) (by simp)

end Matching

section Rotation

def pending : Phase → Option PrivateKey
  | .storing used _ | .publishing used _ | .publishingY used _ _ => some used
  | _ => none

-- No key is derived between the two stores of a rotation, and no rotation begins its
-- stores between the derivation and the answer of a handshake.
def Quiet (s : Handshakes) : Phase → Prop
  | .computing => s.keys.publicKey = s.keys.manager.privateKey.publicKey
  | .rotating _ => ∀ other ∈ s.conns.values, pending other.phase = none
  | _ => True

def Undisturbed (s : Handshakes) : Action → Prop
  | .begin _ _ _ => True
  | .advance conn _ => ∀ c ∈ s.conns.lookup conn, Quiet s c.phase

structure Aligned (s : Handshakes) : Prop where
  locked : Each Locked s
  own : Each (fun k _ c => ∀ used, pending c.phase = some used → k.publicKey = used.publicKey) s
  loaded : Each (fun _ _ c => ∀ used key x, c.phase = .publishingY used key x → x = used.publicKey.point.x) s
  settling : Each (fun _ _ c => ∀ fresh, c.phase = .storingPublic fresh →
    Each (fun _ _ other => ∀ used, pending other.phase = some used → used.publicKey = fresh.publicKey) s) s

theorem aligned_start (cm : CryptoManager) : Aligned (start cm) := by
  constructor <;>
    · intro conn c found
      simp [start] at found

theorem aligned_plain (s : Handshakes) (keys : Keys) (conn : Nat) (c : Conn) (aligned : Aligned s) (locked : Each Locked
      { keys, conns := s.conns.insert conn c }) (publicKey : keys.publicKey = s.keys.publicKey) (idle : pending c.phase = none)
    (unlocked : ∀ fresh, c.phase ≠ .storingPublic fresh) : Aligned { keys, conns := s.conns.insert conn c } where
  locked := locked
  own := by
    refine each_insert _ _ _ _ _ (by simp [idle]) fun other oc _ present => ?_
    rw [publicKey]
    exact aligned.own other oc present
  loaded := by
    refine each_insert _ _ _ _ _ ?_ fun other oc _ present => aligned.loaded other oc present
    intro used key x at_
    rw [at_] at idle
    cases idle
  settling := by
    refine each_insert _ _ _ _ _ (fun fresh at_ => absurd at_ (unlocked fresh)) fun other oc _ present fresh at_ => ?_
    exact each_insert _ _ _ _ _ (by simp [idle]) fun third tc _ here => aligned.settling other oc present fresh at_ third tc here

theorem aligned_pending (s : Handshakes) (keys : Keys) (conn : Nat) (c : Conn) (used : PrivateKey) (aligned : Aligned s)
    (locked : Each Locked { keys, conns := s.conns.insert conn c }) (publicKey : keys.publicKey = s.keys.publicKey)
    (using_ : pending c.phase = some used) (current : s.keys.publicKey = used.publicKey)
    (loaded : ∀ key x, c.phase = .publishingY used key x → x = used.publicKey.point.x)
    (settling : Each (fun _ _ other => ∀ fresh, other.phase = .storingPublic fresh → used.publicKey = fresh.publicKey) s) :
    Aligned { keys, conns := s.conns.insert conn c } where
  locked := locked
  own := by
    refine each_insert _ _ _ _ _ ?_ fun other oc _ present => ?_
    · intro other same
      rw [using_] at same
      cases same
      rw [publicKey, current]
    · rw [publicKey]
      exact aligned.own other oc present
  loaded := by
    refine each_insert _ _ _ _ _ ?_ fun other oc _ present => aligned.loaded other oc present
    intro other key x at_
    rw [at_, pending] at using_
    cases using_
    exact loaded key x at_
  settling := by
    refine each_insert _ _ _ _ _ ?_ fun other oc _ present fresh at_ => ?_
    · intro fresh at_
      rw [at_] at using_
      cases using_
    · refine each_insert _ _ _ _ _ ?_ fun third tc _ here => aligned.settling other oc present fresh at_ third tc here
      intro again same
      rw [using_] at same
      cases same
      exact settling other oc present fresh at_

theorem aligned_step (s after : Handshakes) (action : Action) (aligned : Aligned s) (undisturbed : Undisturbed s action)
    (moves : Moves prims s action after) : Aligned after := by
  have locked := locked_step prims s after action aligned.locked moves
  cases moves with
  | begin conn sessionID peer fresh => exact aligned_plain s s.keys conn _ aligned locked rfl rfl (by simp)
  | advance conn env c phase following keys found at_ effect =>
    have quiet : Quiet s phase := by
      rw [← at_]
      exact undisturbed c found
    have own : ∀ used, pending phase = some used → s.keys.publicKey = used.publicKey := by
      intro used using_
      exact aligned.own conn c found used (by rw [at_, using_])
    have settled : ∀ used, pending phase = some used →
        Each (fun _ _ other => ∀ fresh, other.phase = .storingPublic fresh → used.publicKey = fresh.publicKey) s := by
      intro used using_ other oc present fresh storing
      exact aligned.settling other oc present fresh storing conn c found used (by rw [at_, using_])
    cases effect with
    | check following either =>
      rcases either with rfl | rfl
      · exact aligned_plain s s.keys conn _ aligned locked rfl rfl (by simp)
      · exact aligned_plain s s.keys conn _ aligned locked rfl rfl (by simp)
    | generate | storeExpiration | publishY | fail => exact aligned_plain s _ conn _ aligned locked rfl rfl (by simp)
    | rotate fresh free =>
      have none_pending : Each (fun _ _ other => pending other.phase = none) s := by
        intro other oc present
        exact quiet oc ((AList.mem_values _ _).mpr ⟨other, present⟩)
      refine ⟨locked, ?_, ?_, ?_⟩
      · exact each_insert _ _ _ _ _ (by simp [pending]) fun other oc _ present => aligned.own other oc present
      · exact each_insert _ _ _ _ _ (by simp) fun other oc _ present => aligned.loaded other oc present
      · have unaffected : ∀ (keys : Keys) (fresh' : PrivateKey), Each (fun _ _ other => ∀ used, pending other.phase = some used →
            used.publicKey = fresh'.publicKey) { keys, conns := s.conns.insert conn { c with phase := .storingPublic fresh } } := by
          intro keys fresh'
          refine each_insert _ _ _ _ _ (by simp [pending]) fun other oc _ present used using_ => ?_
          rw [none_pending other oc present] at using_
          cases using_
        exact each_insert _ _ _ _ _ (fun fresh' _ => unaffected _ fresh') fun other oc _ _ fresh' _ => unaffected _ fresh'
    | storePublic fresh =>
      have renewed := aligned.settling conn c found fresh at_
      refine ⟨locked, ?_, ?_, ?_⟩
      · refine each_insert _ _ _ _ _ (by simp [pending]) fun other oc _ present used using_ => ?_
        exact (renewed other oc present used using_).symm
      · exact each_insert _ _ _ _ _ (by simp) fun other oc _ present => aligned.loaded other oc present
      · refine each_insert _ _ _ _ _ (by simp) fun other oc _ present fresh' storing => ?_
        refine each_insert _ _ _ _ _ (by simp [pending]) fun third tc _ here => ?_
        exact aligned.settling other oc present fresh' storing third tc here
    | compute key derived =>
      refine aligned_pending s _ conn _ s.keys.manager.privateKey aligned locked rfl rfl quiet (by simp) ?_
      intro other oc present fresh storing
      have stored := aligned.locked other oc present
      rw [Locked, storing] at stored
      rw [stored.2]
    | store used key =>
      exact aligned_pending s _ conn _ used aligned locked rfl rfl (own used rfl) (by simp) (settled used rfl)
    | publish used key =>
      refine aligned_pending s _ conn _ used aligned locked rfl rfl (own used rfl) ?_ (settled used rfl)
      intro key' x same
      cases same
      rw [own used rfl]

theorem aligned_publishes (s : Handshakes) (action : Action) (aligned : Aligned s) : PublishesOwn s action := by
  cases action with
  | begin conn sessionID peer => trivial
  | advance conn env =>
    intro c found used key x at_ _
    have x_own := aligned.loaded conn c found used key x at_
    have current := aligned.own conn c found used (by rw [at_]; rfl)
    rw [x_own, current]

end Rotation

section Stored

def result : Phase → Option (PrivateKey × List UInt8)
  | .storing used key | .publishing used key | .publishingY used key _ | .answered used key _ => some (used, key)
  | _ => none

def Traced : Handshakes → Prop :=
  Each fun _ _ c => ∀ used key, result c.phase = some (used, key) → derivedKey prims used c.peer = .ok key

theorem traced_step (s after : Handshakes) (action : Action) (traced : Traced prims s) (moves : Moves prims s action after) :
    Traced prims after := by
  cases moves with
  | begin conn sessionID peer fresh => exact each_insert _ _ _ _ _ (by simp [result]) fun other oc _ present => traced other oc present
  | advance conn env c phase following keys found at_ effect =>
    have own : ∀ used key, result phase = some (used, key) → derivedKey prims used c.peer = .ok key := by
      rw [← at_]
      exact traced conn c found
    refine each_insert _ _ _ _ _ ?_ fun other oc _ present => traced other oc present
    cases effect with
    | check following either => rcases either with rfl | rfl <;> simp [result]
    | compute key derived =>
      intro used key' same
      cases same
      exact derived
    | store | publish | publishY => exact own
    | generate | rotate | storePublic | storeExpiration | fail => simp [result]

def stored : Phase → Option (List UInt8)
  | .publishing _ key | .publishingY _ key _ | .answered _ key _ => some key
  | _ => none

def OwnID (s : Handshakes) (conn : Nat) (c : Conn) : Prop :=
  Each (fun _ other oc => other ≠ conn → oc.sessionID ≠ c.sessionID) s

def Stored (s : Handshakes) : Prop :=
  Each (fun k conn c => ∀ key, stored c.phase = some key → OwnID s conn c →
    k.manager.sessionKeys.lookup c.sessionID = some key) s

theorem own_id_before (keys : Keys) (s : Handshakes) (conn other : Nat) (c oc : Conn) (following : Phase)
    (found : s.conns.lookup conn = some c)
    (own : OwnID { keys, conns := s.conns.insert conn { c with phase := following } } other oc) : OwnID s other oc := by
  intro third tc present apart
  by_cases same : third = conn
  · subst same
    cases found.symm.trans present
    exact own third { c with phase := following } (AList.lookup_insert _) apart
  · exact own third tc (by rwa [AList.lookup_insert_eq, if_neg same]) apart

theorem stored_step (s after : Handshakes) (action : Action) (held : Stored s) (moves : Moves prims s action after) :
    Stored after := by
  cases moves with
  | begin conn sessionID peer fresh =>
    refine each_insert _ _ _ _ _ (by simp [stored]) fun other oc apart present key under own => held other oc present key under ?_
    intro third tc here different
    have unborn : third ≠ conn := by
      rintro rfl
      cases fresh.symm.trans here
    exact own third tc (by rwa [AList.lookup_insert_eq, if_neg unborn]) different
  | advance conn env c phase following keys found at_ effect =>
    have before : ∀ key, stored phase = some key →
        OwnID { keys, conns := s.conns.insert conn { c with phase := following } } conn { c with phase := following } →
          s.keys.manager.sessionKeys.lookup c.sessionID = some key := by
      intro key under own
      exact held conn c found key (by rw [at_, under]) (own_id_before keys s conn conn c _ following found own)
    have others : ∀ other oc, other ≠ conn → s.conns.lookup other = some oc → ∀ key, stored oc.phase = some key →
        OwnID { keys, conns := s.conns.insert conn { c with phase := following } } other oc →
          s.keys.manager.sessionKeys.lookup oc.sessionID = some key ∧ c.sessionID ≠ oc.sessionID := by
      intro other oc apart present key under own
      exact ⟨held other oc present key under (own_id_before keys s conn other c oc following found own),
        own conn { c with phase := following } (AList.lookup_insert _) apart.symm⟩
    refine each_insert _ _ _ _ _ ?_ fun other oc apart present key under own => ?_
    · cases effect with
      | check following either => rcases either with rfl | rfl <;> simp [stored]
      | store used key =>
        intro key' same _
        cases same
        exact AList.lookup_insert _
      | publish | publishY => exact before
      | generate | rotate | storePublic | storeExpiration | compute | fail => simp [stored]
    · obtain ⟨kept, different⟩ := others other oc apart present key under own
      cases effect with
      | store used key' =>
        change (s.keys.manager.sessionKeys.insert c.sessionID key').lookup oc.sessionID = some key
        rw [AList.lookup_insert_eq, if_neg different.symm, kept]
      | check | generate | rotate | storePublic | storeExpiration | compute | publish | publishY | fail => exact kept

end Stored

-- Handshakes that share one manager, in any interleaving. A response carries the key of
-- its derivation exactly when the loads of the public key see that key, and so they do
-- when no rotation falls between the derivation and the response.
theorem response_keys_match_iff (cm : CryptoManager) (actions : List Action) (final : Handshakes)
    (ran : Runs.run (step prims) (start cm) actions = some final) :
    (Matched final ↔ Runs.RunMeets (step prims) PublishesOwn (start cm) actions) ∧
    (Runs.RunMeets (step prims) Undisturbed (start cm) actions → Matched final) ∧
    ∀ conn c used key sent, final.conns.lookup conn = some c → c.phase = .answered used key sent →
      derivedKey prims used c.peer = .ok key ∧
        (OwnID final conn c → final.keys.manager.sessionKeys.lookup c.sessionID = some key) := by
  have nobody : ∀ holds, Each holds (start cm) := by
    intro holds conn c found
    simp [start] at found
  refine ⟨?_, fun undisturbed => ?_, fun conn c used key sent found at_ => ⟨?_, fun own => ?_⟩⟩
  · refine Runs.run_iff_meets (step prims) PublishesOwn Matched ?_ (start cm) final actions (nobody _) ran
    intro state action after taken
    exact matched_step prims state after action (step_moves prims state after action taken)
  · have reached := Runs.reached_of_run (step prims) Undisturbed (start cm) (start cm) final actions .start undisturbed ran
    refine (Runs.reached_invariant (step prims) Undisturbed (fun s => Aligned s ∧ Matched s) (start cm) final
      ⟨aligned_start cm, nobody _⟩ ?_ reached).2
    rintro state action after ⟨aligned, matched⟩ allowed taken
    have moves := step_moves prims state after action taken
    exact ⟨aligned_step prims state after action aligned allowed moves,
      (matched_step prims state after action moves).mpr ⟨matched, aligned_publishes state action aligned⟩⟩
  · have traced := Runs.run_invariant (step prims) (Traced prims) (start cm) final actions (nobody _)
      (fun state action after inv taken => traced_step prims state after action inv (step_moves prims state after action taken)) ran
    exact traced conn c found used key (by rw [at_]; rfl)
  · have held := Runs.run_invariant (step prims) Stored (start cm) final actions (nobody _)
      (fun state action after inv taken => stored_step prims state after action inv (step_moves prims state after action taken)) ran
    exact held conn c found key (by rw [at_]; rfl) own

instance decidableQuiet (s : Handshakes) : ∀ phase, Decidable (Quiet s phase)
  | .computing => inferInstanceAs (Decidable (s.keys.publicKey = s.keys.manager.privateKey.publicKey))
  | .rotating _ => inferInstanceAs (Decidable (∀ other ∈ s.conns.values, pending other.phase = none))
  | .checking | .generating | .storingPublic _ | .storingExpiration | .storing _ _ | .publishing _ _ | .publishingY _ _ _
  | .answered _ _ _ | .failed _ => inferInstanceAs (Decidable True)

instance decidableUndisturbed (s : Handshakes) : ∀ action, Decidable (Undisturbed s action)
  | .begin _ _ _ => inferInstanceAs (Decidable True)
  | .advance conn _ => inferInstanceAs (Decidable (∀ c ∈ s.conns.lookup conn, Quiet s c.phase))

def response (s : Handshakes) (conn : Nat) : Option (PublicKey × List UInt8) :=
  match (s.conns.lookup conn).map Conn.phase with
  | some (.answered used _ sent) => some (used.publicKey, sent)
  | _ => none

theorem response_matched (s : Handshakes) (conn : Nat) (publicKey : PublicKey) (sent : List UInt8)
    (found : s.response conn = some (publicKey, sent)) (matched : Matched s) : sent = marshal publicKey := by
  unfold response at found
  split at found
  · rename_i used key sent' at_
    cases found
    obtain ⟨c, present, phase⟩ := Option.map_eq_some_iff.mp at_
    exact matched conn c present used key sent phase
  · cases found

def expiring : CryptoManager := ⟨∅, baseKey, 100, 1000⟩

def early : KeyEnv := ⟨50, .error "EOF"⟩
def late : KeyEnv := ⟨200, .ok doubleKey⟩

def aliceRotates : List Action :=
  .begin 1 "alice" (marshal doubleKey.publicKey) :: List.replicate 9 (.advance 1 late)

theorem alice_rotates_matched :
    ∃ final, Runs.run (step plainPrims) (start expiring) aliceRotates = some final ∧
      final.response 1 = some (doubleKey.publicKey, marshal doubleKey.publicKey) ∧ Matched final := by
  have ran : (Runs.run (step plainPrims) (start expiring) aliceRotates).map (fun final => final.response 1) =
      some (some (doubleKey.publicKey, marshal doubleKey.publicKey)) := by
    decide +kernel
  obtain ⟨final, reached, answer⟩ := Option.map_eq_some_iff.mp ran
  refine ⟨final, reached, answer, ?_⟩
  exact (response_keys_match_iff plainPrims expiring aliceRotates final reached).2.1 (by decide +kernel)

def bobRotates : List Action :=
  .begin 1 "alice" (marshal doubleKey.publicKey) :: List.replicate 3 (.advance 1 early) ++
    .begin 2 "bob" (marshal baseKey.publicKey) :: List.replicate 5 (.advance 2 late) ++ List.replicate 2 (.advance 1 late)

theorem alice_gets_the_new_key :
    ∃ final, Runs.run (step plainPrims) (start expiring) bobRotates = some final ∧
      final.response 1 = some (baseKey.publicKey, marshal doubleKey.publicKey) ∧ ¬ Matched final := by
  have ran : (Runs.run (step plainPrims) (start expiring) bobRotates).map (fun final => final.response 1) =
      some (some (baseKey.publicKey, marshal doubleKey.publicKey)) := by
    decide +kernel
  obtain ⟨final, reached, answer⟩ := Option.map_eq_some_iff.mp ran
  refine ⟨final, reached, answer, fun matched => ?_⟩
  have same := response_matched final 1 _ _ answer matched
  exact absurd same (by decide +kernel)

end Handshakes

end MmoServer.Gateway
