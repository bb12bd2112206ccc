import MmoServer.Gateway.SecureChannel
import MmoServer.Security.Lifetimes

set_option autoImplicit false

namespace MmoServer.Gateway

open Bytes Security CryptoManager

structure Shared where
  prims : Primitives
  parse : List UInt8 → Except String Json
  sessionID : String
  key : List UInt8
  opens : prims.Opens

namespace Shared

variable (k : Shared)

abbrev step : Channel → ChannelAction → Channel := Channel.step k.prims k.parse

-- The message is not too long, and its JSON is read back.
def Fits (em : EncryptedMessage) : Prop :=
  5 + (encryptedJson em).marshal.length < 2 ^ 32 ∧ k.parse (encryptedJson em).marshal = .ok (encryptedJson em)

-- A message is read within the minute that it lives, and the session gets no other key.
def Allows (c : Channel) : ChannelAction → Prop
  | .send side now random _ data => 0 ≤ now ∧ now + 60 < 2 ^ 63 ∧
      ∀ em, (c side).cm.encryptWithTimestamp k.prims now random data k.sessionID 60 = .ok em → k.Fits em
  | .read side now _ => ∀ plaintext sealed frame, (c side).inbox.head? = some (.data plaintext sealed frame) → sealed ≤ now ∧ now ≤ sealed + 60
  | .upkeep _ (.derive _ other _) | .upkeep _ (.remove other) => other ≠ k.sessionID
  | _ => True

-- A packet that the sender has sealed, or for which one of the ends has given cause.
def Genuine (sender receiver : End) : Packet → Prop
  | .data plaintext sealed frame => 0 ≤ sealed ∧ sealed + 60 < 2 ^ 63 ∧
      ∃ (cm : CryptoManager) (random : Except String (Vector UInt8 12)) (em : EncryptedMessage), frame = dataFrame em ∧
        cm.sessionKeys.lookup k.sessionID = some k.key ∧
        cm.encryptWithTimestamp k.prims sealed random plaintext k.sessionID 60 = .ok em ∧ k.Fits em
  | .control kind => kind = messageTypePing ∧ sender.pinged = true ∨ kind = messageTypePong ∧ receiver.pinged = true ∨
      kind = messageTypeClose ∧ sender.closed = true

-- Why a Receive of the receiver can fail.
def Cause (sender receiver : End) (fault : Fault) : Prop :=
  fault = .error "EOF" ∧ sender.closed = true ∨ fault = .error "unknown message type: 4" ∧ receiver.pinged = true ∨
    (∃ err, fault = .error ("write pong message error: " ++ err)) ∧ sender.pinged = true ∨
    (∃ err, fault = .error ("read message error: " ++ err)) ∧
      (receiver.closed = true ∨ receiver.broken = true ∨ sender.closed = true)

structure Holds (e : End) : Prop where
  session : e.sc.sessionID = k.sessionID ∧ e.sc.isEncrypted = true
  keyed : e.closed = false → e.cm.sessionKeys.lookup k.sessionID = some k.key
  results : e.results.filterMap Except.toOption = e.taken.filterMap Packet.plaintext

structure Flow (sender receiver : End) : Prop where
  sent : sender.sent = (receiver.taken ++ receiver.inbox).filterMap Packet.plaintext
  genuine : ∀ packet ∈ receiver.taken ++ receiver.inbox, k.Genuine sender receiver packet
  caused : ∀ fault, .error fault ∈ receiver.results → Cause sender receiver fault

structure Secured (c : Channel) : Prop where
  holds : ∀ side, k.Holds (c side)
  flows : ∀ side, k.Flow (c side) (c (!side))

theorem read_genuine (cm : CryptoManager) (held : cm.sessionKeys.lookup k.sessionID = some k.key) (now : Int)
    (pongError : Option String) (sender receiver : End) (packet : Packet) (genuine : k.Genuine sender receiver packet)
    (timely : ∀ plaintext sealed frame, packet = .data plaintext sealed frame → sealed ≤ now ∧ now ≤ sealed + 60) :
    SecureWebSocketConnection.readMessage k.prims k.parse now cm ⟨.ok ⟨packet.frame, []⟩, pongError⟩ = packet.reading pongError := by
  cases packet with
  | data plaintext sealed frame =>
    obtain ⟨low, high, other, random, em, rfl, otherKey, produced, fits, decodes⟩ := genuine
    obtain ⟨header, encrypted⟩ := data_frame_read k.parse em fits decodes
    have alive : cm.decryptWithTimestamp k.prims now em = .ok plaintext := by
      have inTime := timely plaintext sealed _ rfl
      have opened := decrypt_produced k.prims k.opens other cm sealed 60 random plaintext k.sessionID em produced
        (held.trans otherKey.symm)
      have end_ : deadline sealed 60 = sealed + 60 := deadline_in_range sealed 60 low (by omega)
      rw [decryptWithTimestamp, opened]
      simp only
      rw [check_timestamped sealed 60 now plaintext ⟨by omega, by omega⟩, end_, if_neg (by omega), if_neg (by omega)]
    simp only [SecureWebSocketConnection.readMessage, Packet.frame, header, encrypted, alive, if_true, Packet.reading]
  | control kind =>
    have other : kind ≠ messageTypeData := by rcases genuine with ⟨rfl, _⟩ | ⟨rfl, _⟩ | ⟨rfl, _⟩ <;> decide
    have header := read_built_header kind [] (by decide)
    rw [List.append_nil, List.length_nil] at header
    cases pongError <;>
      simp only [SecureWebSocketConnection.readMessage, Packet.frame, header, if_neg other, Packet.reading]

section

variable (sender receiver : End) (packet : Packet) (genuine : k.Genuine sender receiver packet) (pongError : Option String)

include genuine

theorem reading_again (reads : packet.reading pongError = .again) : packet.plaintext = none ∧ sender.pinged = true := by
  cases packet with
  | data => cases reads
  | control kind =>
    rcases genuine with ⟨_, flag⟩ | ⟨rfl, _⟩ | ⟨rfl, _⟩
    · exact ⟨rfl, flag⟩
    · cases reads
    · cases reads

theorem reading_ended (result : Except Fault (List UInt8)) (reads : packet.reading pongError = .ended result) :
    result.toOption = packet.plaintext ∧ ∀ fault, result = .error fault → Cause sender receiver fault := by
  cases packet with
  | data plaintext sealed frame =>
    cases reads
    exact ⟨rfl, fun _ fails => by cases fails⟩
  | control kind =>
    rcases genuine with ⟨rfl, flag⟩ | ⟨rfl, flag⟩ | ⟨rfl, flag⟩
    · cases pongError with
      | none => cases reads
      | some err =>
        cases reads
        refine ⟨rfl, fun fault fails => ?_⟩
        cases fails
        exact .inr (.inr (.inl ⟨⟨err, rfl⟩, flag⟩))
    · cases reads
      refine ⟨rfl, fun fault fails => ?_⟩
      cases fails
      exact .inr (.inl ⟨rfl, flag⟩)
    · cases reads
      refine ⟨rfl, fun fault fails => ?_⟩
      cases fails
      exact .inl ⟨rfl, flag⟩

end

theorem derive_others (env : KeyEnv) (other : String) (peer : List UInt8) (cm : CryptoManager) (apart : k.sessionID ≠ other) :
    (cm.deriveSharedKey k.prims env other peer).2.sessionKeys.lookup k.sessionID = cm.sessionKeys.lookup k.sessionID := by
  have rotated (after : CryptoManager)
      (rotates : (if cm.keyExpiration < env.now then cm.rotateKeys env else .ok cm) = .ok after) :
      after.sessionKeys = cm.sessionKeys := by
    split at rotates
    · rw [rotateKeys] at rotates
      split at rotates <;> cases rotates
      rfl
    · cases rotates
      rfl
  rw [deriveSharedKey]
  split
  · rfl
  next after rotates =>
    split
    · rw [rotated after rotates]
    · split
      · rw [rotated after rotates]
      · rw [AList.lookup_insert_eq, if_neg apart, rotated after rotates]

theorem upkeep_keeps (c : Channel) (side : Bool) (upkeep : Upkeep) (cm : CryptoManager) (allowed : k.Allows c (.upkeep side upkeep)) :
    (upkeep.apply k.prims cm).sessionKeys.lookup k.sessionID = cm.sessionKeys.lookup k.sessionID := by
  cases upkeep with
  | rotate env =>
    rw [Upkeep.apply, rotateKeys]
    cases env.generated <;> rfl
  | derive env other peer => exact k.derive_others env other peer cm (Ne.symm allowed)
  | remove other =>
    have apart : k.sessionID ≠ other := Ne.symm allowed
    rw [Upkeep.apply, removeSessionKey, AList.lookup_erase_eq, if_neg apart]

section Keeps

variable {k}

structure Grows (before after : End) : Prop where
  pinged : before.pinged = true → after.pinged = true
  closed : before.closed = true → after.closed = true
  broken : before.broken = true → after.broken = true

section

variable {sender receiver sender' receiver' : End} (here : Grows sender sender') (there : Grows receiver receiver')

include here there

theorem cause_grows (fault : Fault) (cause : Cause sender receiver fault) : Cause sender' receiver' fault := by
  rcases cause with ⟨eof, flag⟩ | ⟨pong, flag⟩ | ⟨write, flag⟩ | ⟨read, flag⟩
  · exact .inl ⟨eof, here.closed flag⟩
  · exact .inr (.inl ⟨pong, there.pinged flag⟩)
  · exact .inr (.inr (.inl ⟨write, here.pinged flag⟩))
  · exact .inr (.inr (.inr ⟨read, flag.imp there.closed (Or.imp there.broken here.closed)⟩))

theorem genuine_grows (packet : Packet) (genuine : k.Genuine sender receiver packet) : k.Genuine sender' receiver' packet := by
  cases packet with
  | data => exact genuine
  | control kind =>
    rcases genuine with ⟨ping, flag⟩ | ⟨pong, flag⟩ | ⟨close, flag⟩
    · exact .inl ⟨ping, here.pinged flag⟩
    · exact .inr (.inl ⟨pong, there.pinged flag⟩)
    · exact .inr (.inr ⟨close, here.closed flag⟩)

end

theorem flow_grows {sender receiver sender' receiver' : End} (flow : k.Flow sender receiver) (here : Grows sender sender')
    (there : Grows receiver receiver') (packets : List Packet) (added : List (Except Fault (List UInt8)))
    (posted : receiver'.taken ++ receiver'.inbox = receiver.taken ++ receiver.inbox ++ packets)
    (sent : sender'.sent = sender.sent ++ packets.filterMap Packet.plaintext)
    (genuine : ∀ packet ∈ packets, k.Genuine sender' receiver' packet) (results : receiver'.results = receiver.results ++ added)
    (caused : ∀ fault, .error fault ∈ added → Cause sender' receiver' fault) : k.Flow sender' receiver' := by
  constructor
  · rw [sent, posted, List.filterMap_append, flow.sent]
  · rw [posted, List.forall_mem_append]
    exact ⟨fun packet member => genuine_grows here there packet (flow.genuine packet member), genuine⟩
  · intro fault member
    rw [results, List.mem_append] at member
    rcases member with before | new
    · exact cause_grows here there fault (flow.caused fault before)
    · exact caused fault new

variable {c : Channel} (secured : k.Secured c) (side : Bool)

include secured

theorem Secured.act (after : End) (packets : List Packet) (added : List (Except Fault (List UInt8)))
    (holds : k.Holds after) (grows : Grows (c side) after)
    (posted : after.taken ++ after.inbox = (c side).taken ++ (c side).inbox)
    (sent : after.sent = (c side).sent ++ packets.filterMap Packet.plaintext)
    (genuine : ∀ packet ∈ packets, k.Genuine after (c (!side)) packet) (results : after.results = (c side).results ++ added)
    (caused : ∀ fault, .error fault ∈ added → Cause (c (!side)) after fault) : k.Secured (c.act side after packets) := by
  have here : c.act side after packets side = after := if_pos rfl
  have there : c.act side after packets (!side) = { c (!side) with inbox := (c (!side)).inbox ++ packets } :=
    if_neg (by cases side <;> decide)
  have other := secured.holds (!side)
  have back := secured.flows (!side)
  rw [Bool.not_not] at back
  have own : k.Holds (c.act side after packets side) ∧ k.Flow (c.act side after packets side) (c.act side after packets (!side)) := by
    rw [here, there]
    refine ⟨holds, flow_grows (secured.flows side) grows ⟨id, id, id⟩ packets [] (List.append_assoc _ _ _).symm sent ?_
      (List.append_nil _).symm (by simp)⟩
    exact fun packet member => genuine_grows ⟨id, id, id⟩ ⟨id, id, id⟩ packet (genuine packet member)
  have others : k.Holds (c.act side after packets (!side)) ∧ k.Flow (c.act side after packets (!side)) (c.act side after packets side) := by
    rw [here, there]
    refine ⟨⟨other.session, other.keyed, other.results⟩, flow_grows back ⟨id, id, id⟩ grows [] added ?_ (by simp) (by simp) results ?_⟩
    · rw [posted, List.append_nil]
    · exact fun fault member => cause_grows ⟨id, id, id⟩ ⟨id, id, id⟩ fault (caused fault member)
  constructor
  all_goals
    intro end_
    cases side <;> cases end_
  exacts [own.1, others.1, others.1, own.1, own.2, others.2, others.2, own.2]

theorem Secured.failRead (env : ReadEnv)
    (fails : ((c side).closed = true ∨ (c side).broken = true ∨ env.broken = true) ∨ (c (!side)).closed = true) :
    k.Secured (c.failRead side env) := by
  have holds := secured.holds side
  refine secured.act side _ [] [_] ⟨holds.session, holds.keyed, ?_⟩ ⟨id, id, fun broken => by simp [broken]⟩ rfl
    (List.append_nil _).symm (by simp) rfl ?_
  · rw [List.filterMap_append, holds.results]
    exact List.append_nil _
  · intro fault member
    cases List.mem_singleton.mp member
    refine .inr (.inr (.inr ⟨⟨env.readError, rfl⟩, ?_⟩))
    rcases fails with (closed | broken | breaks) | peer
    · exact .inl closed
    · exact .inr (.inl (by simp [broken]))
    · exact .inr (.inl (by simp [breaks]))
    · exact .inr (.inr peer)

theorem Secured.read (now : Int) (env : ReadEnv) (allowed : k.Allows c (.read side now env)) :
    k.Secured (k.step c (.read side now env)) := by
  have holds := secured.holds side
  have flow := secured.flows (!side)
  rw [Bool.not_not] at flow
  rw [step, Channel.step]
  split
  next fails => exact secured.failRead side env (.inl fails)
  next open_ =>
    rw [not_or] at open_
    split
    · split
      next peer => exact secured.failRead side env (.inr peer)
      · exact secured
    next packet rest waiting =>
      have genuine := flow.genuine packet (by simp [waiting])
      have read := k.read_genuine (c side).cm (holds.keyed (by simpa using open_.1)) now env.pongError _ _ packet genuine
        (fun plaintext sealed frame same => allowed plaintext sealed frame (by rw [waiting, same]; rfl))
      have moved : (c side).taken ++ [packet] ++ rest = (c side).taken ++ (c side).inbox := by
        rw [waiting, List.append_assoc, List.singleton_append]
      simp only [read]
      cases reads : packet.reading env.pongError with
      | again =>
        obtain ⟨empty, pinged⟩ := k.reading_again _ _ packet genuine env.pongError reads
        refine secured.act side _ _ [] ⟨holds.session, holds.keyed, ?_⟩ ⟨id, id, id⟩ moved (List.append_nil _).symm ?_
          (List.append_nil _).symm (by simp)
        · rw [List.filterMap_append, ← holds.results, List.filterMap_cons_none empty, List.filterMap_nil, List.append_nil]
        · rw [List.forall_mem_singleton]
          exact .inr (.inl ⟨rfl, pinged⟩)
      | ended result =>
        obtain ⟨same, cause⟩ := k.reading_ended _ _ packet genuine env.pongError result reads
        refine secured.act side _ _ [result] ⟨holds.session, holds.keyed, ?_⟩ ⟨id, id, id⟩ moved (List.append_nil _).symm (by simp)
          rfl ?_
        · rw [List.filterMap_append, List.filterMap_append, holds.results, List.filterMap_cons, List.filterMap_cons, same]
          rfl
        · exact fun fault member => cause_grows ⟨id, id, id⟩ ⟨id, id, id⟩ fault (cause fault (List.mem_singleton.mp member).symm)

theorem Secured.stepped (action : ChannelAction) (allowed : k.Allows c action) : k.Secured (k.step c action) := by
  cases action with
  | send side now random writeError data =>
    have holds := secured.holds side
    obtain ⟨low, high, fitting⟩ := allowed
    rw [step, Channel.step]
    split
    · exact secured
    next open_ =>
      split
      · exact secured
      next frame sent =>
        refine secured.act side _ _ [] ⟨holds.session, holds.keyed, holds.results⟩ ⟨id, id, id⟩ rfl rfl ?_ (List.append_nil _).symm
          (by simp)
        rw [List.forall_mem_singleton]
        refine ⟨low, high, ?_⟩
        cases produced : (c side).cm.encryptWithTimestamp k.prims now random data k.sessionID 60 with
        | error err =>
          simp only [SecureWebSocketConnection.send, holds.session, Bool.true_eq_false, if_false, produced] at sent
          cases sent
        | ok em =>
          have fits := fitting em produced
          have framed := send_frame k.prims now random data (c side).sc holds.session.2 (c side).cm em
            (by rw [holds.session.1]; exact produced) fits.1
          cases (send_written k.prims now random writeError data (c side).sc (c side).cm frame sent).symm.trans framed
          exact ⟨(c side).cm, random, em, rfl, holds.keyed (by simpa using open_), produced, fits⟩
  | ping side =>
    have holds := secured.holds side
    rw [step, Channel.step]
    split
    · exact secured
    · refine secured.act side _ _ [] ⟨holds.session, holds.keyed, holds.results⟩ ⟨fun _ => rfl, id, id⟩ rfl
        (List.append_nil _).symm ?_ (List.append_nil _).symm (by simp)
      rw [List.forall_mem_singleton]
      exact .inl ⟨rfl, rfl⟩
  | read side now env => exact secured.read side now env allowed
  | upkeep side upkeep =>
    have holds := secured.holds side
    refine secured.act side _ _ [] ⟨holds.session, fun open_ => ?_, holds.results⟩ ⟨id, id, id⟩ rfl (List.append_nil _).symm
      (by simp) (List.append_nil _).symm (by simp)
    rw [k.upkeep_keeps c side upkeep _ allowed]
    exact holds.keyed open_
  | close side =>
    have holds := secured.holds side
    rw [step, Channel.step]
    split
    · exact secured
    · refine secured.act side _ _ [] ⟨holds.session, fun open_ => absurd open_ (by simp), holds.results⟩ ⟨id, fun _ => rfl, id⟩ rfl
        (List.append_nil _).symm ?_ (List.append_nil _).symm (by simp)
      rw [List.forall_mem_singleton]
      exact .inr (.inr ⟨rfl, rfl⟩)

end Keeps

def handshaken (left right : CryptoManager) : Channel := fun side => { sc := ⟨k.sessionID, true, true⟩, cm := if side then left else right }

theorem secured_run (left right : CryptoManager) (leftKey : left.sessionKeys.lookup k.sessionID = some k.key)
    (rightKey : right.sessionKeys.lookup k.sessionID = some k.key) (actions : List ChannelAction)
    (allowed : Runs.Meets k.step k.Allows (k.handshaken left right) actions) :
    k.Secured (actions.foldl k.step (k.handshaken left right)) := by
  have initial : k.Secured (k.handshaken left right) := by
    refine ⟨fun side => ⟨⟨rfl, rfl⟩, fun _ => ?_, rfl⟩, fun side => ⟨rfl, by simp [handshaken], by simp [handshaken]⟩⟩
    cases side
    · exact rightKey
    · exact leftKey
  exact Runs.visited_invariant k.step k.Secured k.Allows
    (fun _ action secured allowed => secured.stepped action allowed) _ actions initial allowed _ (Runs.last_visited _ _ actions)

section Greeting

open CryptoManager

abbrev alice : Shared := ⟨frontPrims, fun _ => .ok (encryptedJson transfer), "alice", List.replicate 32 1, front_opens⟩

-- A message, while the reader's manager drops another session.
def greeting : List ChannelAction :=
  [.send true 100 (.ok (Vector.replicate 12 0)) none [104, 105], .upkeep false (.remove "bob"), .read false 130 {}]

theorem transfer_fits : alice.Fits transfer := ⟨by decide +kernel, rfl⟩

theorem greeting_allowed : Runs.Meets alice.step alice.Allows (alice.handshaken oneSession oneSession) greeting := by
  have sent : alice.step (alice.handshaken oneSession oneSession) (.send true 100 (.ok (Vector.replicate 12 0)) none [104, 105]) =
      (alice.handshaken oneSession oneSession).act true { alice.handshaken oneSession oneSession true with sent := [[104, 105]] }
        [.data [104, 105] 100 (dataFrame transfer)] := by
    have framed := send_frame frontPrims 100 (.ok (Vector.replicate 12 0)) [104, 105] ⟨"alice", true, true⟩ rfl oneSession transfer
      transfer_produced transfer_fits.1
    simp only [step, Channel.step, handshaken, if_true, framed]
    rfl
  refine ⟨⟨by decide, by decide, fun em produced => ?_⟩, ?_, ?_, trivial⟩
  · cases transfer_produced.symm.trans produced
    exact transfer_fits
  · exact (by decide : "bob" ≠ "alice")
  · intro plaintext sealed frame first
    rw [sent] at first
    cases first
    decide

end Greeting

end Shared

end MmoServer.Gateway
