import MmoServer.Gateway.SecureFraming
import MmoServer.Lib.Runs

set_option autoImplicit false

-- Two ends of a secured connection that hold the same key for its session, each with
-- a CryptoManager that goes on serving other sessions.
namespace MmoServer.Gateway

open Bytes Security

def messageTypePong : UInt8 := 4

inductive Packet where
  | data (plaintext : List UInt8) (sealed : Int) (frame : List UInt8)
  | control (kind : UInt8)

def Packet.frame : Packet → List UInt8
  | .data _ _ frame => frame
  | .control kind => [kind] ++ putNat 4 0

def Packet.plaintext : Packet → Option (List UInt8)
  | .data plaintext _ _ => some plaintext
  | .control _ => none

-- What Receive makes of it. A pong is no message that it knows.
def Packet.reading (pongError : Option String) : Packet → Reading
  | .data plaintext _ _ => .ended (.ok plaintext)
  | .control kind =>
    if kind = messageTypePing then
      match pongError with
      | some err => .ended (.error (.error ("write pong message error: " ++ err)))
      | none => .again
    else if kind = messageTypeClose then .ended (.error (.error "EOF"))
    else .ended (.error (.error ("unknown message type: " ++ toString kind)))

structure End where
  sc : SecureWebSocketConnection
  cm : CryptoManager
  pinged : Bool := false
  closed : Bool := false
  broken : Bool := false
  inbox : List Packet := []
  taken : List Packet := []
  results : List (Except Fault (List UInt8)) := []
  sent : List (List UInt8) := []

-- What else happens to a CryptoManager meanwhile.
inductive Upkeep where
  | rotate (env : KeyEnv)
  | derive (env : KeyEnv) (sessionID : String) (peerPublicKeyBytes : List UInt8)
  | remove (sessionID : String)

-- How the connection answers one read: whether it is broken, the text of the error if the
-- read fails, and the error of the answer to a ping.
structure ReadEnv where
  broken : Bool := false
  readError : String := "EOF"
  pongError : Option String := none

inductive ChannelAction where
  | send (side : Bool) (now : Int) (random : Except String (Vector UInt8 12)) (writeError : Option String) (data : List UInt8)
  | ping (side : Bool)
  | read (side : Bool) (now : Int) (env : ReadEnv)
  | upkeep (side : Bool) (upkeep : Upkeep)
  | close (side : Bool)

abbrev Channel : Type := Bool → End

section Steps

variable (prims : Primitives) (parse : List UInt8 → Except String Json)

def Upkeep.apply (cm : CryptoManager) : Upkeep → CryptoManager
  | .rotate env =>
    match cm.rotateKeys env with
    | .ok cm => cm
    | .error _ => cm
  | .derive env sessionID peer => (cm.deriveSharedKey prims env sessionID peer).2
  | .remove sessionID => cm.removeSessionKey sessionID

namespace Channel

variable (c : Channel)

-- One end changes, and packets are on their way to the other.
def act (side : Bool) (after : End) (packets : List Packet) : Channel := fun other =>
  if other = side then after else { c other with inbox := (c other).inbox ++ packets }

def failRead (side : Bool) (env : ReadEnv) : Channel :=
  c.act side { c side with
    broken := (c side).broken || env.broken
    results := (c side).results ++ [.error (.error ("read message error: " ++ env.readError))] } []

-- A read fails on a closed or broken connection, and when the peer has closed and all it
-- has sent is read. It waits while nothing is there.
def step : ChannelAction → Channel
  | .send side now random writeError data =>
    if (c side).closed = true then c
    else
      match (c side).sc.send prims now random writeError data (c side).cm with
      | .error _ => c
      | .ok frame => c.act side { c side with sent := (c side).sent ++ [data] } [.data data now frame]
  | .ping side =>
    if (c side).closed = true then c else c.act side { c side with pinged := true } [.control messageTypePing]
  | .read side now env =>
    if (c side).closed = true ∨ (c side).broken = true ∨ env.broken = true then c.failRead side env
    else
      match (c side).inbox with
      | [] => if (c (!side)).closed = true then c.failRead side env else c
      | packet :: rest =>
        let left := { c side with inbox := rest, taken := (c side).taken ++ [packet] }
        match SecureWebSocketConnection.readMessage prims parse now (c side).cm ⟨.ok ⟨packet.frame, []⟩, env.pongError⟩ with
        | .again => c.act side left [.control messageTypePong]
        | .ended result => c.act side { left with results := left.results ++ [result] } []
  | .upkeep side upkeep => c.act side { c side with cm := upkeep.apply prims (c side).cm } []
  | .close side =>
    if (c side).closed = true then c
    else
      c.act side { c side with closed := true, cm := (c side).cm.removeSessionKey (c side).sc.sessionID }
        [.control messageTypeClose]

end Channel

end Steps

end MmoServer.Gateway
