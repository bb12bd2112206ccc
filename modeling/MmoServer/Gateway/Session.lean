import MmoServer.Lib.ByteStream
import MmoServer.Protocol.Converter

set_option autoImplicit false

namespace MmoServer.Gateway

open Bytes Protocol

inductive Transport where
  | webSocket (conn : Nat)
  | secure (conn : Nat)
  | quic (conn : Nat)
  | stream (conn : Nat)
deriving DecidableEq, Repr

structure Session where
  id : List UInt8
  userID : List UInt8 := []
  connectionType : ConnectionType
  lastActivity : Int
  wsConn : Option Nat := none
  secureConn : Option Nat := none
  quicConn : Option Nat := none
  quicStream : Option Nat := none
  closed : Bool := false
deriving DecidableEq, Repr

namespace Session

section Constructors

variable (id : List UInt8) (connType : ConnectionType) (conn : Nat) (now : Int)

def newSession : Session := { id, connectionType := connType, lastActivity := now, wsConn := some conn }

def newSessionWithSecureConnection : Session := { id, connectionType := connType, lastActivity := now, secureConn := some conn }

def newSessionWithQUIC : Session := { id, connectionType := connType, lastActivity := now, quicConn := some conn }

end Constructors

def setUserID (userID : List UInt8) (s : Session) : Session := { s with userID }

def updateLastActiveTime (now : Int) (s : Session) : Session := { s with lastActivity := now }

section Messages

structure Arrival where
  now : Int
  frame : Except String (Int × List UInt8)
  received : Except String (List UInt8)

def noValidConnection : String := "no valid connection"

def readNumber (size : Nat) (stream : ByteStream) : Except String Nat × ByteStream :=
  match stream.readFull size with
  | (.error err, after) => (.error err, after)
  | (.ok bytes, after) => (.ok (getNat bytes), after)

-- The content is taken in one Read, so what that leaves of the buffer stays zero.
def readStream (stream : ByteStream) : Except String (Int × List UInt8) × ByteStream :=
  match readNumber 4 stream with
  | (.error err, after) => (.error err, after)
  | (.ok msgLen, typed) =>
    match readNumber 1 typed with
    | (.error err, after) => (.error err, after)
    | (.ok msgType, content) =>
      match content.read msgLen with
      | (_, some err, after) => (.error err, after)
      | (bytes, none, after) => (.ok (msgType, bytes ++ List.replicate (msgLen - bytes.length) 0), after)

def binaryMessage : Int := 2

def readMessage (arrival : Arrival) (stream : ByteStream) (s : Session) :
    Except String (Int × List UInt8) × Session × ByteStream :=
  if s.closed = true then (.error "session closed", s, stream)
  else
    let active := s.updateLastActiveTime arrival.now
    match s.connectionType with
    | .webSocket =>
      match s.wsConn, s.secureConn with
      | some _, _ => (arrival.frame, active, stream)
      | none, some _ => (arrival.received.map fun data => (binaryMessage, data), active, stream)
      | none, none => (.error noValidConnection, active, stream)
    | .quic =>
      match s.quicStream with
      | some _ => ((readStream stream).1, active, (readStream stream).2)
      | none => (.error noValidConnection, active, stream)
    | .internal | .other _ => (.error noValidConnection, active, stream)

inductive Written where
  | frame (conn : Nat) (messageType : Int) (data : List UInt8)
  | secure (conn : Nat) (data : List UInt8)
  | stream (conn : Nat) (data : List UInt8)
deriving DecidableEq, Repr

def writeAll (fails : Written → Option String) : List Written → Except String Unit × List Written
  | [] => (.ok (), [])
  | write :: rest =>
    match fails write with
    | some err => (.error err, [])
    | none => ((writeAll fails rest).1, write :: (writeAll fails rest).2)

def writeMessage (now : Int) (fails : Written → Option String) (messageType : Int) (data : List UInt8) (s : Session) :
    Except String Unit × Session × List Written :=
  if s.closed = true then (.error "session closed", s, [])
  else
    let active := s.updateLastActiveTime now
    let write writes := ((writeAll fails writes).1, active, (writeAll fails writes).2)
    match s.connectionType with
    | .webSocket =>
      match s.wsConn, s.secureConn with
      | some conn, _ => write [.frame conn messageType data]
      | none, some conn => write [.secure conn data]
      | none, none => (.error noValidConnection, active, [])
    | .quic =>
      match s.quicStream with
      | some conn => write [.stream conn (putNat 4 data.length), .stream conn (putNat 1 (messageType % 256).toNat), .stream conn data]
      | none => (.error noValidConnection, active, [])
    | .internal | .other _ => (.error noValidConnection, active, [])

end Messages

section Close

def closes (s : Session) : List Transport :=
  match s.connectionType with
  | .webSocket =>
    match s.wsConn, s.secureConn with
    | some conn, _ => [.webSocket conn]
    | none, some conn => [.secure conn]
    | none, none => []
  | .quic => s.quicStream.toList.map .stream ++ s.quicConn.toList.map .quic
  | .internal | .other _ => []

def close (s : Session) : Session × List Transport :=
  if s.closed = true then (s, []) else ({ s with closed := true }, s.closes)

end Close

end Session

end MmoServer.Gateway
