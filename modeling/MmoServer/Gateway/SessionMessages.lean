import MmoServer.Gateway.Session
import MmoServer.Protocol.Frames
import MmoServer.Protocol.Router

set_option autoImplicit false

namespace MmoServer.Gateway

open Json Protocol Session

inductive HandleError where
  | convert (err : ConvertError)
  | route (err : RouteError)
  | respond (err : ConvertError)
  | send (err : String)
deriving DecidableEq, Repr

def HandleError.text (scanner : String) : HandleError → List UInt8
  | .convert err => utf8 ("failed to convert message to internal format: " ++ err.text scanner)
  | .route err => utf8 "failed to route message: " ++ err.text
  | .respond err => utf8 ("failed to convert response from internal format: " ++ err.text scanner)
  | .send err => utf8 ("failed to send response: " ++ err)

structure HandleEnv where
  converter : ConverterEnv
  scanner : String
  now : UInt64
  route : RouteEnv
  answered : Int
  refused : Int
  fails : Written → Option String

structure Line where
  session : Session
  stream : ByteStream
  router : MessageRouter
  written : List Written := []
  closed : List Transport := []

namespace Line

-- The message that is routed. A frame brings no source service of its own.
def internalMsg (session : Session) (read : Message) : Message :=
  { read with
    sessionID := session.id
    sourceService := if read.sourceService = [] then utf8 "gateway" else read.sourceService }

def handleMessage (env : HandleEnv) (msgType : Int) (data : List UInt8) (l : Line) : Except HandleError Unit × Line :=
  match toInternal env.converter env.now l.session.connectionType (.ofInt msgType) data with
  | .error err => (.error (.convert err), l)
  | .ok read =>
    match l.router.route env.route (internalMsg l.session read) with
    | (.error err, router) => (.error (.route err), { l with router })
    | (.ok response, router) =>
      match fromInternal env.converter l.session.connectionType (.ofInt msgType) response with
      | .error err => (.error (.respond err), { l with router })
      | .ok responseData =>
        let (sent, session, written) := l.session.writeMessage env.answered env.fails msgType responseData
        (sent.mapError .send, { l with session, router, written := l.written ++ written })

def closeSession (l : Line) : Line :=
  { l with session := l.session.close.1, closed := l.closed ++ l.session.close.2 }

def turn (env : HandleEnv) (arrival : Arrival) (l : Line) : Bool × Line :=
  match l.session.readMessage arrival l.stream with
  | (.error _, session, stream) => (false, closeSession { l with session, stream })
  | (.ok (msgType, data), session, stream) =>
    match handleMessage env msgType data { l with session, stream } with
    | (.ok _, after) => (true, after)
    | (.error (.route .panicked), after) => (false, closeSession after)
    | (.error err, after) =>
      match after.session.writeMessage env.refused env.fails msgType (utf8 "Error: " ++ err.text env.scanner) with
      | (.error _, session, written) => (false, closeSession { after with session, written := after.written ++ written })
      | (.ok _, session, written) => (true, { after with session, written := after.written ++ written })

def handleSessionMessages : List (HandleEnv × Arrival) → Line → Line
  | [], l => l
  | (env, arrival) :: rest, l =>
    match turn env arrival l with
    | (true, after) => handleSessionMessages rest after
    | (false, after) => after

section Binary

structure OnWebSocket (s : Session) : Prop where
  kind : s.connectionType = .webSocket
  open_ : s.closed = false
  connected : s.wsConn.isSome ∨ s.secureConn.isSome

def carried (s : Session) (msgType : Int) (data : List UInt8) : List Written :=
  match s.wsConn, s.secureConn with
  | some conn, _ => [.frame conn msgType data]
  | none, some conn => [.secure conn data]
  | none, none => []

def Delivers (arrival : Arrival) (data : List UInt8) : Prop :=
  arrival.frame = .ok (binaryMessage, data) ∧ arrival.received = .ok data

theorem read_binary (arrival : Arrival) (stream : ByteStream) (s : Session) (data : List UInt8) (onSocket : OnWebSocket s)
    (delivers : Delivers arrival data) :
    s.readMessage arrival stream = (.ok (binaryMessage, data), s.updateLastActiveTime arrival.now, stream) := by
  obtain ⟨kind, open_, connected⟩ := onSocket
  rw [readMessage, if_neg (by rw [open_]; decide), kind]
  cases ws : s.wsConn with
  | some conn =>
    simp only [delivers.1]
  | none =>
    cases secure : s.secureConn with
    | some conn =>
      simp only [delivers.2]
      rfl
    | none => simp [ws, secure] at connected

theorem write_on_socket (now : Int) (fails : Written → Option String) (msgType : Int) (data : List UInt8) (s : Session)
    (onSocket : OnWebSocket s) (works : ∀ write, fails write = none) :
    s.writeMessage now fails msgType data = (.ok (), s.updateLastActiveTime now, carried s msgType data) := by
  obtain ⟨kind, open_, connected⟩ := onSocket
  rw [writeMessage, if_neg (by rw [open_]; decide), kind, carried]
  cases ws : s.wsConn with
  | some conn => simp only [writeAll, works]
  | none =>
    cases secure : s.secureConn with
    | some conn => simp only [writeAll, works]
    | none => simp [ws, secure] at connected

theorem on_socket_active (s : Session) (now : Int) (onSocket : OnWebSocket s) : OnWebSocket (s.updateLastActiveTime now) :=
  ⟨onSocket.kind, onSocket.open_, onSocket.connected⟩

def refusal : List UInt8 := utf8 "Error: failed to convert message to internal format: unsupported message format"

theorem binary_message_refused (env : HandleEnv) (data : List UInt8) (l : Line) (onSocket : OnWebSocket l.session) :
    l.handleMessage env binaryMessage data = (.error (.convert (.unsupportedFormat "")), l) := by
  rw [handleMessage, onSocket.kind]
  rfl

def refused (env : HandleEnv) (l : Line) : Line :=
  { l with
    session := l.session.updateLastActiveTime env.refused
    written := l.written ++ carried l.session binaryMessage refusal }

theorem turn_binary (env : HandleEnv) (arrival : Arrival) (data : List UInt8) (l : Line) (onSocket : OnWebSocket l.session)
    (delivers : Delivers arrival data) (works : ∀ write, env.fails write = none) :
    l.turn env arrival = (true, l.refused env) := by
  have text : utf8 "Error: " ++ (HandleError.convert (.unsupportedFormat "")).text env.scanner = refusal := by
    rw [HandleError.text, ← utf8_append]
    rfl
  rw [turn, read_binary arrival l.stream l.session data onSocket delivers]
  simp only [binary_message_refused env data { l with session := l.session.updateLastActiveTime arrival.now }
    (on_socket_active l.session arrival.now onSocket)]
  rw [text, write_on_socket env.refused env.fails binaryMessage refusal _ (on_socket_active l.session arrival.now onSocket) works]
  rfl

theorem run_binary (turns : List (HandleEnv × Arrival)) (l : Line) (onSocket : OnWebSocket l.session)
    (binary : ∀ one ∈ turns, ∃ data, Delivers one.2 data) (works : ∀ one ∈ turns, ∀ write, one.1.fails write = none) :
    (handleSessionMessages turns l).router = l.router ∧
      (handleSessionMessages turns l).written = l.written ++ turns.flatMap fun _ => carried l.session binaryMessage refusal := by
  induction turns generalizing l with
  | nil => simp [handleSessionMessages]
  | cons one rest ih =>
    obtain ⟨env, arrival⟩ := one
    obtain ⟨data, delivers⟩ := binary (env, arrival) (by simp)
    rw [handleSessionMessages, turn_binary env arrival data l onSocket delivers (works (env, arrival) (by simp))]
    obtain ⟨router, written⟩ := ih (l.refused env) (on_socket_active l.session env.refused onSocket)
      (fun one member => binary one (List.mem_cons_of_mem _ member)) fun one member => works one (List.mem_cons_of_mem _ member)
    refine ⟨router, written.trans ?_⟩
    rw [refused, List.append_assoc, List.flatMap_cons]
    rfl

-- The frame of a message is converted to the message again, and what the router
-- answers goes back in the binary format.
def Accepts (env : HandleEnv) (l : Line) (m : OutMessage) : Prop :=
  ∃ frame read, fromInternal env.converter .webSocket .binary m = .ok frame ∧
    toInternal env.converter env.now l.session.connectionType (.ofInt binaryMessage) frame = .ok read ∧
    read.flags = m.flags ∧ read.serviceType = m.serviceType ∧ read.messageType = m.messageType ∧ read.payload = m.payload ∧
    ∀ response router, l.router.route env.route (internalMsg l.session read) = (.ok response, router) →
      l.handleMessage env binaryMessage frame = (.ok (), { l with
        session := l.session.updateLastActiveTime env.answered
        router
        written := l.written ++ carried l.session binaryMessage (internalToBinary response.toMessage) })

-- A binary message arrives as type 2, which among the formats is text.
theorem binary_frames_never_accepted (env : HandleEnv) (l : Line) (onSocket : OnWebSocket l.session) :
    (∀ m, ¬ Accepts env l m) ∧
    ∀ turns : List (HandleEnv × Arrival), (∀ one ∈ turns, ∃ m frame, fromInternal env.converter .webSocket .binary m = .ok frame ∧
        Delivers one.2 frame) → (∀ one ∈ turns, ∀ write, one.1.fails write = none) →
      (handleSessionMessages turns l).router = l.router ∧
        (handleSessionMessages turns l).written = l.written ++ turns.flatMap fun _ => carried l.session binaryMessage refusal := by
  refine ⟨?_, fun turns frames writable => ?_⟩
  · rintro m ⟨frame, read, -, converted, -⟩
    rw [onSocket.kind] at converted
    cases converted
  · apply run_binary turns l onSocket _ writable
    intro one member
    obtain ⟨m, frame, -, delivers⟩ := frames one member
    exact ⟨frame, delivers⟩

def chatLine : Line where
  session := Session.newSession (utf8 "s1") .webSocket 1 0
  stream := ⟨[], "EOF", false, by simp⟩
  router :=
    { instances := (∅ : GoMap _ _).insert (utf8 "chat") [⟨utf8 "c1", utf8 "chat", 1, .up⟩]
      loadBalancer := .roundRobin {}
      serviceMap := (∅ : GoMap _ _).insert 2 (utf8 "chat") }

def chatEnv : HandleEnv where
  converter := plainEnv
  scanner := ""
  now := 0
  route := ⟨0, false⟩
  answered := 1
  refused := 1
  fails _ := none

def chatFrame : List UInt8 := [0, 0, 2, 0, 1, 104, 105]

def binaryArrival (data : List UInt8) : Arrival := ⟨0, .ok (binaryMessage, data), .ok data⟩

theorem chat_line_refuses :
    ¬ Accepts chatEnv chatLine (said "hi") ∧
      (handleSessionMessages [(chatEnv, binaryArrival chatFrame)] chatLine).written = [.frame 1 2 refusal] := by
  obtain ⟨never, run⟩ := binary_frames_never_accepted chatEnv chatLine ⟨rfl, rfl, .inl rfl⟩
  refine ⟨never _, (run [(chatEnv, binaryArrival chatFrame)] ?_ ?_).2⟩
  · intro one member
    rw [List.mem_singleton.mp member]
    exact ⟨said "hi", chatFrame, by decide +kernel, rfl, rfl⟩
  · intro one member write
    rw [List.mem_singleton.mp member]
    rfl

theorem chat_frame_refused :
    fromInternal plainEnv .webSocket .binary (said "hi") = .ok chatFrame ∧
      (handleSessionMessages [(chatEnv, binaryArrival chatFrame)] chatLine).written = [.frame 1 2 refusal] ∧
      (chatLine.handleMessage chatEnv 2 chatFrame).1 = .error (.convert (.unsupportedFormat "")) := by
  decide +kernel

end Binary

end Line

end MmoServer.Gateway
