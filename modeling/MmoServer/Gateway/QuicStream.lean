import MmoServer.Gateway.Session
import MmoServer.Protocol.Frames

set_option autoImplicit false

namespace MmoServer.Gateway

open Bytes Json Protocol Session

-- What a stream handler takes from its surroundings. Conversions are numbered, for
-- the times that they put into their messages.
structure StreamEnv where
  converter : ConverterEnv
  clock : Nat → UInt64
  generated : List UInt8
  handleMessage : Message → Except String (Option OutMessage)
  stream : Nat
  fails : Written → Option String

namespace QuicStream

variable (env : StreamEnv) (bufferSize : Nat)

def writeFrame (lengthText contentText : String) (data : List UInt8) : Except String Unit × List Written :=
  let lenBuf := Written.stream env.stream (putNat 4 data.length)
  let content := Written.stream env.stream data
  match env.fails lenBuf with
  | some err => (.error (lengthText ++ err), [])
  | none =>
    match env.fails content with
    | some err => (.error (contentText ++ err), [lenBuf])
    | none => (.ok (), [lenBuf, content])

section Authentication

def authResponse (sessionID : List UInt8) : Message where
  version := 0
  flags := 0
  serviceType := 1
  messageType := 2
  sequenceID := 0
  timestamp := 0
  payloadLength := 0
  sourceService := []
  destinationService := []
  correlationID := []
  sessionID := sessionID
  payload := utf8 "\x7b\"status\":\"authenticated\"\x7d"

-- The authentication message has no length in front: whatever one Read brings is the message.
def performAuthentication (stream : ByteStream) : Except String (List UInt8) × ByteStream × List Written :=
  match stream.read bufferSize with
  | (_, some err, after) => (.error ("failed to read authentication message: " ++ err), after, [])
  | (bytes, none, after) =>
    match toInternal env.converter (env.clock 0) .quic .binary bytes with
    | .error err => (.error ("failed to parse authentication message: " ++ err.text ""), after, [])
    | .ok authMsg =>
      let sessionID := if authMsg.sessionID = [] then env.generated else authMsg.sessionID
      match fromInternal env.converter .quic .binary (authResponse sessionID).out with
      | .error err => (.error ("failed to convert auth response to binary: " ++ err.text ""), after, [])
      | .ok responseBinary =>
        match writeFrame env "failed to write auth response length: " "failed to write auth response: " responseBinary with
        | (.error err, written) => (.error err, after, written)
        | (.ok _, written) => (.ok sessionID, after, written)

end Authentication

section Messages

def sendResponse (response : OutMessage) : Except String Unit × List Written :=
  match fromInternal env.converter .quic .binary response with
  | .error err => (.error ("failed to convert message to binary: " ++ err.text ""), [])
  | .ok binary => writeFrame env "failed to write message length: " "failed to write message content: " binary

def reply (msg : Message) : List Written :=
  match env.handleMessage msg with
  | .ok (some response) => (sendResponse env response).2
  | .ok none | .error _ => []

-- The frames of a stream: the messages passed on, and what was written. The fuel is
-- more than the bytes that are left.
def handleFrames (sessionID : List UInt8) : Nat → Nat → ByteStream → List Message × List Written
  | 0, _, _ => ([], [])
  | fuel + 1, count, stream =>
    match stream.readFull 4 with
    | (.error _, _) => ([], [])
    | (.ok lenBuf, content) =>
      if bufferSize % 2 ^ 32 < getNat lenBuf then ([], [])
      else
        match content.readFull (getNat lenBuf) with
        | (.error _, _) => ([], [])
        | (.ok msgBuf, rest) =>
          let later := handleFrames sessionID fuel (count + 1) rest
          match toInternal env.converter (env.clock count) .quic .binary msgBuf with
          | .error _ => later
          | .ok read =>
            let msg := { read with sessionID }
            (msg :: later.1, reply env msg ++ later.2)

def handleStream (stream : ByteStream) : List Message × List Written :=
  match performAuthentication env bufferSize stream with
  | (.error _, _, written) => ([], written)
  | (.ok sessionID, after, written) =>
    let frames := handleFrames env bufferSize sessionID (after.bytes.length + 1) 1 after
    (frames.1, written ++ frames.2)

end Messages

section Contents

def framesOf (sessionID : List UInt8) : Nat → Nat → List UInt8 → List Message × List Written
  | 0, _, _ => ([], [])
  | fuel + 1, count, bytes =>
    let msgLen := getNat (bytes.take 4)
    if bytes.length < 4 ∨ bufferSize % 2 ^ 32 < msgLen ∨ bytes.length < 4 + msgLen then ([], [])
    else
      let later := framesOf sessionID fuel (count + 1) (bytes.drop (4 + msgLen))
      match toInternal env.converter (env.clock count) .quic .binary ((bytes.drop 4).take msgLen) with
      | .error _ => later
      | .ok read =>
        let msg := { read with sessionID }
        (msg :: later.1, reply env msg ++ later.2)

theorem handle_frames_bytes (sessionID : List UInt8) (fuel count : Nat) (stream : ByteStream) :
    handleFrames env bufferSize sessionID fuel count stream = framesOf env bufferSize sessionID fuel count stream.bytes := by
  induction fuel generalizing count stream with
  | zero => rfl
  | succ fuel ih =>
    rw [handleFrames, framesOf]
    rcases Nat.lt_or_ge stream.bytes.length 4 with short | long
    · obtain ⟨err, read⟩ := stream.read_full_short 4 short
      simp only [read, short, true_or, if_true]
    · rw [stream.read_full_ok 4 long]
      simp only
      by_cases large : bufferSize % 2 ^ 32 < getNat (stream.bytes.take 4)
      · simp only [large, true_or, or_true, if_true]
      · have after := stream.after_fill_bytes 4
        rcases Nat.lt_or_ge stream.bytes.length (4 + getNat (stream.bytes.take 4)) with cut | whole
        · have short : (stream.afterFill 4).bytes.length < getNat (stream.bytes.take 4) := by
            rw [after, List.length_drop]
            omega
          obtain ⟨err, read⟩ := (stream.afterFill 4).read_full_short _ short
          simp only [if_neg large, read, cut, or_true, if_true]
        · have enough : getNat (stream.bytes.take 4) ≤ (stream.afterFill 4).bytes.length := by
            rw [after, List.length_drop]
            omega
          have going : ¬ (stream.bytes.length < 4 ∨ bufferSize % 2 ^ 32 < getNat (stream.bytes.take 4) ∨
              stream.bytes.length < 4 + getNat (stream.bytes.take 4)) := by
            omega
          rw [if_neg large, (stream.afterFill 4).read_full_ok _ enough]
          simp only [if_neg going, ih, ByteStream.after_fill_bytes, List.drop_drop]

theorem frames_of_fuel (sessionID : List UInt8) (fuel more count : Nat) (bytes : List UInt8) (enough : bytes.length < fuel)
    (enoughMore : bytes.length < more) :
    framesOf env bufferSize sessionID fuel count bytes = framesOf env bufferSize sessionID more count bytes := by
  induction fuel generalizing more count bytes with
  | zero => omega
  | succ fuel ih =>
    cases more with
    | zero => omega
    | succ more =>
      rw [framesOf, framesOf]
      split
      · rfl
      · have shorter : (bytes.drop (4 + getNat (bytes.take 4))).length < bytes.length := by
          rw [List.length_drop]
          omega
        rw [ih more (count + 1) _ (by omega) (by omega)]

end Contents

section Delivery

def frame (content : List UInt8) : List UInt8 := putNat 4 content.length ++ content

def sent (auth : List UInt8) (contents : List (List UInt8)) : List UInt8 := auth ++ contents.flatMap frame

def messagesOf (sessionID : List UInt8) : Nat → List (List UInt8) → List Message
  | _, [] => []
  | count, content :: rest =>
    match toInternal env.converter (env.clock count) .quic .binary content with
    | .error _ => messagesOf sessionID (count + 1) rest
    | .ok read => { read with sessionID } :: messagesOf sessionID (count + 1) rest

theorem frames_of_sent (sessionID : List UInt8) (contents : List (List UInt8))
    (fit : ∀ content ∈ contents, content.length ≤ bufferSize % 2 ^ 32) (fuel count : Nat) (enough : contents.length < fuel) :
    (framesOf env bufferSize sessionID fuel count (contents.flatMap frame)).1 = messagesOf env sessionID count contents := by
  induction contents generalizing fuel count with
  | nil =>
    cases fuel with
    | zero => rfl
    | succ fuel => simp [framesOf, messagesOf]
  | cons content rest ih =>
    cases fuel with
    | zero => simp at enough
    | succ fuel =>
      have small : content.length ≤ bufferSize % 2 ^ 32 := fit content (by simp)
      have length : getNat (putNat 4 content.length) = content.length := by
        rw [get_put_nat]
        omega
      have head : (putNat 4 content.length).length = 4 := put_nat_length _ _
      have bytes : (content :: rest).flatMap frame = putNat 4 content.length ++ (content ++ rest.flatMap frame) := by
        rw [List.flatMap_cons, frame, List.append_assoc]
      have later := ih (fun content member => fit content (List.mem_cons_of_mem _ member)) fuel (count + 1)
        (by rw [List.length_cons] at enough; omega)
      rw [bytes, framesOf, messagesOf]
      simp only [List.take_left' head, List.drop_left' head, length, ← List.drop_drop, List.take_left, List.drop_left]
      rw [if_neg]
      · cases toInternal env.converter (env.clock count) .quic .binary content with
        | error err => exact later
        | ok read => simp only [later]
      · simp only [List.length_append, head]
        omega

def taken (stream : ByteStream) : Option Nat :=
  match stream.read bufferSize with
  | (bytes, none, _) => if 5 ≤ bytes.length then some bytes.length else none
  | (_, some _, _) => none

def passedAfter (bytes : List UInt8) : Option Nat → List Message
  | none => []
  | some n => (framesOf env bufferSize env.generated (bytes.length + 1) 1 (bytes.drop n)).1

theorem writes_frame (lengthText contentText : String) (data : List UInt8) (works : ∀ write, env.fails write = none) :
    ∃ written, writeFrame env lengthText contentText data = (.ok (), written) := by
  simp [writeFrame, works]

theorem binary_unnamed (now : UInt64) (bytes : List UInt8) (m : Message) (read : binaryToInternal now bytes = .ok m) :
    m.sessionID = [] := by
  unfold binaryToInternal at read
  split at read
  · cases read
    rfl
  · cases read

theorem passed_by_first_read (stream : ByteStream) (works : ∀ write, env.fails write = none) :
    (handleStream env bufferSize stream).1 = passedAfter env bufferSize stream.bytes (taken bufferSize stream) := by
  have after := stream.after_read_bytes bufferSize
  rw [handleStream, performAuthentication, taken]
  rcases read : stream.read bufferSize with ⟨bytes, err, rest⟩
  have rests : rest = stream.afterRead bufferSize := congrArg (fun result => result.2.2) read.symm
  rw [read] at after
  cases err with
  | some err => rfl
  | none =>
    simp only
    by_cases long : 5 ≤ bytes.length
    · obtain ⟨m, converted⟩ : ∃ m, toInternal env.converter (env.clock 0) .quic .binary bytes = .ok m := by
        cases result : toInternal env.converter (env.clock 0) .quic .binary bytes with
        | ok m => exact ⟨m, rfl⟩
        | error err =>
          have short := (binary_refused_iff (env.clock 0) bytes).mp ⟨err, result⟩
          omega
      have unnamed : m.sessionID = [] := binary_unnamed (env.clock 0) bytes m converted
      obtain ⟨written, wrote⟩ := writes_frame env "failed to write auth response length: " "failed to write auth response: "
        (internalToBinary (authResponse env.generated)) works
      have response : fromInternal env.converter .quic .binary (authResponse env.generated).out =
          .ok (internalToBinary (authResponse env.generated)) := rfl
      simp only [converted, unnamed, if_true, response, wrote, if_pos long, passedAfter]
      rw [handle_frames_bytes, rests, after]
      rw [frames_of_fuel env bufferSize env.generated _ (stream.bytes.length + 1) 1 _ (Nat.lt_succ_self _)]
      rw [List.length_drop]
      omega
    · obtain ⟨err, refused⟩ := (binary_refused_iff (env.clock 0) bytes).mpr (by omega)
      have converted : toInternal env.converter (env.clock 0) .quic .binary bytes = .error err := refused
      simp only [converted, if_neg long, passedAfter]

-- A first Read that brings the authentication message and nothing else makes the
-- messages those of the frames, however the rest is divided. In general two divisions
-- of the same bytes agree exactly when they agree after what their first Reads take.
theorem delivery_by_first_read (works : ∀ write, env.fails write = none) (auth : List UInt8) (contents : List (List UInt8))
    (fit : ∀ content ∈ contents, content.length ≤ bufferSize % 2 ^ 32) :
    (∀ stream, stream.bytes = sent auth contents → taken bufferSize stream = some auth.length →
      (handleStream env bufferSize stream).1 = messagesOf env env.generated 1 contents) ∧
    ∀ first second, first.bytes = sent auth contents → second.bytes = sent auth contents →
      ((handleStream env bufferSize first).1 = (handleStream env bufferSize second).1 ↔
        passedAfter env bufferSize (sent auth contents) (taken bufferSize first) =
          passedAfter env bufferSize (sent auth contents) (taken bufferSize second)) := by
  constructor
  · intro stream bytes authenticated
    have long : contents.length ≤ (contents.flatMap frame).length := by
      rw [List.length_flatMap]
      refine (List.length_le_sum_of_one_le _ ?_).trans' (by simp)
      intro length member
      obtain ⟨content, -, rfl⟩ := List.mem_map.mp member
      simp only [frame, List.length_append, put_nat_length]
      omega
    rw [passed_by_first_read env bufferSize stream works, authenticated, bytes, passedAfter, sent, List.drop_left]
    apply frames_of_sent env bufferSize env.generated contents fit
    rw [List.length_append]
    omega
  · intro first second firstBytes secondBytes
    rw [passed_by_first_read env bufferSize first works, passed_by_first_read env bufferSize second works, firstBytes, secondBytes]

def loginEnv : StreamEnv where
  converter := plainEnv
  clock _ := 0
  generated := [1]
  handleMessage _ := .ok none
  stream := 4
  fails _ := none

def login : List UInt8 := [0, 0, 4, 0, 1]

def chat : List UInt8 := [0, 0, 2, 0, 1, 104, 105]

def chatMessage : Message := { newMessage 0 2 1 [104, 105] with sessionID := [1] }

theorem split_frame_delivered :
    (handleStream loginEnv 1024 ⟨[login, [0, 0], [0, 7, 0, 0, 2], [0, 1, 104, 105]], "EOF", true, by decide⟩).1 = [chatMessage] := by
  have delivered := (delivery_by_first_read loginEnv 1024 (fun _ => rfl) login [chat] (by decide)).1
    ⟨[login, [0, 0], [0, 7, 0, 0, 2], [0, 1, 104, 105]], "EOF", true, by decide⟩ (by decide) (by decide)
  rw [delivered]
  decide +kernel

theorem coalesced_frame_lost :
    (handleStream loginEnv 1024 ⟨[login, frame chat], "EOF", false, by decide⟩).1 = [chatMessage] ∧
      (handleStream loginEnv 1024 ⟨[login ++ frame chat], "EOF", false, by decide⟩).1 = [] ∧
      (handleStream loginEnv 1024 ⟨[[0, 0, 4], [0, 1] ++ frame chat], "EOF", false, by decide⟩).1 = [] := by
  decide +kernel

end Delivery

end QuicStream

end MmoServer.Gateway
