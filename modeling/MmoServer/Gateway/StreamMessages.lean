import MmoServer.Gateway.Session

set_option autoImplicit false

namespace MmoServer.Gateway.Session

open Bytes Protocol ByteStream

structure OnStream (s : Session) : Prop where
  kind : s.connectionType = .quic
  open_ : s.closed = false
  connected : s.quicStream.isSome

section Writing

variable (fails : Written → Option String)

def writeMessages : Session → List (Int × Int × List UInt8) → List (Except String Unit) × List Written
  | _, [] => ([], [])
  | s, (now, messageType, data) :: later =>
    let call := s.writeMessage now fails messageType data
    let rest := writeMessages call.2.1 later
    (call.1 :: rest.1, call.2.2 ++ rest.2)

def onto : Written → List UInt8
  | .stream _ data => data
  | .frame _ _ _ | .secure _ _ => []

def frame (message : Int × List UInt8) : List UInt8 :=
  putNat 4 message.2.length ++ (putNat 1 (message.1 % 256).toNat ++ message.2)

theorem on_stream_active (s : Session) (now : Int) (onStream : OnStream s) : OnStream (s.updateLastActiveTime now) :=
  ⟨onStream.kind, onStream.open_, onStream.connected⟩

theorem write_on_stream (now : Int) (messageType : Int) (data : List UInt8) (s : Session) (onStream : OnStream s)
    (works : ∀ write, fails write = none) :
    ∃ written, s.writeMessage now fails messageType data = (.ok (), s.updateLastActiveTime now, written) ∧
      written.flatMap onto = frame (messageType, data) := by
  obtain ⟨kind, open_, connected⟩ := onStream
  obtain ⟨conn, its⟩ := Option.isSome_iff_exists.mp connected
  refine ⟨[.stream conn (putNat 4 data.length), .stream conn (putNat 1 (messageType % 256).toNat), .stream conn data], ?_, ?_⟩
  · rw [writeMessage, if_neg (by rw [open_]; decide), kind, its]
    simp only [writeAll, works]
  · simp [onto, frame]

theorem writes_frames (s : Session) (calls : List (Int × Int × List UInt8)) (onStream : OnStream s)
    (works : ∀ write, fails write = none) :
    (writeMessages fails s calls).1 = calls.map (fun _ => .ok ()) ∧
      (writeMessages fails s calls).2.flatMap onto = (calls.map Prod.snd).flatMap frame := by
  induction calls generalizing s with
  | nil => exact ⟨rfl, rfl⟩
  | cons call later ih =>
    obtain ⟨now, messageType, data⟩ := call
    obtain ⟨written, first, bytes⟩ := write_on_stream fails now messageType data s onStream works
    obtain ⟨answers, rest⟩ := ih (s.updateLastActiveTime now) (on_stream_active s now onStream)
    rw [writeMessages, first]
    refine ⟨congrArg _ answers, ?_⟩
    rw [List.flatMap_append, bytes, rest]
    rfl

end Writing

section Reading

def readMessages : Session → ByteStream → List Arrival → List (Except String (Int × List UInt8)) × ByteStream
  | _, stream, [] => ([], stream)
  | s, stream, arrival :: later =>
    let call := s.readMessage arrival stream
    let rest := readMessages call.2.1 call.2.2 later
    (call.1 :: rest.1, rest.2)

theorem read_on_stream (arrival : Arrival) (stream : ByteStream) (s : Session) (onStream : OnStream s) :
    s.readMessage arrival stream = ((readStream stream).1, s.updateLastActiveTime arrival.now, (readStream stream).2) := by
  obtain ⟨kind, open_, connected⟩ := onStream
  obtain ⟨conn, its⟩ := Option.isSome_iff_exists.mp connected
  rw [readMessage, if_neg (by rw [open_]; decide), kind, its]

def afterHeader (stream : ByteStream) : ByteStream := (stream.afterFill 4).afterFill 1

variable (s : Session) (stream : ByteStream)

theorem after_header_bytes : (afterHeader stream).bytes = stream.bytes.drop 5 := by
  rw [afterHeader, after_fill_bytes, after_fill_bytes, List.drop_drop]

def InOneRead (size : Nat) (content : ByteStream) : Prop := (content.read size).1.length = size ∧ (content.read size).2.1 = none

instance decidableInOneRead (size : Nat) (content : ByteStream) : Decidable (InOneRead size content) :=
  inferInstanceAs (Decidable (_ ∧ _))

def Intact : List (Int × List UInt8) → ByteStream → Prop
  | [], _ => True
  | message :: later, stream =>
    InOneRead message.2.length (afterHeader stream) ∧ Intact later ((afterHeader stream).afterRead message.2.length)

instance decidableIntact : ∀ messages stream, Decidable (Intact messages stream)
  | [], _ => inferInstanceAs (Decidable True)
  | message :: later, stream =>
    have := decidableIntact later ((afterHeader stream).afterRead message.2.length)
    inferInstanceAs (Decidable (_ ∧ _))

def Fits (message : Int × List UInt8) : Prop := 0 ≤ message.1 ∧ message.1 < 256 ∧ message.2.length < 2 ^ 32

instance decidableFits (message : Int × List UInt8) : Decidable (Fits message) := inferInstanceAs (Decidable (_ ∧ _ ∧ _))

theorem read_number_ok (size : Nat) (stream : ByteStream) (enough : size ≤ stream.bytes.length) :
    readNumber size stream = (.ok (getNat (stream.bytes.take size)), stream.afterFill size) := by
  rw [readNumber, read_full_ok size stream enough]

theorem read_number_enough (size value : Nat) (stream after : ByteStream) (read : readNumber size stream = (.ok value, after)) :
    size ≤ stream.bytes.length := by
  by_contra short
  obtain ⟨err, failed⟩ := read_full_short size stream (Nat.lt_of_not_le short)
  rw [readNumber, failed] at read
  cases read

theorem read_frame (messageType : Int) (data rest : List UInt8) (fits : Fits (messageType, data))
    (carried : stream.bytes = frame (messageType, data) ++ rest) (whole : InOneRead data.length (afterHeader stream)) :
    readStream stream = (.ok (messageType, data), (afterHeader stream).afterRead data.length) ∧
      ((afterHeader stream).afterRead data.length).bytes = rest := by
  obtain ⟨low, high, limited⟩ : 0 ≤ messageType ∧ messageType < 256 ∧ data.length < 2 ^ 32 := fits
  have short : data.length < 256 ^ 4 := limited
  obtain ⟨full, fine⟩ := whole
  replace carried : stream.bytes = putNat 4 data.length ++ (putNat 1 (messageType % 256).toNat ++ (data ++ rest)) := by
    rw [carried, frame, List.append_assoc, List.append_assoc]
  have typed : (stream.afterFill 4).bytes = putNat 1 (messageType % 256).toNat ++ (data ++ rest) := by
    rw [after_fill_bytes, carried, List.drop_left' (put_nat_length 4 _)]
  have content : (afterHeader stream).bytes = data ++ rest := by
    rw [afterHeader, after_fill_bytes, typed, List.drop_left' (put_nat_length 1 _)]
  have length : readNumber 4 stream = (.ok data.length, stream.afterFill 4) := by
    rw [read_number_ok 4 stream (by rw [carried]; simp), carried, List.take_left' (put_nat_length 4 _), get_put_nat,
      Nat.mod_eq_of_lt short]
  have kind : readNumber 1 (stream.afterFill 4) = (.ok messageType.toNat, afterHeader stream) := by
    have same : (messageType % 256).toNat % 256 ^ 1 = messageType.toNat := by omega
    rw [read_number_ok 1 _ (by rw [typed]; simp), typed, List.take_left' (put_nat_length 1 _), get_put_nat, same, afterHeader]
  obtain ⟨bytes, left⟩ := List.append_inj ((read_parts data.length (afterHeader stream)).trans content) full
  have once : (afterHeader stream).read data.length = (data, none, (afterHeader stream).afterRead data.length) :=
    Prod.ext bytes (Prod.ext fine rfl)
  refine ⟨?_, left⟩
  simp only [readStream, length, kind, once, Nat.sub_self, List.replicate_zero, List.append_nil, Int.toNat_of_nonneg low]

section

variable (stream after : ByteStream) (message : Int × List UInt8) (read : readStream stream = (.ok message, after))

include read

theorem read_ok_parts :
    5 ≤ stream.bytes.length ∧ after = (afterHeader stream).afterRead message.2.length ∧
      ((afterHeader stream).read message.2.length).2.1 = none := by
  rw [readStream] at read
  split at read
  · cases read
  · rename_i size typed sized
    have four := read_number_enough 4 size stream typed sized
    rw [read_number_ok 4 stream four] at sized
    obtain ⟨-, rfl⟩ := Prod.mk.inj sized
    split at read
    · cases read
    · rename_i kind content named
      have one := read_number_enough 1 kind _ content named
      rw [read_number_ok 1 _ one] at named
      obtain ⟨-, here⟩ := Prod.mk.inj named
      change afterHeader stream = content at here
      rw [after_fill_bytes, List.length_drop] at one
      split at read
      · cases read
      · rename_i bytes left once
        cases read
        have fits : bytes.length ≤ size := by
          have limit := read_length_le size content
          rwa [once] at limit
        have length : (bytes ++ List.replicate (size - bytes.length) 0).length = size := by
          rw [List.length_append, List.length_replicate]
          omega
        rw [length, here, once]
        exact ⟨by omega, (congrArg (fun got => got.2.2) once).symm, rfl⟩

theorem read_takes :
    stream.bytes.length ≤ (frame message).length + after.bytes.length ∧
      (stream.bytes.length = (frame message).length + after.bytes.length → InOneRead message.2.length (afterHeader stream)) := by
  obtain ⟨enough, rfl, fine⟩ := read_ok_parts stream after message read
  have limit := read_length_le message.2.length (afterHeader stream)
  have parts := congrArg List.length (read_parts message.2.length (afterHeader stream))
  rw [List.length_append, after_header_bytes, List.length_drop] at parts
  have size : (frame message).length = 5 + message.2.length := by
    simp only [frame, List.length_append, put_nat_length]
    omega
  exact ⟨by omega, fun all => ⟨by omega, fine⟩⟩

end

theorem reads_intact (messages : List (Int × List UInt8)) (arrivals : List Arrival) (rest : List UInt8) (onStream : OnStream s)
    (fit : ∀ message ∈ messages, Fits message) (each : arrivals.length = messages.length)
    (carried : stream.bytes = messages.flatMap frame ++ rest) (intact : Intact messages stream) :
    (readMessages s stream arrivals).1 = messages.map .ok ∧ (readMessages s stream arrivals).2.bytes = rest := by
  induction messages generalizing s stream arrivals with
  | nil =>
    obtain rfl := List.length_eq_zero_iff.mp each
    exact ⟨rfl, carried⟩
  | cons message later ih =>
    cases arrivals with
    | nil => cases each
    | cons arrival arrivals =>
      rw [List.flatMap_cons, List.append_assoc] at carried
      obtain ⟨read, left⟩ := read_frame stream message.1 message.2 _ (fit message List.mem_cons_self) carried intact.1
      have next := ih (s.updateLastActiveTime arrival.now) ((afterHeader stream).afterRead message.2.length) arrivals
        (on_stream_active s arrival.now onStream) (fun other member => fit other (List.mem_cons_of_mem _ member))
        (Nat.succ.inj each) left intact.2
      rw [readMessages, read_on_stream arrival stream s onStream, read]
      exact ⟨congrArg _ next.1, next.2⟩

theorem reads_take (messages : List (Int × List UInt8)) (arrivals : List Arrival) (onStream : OnStream s)
    (returned : (readMessages s stream arrivals).1 = messages.map .ok) :
    stream.bytes.length ≤ (messages.flatMap frame).length + (readMessages s stream arrivals).2.bytes.length ∧
      (stream.bytes.length = (messages.flatMap frame).length + (readMessages s stream arrivals).2.bytes.length →
        Intact messages stream) := by
  induction messages generalizing s stream arrivals with
  | nil =>
    cases arrivals with
    | nil => simp [readMessages, Intact]
    | cons => cases returned
  | cons message later ih =>
    cases arrivals with
    | nil => cases returned
    | cons arrival arrivals =>
      rw [readMessages, read_on_stream arrival stream s onStream] at returned ⊢
      obtain ⟨first, others⟩ := List.cons.inj returned
      have read : readStream stream = (.ok message, (readStream stream).2) := Prod.ext first rfl
      obtain ⟨-, here, -⟩ := read_ok_parts stream _ message read
      obtain ⟨most, all⟩ := read_takes stream _ message read
      obtain ⟨mostLater, allLater⟩ := ih _ (readStream stream).2 arrivals (on_stream_active s arrival.now onStream) others
      rw [List.flatMap_cons, List.length_append]
      refine ⟨by dsimp only; omega, fun total => ?_⟩
      dsimp only at total
      rw [Intact, ← here]
      exact ⟨all (by omega), allLater (by omega)⟩

end Reading

theorem stream_messages_iff (fails : Written → Option String) (works : ∀ write, fails write = none) (writer reader : Session)
    (writes : OnStream writer) (reads : OnStream reader) (calls : List (Int × Int × List UInt8))
    (fit : ∀ call ∈ calls, Fits call.2) (arrivals : List Arrival) (each : arrivals.length = calls.length) (stream : ByteStream)
    (rest : List UInt8) (carried : stream.bytes = (writeMessages fails writer calls).2.flatMap onto ++ rest) :
    (readMessages reader stream arrivals).1 = calls.map (fun call => .ok call.2) ∧
        (readMessages reader stream arrivals).2.bytes = rest ↔
      Intact (calls.map Prod.snd) stream := by
  rw [(writes_frames fails writer calls writes works).2] at carried
  have messages : calls.map (fun call => (.ok call.2 : Except String (Int × List UInt8))) = (calls.map Prod.snd).map .ok := by
    rw [List.map_map]
    rfl
  rw [messages]
  constructor
  · rintro ⟨returned, left⟩
    refine (reads_take reader stream _ arrivals reads returned).2 ?_
    rw [carried, left, List.length_append]
  · intro intact
    refine reads_intact reader stream _ arrivals rest reads ?_ (by rw [each, List.length_map]) carried intact
    intro message member
    obtain ⟨call, its, rfl⟩ := List.mem_map.mp member
    exact fit call its

def player : Session := { id := [65], connectionType := .quic, lastActivity := 0, quicStream := some 1 }

def reading : Arrival := ⟨1, .error "none", .error "none"⟩

theorem player_on_stream : OnStream player := ⟨rfl, rfl, rfl⟩

def splitHeaders : ByteStream where
  pieces := [[0, 0], [0, 2, 1], [7, 8], [0, 0, 0, 1], [2, 9], [5]]
  full := by decide

theorem split_headers_read :
    (readMessages player splitHeaders [reading, reading]).1 = [.ok (1, [7, 8]), .ok (2, [9])] ∧
      (readMessages player splitHeaders [reading, reading]).2.bytes = [5] :=
  (stream_messages_iff (fun _ => none) (fun _ => rfl) player player player_on_stream player_on_stream [(1, 1, [7, 8]), (2, 2, [9])]
    (by decide) [reading, reading] rfl splitHeaders [5] (by decide)).mpr (by decide)

def splitContent : ByteStream where
  pieces := [[0, 0, 0, 2, 1, 7], [8]]
  full := by decide

def shifted : ByteStream where
  pieces := [[0, 0, 0, 2, 1, 7], [0, 0, 0, 0, 1, 2, 9]]
  full := by decide

theorem split_content_lost :
    splitContent.bytes = (writeMessages (fun _ => none) player [(1, 1, [7, 8])]).2.flatMap onto ∧
      (readMessages player splitContent [reading]).1 = [.ok (1, [7, 0])] ∧
      shifted.bytes = (writeMessages (fun _ => none) player [(1, 1, [7, 0]), (2, 2, [9])]).2.flatMap onto ∧
      (readMessages player shifted [reading, reading]).1 = [.ok (1, [7, 0]), .ok (1, [])] := by
  decide +kernel

end MmoServer.Gateway.Session
