import Mathlib.Tactic

set_option autoImplicit false

-- A stream of bytes that arrives in pieces. One read takes from the first piece only,
-- so every way of dividing the bytes into reads is a list of pieces.
structure ByteStream where
  pieces : List (List UInt8)
  ending : String := "EOF"
  -- The end may come along with the last bytes, or by itself after them.
  endsWithLast : Bool := false
  full : ∀ piece ∈ pieces, piece ≠ []

namespace ByteStream

def bytes (s : ByteStream) : List UInt8 := s.pieces.flatten

section Read

def readPieces (size : Nat) : List (List UInt8) → List UInt8 × List (List UInt8)
  | [] => ([], [])
  | piece :: rest => if size < piece.length then (piece.take size, piece.drop size :: rest) else (piece, rest)

variable (size : Nat) (s : ByteStream)

theorem read_pieces_full (pieces : List (List UInt8)) (full : ∀ piece ∈ pieces, piece ≠ []) :
    ∀ piece ∈ (readPieces size pieces).2, piece ≠ [] := by
  cases pieces with
  | nil => simp [readPieces]
  | cons first rest =>
    have later : ∀ piece ∈ rest, piece ≠ [] := fun piece member => full piece (List.mem_cons_of_mem _ member)
    rw [readPieces]
    split
    · rename_i cut
      intro piece member
      rcases List.mem_cons.mp member with rfl | after
      · simpa using cut
      · exact later piece after
    · exact later

def afterRead (size : Nat) (s : ByteStream) : ByteStream :=
  { s with pieces := (readPieces size s.pieces).2, full := read_pieces_full size s.pieces s.full }

def read (size : Nat) (s : ByteStream) : List UInt8 × Option String × ByteStream :=
  let after := s.afterRead size
  let ended := s.pieces = [] ∨ after.pieces = [] ∧ s.endsWithLast = true
  ((readPieces size s.pieces).1, if ended then some s.ending else none, after)

theorem read_pieces_flatten (pieces : List (List UInt8)) :
    (readPieces size pieces).1 ++ (readPieces size pieces).2.flatten = pieces.flatten := by
  cases pieces with
  | nil => rfl
  | cons piece rest =>
    rw [readPieces]
    split
    · rw [List.flatten_cons, ← List.append_assoc, List.take_append_drop, List.flatten_cons]
    · rw [List.flatten_cons]

theorem read_length_le : (s.read size).1.length ≤ size := by
  rw [read]
  cases s.pieces with
  | nil => exact Nat.zero_le size
  | cons piece rest =>
    rw [readPieces]
    split
    · exact List.length_take_le size piece
    · rename_i whole
      exact Nat.le_of_not_lt whole

theorem read_parts : (s.read size).1 ++ (s.afterRead size).bytes = s.bytes :=
  read_pieces_flatten size s.pieces

theorem after_read_bytes : (s.afterRead size).bytes = s.bytes.drop (s.read size).1.length := by
  rw [← read_parts size s, List.drop_left]

end Read

section ReadFull

def fill : Nat → List (List UInt8) → List UInt8 × List (List UInt8)
  | _, [] => ([], [])
  | size, piece :: rest =>
    if size < piece.length then (piece.take size, piece.drop size :: rest)
    else (piece ++ (fill (size - piece.length) rest).1, (fill (size - piece.length) rest).2)

variable (size : Nat) (s : ByteStream)

theorem fill_full (pieces : List (List UInt8)) (full : ∀ piece ∈ pieces, piece ≠ []) : ∀ piece ∈ (fill size pieces).2, piece ≠ [] := by
  induction pieces generalizing size with
  | nil => simp [fill]
  | cons first rest ih =>
    have later : ∀ piece ∈ rest, piece ≠ [] := fun piece member => full piece (List.mem_cons_of_mem _ member)
    rw [fill]
    split
    · rename_i cut
      intro piece member
      rcases List.mem_cons.mp member with rfl | after
      · simpa using cut
      · exact later piece after
    · exact ih (size - first.length) later

def afterFill (size : Nat) (s : ByteStream) : ByteStream :=
  { s with pieces := (fill size s.pieces).2, full := fill_full size s.pieces s.full }

def readFull (size : Nat) (s : ByteStream) : Except String (List UInt8) × ByteStream :=
  let got := (fill size s.pieces).1
  if got.length = size then (.ok got, s.afterFill size)
  else (.error (if got ≠ [] ∧ s.ending = "EOF" then "unexpected EOF" else s.ending), s.afterFill size)

theorem fill_eq (pieces : List (List UInt8)) :
    (fill size pieces).1 = pieces.flatten.take size ∧ (fill size pieces).2.flatten = pieces.flatten.drop size := by
  induction pieces generalizing size with
  | nil => simp [fill]
  | cons piece rest ih =>
    obtain ⟨taken, left⟩ := ih (size - piece.length)
    rw [fill, List.flatten_cons, List.take_append, List.drop_append]
    split
    · rename_i cut
      rw [Nat.sub_eq_zero_of_le cut.le]
      simp
    · rename_i whole
      have fits : piece.length ≤ size := Nat.le_of_not_lt whole
      rw [List.take_of_length_le fits, List.drop_of_length_le fits, List.nil_append]
      exact ⟨congrArg (piece ++ ·) taken, left⟩

theorem read_full_ok (enough : size ≤ s.bytes.length) : s.readFull size = (.ok (s.bytes.take size), s.afterFill size) := by
  have taken : (fill size s.pieces).1 = s.bytes.take size := (fill_eq size s.pieces).1
  have length : (s.bytes.take size).length = size := by
    rw [List.length_take]
    omega
  simp only [readFull, taken, length, if_true]

theorem read_full_short (short : s.bytes.length < size) : ∃ err, s.readFull size = (.error err, s.afterFill size) := by
  have taken : (fill size s.pieces).1 = s.bytes.take size := (fill_eq size s.pieces).1
  have length : (s.bytes.take size).length ≠ size := by
    rw [List.length_take]
    omega
  simp only [readFull, taken, if_neg length]
  exact ⟨_, rfl⟩

theorem after_fill_bytes : (s.afterFill size).bytes = s.bytes.drop size :=
  (fill_eq size s.pieces).2

end ReadFull

end ByteStream
