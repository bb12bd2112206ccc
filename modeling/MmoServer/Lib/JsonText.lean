import MmoServer.Lib.Runes

set_option autoImplicit false

-- JSON texts as encoding/json scans them, with each literal as it is written.
-- A tree is well formed by its type; only white space is not kept.
namespace JsonText

def isPlain (byte : UInt8) : Bool := 32 ≤ byte && byte != 34 && byte != 92

def hexValue (byte : UInt8) : Option (Fin 16) :=
  if h : 48 ≤ byte.toNat ∧ byte.toNat < 58 then some ⟨byte.toNat - 48, by omega⟩
  else if h : 97 ≤ byte.toNat ∧ byte.toNat < 103 then some ⟨byte.toNat - 87, by omega⟩
  else if h : 65 ≤ byte.toNat ∧ byte.toNat < 71 then some ⟨byte.toNat - 55, by omega⟩
  else none

structure Hex where
  byte : UInt8
  value : Fin 16
  read : hexValue byte = some value
deriving DecidableEq

inductive Short where
  | quote
  | backslash
  | slash
  | backspace
  | formFeed
  | newline
  | carriageReturn
  | tab
deriving DecidableEq, Repr

def Short.byte : Short → UInt8
  | .quote => 34
  | .backslash => 92
  | .slash => 47
  | .backspace => 98
  | .formFeed => 102
  | .newline => 110
  | .carriageReturn => 114
  | .tab => 116

def Short.read (byte : UInt8) : Option Short :=
  [.quote, .backslash, .slash, .backspace, .formFeed, .newline, .carriageReturn, .tab].find? fun short => short.byte == byte

inductive StringUnit where
  | plain (byte : UInt8) (ok : isPlain byte = true)
  | short (letter : Short)
  | unicode (a b c d : Hex)
deriving DecidableEq

def StringUnit.write : StringUnit → List UInt8
  | .plain byte _ => [byte]
  | .short letter => [92, letter.byte]
  | .unicode a b c d => [92, 117, a.byte, b.byte, c.byte, d.byte]

structure Digits where
  first : Fin 10
  rest : List (Fin 10)
deriving DecidableEq

-- No zero stands before another digit; the first digit is one more than first.
inductive Whole where
  | zero
  | positive (first : Fin 9) (rest : List (Fin 10))
deriving DecidableEq

structure Exponent where
  upper : Bool
  sign : Option Bool
  digits : Digits
deriving DecidableEq

structure Number where
  negative : Bool := false
  whole : Whole
  fraction : Option Digits := none
  exponent : Option Exponent := none
deriving DecidableEq

inductive Value where
  | null
  | bool (value : Bool)
  | number (number : Number)
  | string (units : List StringUnit)
  | array (items : List Value)
  | object (members : List (List StringUnit × Value))

section Depth

mutual

def Value.nesting : Value → Nat
  | .null | .bool _ | .number _ | .string _ => 0
  | .array items => nestingItems items + 1
  | .object members => nestingMembers members + 1

def nestingItems : List Value → Nat
  | [] => 0
  | item :: rest => max item.nesting (nestingItems rest)

def nestingMembers : List (List StringUnit × Value) → Nat
  | [] => 0
  | (_, value) :: rest => max value.nesting (nestingMembers rest)

end

-- The scanner refuses values that are nested deeper.
def maxNestingDepth : Nat := 10000

end Depth

section Write

def writeDigit (digit : Fin 10) : UInt8 := UInt8.ofNat (48 + digit.val)

def Digits.write (digits : Digits) : List UInt8 := writeDigit digits.first :: digits.rest.map writeDigit

def Whole.write : Whole → List UInt8
  | .zero => [48]
  | .positive first rest => UInt8.ofNat (49 + first.val) :: rest.map writeDigit

def Exponent.write (exponent : Exponent) : List UInt8 :=
  (if exponent.upper = true then 69 else 101) ::
    ((exponent.sign.elim [] fun minus => if minus = true then [45] else [43]) ++ exponent.digits.write)

def Number.write (number : Number) : List UInt8 :=
  (if number.negative = true then [45] else []) ++ number.whole.write ++
    number.fraction.elim [] (fun digits => 46 :: digits.write) ++ number.exponent.elim [] Exponent.write

def writeUnits (units : List StringUnit) : List UInt8 := units.flatMap StringUnit.write

def writeString (units : List StringUnit) : List UInt8 := 34 :: (writeUnits units ++ [34])

mutual

def write : Value → List UInt8
  | .null => [110, 117, 108, 108]
  | .bool true => [116, 114, 117, 101]
  | .bool false => [102, 97, 108, 115, 101]
  | .number number => number.write
  | .string units => writeString units
  | .array items => 91 :: writeItems items
  | .object members => 123 :: writeMembers members

def writeItems : List Value → List UInt8
  | [] => [93]
  | item :: rest => write item ++ writeMoreItems rest

def writeMoreItems : List Value → List UInt8
  | [] => [93]
  | item :: rest => 44 :: (write item ++ writeMoreItems rest)

def writeMembers : List (List StringUnit × Value) → List UInt8
  | [] => [125]
  | (name, value) :: rest => writeString name ++ 58 :: (write value ++ writeMoreMembers rest)

def writeMoreMembers : List (List StringUnit × Value) → List UInt8
  | [] => [125]
  | (name, value) :: rest => 44 :: (writeString name ++ 58 :: (write value ++ writeMoreMembers rest))

end

end Write

section Read

def isSpace (byte : UInt8) : Bool := byte == 32 || byte == 9 || byte == 10 || byte == 13

def skip (bytes : List UInt8) : List UInt8 := bytes.dropWhile isSpace

def readHex (byte : UInt8) : Option Hex :=
  match h : hexValue byte with
  | some value => some ⟨byte, value, h⟩
  | none => none

def readUnits : List UInt8 → Option (List StringUnit × List UInt8)
  | [] => none
  | byte :: rest =>
    if byte = 34 then some ([], rest)
    else if byte = 92 then
      match rest with
      | [] => none
      | letter :: rest =>
        if letter = 117 then
          match rest with
          | a :: b :: c :: d :: rest => do
              let unit := StringUnit.unicode (← readHex a) (← readHex b) (← readHex c) (← readHex d)
              let (units, rest) ← readUnits rest
              return (unit :: units, rest)
          | _ => none
        else do
          let letter ← Short.read letter
          let (units, rest) ← readUnits rest
          return (.short letter :: units, rest)
    else if ok : isPlain byte = true then do
      let (units, rest) ← readUnits rest
      return (.plain byte ok :: units, rest)
    else none

def readDigit (byte : UInt8) : Option (Fin 10) :=
  if h : 48 ≤ byte.toNat ∧ byte.toNat < 58 then some ⟨byte.toNat - 48, by omega⟩ else none

def readDigits : List UInt8 → List (Fin 10) × List UInt8
  | [] => ([], [])
  | byte :: rest =>
    match readDigit byte with
    | none => ([], byte :: rest)
    | some digit => (digit :: (readDigits rest).1, (readDigits rest).2)

def readSome (bytes : List UInt8) : Option (Digits × List UInt8) :=
  match readDigits bytes with
  | ([], _) => none
  | (first :: digits, rest) => some (⟨first, digits⟩, rest)

def readWhole (bytes : List UInt8) : Option (Whole × List UInt8) := do
  let (digits, rest) ← readSome bytes
  if h : digits.first = 0 then
    if digits.rest = [] then return (.zero, rest) else none
  else return (.positive (digits.first.pred h) digits.rest, rest)

def readFraction : List UInt8 → Option (Option Digits × List UInt8)
  | [] => some (none, [])
  | byte :: rest =>
    if byte = 46 then (readSome rest).map fun read => (some read.1, read.2)
    else some (none, byte :: rest)

def readSign : List UInt8 → Option Bool × List UInt8
  | [] => (none, [])
  | byte :: rest => if byte = 45 then (some true, rest) else if byte = 43 then (some false, rest) else (none, byte :: rest)

def readExponent : List UInt8 → Option (Option Exponent × List UInt8)
  | [] => some (none, [])
  | byte :: rest =>
    if byte = 69 ∨ byte = 101 then
      (readSome (readSign rest).2).map fun read => (some ⟨byte = 69, (readSign rest).1, read.1⟩, read.2)
    else some (none, byte :: rest)

def readMinus : List UInt8 → Bool × List UInt8
  | [] => (false, [])
  | byte :: rest => if byte = 45 then (true, rest) else (false, byte :: rest)

def readNumber (bytes : List UInt8) : Option (Number × List UInt8) := do
  let (negative, rest) := readMinus bytes
  let (whole, rest) ← readWhole rest
  let (fraction, rest) ← readFraction rest
  let (exponent, rest) ← readExponent rest
  return ({ negative, whole, fraction, exponent }, rest)

def readWord (word : List UInt8) (value : Value) (bytes : List UInt8) : Option (Value × List UInt8) :=
  if bytes.take word.length = word then some (value, bytes.drop word.length) else none

structure Member where
  name : List StringUnit
  raw : List UInt8
  value : Value

def Member.entry (member : Member) : List StringUnit × Value := (member.name, member.value)

mutual

-- A value after optional space. The first argument bounds the depth of the calls.
def readValue : Nat → List UInt8 → Option (Value × List UInt8)
  | 0, _ => none
  | fuel + 1, bytes =>
    match skip bytes with
    | [] => none
    | byte :: rest =>
      if byte = 34 then (readUnits rest).map fun read => (.string read.1, read.2)
      else if byte = 91 then (readItems fuel rest).map fun read => (.array read.1, read.2)
      else if byte = 123 then (readMembers fuel rest).map fun read => (.object (read.1.map Member.entry), read.2)
      else if byte = 110 then readWord [117, 108, 108] .null rest
      else if byte = 116 then readWord [114, 117, 101] (.bool true) rest
      else if byte = 102 then readWord [97, 108, 115, 101] (.bool false) rest
      else (readNumber (byte :: rest)).map fun read => (.number read.1, read.2)

def readItems : Nat → List UInt8 → Option (List Value × List UInt8)
  | 0, _ => none
  | fuel + 1, bytes =>
    match skip bytes with
    | [] => none
    | byte :: rest =>
      if byte = 93 then some ([], rest)
      else (readValue fuel (byte :: rest)).bind fun first =>
        (readMoreItems fuel first.2).map fun more => (first.1 :: more.1, more.2)

def readMoreItems : Nat → List UInt8 → Option (List Value × List UInt8)
  | 0, _ => none
  | fuel + 1, bytes =>
    match skip bytes with
    | [] => none
    | byte :: rest =>
      if byte = 93 then some ([], rest)
      else if byte = 44 then (readValue fuel rest).bind fun first =>
        (readMoreItems fuel first.2).map fun more => (first.1 :: more.1, more.2)
      else none

def readMembers : Nat → List UInt8 → Option (List Member × List UInt8)
  | 0, _ => none
  | fuel + 1, bytes =>
    match skip bytes with
    | [] => none
    | byte :: rest =>
      if byte = 125 then some ([], rest)
      else (readMember fuel (byte :: rest)).bind fun first =>
        (readMoreMembers fuel first.2).map fun more => (first.1 :: more.1, more.2)

def readMoreMembers : Nat → List UInt8 → Option (List Member × List UInt8)
  | 0, _ => none
  | fuel + 1, bytes =>
    match skip bytes with
    | [] => none
    | byte :: rest =>
      if byte = 125 then some ([], rest)
      else if byte = 44 then (readMember fuel rest).bind fun first =>
        (readMoreMembers fuel first.2).map fun more => (first.1 :: more.1, more.2)
      else none

def readMember : Nat → List UInt8 → Option (Member × List UInt8)
  | 0, _ => none
  | fuel + 1, bytes =>
    match skip bytes with
    | [] => none
    | byte :: rest =>
      if byte = 34 then (readUnits rest).bind fun name =>
        match skip name.2 with
        | [] => none
        | byte :: rest =>
          if byte = 58 then (readValue fuel rest).map fun value =>
            (⟨name.1, (skip rest).take ((skip rest).length - value.2.length), value.1⟩, value.2)
          else none
      else none

end

def whole {α : Type} (read : Option (α × List UInt8)) : Option α :=
  read.bind fun result => if skip result.2 = [] then some result.1 else none

def parseText (bytes : List UInt8) : Option Value := whole (readValue (2 * bytes.length + 1) bytes)

def readText (bytes : List UInt8) : Option Value := (parseText bytes).filter fun value => value.nesting ≤ maxNestingDepth

def readObject (bytes : List UInt8) : Option (List Member) :=
  match skip bytes with
  | [] => none
  | byte :: rest => if byte = 123 then whole (readMembers (2 * bytes.length) rest) else none

end Read

end JsonText
