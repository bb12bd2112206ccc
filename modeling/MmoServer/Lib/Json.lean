import MmoServer.Lib.Base64

set_option autoImplicit false

-- encoding/json: values, the text that Marshal writes, and how Unmarshal stores a
-- value in the fields of a struct.
inductive Json where
  | null
  | bool (value : Bool)
  | num (value : Int)
  | fraction (literal : String)
  | str (text : String)
  | arr (items : List Json)
  | obj (fields : List (String × Json))

namespace Json

def utf8 (text : String) : List UInt8 := text.toList.flatMap String.utf8EncodeChar

def hexDigit (value : Nat) : Char := value.digitChar

def escape (c : Char) : List Char :=
  if c = '"' ∨ c = '\\' then ['\\', c]
  else if c = '\x08' then ['\\', 'b']
  else if c = '\x0c' then ['\\', 'f']
  else if c = '\n' then ['\\', 'n']
  else if c = '\r' then ['\\', 'r']
  else if c = '\t' then ['\\', 't']
  else if c.toNat < 32 ∨ c = '<' ∨ c = '>' ∨ c = '&' then ['\\', 'u', '0', '0', hexDigit (c.toNat / 16), hexDigit (c.toNat % 16)]
  else if c.toNat = 8232 ∨ c.toNat = 8233 then ['\\', 'u', '2', '0', '2', hexDigit (c.toNat % 16)]
  else [c]

def quote (text : String) : String := "\"" ++ String.ofList (text.toList.flatMap escape) ++ "\""

mutual

def write : Json → String
  | .null => "null"
  | .bool value => if value = true then "true" else "false"
  | .num value => toString value
  | .fraction literal => literal
  | .str text => quote text
  | .arr items => "[" ++ writeItems items ++ "]"
  | .obj fields => "\x7b" ++ writeFields fields ++ "\x7d"

def writeItems : List Json → String
  | [] => ""
  | [item] => write item
  | item :: rest => write item ++ "," ++ writeItems rest

def writeFields : List (String × Json) → String
  | [] => ""
  | [(name, value)] => quote name ++ ":" ++ write value
  | (name, value) :: rest => quote name ++ ":" ++ write value ++ "," ++ writeFields rest

end

def marshal (value : Json) : List UInt8 := utf8 (write value)

def kind : Json → String
  | .null => "null"
  | .bool _ => "bool"
  | .num _ => "number"
  | .fraction _ => "number"
  | .str _ => "string"
  | .arr _ => "array"
  | .obj _ => "object"

-- Letters are compared without case; two letters outside ASCII fold to s and k.
def foldChar (c : Char) : Char := if c.toNat = 383 then 's' else if c.toNat = 8490 then 'k' else c.toLower

def sameName (field key : String) : Bool := key.toList.map foldChar == field.toList.map foldChar

section Store

variable {S : Type}

structure Field (S : Type) where
  name : String
  store : Json → S → Except String S

def mismatch (path goType described : String) : String :=
  "json: cannot unmarshal " ++ described ++ " into Go struct field " ++ path ++ " of type " ++ goType

def storeInt (path goType : String) (low high : Int) (put : Int → S → S) (value : Json) (s : S) : Except String S :=
  match value with
  | .null => .ok s
  | .num number =>
    if low ≤ number ∧ number ≤ high then .ok (put number s) else .error (mismatch path goType ("number " ++ toString number))
  | .fraction literal => .error (mismatch path goType ("number " ++ literal))
  | _ => .error (mismatch path goType value.kind)

def storeString (path : String) (put : String → S → S) (value : Json) (s : S) : Except String S :=
  match value with
  | .null => .ok s
  | .str text => .ok (put text s)
  | _ => .error (mismatch path "string" value.kind)

def byteOf (path : String) (value : Json) : Except String UInt8 :=
  storeInt path "uint8" 0 255 (fun number _ => UInt8.ofNat number.toNat) value 0

-- A []byte is base64 text, or an array of numbers; null makes it nil.
def storeBytes (path : String) (put : List UInt8 → S → S) (value : Json) (s : S) : Except String S :=
  match value with
  | .null => .ok (put [] s)
  | .str text => (Base64.decode (utf8 text)).map fun bytes => put bytes s
  | .arr items => (items.mapM (byteOf path)).map fun bytes => put bytes s
  | _ => .error (mismatch path "[]uint8" value.kind)

def storeKey (fields : List (Field S)) (state : S × Option String) (entry : String × Json) : S × Option String :=
  match fields.find? fun field => sameName field.name entry.1 with
  | none => state
  | some field =>
    match field.store entry.2 state.1 with
    | .ok s => (s, state.2)
    | .error err => (state.1, state.2.or (some err))

def unmarshal (typeName : String) (fields : List (Field S)) (zero : S) : Json → Except String S
  | .null => .ok zero
  | .obj entries =>
    match entries.foldl (storeKey fields) (zero, none) with
    | (s, none) => .ok s
    | (_, some err) => .error err
  | value => .error ("json: cannot unmarshal " ++ value.kind ++ " into Go value of type " ++ typeName)

end Store

section Lengths

theorem flat_map_length_le {α β : Type} (spread : α → List β) (bound : Nat) (items : List α)
    (each : ∀ item ∈ items, (spread item).length ≤ bound) : (items.flatMap spread).length ≤ items.length * bound := by
  rw [List.length_flatMap]
  have sum := List.sum_le_card_nsmul (items.map fun item => (spread item).length) bound (by simpa using each)
  rwa [List.length_map, smul_eq_mul] at sum

theorem utf8_append (first second : String) : utf8 (first ++ second) = utf8 first ++ utf8 second := by
  rw [utf8, String.toList_append, List.flatMap_append]
  rfl

theorem utf8_base64 (bytes : List UInt8) : utf8 (Base64.encode bytes) = Base64.encodeBytes bytes := by
  rw [utf8, Base64.encode, String.toList_ofList, Base64.encodeBytes]

theorem utf8_length_le (text : String) : (utf8 text).length ≤ text.length * 4 := by
  rw [← String.length_toList]
  refine flat_map_length_le _ 4 _ fun c _ => ?_
  rw [String.length_utf8EncodeChar]
  exact c.utf8Size_le_four

theorem utf8_length_ascii (text : String) (ascii : ∀ c ∈ text.toList, c.utf8Size = 1) : (utf8 text).length = text.length := by
  have ones : text.toList.map (fun c => (String.utf8EncodeChar c).length) = text.toList.map fun _ => 1 :=
    List.map_congr_left fun c member => (String.length_utf8EncodeChar c).trans (ascii c member)
  rw [utf8, List.length_flatMap, ones, List.map_const', List.sum_replicate, smul_eq_mul, mul_one, String.length_toList]

theorem quote_length_le (text : String) : (quote text).length ≤ text.length * 6 + 2 := by
  have escaped : (text.toList.flatMap escape).length ≤ text.toList.length * 6 := by
    refine flat_map_length_le escape 6 _ fun c _ => ?_
    unfold escape
    split_ifs <;> simp
  rw [String.length_toList] at escaped
  simp only [quote, String.length_append, String.length_ofList]
  have quotes : ("\"" : String).length = 1 := rfl
  omega

end Lengths

end Json
