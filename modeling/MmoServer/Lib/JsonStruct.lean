import MmoServer.Lib.JsonCodec

set_option autoImplicit false

namespace JsonText

open Runes

section Html

theorem html_kept (unit : StringUnit) (rest : List StringUnit) (apart : separatorAt (unit :: rest) = none)
    (kept : htmlUnit unit = unit) : htmlEscapeFrom 0 (unit :: rest) = unit :: htmlEscapeFrom 0 rest := by
  simp only [htmlEscapeFrom, apart, kept]

theorem html_short (letter : Short) (rest : List StringUnit) :
    htmlEscapeFrom 0 (.short letter :: rest) = .short letter :: htmlEscapeFrom 0 rest :=
  html_kept _ _ (by simp [separatorAt, plainPrefix]) rfl

theorem html_unicode (a b c d : Hex) (rest : List StringUnit) :
    htmlEscapeFrom 0 (.unicode a b c d :: rest) = .unicode a b c d :: htmlEscapeFrom 0 rest :=
  html_kept _ _ (by simp [separatorAt, plainPrefix]) rfl

variable (text : List UInt8) (c : Char) (byte : UInt8)

theorem html_plain (ok : isPlain byte = true) (rest : List StringUnit) (other : byte ∉ [60, 62, 38])
    (apart : separatorAt (.plain byte ok :: rest) = none) :
    htmlEscapeFrom 0 (.plain byte ok :: rest) = .plain byte ok :: htmlEscapeFrom 0 rest := by
  refine html_kept _ _ apart ?_
  rw [htmlUnit, if_neg]
  simpa using other

theorem separator_at_other (ok : isPlain byte = true) (rest : List StringUnit) (other : byte ≠ 0xE2) :
    separatorAt (.plain byte ok :: rest) = none := by
  simp [separatorAt, plainPrefix, other]

theorem separator_at_char (plain : ∀ byte ∈ String.utf8EncodeChar c, isPlain byte = true) (rest : List StringUnit)
    (line : c.toNat ≠ 0x2028) (paragraph : c.toNat ≠ 0x2029) : separatorAt ((String.utf8EncodeChar c).map unitOf ++ rest) = none := by
  have apart (separator : Char) (different : c ≠ separator) :
      (String.utf8EncodeChar c ++ plainPrefix rest).take (String.utf8EncodeChar separator).length ≠ String.utf8EncodeChar separator := by
    intro same
    have start := List.take_append_drop (String.utf8EncodeChar separator).length (String.utf8EncodeChar c ++ plainPrefix rest)
    rw [same] at start
    have decoded := decode_rune_char separator ((String.utf8EncodeChar c ++ plainPrefix rest).drop (String.utf8EncodeChar separator).length)
    rw [start, decode_rune_char, Option.some_inj] at decoded
    exact different decoded
  have lines : String.utf8EncodeChar (Char.ofNat 0x2028) = [0xE2, 0x80, 0xA8] := by decide
  have paragraphs : String.utf8EncodeChar (Char.ofNat 0x2029) = [0xE2, 0x80, 0xA9] := by decide
  have notLine := apart (Char.ofNat 0x2028) (by rintro rfl; exact line rfl)
  have notParagraph := apart (Char.ofNat 0x2029) (by rintro rfl; exact paragraph rfl)
  rw [lines] at notLine
  rw [paragraphs] at notParagraph
  rw [separatorAt, plain_prefix_units _ plain]
  exact (if_neg notLine).trans (if_neg notParagraph)

theorem char_tail (first : UInt8) (more : List UInt8) (bytes : String.utf8EncodeChar c = first :: more) :
    ∀ byte ∈ more, 128 ≤ byte.toNat ∧ byte.toNat < 192 := by
  rw [String.utf8EncodeChar.eq_1] at bytes
  split_ifs at bytes <;> cases bytes <;> simp <;> omega

theorem unit_of_plain (ok : isPlain byte = true) : unitOf byte = .plain byte ok := by
  rw [unitOf, dif_pos ok]

theorem html_tail (bytes : List UInt8) (high : ∀ byte ∈ bytes, 128 ≤ byte.toNat ∧ byte.toNat < 192) (rest : List StringUnit) :
    htmlEscapeFrom 0 (bytes.map unitOf ++ rest) = bytes.map unitOf ++ htmlEscapeFrom 0 rest := by
  induction bytes with
  | nil => rfl
  | cons byte bytes ih =>
    rw [List.forall_mem_cons] at high
    have ok : isPlain byte = true := by
      rw [is_plain_iff]
      omega
    have ascii : byte ∉ [60, 62, 38] := by
      intro member
      have low : byte.toNat < 128 := by
        simp only [List.mem_cons, List.not_mem_nil, or_false] at member
        rcases member with rfl | rfl | rfl <;> decide
      omega
    have other : byte ≠ 0xE2 := by
      rintro rfl
      exact absurd high.1.2 (by decide)
    rw [List.map_cons, List.cons_append, unit_of_plain byte ok,
      html_plain byte ok _ ascii (separator_at_other byte ok _ other), ih high.2, List.cons_append]

theorem html_printable (plain : ∀ byte ∈ String.utf8EncodeChar c, isPlain byte = true) (other : ¬ (c = '<' ∨ c = '>' ∨ c = '&'))
    (line : c.toNat ≠ 0x2028) (paragraph : c.toNat ≠ 0x2029) (rest : List StringUnit) :
    htmlEscapeFrom 0 ((String.utf8EncodeChar c).map unitOf ++ rest) = (String.utf8EncodeChar c).map unitOf ++ htmlEscapeFrom 0 rest := by
  have apart := separator_at_char c plain rest line paragraph
  obtain ⟨first, more, bytes, _⟩ := char_head c
  have tail := html_tail more (char_tail c first more bytes) rest
  have ascii : first ∉ [60, 62, 38] := by
    intro member
    rcases char_bytes c with ⟨single, small⟩ | ⟨_, high⟩
    · have code : first.toNat = c.toNat := by
        rw [bytes, List.cons.injEq] at single
        rw [single.1, UInt8.toNat_ofNat']
        omega
      simp only [List.mem_cons, List.not_mem_nil, or_false] at member
      rcases member with rfl | rfl | rfl
      · exact other (.inl (Char.toNat_inj.mp code.symm))
      · exact other (.inr (.inl (Char.toNat_inj.mp code.symm)))
      · exact other (.inr (.inr (Char.toNat_inj.mp code.symm)))
    · have above := high first (bytes ▸ List.mem_cons_self)
      simp only [List.mem_cons, List.not_mem_nil, or_false] at member
      rcases member with rfl | rfl | rfl <;> exact absurd above (by decide)
  rw [bytes, List.forall_mem_cons] at plain
  rw [bytes, List.map_cons, unit_of_plain first plain.1, List.cons_append] at apart
  rw [bytes, List.map_cons, unit_of_plain first plain.1, List.cons_append, html_plain first plain.1 _ ascii apart, tail,
    List.cons_append]

theorem html_escape_char (rest : List StringUnit) :
    htmlEscapeFrom 0 (escapeChar c ++ rest) = escapeChar c ++ htmlEscapeFrom 0 rest := by
  fun_cases escapeChar c with
  | case1 | case2 | case3 | case4 | case5 | case6 | case7 => exact html_short _ _
  | case8 | case9 | case10 => exact html_unicode _ _ _ _ _
  | case11 quote backslash _ _ _ _ _ html line paragraph =>
    by_cases printable : 32 ≤ c.toNat
    · exact html_printable c (char_plain c printable quote backslash) html line paragraph rest
    · rw [control_units c (not_le.mp printable)]
      exact html_unicode _ _ _ _ _

theorem quote_cases : text = [] ∨
    (∃ c rest, text = String.utf8EncodeChar c ++ rest ∧ quote text = escapeChar c ++ quote rest) ∨
    ∃ byte rest, text = byte :: rest ∧ quote text = replacementUnit :: quote rest := by
  cases text with
  | nil => exact .inl rfl
  | cons byte rest =>
    cases decoded : decodeRune (byte :: rest) with
    | none => exact .inr (.inr ⟨byte, rest, rfl, by rw [quote, quoteFrom, decoded]; rfl⟩)
    | some c =>
      obtain ⟨more, bytes⟩ := decode_rune_some _ c decoded
      exact .inr (.inl ⟨c, more, bytes, by rw [bytes, quote_char]⟩)

theorem quote_induction {motive : List UInt8 → Prop} (nil : motive [])
    (char : ∀ c rest, quote (String.utf8EncodeChar c ++ rest) = escapeChar c ++ quote rest → motive rest →
      motive (String.utf8EncodeChar c ++ rest))
    (broken : ∀ byte rest, quote (byte :: rest) = replacementUnit :: quote rest → motive rest → motive (byte :: rest))
    (text : List UInt8) : motive text := by
  induction length : text.length using Nat.strong_induction_on generalizing text with
  | _ n ih =>
    rcases quote_cases text with rfl | ⟨c, rest, rfl, quoted⟩ | ⟨byte, rest, rfl, quoted⟩
    · exact nil
    · have shorter : rest.length < n := by
        rw [← length, List.length_append, String.length_utf8EncodeChar]
        have := c.utf8Size_pos
        omega
      exact char c rest quoted (ih _ shorter rest rfl)
    · have shorter : rest.length < n := by
        rw [← length]
        exact Nat.lt_succ_self _
      exact broken byte rest quoted (ih _ shorter rest rfl)

theorem html_escape_quote : htmlEscape (quote text) = quote text := by
  induction text using quote_induction with
  | nil => rfl
  | char c rest quoted ih =>
    rw [quoted, htmlEscape, html_escape_char]
    exact congrArg _ ih
  | broken byte rest quoted ih =>
    rw [quoted, htmlEscape, replacementUnit, html_unicode]
    exact congrArg _ ih

end Html

section Carried

-- The text that JSON carries for a Go string: each byte that is no UTF-8 becomes U+FFFD.
def carried (text : List UInt8) : String := String.ofList (chars 0 (quote text))

theorem carried_utf8 (text : String) : carried (Json.utf8 text) = text := by
  have decoded : chars 0 (quote (Json.utf8 text)) = text.toList := unquote_quote text.toList
  rw [carried, decoded, String.ofList_toList]

theorem quote_exact (text : List UInt8) (whole : replacement ∉ chars 0 (quote text)) : encode (chars 0 (quote text)) = text := by
  induction text using quote_induction with
  | nil => rfl
  | char c rest quoted ih =>
    rw [quoted, chars_escape] at whole ⊢
    rw [encode_cons, ih fun member => whole (List.mem_cons_of_mem _ member)]
  | broken byte rest quoted ih =>
    have replaced : chars 0 (replacementUnit :: quote rest) = replacement :: chars 0 (quote rest) := rfl
    rw [quoted, replaced] at whole
    exact absurd List.mem_cons_self whole

theorem carried_eq_iff (bytes : List UInt8) (text : String) (whole : replacement ∉ text.toList) :
    carried bytes = text ↔ bytes = Json.utf8 text := by
  constructor
  · rintro rfl
    rw [carried, String.toList_ofList] at whole
    rw [Json.utf8, carried, String.toList_ofList]
    exact (quote_exact bytes whole).symm
  · rintro rfl
    exact carried_utf8 text

end Carried

section Fields

variable {S : Type}

def storeString (path : String) (put : String → S → S) (member : Member) (s : S) : Except String S :=
  match member.value with
  | .null => .ok s
  | .string units => .ok (put (String.ofList (chars 0 units)) s)
  | value => .error (Json.mismatch path "string" value.kind)

def Number.ofInt (value : Int) : Number := { Number.ofNat value.natAbs with negative := value < 0 }

def field (name : String) (value : Value) : List StringUnit × Value := (quote (Json.utf8 name), value)

variable (targets : List (Target S)) (s : S) (err : Option String)

theorem store_field (target : Target S) (known : targets.find? (fun other => Json.sameName other.name target.name) = some target)
    (value : Value) (after : S) (stored : target.store (written (field target.name value)) s = .ok after) :
    storeMember targets (s, err) (written (field target.name value)) = (after, err) := by
  have name : String.ofList (chars 0 (quote (Json.utf8 target.name))) = target.name := carried_utf8 target.name
  rw [storeMember]
  simp only [written, field, name] at stored ⊢
  rw [known]
  simp only [stored]

theorem store_uint_field (name path goType : String) (bound : Nat) (put : Nat → S → S)
    (known : targets.find? (fun other => Json.sameName other.name name) = some ⟨name, storeUint path goType bound put⟩)
    (value : Nat) (within : value < bound) :
    storeMember targets (s, err) (written (field name (.number (.ofNat value)))) = (put value s, err) := by
  refine store_field targets s err ⟨name, storeUint path goType bound put⟩ known _ _ ?_
  simp only [storeUint, written, field, natural_of_nat, if_pos within]

theorem store_string_field (name path : String) (put : String → S → S)
    (known : targets.find? (fun other => Json.sameName other.name name) = some ⟨name, storeString path put⟩) (text : List UInt8) :
    storeMember targets (s, err) (written (field name (.string (quote text)))) = (put (carried text) s, err) :=
  store_field targets s err ⟨name, storeString path put⟩ known _ _ rfl

theorem store_raw_field (name : String) (put : List UInt8 → S → S)
    (known : targets.find? (fun other => Json.sameName other.name name) = some ⟨name, storeRaw put⟩) (value : Value) :
    storeMember targets (s, err) (written (field name value)) = (put (write value) s, err) :=
  store_field targets s err ⟨name, storeRaw put⟩ known _ _ rfl

theorem escape_fields (members : List (String × Value)) (kept : ∀ entry ∈ members, escapeValue entry.2 = entry.2) :
    escapeValue (.object (members.map fun entry => field entry.1 entry.2)) = .object (members.map fun entry => field entry.1 entry.2) := by
  rw [escapeValue]
  congr 1
  induction members with
  | nil => rfl
  | cons entry rest ih =>
    rw [List.forall_mem_cons] at kept
    rw [List.map_cons, field, escapeMembers, html_escape_quote, kept.1, ih kept.2]

theorem unmarshal_fields (typeName : String) (zero after : S) (members : List (List StringUnit × Value))
    (shallow : (Value.object members).nesting ≤ maxNestingDepth)
    (stored : (members.map written).foldl (storeMember targets) (zero, none) = (after, none)) :
    unmarshalStruct typeName targets zero (write (.object members)) = .ok after := by
  rw [unmarshalStruct, read_text _ shallow, read_object]
  simp only [stored]

end Fields

end JsonText
