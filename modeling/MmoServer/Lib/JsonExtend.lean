import MmoServer.Lib.Delimited
import MmoServer.Lib.JsonAccept

set_option autoImplicit false

-- What follows a text does not change how it is read, unless it may continue a number.
-- So the text of an object shows by itself where it ends.
namespace JsonText

def Continues {α : Type} (read : List UInt8 → Option (α × List UInt8)) (bytes : List UInt8) (found : α × List UInt8) : Prop :=
  ∀ more, read (bytes ++ more) = some (found.1, found.2 ++ more)

section Literals

variable (bytes : List UInt8)

theorem units_continue (found : List StringUnit × List UInt8) (read : readUnits bytes = some found) :
    Continues readUnits bytes found := by
  intro more
  rw [read_units_text bytes found.1 found.2 read, List.append_assoc, List.cons_append]
  exact read_units found.1 (found.2 ++ more)

theorem word_continues (word : List UInt8) (value : Value) (bytes : List UInt8) (found : Value × List UInt8)
    (read : readWord word value bytes = some found) : Continues (readWord word value) bytes found := by
  intro more
  obtain ⟨same, text⟩ := read_word_some word value bytes found read
  rw [text, List.append_assoc, same]
  exact read_word word value (found.2 ++ more)

theorem digits_continue (bytes more : List UInt8) (left : (readDigits bytes).2 ≠ []) :
    readDigits (bytes ++ more) = ((readDigits bytes).1, (readDigits bytes).2 ++ more) := by
  induction bytes with
  | nil => exact absurd rfl left
  | cons byte rest ih =>
    rw [List.cons_append, readDigits, readDigits]
    rw [readDigits] at left
    cases digit : readDigit byte with
    | none => rfl
    | some value =>
      simp only [digit] at left ⊢
      rw [ih left]

theorem some_continues (found : Digits × List UInt8) (read : readSome bytes = some found) (left : found.2 ≠ []) :
    Continues readSome bytes found := by
  intro more
  rw [readSome] at read
  split at read
  · cases read
  next first digits rest all =>
    cases read
    have rest_ : (readDigits bytes).2 ≠ [] := by
      rw [all]
      exact left
    rw [readSome, digits_continue bytes more rest_, all]

theorem whole_continues (found : Whole × List UInt8) (read : readWhole bytes = some found) (left : found.2 ≠ []) :
    Continues readWhole bytes found := by
  intro more
  obtain ⟨digits, first, next⟩ := Option.bind_eq_some_iff.mp read
  simp only at next
  have rest : digits.2 = found.2 := by
    split_ifs at next <;> cases next <;> rfl
  rw [readWhole, some_continues bytes digits first (rest ▸ left) more, Option.bind_eq_bind, Option.bind_some]
  simp only
  split_ifs at next ⊢ <;> cases next <;> rfl

theorem sign_continues (bytes more : List UInt8) (left : (readSign bytes).2 ≠ []) :
    readSign (bytes ++ more) = ((readSign bytes).1, (readSign bytes).2 ++ more) := by
  cases bytes with
  | nil => exact absurd rfl left
  | cons byte rest =>
    rw [List.cons_append, readSign, readSign]
    split_ifs <;> rfl

theorem optional_continues {α : Type} (read : List UInt8 → Option (Option α × List UInt8)) (nothing : read [] = some (none, []))
    (announces : UInt8 → Prop) (absent : ∀ byte rest, ¬ announces byte → read (byte :: rest) = some (none, byte :: rest))
    (present : ∀ byte rest found, announces byte → read (byte :: rest) = some found → found.2 ≠ [] → Continues read (byte :: rest) found)
    (bytes : List UInt8) (found : Option α × List UInt8) (read_ : read bytes = some found) (left : found.2 ≠ []) :
    Continues read bytes found := by
  cases bytes with
  | nil =>
    rw [nothing, Option.some_inj] at read_
    subst read_
    exact absurd rfl left
  | cons byte rest =>
    by_cases announced : announces byte
    · exact present byte rest found announced read_ left
    · intro more
      rw [absent byte rest announced, Option.some_inj] at read_
      subst read_
      exact absent byte (rest ++ more) announced

theorem fraction_continues (found : Option Digits × List UInt8) (read : readFraction bytes = some found) (left : found.2 ≠ []) :
    Continues readFraction bytes found := by
  refine optional_continues readFraction rfl (· = 46) (fun byte rest other => if_neg other) ?_ bytes found read left
  intro byte rest found point read left more
  rw [readFraction, if_pos point] at read
  obtain ⟨digits, first, rfl⟩ := Option.map_eq_some_iff.mp read
  rw [List.cons_append, readFraction, if_pos point, some_continues rest digits first left more]
  rfl

theorem exponent_continues (found : Option Exponent × List UInt8) (read : readExponent bytes = some found) (left : found.2 ≠ []) :
    Continues readExponent bytes found := by
  refine optional_continues readExponent rfl (fun byte => byte = 69 ∨ byte = 101) (fun byte rest other => if_neg other) ?_
    bytes found read left
  intro byte rest found letter read left more
  rw [readExponent, if_pos letter] at read
  obtain ⟨digits, first, rfl⟩ := Option.map_eq_some_iff.mp read
  have signed : (readSign rest).2 ≠ [] := by
    intro nothing
    rw [nothing] at first
    cases first
  rw [List.cons_append, readExponent, if_pos letter, sign_continues rest more signed]
  simp only
  rw [some_continues _ digits first left more]
  rfl

theorem minus_continues (bytes more : List UInt8) (left : (readMinus bytes).2 ≠ []) :
    readMinus (bytes ++ more) = ((readMinus bytes).1, (readMinus bytes).2 ++ more) := by
  cases bytes with
  | nil => exact absurd rfl left
  | cons byte rest =>
    rw [List.cons_append, readMinus, readMinus]
    split_ifs <;> rfl

theorem number_continues (found : Number × List UInt8) (read : readNumber bytes = some found) (left : found.2 ≠ []) :
    Continues readNumber bytes found := by
  intro more
  obtain ⟨whole, first, read⟩ := Option.bind_eq_some_iff.mp read
  obtain ⟨fraction, second, read⟩ := Option.bind_eq_some_iff.mp read
  obtain ⟨exponent, third, read⟩ := Option.bind_eq_some_iff.mp read
  cases read
  change readWhole (readMinus bytes).2 = some whole at first
  have afterFraction : fraction.2 ≠ [] := by
    intro nothing
    rw [nothing] at third
    cases third
    exact left rfl
  have afterWhole : whole.2 ≠ [] := by
    intro nothing
    rw [nothing] at second
    cases second
    exact afterFraction rfl
  have afterMinus : (readMinus bytes).2 ≠ [] := by
    intro nothing
    rw [nothing] at first
    cases first
  rw [readNumber, minus_continues bytes more afterMinus]
  simp only
  rw [whole_continues _ whole first afterWhole more, Option.bind_eq_bind, Option.bind_some]
  simp only
  rw [fraction_continues _ fraction second afterFraction more, Option.bind_eq_bind, Option.bind_some]
  simp only
  rw [exponent_continues _ exponent third left more]
  rfl

end Literals

section Steps

theorem skip_append (bytes more rest : List UInt8) (byte : UInt8) (start : skip bytes = byte :: rest) :
    skip (bytes ++ more) = byte :: (rest ++ more) := by
  rw [skip] at start ⊢
  rw [List.dropWhile_append, start]
  rfl

theorem skip_continues {α : Type} (body deeper : UInt8 → List UInt8 → Option (α × List UInt8)) (bytes : List UInt8)
    (found : α × List UInt8) (continues : ∀ byte rest, body byte rest = some found → Continues (deeper byte) rest found)
    (read : (match skip bytes with | [] => none | byte :: rest => body byte rest) = some found) :
    Continues (fun bytes => match skip bytes with | [] => none | byte :: rest => deeper byte rest) bytes found := by
  intro more
  cases start : skip bytes with
  | nil => simp [start] at read
  | cons byte rest =>
    rw [start] at read
    simp only [skip_append bytes more rest byte start]
    exact continues byte rest read more

theorem list_continues {α β : Type} {first deeper : List UInt8 → Option (α × List UInt8)}
    {more_ deeperMore : List UInt8 → Option (List β × List UInt8)} (join : α → List β → List β) (bytes : List UInt8)
    (found : List β × List UInt8) (firstContinues : ∀ head, first bytes = some head → head.2 ≠ [] → Continues deeper bytes head)
    (nothing : more_ [] = none) (moreContinues : ∀ bytes tail, more_ bytes = some tail → Continues deeperMore bytes tail)
    (read : ((first bytes).bind fun head => (more_ head.2).map fun tail => (join head.1 tail.1, tail.2)) = some found) :
    Continues (fun bytes => (deeper bytes).bind fun head => (deeperMore head.2).map fun tail => (join head.1 tail.1, tail.2)) bytes
      found := by
  intro more
  obtain ⟨head, same, read⟩ := Option.bind_eq_some_iff.mp read
  obtain ⟨tail, after, rfl⟩ := Option.map_eq_some_iff.mp read
  have left : head.2 ≠ [] := by
    intro ended
    rw [ended, nothing] at after
    cases after
  simp only [firstContinues head same left more, Option.bind_some, moreContinues head.2 tail after more, Option.map_some]

theorem map_continues {α β : Type} (read : List UInt8 → Option (α × List UInt8)) (f : α → β) (bytes : List UInt8)
    (found : α × List UInt8) (continues : Continues read bytes found) :
    Continues (fun bytes => (read bytes).map fun got => (f got.1, got.2)) bytes (f found.1, found.2) := by
  intro more
  simp only [continues more, Option.map_some]

-- Read again with no less fuel.
structure Extends (fuel deeper : Nat) : Prop where
  value : ∀ bytes found, readValue fuel bytes = some found → found.2 ≠ [] → Continues (readValue deeper) bytes found
  items : ∀ bytes found, readItems fuel bytes = some found → Continues (readItems deeper) bytes found
  moreItems : ∀ bytes found, readMoreItems fuel bytes = some found → Continues (readMoreItems deeper) bytes found
  members : ∀ bytes found, readMembers fuel bytes = some found → Continues (readMembers deeper) bytes found
  moreMembers : ∀ bytes found, readMoreMembers fuel bytes = some found → Continues (readMoreMembers deeper) bytes found
  member : ∀ bytes found, readMember fuel bytes = some found → found.2 ≠ [] → Continues (readMember deeper) bytes found

theorem more_items_nil (fuel : Nat) : readMoreItems fuel [] = none := by
  cases fuel <;> rfl

theorem more_members_nil (fuel : Nat) : readMoreMembers fuel [] = none := by
  cases fuel <;> rfl

variable (fuel deeper : Nat) (ih : Extends fuel deeper)

include ih

variable (bytes : List UInt8)

theorem value_extends (found : Value × List UInt8) (read : readValue (fuel + 1) bytes = some found) (left : found.2 ≠ []) :
    Continues (readValue (deeper + 1)) bytes found := by
  intro more
  rw [readValue] at read ⊢
  refine skip_continues _ _ bytes found (fun byte rest read => ?_) read more
  intro more
  split_ifs at read ⊢
  · obtain ⟨units, lexeme, rfl⟩ := Option.map_eq_some_iff.mp read
    exact map_continues readUnits Value.string rest units (units_continue rest units lexeme) more
  · obtain ⟨items, inner, rfl⟩ := Option.map_eq_some_iff.mp read
    exact map_continues (readItems deeper) Value.array rest items (ih.items rest items inner) more
  · obtain ⟨members, inner, rfl⟩ := Option.map_eq_some_iff.mp read
    exact map_continues (readMembers deeper) (fun members => Value.object (members.map Member.entry)) rest members
      (ih.members rest members inner) more
  · exact word_continues _ _ rest found read more
  · exact word_continues _ _ rest found read more
  · exact word_continues _ _ rest found read more
  · obtain ⟨number, lexeme, rfl⟩ := Option.map_eq_some_iff.mp read
    exact map_continues readNumber Value.number (byte :: rest) number (number_continues _ number lexeme left) more

theorem items_extend (found : List Value × List UInt8) (read : readItems (fuel + 1) bytes = some found) :
    Continues (readItems (deeper + 1)) bytes found := by
  intro more
  rw [readItems] at read ⊢
  refine skip_continues _ _ bytes found (fun byte rest read => ?_) read more
  intro more
  split_ifs at read ⊢
  · cases read
    rfl
  · exact list_continues List.cons (byte :: rest) found (ih.value _) (more_items_nil fuel)
      ih.moreItems read more

theorem more_items_extend (found : List Value × List UInt8) (read : readMoreItems (fuel + 1) bytes = some found) :
    Continues (readMoreItems (deeper + 1)) bytes found := by
  intro more
  rw [readMoreItems] at read ⊢
  refine skip_continues _ _ bytes found (fun byte rest read => ?_) read more
  intro more
  split_ifs at read ⊢
  · cases read
    rfl
  · exact list_continues List.cons rest found (ih.value _) (more_items_nil fuel)
      ih.moreItems read more

theorem members_extend (found : List Member × List UInt8) (read : readMembers (fuel + 1) bytes = some found) :
    Continues (readMembers (deeper + 1)) bytes found := by
  intro more
  rw [readMembers] at read ⊢
  refine skip_continues _ _ bytes found (fun byte rest read => ?_) read more
  intro more
  split_ifs at read ⊢
  · cases read
    rfl
  · exact list_continues List.cons (byte :: rest) found (ih.member _)
      (more_members_nil fuel) ih.moreMembers read more

theorem more_members_extend (found : List Member × List UInt8) (read : readMoreMembers (fuel + 1) bytes = some found) :
    Continues (readMoreMembers (deeper + 1)) bytes found := by
  intro more
  rw [readMoreMembers] at read ⊢
  refine skip_continues _ _ bytes found (fun byte rest read => ?_) read more
  intro more
  split_ifs at read ⊢
  · cases read
    rfl
  · exact list_continues List.cons rest found (ih.member _)
      (more_members_nil fuel) ih.moreMembers read more

omit ih in
theorem raw_continues (rest more : List UInt8) (value : Value × List UInt8) (read : readValue fuel rest = some value) :
    (skip (rest ++ more)).take ((skip (rest ++ more)).length - (value.2 ++ more).length) =
      (skip rest).take ((skip rest).length - value.2.length) := by
  cases start : skip rest with
  | nil =>
    cases fuel with
    | zero => cases read
    | succ fuel =>
      rw [readValue, start] at read
      cases read
  | cons byte tail =>
    rw [skip_append rest more tail byte start, ← List.cons_append, List.length_append, List.length_append,
      Nat.add_sub_add_right, List.take_append_of_le_length (Nat.sub_le _ _)]

theorem member_extends (bytes : List UInt8) (found : Member × List UInt8) (read : readMember (fuel + 1) bytes = some found)
    (left : found.2 ≠ []) : Continues (readMember (deeper + 1)) bytes found := by
  intro more
  rw [readMember] at read ⊢
  refine skip_continues _ _ bytes found (fun byte rest read => ?_) read more
  intro more
  split_ifs at read ⊢
  obtain ⟨name, lexeme, read⟩ := Option.bind_eq_some_iff.mp read
  beta_reduce
  rw [units_continue rest name lexeme more, Option.bind_some]
  refine skip_continues _ _ name.2 found (fun byte rest read => ?_) read more
  intro more
  split_ifs at read ⊢
  obtain ⟨value, inner, rfl⟩ := Option.map_eq_some_iff.mp read
  simp only [ih.value rest value inner left more, Option.map_some, raw_continues fuel rest more value inner]

end Steps

theorem extends_ (fuel deeper : Nat) (more : fuel ≤ deeper) : Extends fuel deeper := by
  induction fuel generalizing deeper with
  | zero => constructor <;> intro bytes found read <;> cases read
  | succ fuel ih =>
    obtain ⟨deeper, rfl⟩ : ∃ less, deeper = less + 1 := ⟨deeper - 1, by omega⟩
    have inner := ih deeper (by omega)
    exact ⟨value_extends fuel deeper inner, items_extend fuel deeper inner, more_items_extend fuel deeper inner,
      members_extend fuel deeper inner, more_members_extend fuel deeper inner, member_extends fuel deeper inner⟩

section Objects

theorem read_text_members (rest : List UInt8) (value : Value) (accepted : readText (123 :: rest) = some value) (fuel : Nat)
    (enough : 2 * rest.length + 2 ≤ fuel) : ∃ members after, readMembers fuel rest = some (members, after) ∧ skip after = [] := by
  have parsed := ((read_text_some _ value).mp accepted).1
  obtain ⟨pairs, rfl⟩ := parse_text_object (123 :: rest) value rfl parsed
  obtain ⟨members, read, _⟩ := read_object_text (123 :: rest) pairs parsed
  rw [readObject, skip_cons 123 rest (by decide)] at read
  simp only [if_true] at read
  obtain ⟨⟨found, after⟩, first, last⟩ := Option.bind_eq_some_iff.mp read
  simp only [Option.ite_none_right_eq_some] at last
  have deeper := (extends_ _ fuel enough).members rest _ first []
  rw [List.append_nil, List.append_nil] at deeper
  exact ⟨found, after, deeper, last.1⟩

theorem object_beginning (part more : List UInt8) (members : List (List StringUnit × Value)) (value : Value)
    (accepted : readText part = some value) (text : part ++ more = write (.object members)) : more = [] := by
  cases part with
  | nil => cases accepted
  | cons byte rest =>
    rw [write, List.cons_append, List.cons.injEq] at text
    obtain ⟨rfl, text⟩ := text
    have shorter : rest.length ≤ (writeMembers members).length := by
      rw [← text, List.length_append]
      exact Nat.le_add_right _ _
    obtain ⟨found, after, read, _⟩ := read_text_members rest value accepted (2 * (writeMembers members).length + 2) (by omega)
    have beginning := (extends_ _ _ (le_refl _)).members rest _ read more
    have all := read_members members (2 * (writeMembers members).length + 2) [] (le_refl _)
    rw [text] at beginning
    rw [List.append_nil, beginning, Option.some_inj, Prod.mk.injEq] at all
    exact (List.append_eq_nil_iff.mp all.2).2

theorem object_continued (members : List (List StringUnit × Value)) (more : List UInt8) (value : Value)
    (accepted : readText (write (.object members) ++ more) = some value) : skip more = [] := by
  rw [write, List.cons_append] at accepted
  obtain ⟨found, after, read, space⟩ := read_text_members _ value accepted _ (le_refl _)
  rw [read_members members _ more (by simp only [List.length_append]; omega)] at read
  cases read
  exact space

def IsObject (text : List UInt8) : Prop := ∃ members, text = write (.object members)

theorem objects_delimit : Delimited.Delimits (fun bytes => readText bytes ≠ none) IsObject 123 where
  starts := by
    rintro text ⟨members, rfl⟩
    rfl
  nothing := by
    intro accepted
    exact accepted rfl
  beginning := by
    rintro part more accepted ⟨members, text⟩
    obtain ⟨value, read⟩ := Option.ne_none_iff_exists'.mp accepted
    exact object_beginning part more members value read text
  continued := by
    rintro text more ⟨members, rfl⟩ brace accepted
    obtain ⟨value, read⟩ := Option.ne_none_iff_exists'.mp accepted
    obtain ⟨rest, rfl⟩ := List.head?_eq_some_iff.mp brace
    have space := object_continued members (123 :: rest) value read
    rw [skip_cons 123 rest (by decide)] at space
    cases space

end Objects

end JsonText
