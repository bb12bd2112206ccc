import MmoServer.Lib.JsonStruct

set_option autoImplicit false

-- The values that Marshal leaves as they are, told by the strings, the numbers and the
-- names in them.
namespace JsonText

open Runes

inductive Part where
  | string (units : List StringUnit)
  | number (literal : Number)
  | names (keys : List (List StringUnit))

mutual

def Value.parts : Value → List Part
  | .null | .bool _ => []
  | .number number => [.number number]
  | .string units => [.string units]
  | .array items => partsItems items
  | .object members => .names (members.map Prod.fst) :: partsMembers members

def partsItems : List Value → List Part
  | [] => []
  | item :: rest => item.parts ++ partsItems rest

def partsMembers : List (List StringUnit × Value) → List Part
  | [] => []
  | (name, value) :: rest => .string name :: (value.parts ++ partsMembers rest)

end

def Printed (units : List StringUnit) : Prop := ∃ text : List Char, units = text.flatMap escapeChar

def Unescaped (units : List StringUnit) : Prop :=
  (∀ byte ok, .plain byte ok ∈ units → byte ∉ [60, 62, 38]) ∧ ∀ tail, tail <:+ units → separatorAt tail = none

def Ordered (names : List (List StringUnit)) : Prop := (names.map unquote).Pairwise (· < ·)

-- As Marshal writes it from a map.
def Part.Canonical (floats : Number → Option Number) : Part → Prop
  | .string units => Printed units
  | .number literal => floats literal = some literal
  | .names keys => Ordered keys

-- As Marshal leaves it in a RawMessage.
def Part.Compact : Part → Prop
  | .string units => Unescaped units
  | .number _ | .names _ => True

theorem value_induction {motive : Value → Prop} (null : motive .null) (bool : ∀ value, motive (.bool value))
    (number : ∀ literal, motive (.number literal)) (string : ∀ units, motive (.string units))
    (array : ∀ items, (∀ item ∈ items, motive item) → motive (.array items))
    (object : ∀ members, (∀ member ∈ members, motive member.2) → motive (.object members)) (value : Value) : motive value :=
  @Value.rec motive (fun items => ∀ item ∈ items, motive item) (fun members => ∀ member ∈ members, motive member.2)
    (fun member => motive member.2) null bool number string array object (by simp)
    (fun _ _ first rest => List.forall_mem_cons.mpr ⟨first, rest⟩) (by simp)
    (fun _ _ first rest => List.forall_mem_cons.mpr ⟨first, rest⟩) (fun _ _ inner => inner) value

section Lists

variable (items : List Value) (members : List (List StringUnit × Value))

theorem parts_items : partsItems items = items.flatMap Value.parts := by
  induction items with
  | nil => rfl
  | cons item rest ih => rw [partsItems, ih, List.flatMap_cons]

theorem parts_members : partsMembers members = members.flatMap fun member => .string member.1 :: member.2.parts := by
  induction members with
  | nil => rfl
  | cons member rest ih => rw [partsMembers, ih, List.flatMap_cons, List.cons_append]

theorem escape_items : escapeItems items = items.map escapeValue := by
  induction items with
  | nil => rfl
  | cons item rest ih => rw [escapeItems, ih, List.map_cons]

theorem escape_members : escapeMembers members = members.map fun member => (htmlEscape member.1, escapeValue member.2) := by
  induction members with
  | nil => rfl
  | cons member rest ih => rw [escapeMembers, ih, List.map_cons]

theorem nesting_items (depth : Nat) : nestingItems items ≤ depth ↔ ∀ item ∈ items, item.nesting ≤ depth := by
  induction items with
  | nil => simp [nestingItems]
  | cons item rest ih => rw [nestingItems, max_le_iff, ih, List.forall_mem_cons]

theorem nesting_members (depth : Nat) : nestingMembers members ≤ depth ↔ ∀ member ∈ members, member.2.nesting ≤ depth := by
  induction members with
  | nil => simp [nestingMembers]
  | cons member rest ih => rw [nestingMembers, max_le_iff, ih, List.forall_mem_cons]

variable (floats : Number → Option Number)

theorem remarshal_items (items again : List Value) :
    remarshalItems floats items = some again ↔ List.Forall₂ (fun item again => remarshal floats item = some again) items again := by
  induction items generalizing again with
  | nil => simp [remarshalItems, eq_comm (a := [])]
  | cons item rest ih => simp [remarshalItems, Option.bind_eq_some_iff, List.forall₂_cons_left_iff, ih, eq_comm (a := again)]

theorem remarshal_members (members : List (List StringUnit × Value)) (pairs : List (List UInt8 × Value)) :
    remarshalMembers floats members = some pairs ↔
      List.Forall₂ (fun member pair => unquote member.1 = pair.1 ∧ remarshal floats member.2 = some pair.2) members pairs := by
  induction members generalizing pairs with
  | nil => simp [remarshalMembers, eq_comm (a := [])]
  | cons member rest ih =>
    simp [remarshalMembers, Option.bind_eq_some_iff, List.forall₂_cons_left_iff, ih, eq_comm (a := pairs)]

theorem remarshal_items_none (items : List Value) : remarshalItems floats items = none ↔ ∃ item ∈ items, remarshal floats item = none := by
  induction items with
  | nil => simp [remarshalItems]
  | cons item rest ih =>
    simp only [remarshalItems, List.mem_cons, exists_eq_or_imp, ← ih]
    cases remarshal floats item <;> simp

theorem remarshal_members_none (members : List (List StringUnit × Value)) :
    remarshalMembers floats members = none ↔ ∃ member ∈ members, remarshal floats member.2 = none := by
  induction members with
  | nil => simp [remarshalMembers]
  | cons member rest ih =>
    simp only [remarshalMembers, List.mem_cons, exists_eq_or_imp, ← ih]
    cases remarshal floats member.2 <;> simp

theorem forall₂_source {α β : Type} {R : α → β → Prop} {sources : List α} {made : List β} (each : List.Forall₂ R sources made) (item : β)
    (member : item ∈ made) : ∃ source ∈ sources, R source item := by
  induction each with
  | nil => cases member
  | cons own _ ih =>
    rcases List.mem_cons.mp member with rfl | later
    · exact ⟨_, List.mem_cons_self, own⟩
    · obtain ⟨source, listed, own⟩ := ih later
      exact ⟨source, List.mem_cons_of_mem _ listed, own⟩

end Lists

section Compact

theorem html_unit_fixed_iff (unit : StringUnit) :
    htmlUnit unit = unit ↔ ∀ byte ok, .plain byte ok = unit → byte ∉ [60, 62, 38] := by
  cases unit with
  | plain byte ok =>
    rw [htmlUnit]
    split
    · rename_i special
      exact iff_of_false (by simp [escapedByte]) fun all => all byte ok rfl (by simpa using special)
    · rename_i other
      exact iff_of_true rfl fun _ _ same => by cases same; simpa using other
  | short | unicode => simp [htmlUnit]

theorem html_separator_changed (unit : StringUnit) (rest : List StringUnit) (separator : separatorAt (unit :: rest) ≠ none) :
    htmlEscapeFrom 0 (unit :: rest) ≠ unit :: rest := by
  intro same
  obtain ⟨last, found⟩ := Option.ne_none_iff_exists'.mp separator
  rw [htmlEscapeFrom, found, List.cons.injEq] at same
  rw [← same.1] at found
  simp [separatorAt, plainPrefix, escapedSeparator] at found

theorem html_fixed_iff (units : List StringUnit) : htmlEscape units = units ↔ Unescaped units := by
  unfold htmlEscape Unescaped
  induction units with
  | nil => simp [htmlEscapeFrom, separatorAt, plainPrefix]
  | cons unit rest ih =>
    by_cases separator : separatorAt (unit :: rest) = none
    · rw [htmlEscapeFrom, separator]
      simp only [List.cons.injEq, html_unit_fixed_iff, ih, List.mem_cons, List.suffix_cons_iff, forall_eq_or_imp, separator, true_and]
      constructor
      · rintro ⟨here, later, tails⟩
        exact ⟨fun byte ok member => member.elim (here byte ok) (later byte ok), tails⟩
      · rintro ⟨all, tails⟩
        exact ⟨fun byte ok same => all byte ok (.inl same), fun byte ok member => all byte ok (.inr member), tails⟩
    · exact iff_of_false (html_separator_changed unit rest separator) fun unescaped => separator (unescaped.2 _ (List.suffix_refl _))

theorem map_fixed_iff {α : Type} (f : α → α) (items : List α) : items.map f = items ↔ ∀ item ∈ items, f item = item := by
  rw [← List.map_inj_left, List.map_id']

theorem escape_fixed_iff (value : Value) : escapeValue value = value ↔ ∀ part ∈ value.parts, part.Compact := by
  induction value using value_induction with
  | null | bool | number => simp [escapeValue, Value.parts, Part.Compact]
  | string units => simp [escapeValue, Value.parts, Part.Compact, html_fixed_iff]
  | array items inner =>
    rw [escapeValue, Value.array.injEq, escape_items, map_fixed_iff, Value.parts, parts_items, List.forall_mem_flatMap]
    exact forall₂_congr inner
  | object members inner =>
    rw [escapeValue, Value.object.injEq, escape_members, map_fixed_iff, Value.parts, parts_members, List.forall_mem_cons,
      List.forall_mem_flatMap, Part.Compact, true_and]
    refine forall₂_congr fun member here => ?_
    rw [Prod.ext_iff, List.forall_mem_cons, Part.Compact, html_fixed_iff, inner member here]

end Compact

section Sorting

theorem quote_text (text : List Char) : quote (encode text) = text.flatMap escapeChar := by
  induction text with
  | nil => rfl
  | cons c text ih => rw [encode_cons, quote_char, ih, List.flatMap_cons]

theorem printed_iff (units : List StringUnit) : quote (unquote units) = units ↔ Printed units := by
  constructor
  · intro same
    exact ⟨chars 0 units, by rw [← quote_text]; exact same.symm⟩
  · rintro ⟨text, rfl⟩
    rw [← quote_text, unquote, unquote_quote]

theorem not_after_iff (first second : List UInt8) : notAfter first second = true ↔ first ≤ second := by
  induction first generalizing second with
  | nil => simp [notAfter]
  | cons byte rest ih =>
    cases second with
    | nil => simp [notAfter]
    | cons other others => simp [notAfter, ih, List.cons_le_cons_iff]

def inserted (pairs : List (List UInt8 × Value)) : List (List UInt8 × Value) := ((∅ : GoMap (List UInt8) Value).insertPairs pairs).pairs

def NotAfter (first second : List UInt8 × Value) : Prop := notAfter first.1 second.1 = true

instance : DecidableRel NotAfter := fun _ _ => inferInstanceAs (Decidable (_ = true))

theorem not_after_total (first second : List UInt8 × Value) : NotAfter first second ∨ NotAfter second first := by
  simpa only [NotAfter, not_after_iff] using List.le_total first.1 second.1

theorem not_after_trans (first second third : List UInt8 × Value) (here : NotAfter first second) (there : NotAfter second third) :
    NotAfter first third :=
  (not_after_iff _ _).mpr (List.le_trans ((not_after_iff _ _).mp here) ((not_after_iff _ _).mp there))

instance : Std.Total NotAfter := ⟨not_after_total⟩

instance : IsTrans _ NotAfter := ⟨not_after_trans⟩

def sortedPairs (pairs : List (List UInt8 × Value)) : List (List UInt8 × Value) := (inserted pairs).insertionSort NotAfter

variable (pairs : List (List UInt8 × Value))

theorem sorted_members : sortedMembers pairs = (sortedPairs pairs).map fun pair => (quote pair.1, pair.2) := rfl

theorem sorted_pairs_mem (pair : List UInt8 × Value) (member : pair ∈ sortedPairs pairs) : pair ∈ pairs := by
  have stored := (AList.mem_pairs _ pair.1 pair.2).mp ((List.perm_insertionSort NotAfter (inserted pairs)).mem_iff.mp member)
  rcases AList.insert_pairs_origin pairs ∅ pair.1 pair.2 stored with listed | absent
  · exact listed
  · cases absent

theorem sorted_pairs_ordered : ((sortedPairs pairs).map Prod.fst).Pairwise (· < ·) := by
  have distinct : ((inserted pairs).map Prod.fst).Nodup := by
    rw [inserted, AList.pairs_keys]
    exact AList.keys_nodup _
  have apart : ((sortedPairs pairs).map Prod.fst).Nodup := ((List.perm_insertionSort NotAfter _).map Prod.fst).nodup_iff.mpr distinct
  rw [List.Nodup, List.pairwise_map] at apart
  rw [List.pairwise_map]
  refine (apart.and (List.pairwise_insertionSort NotAfter (inserted pairs))).imp ?_
  rintro first second ⟨different, sorted⟩
  by_contra later
  exact different (List.le_antisymm ((not_after_iff _ _).mp sorted) later)

theorem sorted_pairs_self (ordered : (pairs.map Prod.fst).Pairwise (· < ·)) : sortedPairs pairs = pairs := by
  have distinct : (pairs.map Prod.fst).Nodup := by
    refine List.Pairwise.imp ?_ ordered
    rintro first _ less rfl
    exact List.lt_irrefl first less
  have same : (sortedPairs pairs).Perm pairs :=
    (List.perm_insertionSort NotAfter _).trans (AList.insert_pairs_perm pairs ∅ distinct (by simp))
  refine List.Perm.eq_of_pairwise ?_ (List.pairwise_map.mp (sorted_pairs_ordered pairs)) (List.pairwise_map.mp ordered) same
  intro first second _ _ less more
  exact absurd more (List.lt_asymm less)

end Sorting

section Canonical

variable (floats : Number → Option Number)

variable (members : List (List StringUnit × Value))

theorem remarshal_keys (pairs : List (List UInt8 × Value)) (read : remarshalMembers floats members = some pairs) :
    members.map (fun member => unquote member.1) = pairs.map Prod.fst := by
  rw [← List.forall₂_eq_eq_eq, List.forall₂_map_left_iff, List.forall₂_map_right_iff]
  exact ((remarshal_members floats members pairs).mp read).imp fun _ _ own => own.1

theorem unquote_key (pairs : List (List UInt8 × Value)) (read : remarshalMembers floats members = some pairs)
    (pair : List UInt8 × Value) (member : pair ∈ pairs) : unquote (quote pair.1) = pair.1 := by
  have key : pair.1 ∈ pairs.map Prod.fst := List.mem_map_of_mem member
  rw [← remarshal_keys floats members pairs read, List.mem_map] at key
  obtain ⟨source, _, same⟩ := key
  rw [← same]
  exact (unquote_quote_iff _).mpr (unquote_valid source.1)

theorem remarshal_members_fixed :
    remarshal floats (.object members) = some (.object members) ↔
      Ordered (members.map Prod.fst) ∧ ∀ member ∈ members, Printed member.1 ∧ remarshal floats member.2 = some member.2 := by
  rw [remarshal, Option.map_eq_some_iff]
  constructor
  · rintro ⟨pairs, read, same⟩
    have names := unquote_key floats members pairs read
    rw [Value.object.injEq, sorted_members] at same
    have ordered : (pairs.map Prod.fst).Pairwise (· < ·) := by
      have keys : members.map (fun member => unquote member.1) = (sortedPairs pairs).map Prod.fst := by
        rw [← same, List.map_map]
        exact List.map_congr_left fun pair member => names pair (sorted_pairs_mem pairs pair member)
      rw [← remarshal_keys floats members pairs read, keys]
      exact sorted_pairs_ordered pairs
    rw [sorted_pairs_self pairs ordered] at same
    rw [remarshal_members, ← same, List.forall₂_map_left_iff, List.forall₂_same] at read
    have keys : ((pairs.map fun pair => (quote pair.1, pair.2)).map Prod.fst).map unquote = pairs.map Prod.fst := by
      rw [List.map_map, List.map_map]
      exact List.map_congr_left names
    rw [← same, Ordered, keys, List.forall_mem_map]
    exact ⟨ordered, fun pair member => ⟨(printed_iff _).mp (by rw [names pair member]), (read pair member).2⟩⟩
  · rintro ⟨ordered, kept⟩
    refine ⟨members.map fun member => (unquote member.1, member.2), ?_, ?_⟩
    · rw [remarshal_members, List.forall₂_map_right_iff, List.forall₂_same]
      exact fun member here => ⟨rfl, (kept member here).2⟩
    · rw [Value.object.injEq, sorted_members, sorted_pairs_self, List.map_map, map_fixed_iff]
      · exact fun member here => Prod.ext ((printed_iff member.1).mpr (kept member here).1) rfl
      · rw [Ordered, List.map_map] at ordered
        rwa [List.map_map]

theorem remarshal_fixed_iff (value : Value) :
    remarshal floats value = some value ↔ ∀ part ∈ value.parts, part.Canonical floats := by
  induction value using value_induction with
  | null | bool => simp [remarshal, Value.parts]
  | number literal => simp [remarshal, Value.parts, Part.Canonical]
  | string units => simp [remarshal, Value.parts, Part.Canonical, printed_iff]
  | array items inner =>
    have fixed : remarshal floats (.array items) = some (.array items) ↔ remarshalItems floats items = some items := by
      simp [remarshal]
    rw [fixed, remarshal_items, List.forall₂_same, Value.parts, parts_items, List.forall_mem_flatMap]
    exact forall₂_congr inner
  | object members inner =>
    rw [remarshal_members_fixed, Value.parts, parts_members, List.forall_mem_cons, List.forall_mem_flatMap, Part.Canonical]
    refine and_congr_right fun _ => forall₂_congr fun member here => ?_
    rw [List.forall_mem_cons, Part.Canonical, inner member here]

theorem unread_number {α : Type} (items : List α) (parts : α → List Part) (fails : α → Prop)
    (each : ∀ item ∈ items, fails item ↔ ∃ literal, .number literal ∈ parts item ∧ floats literal = none) :
    (∃ item ∈ items, fails item) ↔ ∃ literal, .number literal ∈ items.flatMap parts ∧ floats literal = none := by
  constructor
  · rintro ⟨item, member, failed⟩
    obtain ⟨literal, own, none⟩ := (each item member).mp failed
    exact ⟨literal, List.mem_flatMap.mpr ⟨item, member, own⟩, none⟩
  · rintro ⟨literal, own, none⟩
    obtain ⟨item, member, inside⟩ := List.mem_flatMap.mp own
    exact ⟨item, member, (each item member).mpr ⟨literal, inside, none⟩⟩

theorem remarshal_none_iff (value : Value) :
    remarshal floats value = none ↔ ∃ literal, .number literal ∈ value.parts ∧ floats literal = none := by
  induction value using value_induction with
  | null | bool | string | number => simp [remarshal, Value.parts]
  | array items inner =>
    rw [remarshal, Option.map_eq_none_iff, remarshal_items_none, Value.parts, parts_items]
    exact unread_number floats items _ _ inner
  | object members inner =>
    simp only [remarshal, Option.map_eq_none_iff, remarshal_members_none, Value.parts, parts_members, List.mem_cons, reduceCtorEq,
      false_or]
    exact unread_number floats members _ _ fun member listed => by simpa using inner member listed

theorem remarshal_again (value again : Value) (remarshals : remarshal floats value = some again) :
    escapeValue again = again ∧ again.nesting ≤ value.nesting := by
  induction value using value_induction generalizing again with
  | null | bool =>
    cases remarshals
    exact ⟨rfl, le_refl _⟩
  | number literal =>
    obtain ⟨printed, _, rfl⟩ := Option.map_eq_some_iff.mp remarshals
    exact ⟨rfl, le_refl _⟩
  | string units =>
    cases remarshals
    exact ⟨by rw [escapeValue, html_escape_quote], le_refl _⟩
  | array items inner =>
    obtain ⟨others, read, rfl⟩ := Option.map_eq_some_iff.mp remarshals
    have each := forall₂_source ((remarshal_items floats items others).mp read)
    rw [escapeValue, Value.array.injEq, escape_items, map_fixed_iff, Value.nesting, Value.nesting, Nat.add_le_add_iff_right,
      nesting_items, ← forall₂_and]
    intro item member
    obtain ⟨source, listed, own⟩ := each item member
    have kept := inner source listed item own
    exact ⟨kept.1, kept.2.trans ((nesting_items items _).mp (le_refl _) source listed)⟩
  | object members inner =>
    obtain ⟨pairs, read, rfl⟩ := Option.map_eq_some_iff.mp remarshals
    have each := forall₂_source ((remarshal_members floats members pairs).mp read)
    rw [escapeValue, Value.object.injEq, escape_members, map_fixed_iff, Value.nesting, Value.nesting, Nat.add_le_add_iff_right,
      nesting_members, ← forall₂_and, sorted_members, List.forall_mem_map]
    intro pair member
    obtain ⟨source, listed, _, own⟩ := each pair (sorted_pairs_mem pairs pair member)
    have kept := inner source listed pair.2 own
    exact ⟨Prod.ext (html_escape_quote pair.1) kept.1, kept.2.trans ((nesting_members members _).mp (le_refl _) source listed)⟩

end Canonical

end JsonText
