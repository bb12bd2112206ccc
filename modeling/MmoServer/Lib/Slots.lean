import Mathlib.Algebra.Order.BigOperators.Group.Multiset
import Mathlib.Tactic

set_option autoImplicit false

namespace Slots

variable {α β : Type}

theorem held_set (held : α → List β) (slots : List α) (i : Nat) (old : α) (found : slots[i]? = some old) :
    ∃ others : Multiset β, (slots.flatMap held : Multiset β) = (held old : Multiset β) + others ∧
      ∀ new, ((slots.set i new).flatMap held : Multiset β) = (held new : Multiset β) + others := by
  induction slots generalizing i with
  | nil => simp at found
  | cons head tail ih =>
    cases i with
    | zero =>
      rw [List.getElem?_cons_zero, Option.some_inj] at found
      subst found
      refine ⟨(tail.flatMap held : Multiset β), ?_, fun new => ?_⟩
      · rw [List.flatMap_cons, Multiset.coe_add]
      · rw [List.set_cons_zero, List.flatMap_cons, Multiset.coe_add]
    | succ i =>
      rw [List.getElem?_cons_succ] at found
      obtain ⟨others, was, now⟩ := ih i found
      refine ⟨(held head : Multiset β) + others, ?_, fun new => ?_⟩
      · rw [List.flatMap_cons, ← Multiset.coe_add, was, add_left_comm]
      · rw [List.set_cons_succ, List.flatMap_cons, ← Multiset.coe_add, now, add_left_comm]

variable (slots : List α) (items : List α) (before after : Multiset α) (weight : α → Nat) (item : α)

theorem look_set (k i : Nat) (old new : α) (found : slots[k]? = some old) :
    (slots.set k new)[i]? = if i = k then some new else slots[i]? := by
  by_cases here : i = k
  · subst here
    rw [if_pos rfl, List.getElem?_set_self (List.getElem?_eq_some_iff.mp found).1]
  · rw [if_neg here, List.getElem?_set_ne (Ne.symm here)]

theorem look_kept (slots more : List α) (i : Nat) (old : α) (found : slots[i]? = some old) : (slots ++ more)[i]? = some old :=
  (List.getElem?_append_left (List.getElem?_eq_some_iff.mp found).1).trans found

theorem look_appended (i : Nat) (item one : α) (found : (slots ++ [item])[i]? = some one) :
    slots[i]? = some one ∨ slots.length ≤ i ∧ one = item := by
  rw [List.getElem?_append] at found
  split at found
  · exact .inl found
  next beyond => exact .inr ⟨Nat.not_lt.mp beyond, List.mem_singleton.mp (List.mem_of_getElem? found)⟩

theorem forall_set_iff (p : α → Prop) (slots : List α) (i : Nat) (old new : α) (found : slots[i]? = some old)
    (all : ∀ item ∈ slots, p item) : (∀ item ∈ slots.set i new, p item) ↔ p new := by
  constructor
  · intro after
    exact after new (List.mem_set (List.getElem?_eq_some_iff.mp found).1 new)
  · intro holds item member
    rcases List.mem_or_eq_of_mem_set member with earlier | rfl
    · exact all item earlier
    · exact holds

theorem foldl_modify (change : α → α) (targets : List Nat) (distinct : targets.Nodup) (slots : List α) (i : Nat) :
    (targets.foldl (fun slots target => slots.modify target change) slots)[i]? =
      slots[i]?.map fun slot => if i ∈ targets then change slot else slot := by
  induction targets generalizing slots with
  | nil => simp
  | cons target rest ih =>
    obtain ⟨fresh, later⟩ := List.nodup_cons.mp distinct
    rw [List.foldl_cons, ih later, List.getElem?_modify, Option.map_eq_map, Option.map_map]
    congr 1
    funext slot
    by_cases here : target = i
    · subst here
      simp [fresh]
    · simp [here, Ne.symm here]

theorem concat_eq : (items ++ [item] : List α) = item ::ₘ (items : Multiset α) := by
  rw [← Multiset.coe_add, add_comm, Multiset.coe_singleton, Multiset.singleton_add]

theorem find_erase (p : α → Bool) (item : α) (found : items.find? p = some item) :
    (items : Multiset α) = item ::ₘ (items.eraseP p : Multiset α) := by
  obtain ⟨holds, before, after, rfl, passed⟩ := List.find?_eq_some_iff_append.mp found
  have erased : (before ++ item :: after).eraseP p = before ++ after := by
    rw [List.eraseP_append_right _ (by simpa using passed), List.eraseP_cons_of_pos holds]
  rw [erased, Multiset.cons_coe, Multiset.coe_eq_coe]
  exact List.perm_middle

theorem find_key {K : Type} [DecidableEq K] (key : α → K) (items : List α) (item : α) (distinct : (items.map key).Nodup)
    (member : item ∈ items) : (items.find? fun other => key other == key item) = some item := by
  cases found : items.find? fun other => key other == key item with
  | none =>
    have absent := List.find?_eq_none.mp found item member
    simp at absent
  | some other =>
    have same : key other = key item := by simpa using List.find?_some found
    rw [List.inj_on_of_nodup_map distinct (List.mem_of_find?_eq_some found) member same]

theorem find_filter {K : Type} [DecidableEq K] (key : α → K) (items : List α) (sought : K) (item : α)
    (distinct : (items.map key).Nodup) (found : (items.find? fun other => key other == sought) = some item) :
    items.Perm (item :: items.filter fun other => key other != sought) := by
  have own : key item = sought := by simpa using List.find?_some found
  have member : item ∈ items := List.mem_of_find?_eq_some found
  have apart : item ∉ items.filter fun other => key other != sought := by simp [own]
  rw [List.perm_ext_iff_of_nodup distinct.of_map (List.nodup_cons.mpr ⟨apart, distinct.of_map.filter _⟩)]
  intro other
  simp only [List.mem_cons, List.mem_filter, bne_iff_ne]
  constructor
  · intro present
    by_cases same : key other = sought
    · exact .inl (List.inj_on_of_nodup_map distinct present member (same.trans own.symm))
    · exact .inr ⟨present, same⟩
  · rintro (rfl | ⟨present, _⟩)
    · exact member
    · exact present

def Exchange (before after : Multiset α) (gone come : List α) : Prop :=
  ∃ rest, before = (gone : Multiset α) + rest ∧ after = (come : Multiset α) + rest

theorem Exchange.of_eq (same : after = before) : Exchange before after [] [] :=
  ⟨before, (zero_add _).symm, by rw [same, Multiset.coe_nil, zero_add]⟩

theorem Exchange.replaced (before after rest : Multiset α) (old new : α) (was : before = old ::ₘ rest) (now : after = new ::ₘ rest) :
    Exchange before after [old] [new] :=
  ⟨rest, by rw [was, Multiset.coe_singleton, Multiset.singleton_add], by rw [now, Multiset.coe_singleton, Multiset.singleton_add]⟩

theorem exchange_held (held : α → List β) (slots : List α) (i : Nat) (old new : α) (found : slots[i]? = some old) :
    Exchange (slots.flatMap held : Multiset β) ((slots.set i new).flatMap held) (held old) (held new) := by
  obtain ⟨others, was, now⟩ := held_set held slots i old found
  exact ⟨others, was, now new⟩

theorem Exchange.framed {before after : Multiset α} {gone come : List α} (exchange : Exchange before after gone come)
    (front back : Multiset α) : Exchange (front + before + back) (front + after + back) gone come := by
  obtain ⟨rest, was, now⟩ := exchange
  refine ⟨front + rest + back, ?_, ?_⟩
  · rw [was]
    abel
  · rw [now]
    abel

theorem exchange_gone : Exchange before after [item] [] ↔ before = item ::ₘ after := by
  simp [Exchange]

theorem exchange_come : Exchange before after [] [item] ↔ after = item ::ₘ before := by
  simp [Exchange]

def total (weight : α → Nat) (items : Multiset α) : Nat := (items.map weight).sum

theorem total_add (first second : Multiset α) : total weight (first + second) = total weight first + total weight second := by
  rw [total, Multiset.map_add, Multiset.sum_add, total, total]

theorem total_none : total weight (([] : List α) : Multiset α) = 0 := rfl

theorem total_one : total weight (([item] : List α) : Multiset α) = weight item := by
  rw [total, Multiset.coe_singleton, Multiset.map_singleton, Multiset.sum_singleton]

theorem total_cons (items : Multiset α) : total weight (item ::ₘ items) = weight item + total weight items := by
  rw [total, Multiset.map_cons, Multiset.sum_cons, total]

theorem total_map (weight : β → Nat) (f : α → β) (items : Multiset α) :
    total weight (items.map f) = total (fun item => weight (f item)) items := by
  rw [total, Multiset.map_map]
  rfl

theorem total_le (first second : α → Nat) (below : ∀ item, first item ≤ second item) (items : Multiset α) :
    total first items ≤ total second items :=
  Multiset.sum_map_le_sum_map first second fun item _ => below item

theorem total_eq_zero (items : Multiset α) (each : ∀ item ∈ items, weight item = 0) : total weight items = 0 := by
  apply Multiset.sum_eq_zero
  intro amount member
  obtain ⟨item, inside, rfl⟩ := Multiset.mem_map.mp member
  exact each item inside

theorem total_count (p : α → Bool) (items : List α) (each : ∀ item ∈ items, weight item = if p item = true then 1 else 0) :
    total weight (items : Multiset α) = items.countP p := by
  induction items with
  | nil => rfl
  | cons head tail ih =>
    have later := ih fun item member => each item (List.mem_cons_of_mem _ member)
    rw [total] at later
    rw [← Multiset.cons_coe, total, Multiset.map_cons, Multiset.sum_cons, List.countP_cons, later,
      each head List.mem_cons_self, add_comm]

theorem Exchange.balance {before after : Multiset α} {gone come : List α} (exchange : Exchange before after gone come)
    (weight : α → Nat) :
    total weight after + total weight (gone : Multiset α) = total weight before + total weight (come : Multiset α) := by
  obtain ⟨rest, rfl, rfl⟩ := exchange
  rw [total_add, total_add]
  omega

end Slots
