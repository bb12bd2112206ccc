import Mathlib.Data.List.Basic

set_option autoImplicit false

-- Texts that show by themselves where they end, written one after the other.
namespace Delimited

variable {α : Type} (Accepts IsText : List α → Prop) (mark : α)

structure Delimits : Prop where
  starts : ∀ text, IsText text → text.head? = some mark
  nothing : ¬ Accepts []
  beginning : ∀ part more, Accepts part → IsText (part ++ more) → more = []
  continued : ∀ text more, IsText text → more.head? = some mark → ¬ Accepts (text ++ more)

variable {Accepts IsText mark}

theorem flatten_starts (delimits : Delimits Accepts IsText mark) (texts : List (List α)) (all : ∀ text ∈ texts, IsText text)
    (some_ : texts ≠ []) : texts.flatten.head? = some mark := by
  cases texts with
  | nil => exact absurd rfl some_
  | cons text rest =>
    have first := delimits.starts text (all text List.mem_cons_self)
    rw [List.flatten_cons, List.head?_append, first]
    rfl

theorem parts_eq_texts (delimits : Delimits Accepts IsText mark) (texts parts : List (List α)) (all : ∀ text ∈ texts, IsText text)
    (accepted : ∀ part ∈ parts, Accepts part) (stream : parts.flatten = texts.flatten) : parts = texts := by
  induction texts generalizing parts with
  | nil =>
    cases parts with
    | nil => rfl
    | cons part rest =>
      obtain ⟨rfl, _⟩ := List.append_eq_nil_iff.mp stream
      exact absurd (accepted [] List.mem_cons_self) delimits.nothing
  | cons text texts ih =>
    rw [List.forall_mem_cons] at all
    cases parts with
    | nil =>
      have empty : text = [] := (List.append_eq_nil_iff.mp stream.symm).1
      have first := delimits.starts text all.1
      rw [empty] at first
      cases first
    | cons part parts =>
      rw [List.forall_mem_cons] at accepted
      rw [List.flatten_cons, List.flatten_cons] at stream
      rcases List.append_eq_append_iff.mp stream with ⟨more, same, later⟩ | ⟨more, same, later⟩
      · -- The part ends within the text, or with it.
        obtain rfl := delimits.beginning part more accepted.1 (same ▸ all.1)
        rw [List.append_nil] at same
        rw [same, ih parts all.2 accepted.2 later]
      · -- The part ends after the text, or with it.
        cases more with
        | nil =>
          rw [List.append_nil] at same
          rw [same, ih parts all.2 accepted.2 later.symm]
        | cons first more =>
          have some_ : texts ≠ [] := by
            rintro rfl
            cases later
          have start := flatten_starts delimits texts all.2 some_
          rw [later] at start
          rw [same] at accepted
          exact absurd accepted.1 (delimits.continued text (first :: more) all.1 start)

end Delimited
