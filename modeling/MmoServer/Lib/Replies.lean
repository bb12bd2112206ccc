import Mathlib.Data.List.Basic

set_option autoImplicit false

-- A server that answers one call after the other, against a model that answers the same calls.
namespace Replies

variable {S T C R Q : Type} (serve : S → C → R × S) (model : T → C → Q × T) (agrees : C → R → Q → Prop)

def Agree : S → T → List C → Prop
  | _, _, [] => True
  | s, t, call :: calls =>
    agrees call (serve s call).1 (model t call).1 ∧ Agree (serve s call).2 (model t call).2 calls

theorem agree_run (related : S → T → Prop) (allowed : C → Prop)
    (step : ∀ s t call, related s t → allowed call →
      agrees call (serve s call).1 (model t call).1 ∧ related (serve s call).2 (model t call).2)
    (calls : List C) (all : ∀ call ∈ calls, allowed call) (s : S) (t : T) (initial : related s t) :
    Agree serve model agrees s t calls := by
  induction calls generalizing s t with
  | nil => trivial
  | cons call calls ih =>
    rw [List.forall_mem_cons] at all
    obtain ⟨reply, after⟩ := step s t call initial all.1
    exact ⟨reply, ih all.2 _ _ after⟩

end Replies
