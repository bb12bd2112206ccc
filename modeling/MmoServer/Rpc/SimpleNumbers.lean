import MmoServer.Rpc.SimpleClient

set_option autoImplicit false

namespace MmoServer.Rpc

def SimplePhase.hasNumber : SimplePhase → Bool
  | .starting => false
  | _ => true

def SimplePhase.Unregistered : SimplePhase → Prop
  | .starting | .numbered => True
  | _ => False

theorem underway_registered (phase : SimplePhase) (underway : phase.Underway) :
    phase.hasNumber = true ∧ ¬ phase.Unregistered := by
  cases phase <;> first | exact ⟨rfl, id⟩ | exact underway.elim

namespace SimpleClient

section Numbers

structure Numbered (seq : UInt64) (calls : List SimpleCall) : Prop where
  counted : seq.toNat = calls.countP (·.phase.hasNumber)
  below : ∀ (k : Nat) call, calls[k]? = some call → call.phase.hasNumber = true → call.sequence.toNat ≤ seq.toNat
  distinct : ∀ (i j : Nat) first second, calls[i]? = some first → calls[j]? = some second →
    first.phase.hasNumber = true → second.phase.hasNumber = true → first.sequence = second.sequence → i = j

variable (seq : UInt64) (calls : List SimpleCall) (k : Nat) (call moved : SimpleCall)

theorem numbered_append (numbered : Numbered seq calls) (starting : call.phase = .starting) :
    Numbered seq (calls ++ [call]) := by
  have unnumbered : call.phase.hasNumber = false := by rw [starting]; rfl
  have old (i : Nat) (one : SimpleCall) (at_ : (calls ++ [call])[i]? = some one) (has : one.phase.hasNumber = true) :
      calls[i]? = some one := by
    rcases Slots.look_appended calls i call one at_ with earlier | ⟨_, rfl⟩
    · exact earlier
    · cases unnumbered.symm.trans has
  refine ⟨by simp [numbered.counted, List.countP_append, unnumbered], ?_, ?_⟩
  · exact fun i one at_ has => numbered.below i one (old i one at_ has) has
  · exact fun i j first second atI atJ hasI hasJ same =>
      numbered.distinct i j first second (old i first atI hasI) (old j second atJ hasJ) hasI hasJ same

theorem numbered_set (numbered : Numbered seq calls) (found : calls[k]? = some call) (has : call.phase.hasNumber = true)
    (still : moved.phase.hasNumber = true) (same : moved.sequence = call.sequence) : Numbered seq (calls.set k moved) := by
  have inside := (List.getElem?_eq_some_iff.mp found).1
  have at_ : calls.get ⟨k, inside⟩ = call := (List.getElem?_eq_some_iff.mp found).2
  have old (i : Nat) (one : SimpleCall) (one_at : (calls.set k moved)[i]? = some one) (has_one : one.phase.hasNumber = true) :
      ∃ before, calls[i]? = some before ∧ before.phase.hasNumber = true ∧ one.sequence = before.sequence := by
    rw [Slots.look_set calls k i call moved found] at one_at
    split at one_at
    next here =>
      cases one_at
      exact ⟨call, here ▸ found, has, same⟩
    next => exact ⟨one, one_at, has_one, rfl⟩
  refine ⟨?_, ?_, ?_⟩
  · rw [List.countP_set inside, numbered.counted, still]
    have one : calls.countP (·.phase.hasNumber) ≥ 1 := List.countP_pos_iff.mpr ⟨call, List.mem_of_getElem? found, has⟩
    have here : calls[k].phase.hasNumber = true := by rw [← has]; exact congrArg (·.phase.hasNumber) at_
    simp only [here, if_true]
    omega
  · intro i one one_at has_one
    obtain ⟨before, before_at, had, sequence⟩ := old i one one_at has_one
    rw [sequence]
    exact numbered.below i before before_at had
  · intro i j first second atI atJ hasI hasJ equal
    obtain ⟨one, oneAt, oneHas, oneSame⟩ := old i first atI hasI
    obtain ⟨two, twoAt, twoHas, twoSame⟩ := old j second atJ hasJ
    exact numbered.distinct i j one two oneAt twoAt oneHas twoHas (by rw [← oneSame, ← twoSame, equal])

theorem numbered_next (numbered : Numbered seq calls) (found : calls[k]? = some call) (starting : call.phase = .starting)
    (few : calls.length < 2 ^ 64) :
    Numbered (seq + 1) (calls.set k { call with sequence := seq + 1, phase := .numbered }) := by
  have inside := (List.getElem?_eq_some_iff.mp found).1
  have here : calls[k].phase.hasNumber = false := by
    rw [(List.getElem?_eq_some_iff.mp found).2, starting]
    rfl
  have counted : (calls.set k { call with sequence := seq + 1, phase := .numbered }).countP (·.phase.hasNumber) =
      seq.toNat + 1 := by
    rw [List.countP_set inside, numbered.counted]
    have new : SimplePhase.numbered.hasNumber = true := rfl
    simp [here, new]
  have room : seq.toNat + 1 < 2 ^ 64 := by
    have most := List.countP_le_length (p := (·.phase.hasNumber))
      (l := calls.set k { call with sequence := seq + 1, phase := .numbered })
    rw [counted, List.length_set] at most
    omega
  have next : (seq + 1).toNat = seq.toNat + 1 := by
    rw [UInt64.toNat_add]
    exact Nat.mod_eq_of_lt room
  have cases_at (i : Nat) (one : SimpleCall)
      (at_ : (calls.set k { call with sequence := seq + 1, phase := .numbered })[i]? = some one) :
      (i = k ∧ one.sequence = seq + 1) ∨ (i ≠ k ∧ calls[i]? = some one) := by
    rw [Slots.look_set calls k i call _ found] at at_
    split at at_
    next same =>
      cases at_
      exact .inl ⟨same, rfl⟩
    next apart => exact .inr ⟨apart, at_⟩
  have newer (i : Nat) (one : SimpleCall) (at_ : calls[i]? = some one) (has : one.phase.hasNumber = true) :
      one.sequence ≠ seq + 1 := by
    intro same
    have bound := numbered.below i one at_ has
    rw [same, next] at bound
    omega
  refine ⟨by rw [next, counted], ?_, ?_⟩
  · intro i one at_ has
    rcases cases_at i one at_ with ⟨_, same⟩ | ⟨_, old⟩
    · rw [same]
    · have bound := numbered.below i one old has
      omega
  · intro i j first second atI atJ hasI hasJ same
    rcases cases_at i first atI with ⟨isI, newI⟩ | ⟨_, oldI⟩
    · rcases cases_at j second atJ with ⟨isJ, _⟩ | ⟨_, oldJ⟩
      · rw [isI, isJ]
      · exact absurd (same.symm.trans newI) (newer j second oldJ hasJ)
    · rcases cases_at j second atJ with ⟨_, newJ⟩ | ⟨_, oldJ⟩
      · exact absurd (same.trans newJ) (newer i first oldI hasI)
      · exact numbered.distinct i j first second oldI oldJ hasI hasJ same

end Numbers

end SimpleClient

end MmoServer.Rpc
