import MmoServer.Rpc.SimpleNumbers

set_option autoImplicit false

namespace MmoServer.Rpc

namespace SimpleClient

-- Who may complete a call: nobody yet, whoever finds it in pending, the
-- processing that took it from there, or nobody any more.
inductive Custody where
  | unregistered
  | pending
  | held (p : Nat)
  | released
deriving DecidableEq

structure Kept (c : SimpleClient) (custody : Nat → Custody) : Prop where
  listed : ∀ sequence k, c.pending.lookup sequence = some k ↔
    custody k = .pending ∧ ∃ call, c.calls[k]? = some call ∧ call.sequence = sequence
  unregistered : ∀ k, (∀ call, c.calls[k]? = some call → call.phase.Unregistered) → custody k = .unregistered
  taken : ∀ p resp k, c.responses[p]? = some (.taken resp k) →
    custody k = .held p ∧ ∃ call, c.calls[k]? = some call ∧ call.sequence = resp.sequence
  offered : ∀ p k, c.responses[p]? = some (.offered k) → custody k = .held p
  delivered : ∀ p k, (p, k) ∈ c.deliveries →
    (c.responses[p]? = some (.offered k) ∧ custody k = .held p) ∨ (c.responses[p]? = some .finished ∧ custody k = .released)
  once : (c.deliveries.map Prod.fst).Nodup ∧ (c.deliveries.map Prod.snd).Nodup
  closes : ∀ k call, c.calls[k]? = some call → call.closes ≤ 1 ∧ (call.closes = 1 → custody k = .released)

section Custody

variable (c : SimpleClient) (custody : Nat → Custody) (k : Nat) (call moved : SimpleCall)

theorem custody_unregistered (kept : c.Kept custody) (found : c.calls[k]? = some call) (fresh : call.phase.Unregistered) :
    custody k = .unregistered := by
  apply kept.unregistered k
  intro one at_
  cases found.symm.trans at_
  exact fresh

theorem kept_congr (after : SimpleClient) (kept : c.Kept custody) (pending : after.pending = c.pending)
    (calls : after.calls = c.calls) (responses : after.responses = c.responses) (deliveries : after.deliveries = c.deliveries) :
    after.Kept custody := by
  constructor
  · simpa only [pending, calls] using kept.listed
  · simpa only [calls] using kept.unregistered
  · simpa only [responses, calls] using kept.taken
  · simpa only [responses] using kept.offered
  · simpa only [responses, deliveries] using kept.delivered
  · simpa only [deliveries] using kept.once
  · simpa only [calls] using kept.closes

theorem kept_set (kept : c.Kept custody) (found : c.calls[k]? = some call)
    (sequence : custody k ≠ .unregistered → moved.sequence = call.sequence)
    (closes : moved.closes ≤ 1 ∧ (moved.closes = 1 → custody k = .released))
    (unregistered : moved.phase.Unregistered → custody k = .unregistered) :
    Kept { c with calls := c.calls.set k moved } custody := by
  have numbers (i : Nat) (sought : UInt64) (begun : custody i ≠ .unregistered) :
      (∃ one, (c.calls.set k moved)[i]? = some one ∧ one.sequence = sought) ↔
        ∃ one, c.calls[i]? = some one ∧ one.sequence = sought := by
    rw [Slots.look_set c.calls k i call moved found]
    by_cases here : i = k
    · subst here
      simp [found, sequence begun]
    · rw [if_neg here]
  refine ⟨?_, ?_, ?_, kept.offered, kept.delivered, kept.once, ?_⟩
  · intro sought i
    rw [kept.listed]
    by_cases at_ : custody i = .pending
    · rw [numbers i sought (by rw [at_]; exact nofun)]
    · simp [at_]
  · intro i all
    simp only [Slots.look_set c.calls k i call moved found] at all
    by_cases here : i = k
    · rw [if_pos here] at all
      rw [here]
      exact unregistered (all moved rfl)
    · rw [if_neg here] at all
      exact kept.unregistered i all
  · intro p resp i at_
    have held := kept.taken p resp i at_
    exact ⟨held.1, (numbers i _ (by rw [held.1]; exact nofun)).mpr held.2⟩
  · intro i one at_
    simp only [Slots.look_set c.calls k i call moved found] at at_
    split at at_
    next here =>
      cases at_
      rw [here]
      exact closes
    next => exact kept.closes i one at_

theorem kept_custody (after : SimpleClient) (now : Custody) (kept : c.Kept custody) (calls : after.calls = c.calls)
    (found : c.calls[k]? = some call) (registered : ¬ call.phase.Unregistered)
    (listed : ∀ sequence i, after.pending.lookup sequence = some i ↔
      if i = k then now = .pending ∧ call.sequence = sequence else c.pending.lookup sequence = some i)
    (taken : ∀ p resp i, after.responses[p]? = some (.taken resp i) →
      if i = k then now = .held p ∧ call.sequence = resp.sequence else c.responses[p]? = some (.taken resp i))
    (offered : ∀ p i, after.responses[p]? = some (.offered i) →
      if i = k then now = .held p else c.responses[p]? = some (.offered i))
    (delivered : ∀ p i, (p, i) ∈ after.deliveries →
      if i = k then (after.responses[p]? = some (.offered k) ∧ now = .held p) ∨
        (after.responses[p]? = some .finished ∧ now = .released)
      else (p, i) ∈ c.deliveries ∧ after.responses[p]? = c.responses[p]?)
    (once : (after.deliveries.map Prod.fst).Nodup ∧ (after.deliveries.map Prod.snd).Nodup)
    (closes : call.closes = 1 → now = .released) : after.Kept (Function.update custody k now) := by
  refine ⟨?_, ?_, ?_, ?_, ?_, once, ?_⟩
  · intro sequence i
    rw [listed, calls]
    by_cases here : i = k
    · subst here
      simp [found]
    · rw [if_neg here, Function.update_of_ne here, kept.listed]
  · intro i all
    rw [calls] at all
    have apart : i ≠ k := fun same => registered (all call (same ▸ found))
    rw [Function.update_of_ne apart]
    exact kept.unregistered i all
  · intro p resp i at_
    have was := taken p resp i at_
    rw [calls]
    by_cases here : i = k
    · subst here
      rw [if_pos rfl] at was
      rw [Function.update_self]
      exact ⟨was.1, call, found, was.2⟩
    · rw [if_neg here] at was
      rw [Function.update_of_ne here]
      exact kept.taken p resp i was
  · intro p i at_
    have was := offered p i at_
    by_cases here : i = k
    · rw [if_pos here] at was
      rw [here, Function.update_self, was]
    · rw [if_neg here] at was
      rw [Function.update_of_ne here]
      exact kept.offered p i was
  · intro p i member
    have was := delivered p i member
    by_cases here : i = k
    · rw [if_pos here] at was
      rw [here, Function.update_self]
      exact was
    · rw [if_neg here] at was
      rw [Function.update_of_ne here, was.2]
      exact kept.delivered p i was.1
  · intro i one at_
    rw [calls] at at_
    have was := kept.closes i one at_
    by_cases here : i = k
    · subst here
      cases found.symm.trans at_
      rw [Function.update_self]
      exact ⟨was.1, closes⟩
    · rw [Function.update_of_ne here]
      exact was

theorem kept_unheld (kept : c.Kept custody) (found : c.calls[k]? = some call)
    (free : custody k = .unregistered ∨ custody k = .pending) :
    (∀ (p : Nat) resp, c.responses[p]? ≠ some (.taken resp k)) ∧ (∀ p : Nat, c.responses[p]? ≠ some (.offered k)) ∧
      (∀ p, (p, k) ∉ c.deliveries) ∧ call.closes ≠ 1 := by
  have unheld (p : Nat) : custody k ≠ .held p := by
    rcases free with at_ | at_ <;> rw [at_] <;> exact nofun
  have unreleased : custody k ≠ .released := by
    rcases free with at_ | at_ <;> rw [at_] <;> exact nofun
  refine ⟨fun p resp at_ => unheld p (kept.taken p resp k at_).1, fun p at_ => unheld p (kept.offered p k at_), ?_, ?_⟩
  · intro p member
    rcases kept.delivered p k member with ⟨_, held⟩ | ⟨_, released⟩
    · exact unheld p held
    · exact unreleased released
  · exact fun closed => unreleased ((kept.closes k call found).2 closed)

theorem kept_pending (pending : GoMap UInt64 Nat) (now : Custody) (kept : c.Kept custody) (found : c.calls[k]? = some call)
    (registered : ¬ call.phase.Unregistered) (free : custody k = .unregistered ∨ custody k = .pending)
    (listed : ∀ sequence i, pending.lookup sequence = some i ↔
      if i = k then now = .pending ∧ call.sequence = sequence else c.pending.lookup sequence = some i) :
    Kept { c with pending } (Function.update custody k now) := by
  obtain ⟨untaken, unoffered, undelivered, unclosed⟩ := kept_unheld c custody k call kept found free
  refine kept_custody c custody k call { c with pending } now kept rfl found registered listed ?_ ?_ ?_ kept.once
    (fun closed => absurd closed unclosed)
  · intro p resp i at_
    have apart : i ≠ k := fun same => untaken p resp (same ▸ at_)
    rwa [if_neg apart]
  · intro p i at_
    have apart : i ≠ k := fun same => unoffered p (same ▸ at_)
    rwa [if_neg apart]
  · intro p i member
    have apart : i ≠ k := fun same => undelivered p (same ▸ member)
    rw [if_neg apart]
    exact ⟨member, rfl⟩

section

variable (kept : c.Kept custody) (found : c.calls[k]? = some call)

include kept found

theorem kept_registered (registered : ¬ call.phase.Unregistered) (free : custody k = .unregistered)
    (alone : c.pending.lookup call.sequence = none) :
    Kept { c with pending := c.pending.insert call.sequence k } (Function.update custody k .pending) := by
  refine kept_pending c custody k call _ .pending kept found registered (.inl free) fun sequence i => ?_
  rw [AList.lookup_insert_eq]
  by_cases here : i = k
  · subst here
    have unlisted : c.pending.lookup sequence ≠ some i := by
      intro at_
      have pending := ((kept.listed sequence i).mp at_).1
      rw [free] at pending
      cases pending
    by_cases own : sequence = call.sequence
    · simp [own]
    · simp [own, Ne.symm own, unlisted]
  · by_cases own : sequence = call.sequence
    · subst own
      simp [here, Ne.symm here, alone]
    · simp [own, here]

theorem lookup_alone (numbered : Numbered c.seq c.calls) (has : call.phase.hasNumber = true) (i : Nat)
    (at_ : c.pending.lookup call.sequence = some i) : i = k := by
  obtain ⟨pending, one, one_at, same⟩ := (kept.listed call.sequence i).mp at_
  have numbered_one : one.phase.hasNumber = true := by
    by_contra not
    have starting : one.phase.Unregistered := by
      cases phase : one.phase <;> simp [phase, SimplePhase.hasNumber, SimplePhase.Unregistered] at not ⊢
    cases pending.symm.trans (custody_unregistered c custody i one kept one_at starting)
  exact numbered.distinct i k one call one_at found numbered_one has same

theorem kept_left (registered : ¬ call.phase.Unregistered) (has : call.phase.hasNumber = true) (numbered : Numbered c.seq c.calls) :
    ∃ after, Kept { c with pending := c.pending.erase call.sequence } after := by
  have own := lookup_alone c custody k call kept found numbered has
  cases at_ : c.pending.lookup call.sequence with
  | none =>
    have same (sequence : UInt64) : (c.pending.erase call.sequence).lookup sequence = c.pending.lookup sequence := by
      rw [AList.lookup_erase_eq]
      split
      next here => rw [here, at_]
      next => rfl
    refine ⟨custody, ?_, kept.unregistered, kept.taken, kept.offered, kept.delivered, kept.once, kept.closes⟩
    intro sequence i
    rw [same]
    exact kept.listed sequence i
  | some i =>
    cases own i at_
    have pending := ((kept.listed _ _).mp at_).1
    refine ⟨_, kept_pending c custody k call _ .released kept found registered (.inr pending) fun sequence i => ?_⟩
    rw [AList.lookup_erase_eq]
    by_cases here : i = k
    · subst here
      have only : sequence ≠ call.sequence → c.pending.lookup sequence ≠ some i := by
        intro apart listed
        obtain ⟨_, one, one_at, same⟩ := (kept.listed sequence i).mp listed
        cases found.symm.trans one_at
        exact apart same.symm
      by_cases this : sequence = call.sequence
      · simp [this]
      · simp [this, only this]
    · by_cases this : sequence = call.sequence
      · subst this
        simp [here, at_, Ne.symm here]
      · simp [this, here]

end

theorem kept_called (kept : c.Kept custody)
    (starting : call.phase = .starting) (unclosed : call.closes = 0) :
    Kept { c with calls := c.calls ++ [call] } custody := by
  have begun (k : Nat) (taken : custody k ≠ .unregistered) (sought : UInt64) :
      (∃ one, (c.calls ++ [call])[k]? = some one ∧ one.sequence = sought) ↔
        ∃ one, c.calls[k]? = some one ∧ one.sequence = sought := by
    cases at_ : c.calls[k]? with
    | some one => rw [Slots.look_kept c.calls [call] k one at_]
    | none => exact absurd (kept.unregistered k fun one found => by cases at_.symm.trans found) taken
  refine ⟨?_, ?_, ?_, kept.offered, kept.delivered, kept.once, ?_⟩
  · intro sequence k
    rw [kept.listed]
    by_cases at_ : custody k = .pending
    · rw [begun k (by rw [at_]; exact nofun)]
    · simp [at_]
  · intro k all
    exact kept.unregistered k fun one at_ => all one (Slots.look_kept c.calls [call] k one at_)
  · intro p resp k read
    obtain ⟨held, own⟩ := kept.taken p resp k read
    exact ⟨held, (begun k (by rw [held]; exact nofun) _).mpr own⟩
  · intro k one at_
    rcases Slots.look_appended c.calls k call one at_ with old | ⟨_, rfl⟩
    · exact kept.closes k one old
    · exact ⟨by omega, fun closed => by omega⟩

end Custody

end SimpleClient

end MmoServer.Rpc
