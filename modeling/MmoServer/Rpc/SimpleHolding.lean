import MmoServer.Rpc.SimpleCustody

set_option autoImplicit false

namespace MmoServer.Rpc

namespace SimpleClient

section Holding

variable (c : SimpleClient) (custody : Nat → Custody) (k : Nat) (call : SimpleCall)

theorem listed_call (kept : c.Kept custody) (sequence : UInt64) (at_ : c.pending.lookup sequence = some k) :
    custody k = .pending ∧ ∃ call, c.calls[k]? = some call ∧ call.sequence = sequence ∧ ¬ call.phase.Unregistered := by
  obtain ⟨pending, call, found, own⟩ := (kept.listed sequence k).mp at_
  refine ⟨pending, call, found, own, fun fresh => ?_⟩
  cases pending.symm.trans (custody_unregistered c custody k call kept found fresh)

theorem kept_taken (p : Nat) (resp : SimpleJsonResponse) (kept : c.Kept custody)
    (at_ : c.responses[p]? = some (.started (.ok resp))) (listed : c.pending.lookup resp.sequence = some k) :
    Kept { c with pending := c.pending.erase resp.sequence, responses := c.responses.set p (.taken resp k) }
      (Function.update custody k (.held p)) := by
  obtain ⟨pending, call, found, own, registered⟩ := listed_call c custody k kept resp.sequence listed
  obtain ⟨untaken, unoffered, undelivered, unclosed⟩ := kept_unheld c custody k call kept found (.inr pending)
  have look (q : Nat) := Slots.look_set c.responses p q _ (.taken resp k) at_
  refine kept_custody c custody k call _ (.held p) kept rfl found registered ?_ ?_ ?_ ?_ kept.once
    (fun closed => absurd closed unclosed)
  · intro sequence i
    rw [AList.lookup_erase_eq]
    by_cases this : sequence = resp.sequence
    · subst this
      by_cases here : i = k
      · simp [here]
      · simp [here, listed, Ne.symm here]
    · by_cases here : i = k
      · subst here
        have unlisted : c.pending.lookup sequence ≠ some i := by
          intro again
          obtain ⟨_, one, one_at, same⟩ := (kept.listed sequence i).mp again
          cases found.symm.trans one_at
          exact this (same.symm.trans own)
        simp [this, unlisted]
      · simp [this, here]
  · intro q other i read
    rw [look] at read
    split at read
    next here =>
      cases read
      rw [if_pos rfl, here]
      exact ⟨rfl, own⟩
    next =>
      have apart : i ≠ k := fun same => untaken q other (same ▸ read)
      rwa [if_neg apart]
  · intro q i read
    rw [look] at read
    split at read
    next => cases read
    next =>
      have apart : i ≠ k := fun same => unoffered q (same ▸ read)
      rwa [if_neg apart]
  · intro q i member
    have apart : i ≠ k := fun same => undelivered q (same ▸ member)
    rw [if_neg apart, look]
    refine ⟨member, if_neg ?_⟩
    rintro rfl
    rcases kept.delivered q i member with ⟨read, _⟩ | ⟨read, _⟩ <;> cases at_.symm.trans read

theorem kept_held (p : Nat) (kept : c.Kept custody) (held : custody k = .held p) :
    (∀ sequence, c.pending.lookup sequence ≠ some k) ∧ (∀ (q : Nat) resp, c.responses[q]? = some (.taken resp k) → q = p) ∧
      (∀ q : Nat, c.responses[q]? = some (.offered k) → q = p) ∧
      (∀ q, (q, k) ∈ c.deliveries → q = p ∧ c.responses[p]? = some (.offered k)) ∧
      (∀ call, c.calls[k]? = some call → call.closes ≠ 1 ∧ ¬ call.phase.Unregistered) := by
  have only (q : Nat) (same : custody k = .held q) : q = p := by
    rw [held] at same
    cases same
    rfl
  refine ⟨?_, fun q resp at_ => only q (kept.taken q resp k at_).1, fun q at_ => only q (kept.offered q k at_), ?_, ?_⟩
  · intro sequence at_
    cases held.symm.trans ((kept.listed sequence k).mp at_).1
  · intro q member
    rcases kept.delivered q k member with ⟨read, same⟩ | ⟨_, released⟩
    · cases only q same
      exact ⟨rfl, read⟩
    · cases held.symm.trans released
  · intro call found
    refine ⟨fun closed => ?_, fun fresh => ?_⟩
    · cases held.symm.trans ((kept.closes k call found).2 closed)
    · cases held.symm.trans (custody_unregistered c custody k call kept found fresh)

theorem kept_goes_on (p : Nat) (old next : Processing) (deliveries : List (Nat × Nat)) (now : Custody) (kept : c.Kept custody)
    (held : custody k = .held p) (at_ : c.responses[p]? = some old) (found : c.calls[k]? = some call)
    (unlisted : now ≠ .pending) (taken : ∀ resp i, next ≠ .taken resp i)
    (offered : ∀ i, next = .offered i → i = k ∧ now = .held p)
    (delivered : ∀ q i, (q, i) ∈ deliveries → if i = k then q = p ∧ (next = .offered k ∧ now = .held p ∨
      next = .finished ∧ now = .released) else (q, i) ∈ c.deliveries ∧ q ≠ p)
    (once : (deliveries.map Prod.fst).Nodup ∧ (deliveries.map Prod.snd).Nodup) :
    Kept { c with responses := c.responses.set p next, deliveries } (Function.update custody k now) := by
  obtain ⟨unpending, onlyTaken, onlyOffered, -, rest⟩ := kept_held c custody k p kept held
  obtain ⟨unclosed, registered⟩ := rest call found
  have look (q : Nat) := Slots.look_set c.responses p q old next at_
  refine kept_custody c custody k call _ now kept rfl found registered ?_ ?_ ?_ ?_ once (fun closed => absurd closed unclosed)
  · intro sequence i
    by_cases here : i = k
    · subst here
      simp [unpending, unlisted]
    · simp [here]
  · intro q resp i read
    rw [look] at read
    split at read
    · exact absurd (Option.some.inj read) (taken resp i)
    next apart =>
      have elsewhere : i ≠ k := fun same => apart (onlyTaken q resp (same ▸ read))
      rwa [if_neg elsewhere]
  · intro q i read
    rw [look] at read
    split at read
    next here =>
      obtain ⟨same, holds⟩ := offered i (Option.some.inj read)
      rw [if_pos same, here, holds]
    next apart =>
      have elsewhere : i ≠ k := fun same => apart (onlyOffered q (same ▸ read))
      rwa [if_neg elsewhere]
  · intro q i member
    have its := delivered q i member
    by_cases here : i = k
    · rw [if_pos here] at its
      rw [if_pos here, look, if_pos its.1, its.1, Option.some_inj, Option.some_inj]
      exact its.2
    · rw [if_neg here] at its
      rw [if_neg here, look, if_neg its.2]
      exact ⟨its.1, rfl⟩

theorem kept_offered (p : Nat) (resp : SimpleJsonResponse) (delivered : List (Nat × Nat)) (kept : c.Kept custody)
    (at_ : c.responses[p]? = some (.taken resp k)) (found : c.calls[k]? = some call)
    (own : delivered = [(p, k)] ∨ delivered = []) :
    Kept { c with responses := c.responses.set p (.offered k), deliveries := c.deliveries ++ delivered }
      (Function.update custody k (.held p)) := by
  have held := (kept.taken p resp k at_).1
  have undelivered (q : Nat) : (q, k) ∉ c.deliveries := by
    intro member
    cases at_.symm.trans ((kept_held c custody k p kept held).2.2.2.1 q member).2
  have unused (i : Nat) : (p, i) ∉ c.deliveries := by
    intro member
    rcases kept.delivered p i member with ⟨read, _⟩ | ⟨read, _⟩ <;> cases at_.symm.trans read
  refine kept_goes_on c custody k call p _ (.offered k) _ (.held p) kept held at_ found ?_ ?_ ?_ ?_ ?_
  · intro same
    cases same
  · intro resp i same
    cases same
  · intro i same
    cases same
    exact ⟨rfl, rfl⟩
  · intro q i member
    rcases List.mem_append.mp member with old | new
    · have elsewhere : i ≠ k := fun same => undelivered q (same ▸ old)
      rw [if_neg elsewhere]
      exact ⟨old, fun same => unused i (same ▸ old)⟩
    · rcases own with rfl | rfl
      · cases List.mem_singleton.mp new
        rw [if_pos rfl]
        exact ⟨rfl, .inl ⟨rfl, rfl⟩⟩
      · cases new
  · rcases own with rfl | rfl
    · have fresh : p ∉ c.deliveries.map Prod.fst ∧ k ∉ c.deliveries.map Prod.snd := by simp [unused, undelivered]
      rw [List.map_append, List.map_append, List.map_singleton, List.map_singleton, ← List.concat_eq_append,
        ← List.concat_eq_append]
      exact ⟨kept.once.1.concat fresh.1, kept.once.2.concat fresh.2⟩
    · rw [List.append_nil]
      exact kept.once

theorem kept_closed (p : Nat) (kept : c.Kept custody) (at_ : c.responses[p]? = some (.offered k))
    (found : c.calls[k]? = some call) :
    Kept { c with responses := c.responses.set p .finished } (Function.update custody k .released) := by
  have held := kept.offered p k at_
  refine kept_goes_on c custody k call p _ .finished c.deliveries .released kept held at_ found ?_ ?_ ?_ ?_ kept.once
  · intro same
    cases same
  · intro resp i same
    cases same
  · intro i same
    cases same
  · intro q i member
    split
    next here =>
      subst here
      exact ⟨((kept_held c custody i p kept held).2.2.2.1 q member).1, .inr ⟨rfl, rfl⟩⟩
    next elsewhere =>
      refine ⟨member, ?_⟩
      rintro rfl
      rcases kept.delivered q i member with ⟨read, _⟩ | ⟨read, _⟩
      · cases at_.symm.trans read
        exact elsewhere rfl
      · cases at_.symm.trans read

theorem kept_dropped (p : Nat) (data : Except String SimpleJsonResponse) (kept : c.Kept custody)
    (at_ : c.responses[p]? = some (.started data)) :
    Kept { c with responses := c.responses.set p .finished } custody := by
  have look (q : Nat) := Slots.look_set c.responses p q _ .finished at_
  refine ⟨kept.listed, kept.unregistered, ?_, ?_, ?_, kept.once, kept.closes⟩
  · intro q resp k read
    rw [look] at read
    split at read
    · cases read
    · exact kept.taken q resp k read
  · intro q k read
    rw [look] at read
    split at read
    · cases read
    · exact kept.offered q k read
  · intro q k member
    have apart : q ≠ p := by
      rintro rfl
      rcases kept.delivered q k member with ⟨read, _⟩ | ⟨read, _⟩ <;> cases at_.symm.trans read
    rw [look, if_neg apart]
    exact kept.delivered q k member

theorem kept_received (data : Except String SimpleJsonResponse)
    (kept : c.Kept custody) : Kept { c with responses := c.responses ++ [.started data] } custody := by
  have earlier (p : Nat) (processing : Processing) := Slots.look_appended c.responses p (.started data) processing
  refine ⟨kept.listed, kept.unregistered, ?_, ?_, ?_, kept.once, kept.closes⟩
  · intro p resp k at_
    rcases earlier p _ at_ with old | ⟨_, new⟩
    · exact kept.taken p resp k old
    · cases new
  · intro p k at_
    rcases earlier p _ at_ with old | ⟨_, new⟩
    · exact kept.offered p k old
    · cases new
  · intro p k member
    rcases kept.delivered p k member with ⟨read, held⟩ | ⟨read, released⟩
    · exact .inl ⟨Slots.look_kept c.responses _ p _ read, held⟩
    · exact .inr ⟨Slots.look_kept c.responses _ p _ read, released⟩

end Holding

end SimpleClient

end MmoServer.Rpc
