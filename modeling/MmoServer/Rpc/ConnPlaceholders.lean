import MmoServer.Rpc.ConnReturns

set_option autoImplicit false

namespace MmoServer.Rpc

open ConnManager

section Closing

variable (m : ConnManager) (g : Nat) (endpoint : String) (choice : Choice)

def ConnManager.ClosesUnset : Writing → Prop
  | .closing => ∃ ref ∈ m.connections.lookup endpoint, ∃ conn ∈ m.heap[ref]?, conn.conn = none
  | .closingAll => m.stopCleanup = false ∧ ∃ other, ∃ ref ∈ m.connections.lookup other, ∃ conn ∈ m.heap[ref]?, conn.conn = none
  | .cleaning now => ∃ other, ∃ ref ∈ m.connections.lookup other, ∃ conn ∈ m.heap[ref]?,
      m.idleTimeout < now - conn.lastUsed ∧ conn.conn = none
  | .rechecking | .finishing _ _ => False

theorem close_entries_nil (Due : ClientConn → Prop) [DecidablePred Due] (entries : List (String × Nat)) (m : ConnManager) :
    (closeEntries Due entries m).2 = true ↔
      ∃ entry ∈ entries, ∃ conn ∈ m.heap[entry.2]?, Due conn ∧ conn.conn = none := by
  induction entries generalizing m with
  | nil => simp [closeEntries]
  | cons entry rest ih =>
    obtain ⟨at_, ref⟩ := entry
    simp only [List.exists_mem_cons_iff]
    cases found : m.heap[ref]? with
    | none => simp [closeEntries, found, ih]
    | some conn =>
      by_cases due : Due conn
      · cases set : conn.conn with
        | none => simp [closeEntries, found, due, set]
        | some grpcConn => simp [closeEntries, found, due, set, ih]
      · simp [closeEntries, found, due, ih]

theorem close_pairs_nil (Due : ClientConn → Prop) [DecidablePred Due] (order : Shuffle (String × Nat)) (before : ConnManager) :
    (closeAndUnlock (closeEntries Due (order.apply before.connections.pairs) before)).nilCall = true ↔
      ∃ other, ∃ ref ∈ before.connections.lookup other, ∃ conn ∈ before.heap[ref]?, Due conn ∧ conn.conn = none := by
  have all : ∀ entry, entry ∈ order.apply before.connections.pairs ↔ before.connections.lookup entry.1 = some entry.2 :=
    fun entry => (order.mem_apply _ _).trans (AList.mem_pairs _ _ _)
  rw [closeAndUnlock, close_entries_nil]
  constructor
  · rintro ⟨entry, member, unset⟩
    exact ⟨entry.1, entry.2, (all entry).mp member, unset⟩
  · rintro ⟨other, ref, known, unset⟩
    exact ⟨(other, ref), (all (other, ref)).mpr known, unset⟩

theorem recheck_nil_call (sound : Sound m.heap) : (m.recheck endpoint choice).nilCall = false := by
  rw [recheck]
  split
  · exact unlock_nil_call _ _
  · rename_i ref conn found
    obtain ⟨-, here⟩ := entry_found m endpoint ref conn found
    split
    · rfl
    · rename_i created
      split
      · rename_i missing
        exact absurd missing (sound conn (List.mem_of_getElem? here) (Bool.eq_false_iff.mpr created))
      · split
        · exact unlock_nil_call _ _
        · exact unlock_nil_call _ _

theorem write_nil_call_iff (now : Writing) (sound : Sound m.heap) :
    (m.write endpoint choice now).nilCall = true ↔ m.ClosesUnset endpoint now := by
  cases now with
  | rechecking =>
    apply iff_of_false _ id
    rw [write, recheck_nil_call m endpoint choice sound]
    exact Bool.false_ne_true
  | finishing ref dialed =>
    apply iff_of_false _ id
    cases dialed <;> rw [write, finish, unlock_nil_call] <;> exact Bool.false_ne_true
  | closing =>
    rw [write, close, closeAndUnlock, close_entries_nil]
    simp [ConnManager.ClosesUnset]
  | closingAll =>
    rw [write, closeAll, ConnManager.ClosesUnset]
    cases stopped : m.stopCleanup with
    | true => simp [unlock_nil_call]
    | false =>
      have nil := close_pairs_nil (fun _ => True) choice.order { m with stopCleanup := true }
      simpa using nil
  | cleaning now => exact close_pairs_nil (fun conn => m.idleTimeout < now - conn.lastUsed) choice.order m

theorem acts_nil_call (phase : Phase) (move : Move) (sound : Sound m.heap) (outside : ∀ now, phase ≠ .writing now)
    (acts : Acts m g endpoint phase move) : move.nilCall = false := by
  cases acts with
  | lookedNil ref conn found created missing =>
    obtain ⟨-, here⟩ := entry_found m endpoint ref conn found
    exact absurd missing (sound conn (List.mem_of_getElem? here) created)
  | wrote now => exact absurd rfl (outside now)
  | looked | reread => exact runlock_nil_call _ _ _
  | timedOutLocked | awaitedLocked | unlockedReading | unlockingAgain => exact unlock_nil_call _ _
  | rlocked | locked | waitsLocked | timedOut | awaited | dialed => rfl

end Closing

namespace ConnSystem

variable (s : ConnSystem)

def Spares : Action → Prop
  | .call _ => True
  | .step g _ => s.fatal = false → ∀ goroutine ∈ s.goroutines[g]?, ∀ now, goroutine.phase = .writing now →
      ¬ s.manager.ClosesUnset goroutine.endpoint now

theorem moved_nil_call_iff (g : Nat) (choice : Choice) (goroutine : Goroutine) (move : Move) (inv : s.Invariant)
    (unused : s.nilCall = false) (alive : s.fatal = false) (found : s.goroutines[g]? = some goroutine)
    (acted : s.manager.act g goroutine.endpoint choice goroutine.phase = some move) :
    (s.apply g move).nilCall = false ↔ s.Spares (.step g choice) := by
  have same : (s.apply g move).nilCall = move.nilCall := by rw [apply, unused, Bool.false_or]
  rw [same]
  by_cases writes : ∃ now, goroutine.phase = .writing now
  · obtain ⟨now, phase⟩ := writes
    rw [phase] at acted
    cases acted
    have nil := write_nil_call_iff s.manager goroutine.endpoint choice now inv.sound
    rw [← Bool.not_eq_true, nil]
    constructor
    · intro spared _ other its section_ at_
      cases found.symm.trans its
      cases phase.symm.trans at_
      exact spared
    · intro spares
      exact spares alive goroutine found now phase
  · have outside : ∀ now, goroutine.phase ≠ .writing now := fun now at_ => writes ⟨now, at_⟩
    have fits := inv.fits goroutine (List.mem_of_getElem? found)
    have acts := acts s.manager g goroutine.endpoint choice goroutine.phase move fits acted
    apply iff_of_true (acts_nil_call _ _ _ _ _ inv.sound outside acts)
    intro _ other its now at_
    cases found.symm.trans its
    exact absurd at_ (outside now)

-- GetConnection itself never uses an entry that is not connected. Close, CloseAll and the
-- cleanup do exactly when they meet one.
theorem unset_never_used_iff (actions : List Action) :
    (∀ seen ∈ Runs.visited step {} actions, seen.nilCall = false) ↔ Runs.Meets step Spares {} actions := by
  apply Runs.visited_iff_meets step Invariant (fun seen => seen.nilCall = false) Spares
  · exact invariant_step
  · intro s action inv unused
    have cases_ := stepped s action
    generalize s.step action = after at cases_
    cases cases_ with
    | call request => exact iff_of_true unused trivial
    | idle g choice blocked =>
      apply iff_of_true unused
      intro alive goroutine found now writes
      have none_ := blocked alive goroutine found
      rw [writes] at none_
      cases none_
    | moved g choice goroutine move alive found acted =>
      exact moved_nil_call_iff s g choice goroutine move inv unused alive found acted
  · exact invariant_new
  · rfl

def closedWhileDialing : List Action :=
  [.call (.getConnection "game:9000"), .call (.close "game:9000"), .step 0 {}, .step 0 {}, .step 0 {}, .step 0 {}, .step 1 {},
    .step 1 {}]

theorem closed_while_dialing_uses_nil :
    let after := closedWhileDialing.foldl step {}
    after.nilCall = true ∧ after.goroutines.map Goroutine.phase = [.dialing 0, .panicked] := by
  decide +kernel

end ConnSystem

end MmoServer.Rpc
