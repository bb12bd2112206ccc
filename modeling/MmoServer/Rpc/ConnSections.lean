import MmoServer.Rpc.ConnManager

set_option autoImplicit false

namespace MmoServer.Rpc

open ConnManager

section Entries

def Connected (heap : List ClientConn) (ref : Nat) : Prop := ∃ conn ∈ heap[ref]?, conn.conn ≠ none

instance decidableConnected (heap : List ClientConn) (ref : Nat) : Decidable (Connected heap ref) :=
  inferInstanceAs (Decidable (∃ conn ∈ heap[ref]?, conn.conn ≠ none))

def Sound (heap : List ClientConn) : Prop := ∀ conn ∈ heap, conn.creating = false → conn.conn ≠ none

inductive HeapChange (heap : List ClientConn) : List ClientConn → Prop
  | same : HeapChange heap heap
  | touched (ref now : Nat) : HeapChange heap (heap.modify ref fun conn => { conn with lastUsed := now })
  | opened (now : Nat) : HeapChange heap (heap ++ [{ lastUsed := now, creating := true }])
  | completed (ref : Nat) : HeapChange heap (heap.modify ref fun conn => { conn with creationComplete := true })
  | connected (ref grpcConn : Nat) :
      HeapChange heap (heap.modify ref fun conn => { conn with conn := some grpcConn, creating := false, creationComplete := true })

theorem mem_modify (heap : List ClientConn) (ref : Nat) (change : ClientConn → ClientConn) (conn : ClientConn)
    (member : conn ∈ heap.modify ref change) : conn ∈ heap ∨ ∃ before ∈ heap, conn = change before := by
  obtain ⟨at_, found⟩ := List.mem_iff_getElem?.mp member
  rw [List.getElem?_modify] at found
  obtain ⟨before, was, rfl⟩ := Option.map_eq_some_iff.mp found
  have old := List.mem_of_getElem? was
  split
  · exact .inr ⟨before, old, rfl⟩
  · exact .inl old

theorem sound_modify (heap : List ClientConn) (ref : Nat) (change : ClientConn → ClientConn) (sound : Sound heap)
    (keeps : ∀ conn, (conn.creating = false → conn.conn ≠ none) → (change conn).creating = false → (change conn).conn ≠ none) :
    Sound (heap.modify ref change) := by
  intro conn member
  rcases mem_modify heap ref change conn member with old | ⟨before, old, rfl⟩
  · exact sound conn old
  · exact keeps before (sound before old)

theorem sound_change (heap after : List ClientConn) (sound : Sound heap) (change : HeapChange heap after) : Sound after := by
  cases change with
  | same => exact sound
  | touched ref now | completed ref => exact sound_modify heap ref _ sound fun _ keeps => keeps
  | opened now =>
    intro conn member
    rcases List.mem_append.mp member with old | new
    · exact sound conn old
    · rw [List.mem_singleton.mp new]
      exact fun created => nomatch created
  | connected ref grpcConn => exact sound_modify heap ref _ sound fun _ _ _ missing => nomatch missing

theorem connected_modify (heap : List ClientConn) (ref at_ : Nat) (change : ClientConn → ClientConn)
    (keeps : ∀ conn, conn.conn ≠ none → (change conn).conn ≠ none) (connected : Connected heap ref) :
    Connected (heap.modify at_ change) ref := by
  obtain ⟨conn, found, set⟩ := connected
  rw [Option.mem_def] at found
  refine ⟨if at_ = ref then change conn else conn, ?_, ?_⟩
  · rw [Option.mem_def, List.getElem?_modify, found]
    split <;> rfl
  · split
    · exact keeps conn set
    · exact set

theorem connected_change (heap after : List ClientConn) (ref : Nat) (change : HeapChange heap after) (connected : Connected heap ref) :
    Connected after ref := by
  cases change with
  | same => exact connected
  | touched at_ now | completed at_ => exact connected_modify heap ref at_ _ (fun _ set => set) connected
  | opened now =>
    obtain ⟨conn, found, set⟩ := connected
    refine ⟨conn, ?_, set⟩
    rw [Option.mem_def, List.getElem?_append_left (List.getElem?_eq_some_iff.mp found).1]
    exact found
  | connected at_ grpcConn => exact connected_modify heap ref at_ _ (fun _ _ missing => nomatch missing) connected

theorem length_change (heap after : List ClientConn) (change : HeapChange heap after) : heap.length ≤ after.length := by
  cases change <;> simp

end Entries

section Moves

def Fits (heap : List ClientConn) : Phase → Prop
  | .lock (.finishing ref _) | .writing (.finishing ref _) | .dialing ref => ref < heap.length
  | .returned ref => Connected heap ref
  | _ => True

theorem fits_change (heap after : List ClientConn) (phase : Phase) (change : HeapChange heap after) (fits : Fits heap phase) :
    Fits after phase := by
  have longer := length_change heap after change
  unfold Fits at fits ⊢
  split
  · exact fits.trans_le longer
  · exact fits.trans_le longer
  · exact fits.trans_le longer
  · exact connected_change heap after _ change fits
  · trivial

def Phase.Outside : Phase → Prop
  | .lock _ | .waiting _ | .dialing _ | .returned _ | .failed _ | .finished | .panicked => True
  | _ => False

def Phase.waits : Phase → List RWMutex.Op
  | .waiting _ => [.await]
  | _ => []

variable (m : ConnManager) (g : Nat) (endpoint : String) (choice : Choice)

-- All that a goroutine can do in one step: a section changes the manager to a state after
-- it, and then releases its lock.
inductive Acts : Phase → Move → Prop
  | rlocked (next : Reading) (mu : RWMutex) (locked : m.mu.rlock g = some mu) :
      Acts (.rlock next) { manager := { m with mu }, phase := .reading next, ops := [.rlock] }
  | locked (next : Writing) (mu : RWMutex) (locked : m.mu.lock g = some mu) :
      Acts (.lock next) { manager := { m with mu }, phase := .writing next, ops := [.lock] }
  | looked (after : ConnManager) (phase : Phase) (heap : HeapChange m.heap after.heap) (mu : after.mu = m.mu)
      (fits : Fits after.heap phase) (outside : phase.Outside) :
      Acts (.reading .looking) { after.runlock g phase with ops := [.runlock] ++ phase.waits }
  | lookedNil (ref : Nat) (conn : ClientConn) (found : m.entry endpoint = some (ref, conn)) (created : conn.creating = false)
      (missing : conn.conn = none) : Acts (.reading .looking) { manager := m, phase := .panicked, nilCall := true }
  | reread : Acts (.reading .rereading) (m.runlock g (.reread (m.connections.lookup endpoint)))
  | wrote (now : Writing) (after : ConnManager) (phase : Phase) (nilCall : Bool) (heap : HeapChange m.heap after.heap)
      (mu : after.mu = m.mu) (fits : Fits after.heap phase) (outside : phase.Outside) (busy : phase.waits = []) :
      Acts (.writing now) { after.unlock phase with nilCall }
  | waitsLocked (ref : Nat) (conn : ClientConn) (found : m.entry endpoint = some (ref, conn)) (creating : conn.creating = true) :
      Acts (.writing .rechecking) { manager := m, phase := .waitingLocked ref, ops := [.await] }
  | timedOut (ref : Nat) : Acts (.waiting ref) { manager := m, phase := .failed timedOutWaiting }
  | awaited (ref : Nat) : Acts (.waiting ref) { manager := m, phase := .rlock .rereading }
  | timedOutLocked (ref : Nat) : Acts (.waitingLocked ref) (m.unlock .unlockingAgain)
  | awaitedLocked (ref : Nat) : Acts (.waitingLocked ref) (m.unlock .unlockedReading)
  | unlockedReading : Acts .unlockedReading (m.unlock (.reread (m.connections.lookup endpoint)))
  | unlockingAgain : Acts .unlockingAgain (m.unlock (.failed timedOutWaiting))
  | dialed (ref count : Nat) (dialed : Dialed) (known : ref < m.heap.length) :
      Acts (.dialing ref) { manager := { m with dialed := count }, phase := .lock (.finishing ref dialed) }

theorem entry_found (ref : Nat) (conn : ClientConn) (found : m.entry endpoint = some (ref, conn)) :
    m.connections.lookup endpoint = some ref ∧ m.heap[ref]? = some conn := by
  obtain ⟨at_, known, its⟩ := Option.bind_eq_some_iff.mp found
  obtain ⟨stored, here, same⟩ := Option.map_eq_some_iff.mp its
  cases same
  exact ⟨known, here⟩

theorem touched_connected (ref now grpcConn : Nat) (conn : ClientConn) (found : m.heap[ref]? = some conn)
    (set : conn.conn = some grpcConn) : Connected (m.touch ref now).heap ref := by
  apply connected_change m.heap _ ref (.touched ref now)
  exact ⟨conn, found, fun missing => nomatch set.symm.trans missing⟩

variable (now : Writing) (after : ConnManager) (phase : Phase)

theorem runlock_ops : (after.runlock g phase).ops = [.runlock] := by
  rw [runlock]
  split <;> rfl

theorem unlock_ops : (after.unlock phase).ops = [.unlock] := by
  rw [unlock]
  split <;> rfl

theorem runlock_nil_call : (after.runlock g phase).nilCall = false := by
  rw [runlock]
  split <;> rfl

theorem unlock_nil_call : (after.unlock phase).nilCall = false := by
  rw [unlock]
  split <;> rfl

section

variable (heap : HeapChange m.heap after.heap) (mu : after.mu = m.mu) (fits : Fits after.heap phase) (outside : phase.Outside)
  (busy : phase.waits = [])

include heap mu fits outside busy

theorem acts_runlock : Acts m g endpoint (.reading .looking) (after.runlock g phase) := by
  have acts : Acts m g endpoint (.reading .looking) { after.runlock g phase with ops := [.runlock] ++ phase.waits } :=
    .looked after phase heap mu fits outside
  rwa [busy, List.append_nil, ← runlock_ops g after phase] at acts

theorem acts_unlock : Acts m g endpoint (.writing now) (after.unlock phase) := by
  have acts : Acts m g endpoint (.writing now) { after.unlock phase with nilCall := false } :=
    .wrote now after phase false heap mu fits outside busy
  rwa [← unlock_nil_call after phase] at acts

end

theorem acts_look : Acts m g endpoint (.reading .looking) (m.look g endpoint choice) := by
  rw [look]
  split
  · exact acts_runlock m g endpoint m _ .same rfl trivial trivial rfl
  · rename_i ref conn found
    obtain ⟨-, here⟩ := entry_found m endpoint ref conn found
    split
    · simp only [runlock_ops]
      exact .looked m (.waiting ref) .same rfl trivial trivial
    · rename_i created
      split
      · rename_i missing
        exact .lookedNil ref conn found (Bool.eq_false_iff.mpr created) missing
      · rename_i grpcConn set
        split
        · exact acts_runlock m g endpoint (m.touch ref choice.now) _ (.touched ref choice.now) rfl
            (touched_connected m ref choice.now grpcConn conn here set) trivial rfl
        · exact acts_runlock m g endpoint m _ .same rfl trivial trivial rfl

theorem acts_create (before : ConnManager) (now : Nat) (heap : before.heap = m.heap) (mu : before.mu = m.mu) :
    Acts m g endpoint (.writing .rechecking) (before.create endpoint now) := by
  rw [create]
  apply acts_unlock
  · exact heap ▸ .opened now
  · exact mu
  · simp [Fits]
  · trivial
  · rfl

theorem acts_recheck : Acts m g endpoint (.writing .rechecking) (m.recheck endpoint choice) := by
  rw [recheck]
  split
  · exact acts_create m g endpoint m choice.now rfl rfl
  · rename_i ref conn found
    obtain ⟨-, here⟩ := entry_found m endpoint ref conn found
    split
    · rename_i creating
      exact .waitsLocked ref conn found creating
    · split
      · exact .wrote .rechecking m .panicked true .same rfl trivial trivial rfl
      · rename_i grpcConn set
        split
        · exact acts_unlock m g endpoint .rechecking (m.touch ref choice.now) _ (.touched ref choice.now) rfl
            (touched_connected m ref choice.now grpcConn conn here set) trivial rfl
        · exact acts_create m g endpoint { m with shut := grpcConn :: m.shut, connections := m.connections.erase endpoint }
            choice.now rfl rfl

theorem acts_finish (ref : Nat) (dialed : Dialed) (known : ref < m.heap.length) :
    Acts m g endpoint (.writing (.finishing ref dialed)) (m.finish endpoint ref dialed) := by
  cases dialed with
  | failed text =>
    rw [finish]
    exact acts_unlock m g endpoint _ _ _ (.completed ref) rfl trivial trivial rfl
  | connected grpcConn =>
    rw [finish]
    apply acts_unlock
    · exact .connected ref grpcConn
    · rfl
    · refine ⟨{ m.heap[ref] with conn := some grpcConn, creating := false, creationComplete := true }, ?_, nofun⟩
      simp [List.getElem?_eq_getElem known]
    · trivial
    · rfl

section

variable (Due : ClientConn → Prop) [DecidablePred Due] (entries : List (String × Nat))

theorem close_entries_frame (m : ConnManager) :
    (closeEntries Due entries m).1.heap = m.heap ∧ (closeEntries Due entries m).1.mu = m.mu := by
  fun_induction closeEntries Due entries m <;> simp_all

theorem acts_close_entries (before : ConnManager) (heap : before.heap = m.heap) (mu : before.mu = m.mu) :
    Acts m g endpoint (.writing now) (closeAndUnlock (closeEntries Due entries before)) := by
  obtain ⟨sameHeap, sameMu⟩ := close_entries_frame Due entries before
  apply Acts.wrote
  · rw [sameHeap, heap]
    exact .same
  · exact sameMu.trans mu
  · split <;> trivial
  · split <;> trivial
  · split <;> rfl

end

theorem acts_write (fits : Fits m.heap (.writing now)) : Acts m g endpoint (.writing now) (m.write endpoint choice now) := by
  cases now with
  | rechecking => exact acts_recheck m g endpoint choice
  | finishing ref dialed => exact acts_finish m g endpoint ref dialed fits
  | closing | cleaning now => exact acts_close_entries m g endpoint _ _ _ m rfl rfl
  | closingAll =>
    rw [write, closeAll]
    split
    · exact acts_unlock m g endpoint _ m _ .same rfl trivial trivial rfl
    · exact acts_close_entries m g endpoint _ _ _ { m with stopCleanup := true } rfl rfl

theorem acts (move : Move) (fits : Fits m.heap phase) (acted : m.act g endpoint choice phase = some move) :
    Acts m g endpoint phase move := by
  cases phase with
  | rlock next =>
    obtain ⟨mu, locked, rfl⟩ := Option.map_eq_some_iff.mp acted
    exact .rlocked next mu locked
  | reading now =>
    cases acted
    cases now with
    | looking => exact acts_look m g endpoint choice
    | rereading => exact .reread
  | lock next =>
    obtain ⟨mu, locked, rfl⟩ := Option.map_eq_some_iff.mp acted
    exact .locked next mu locked
  | writing now =>
    cases acted
    exact acts_write m g endpoint choice now fits
  | waiting ref =>
    rw [act] at acted
    split at acted
    · cases acted
      exact .timedOut ref
    · split at acted
      · cases acted
        exact .awaited ref
      · cases acted
  | waitingLocked ref =>
    rw [act] at acted
    split at acted
    · cases acted
      exact .timedOutLocked ref
    · split at acted
      · cases acted
        exact .awaitedLocked ref
      · cases acted
  | unlockedReading =>
    cases acted
    exact .unlockedReading
  | unlockingAgain =>
    cases acted
    exact .unlockingAgain
  | dialing ref =>
    cases acted
    cases dialError : choice.dialError with
    | none => exact .dialed ref (m.dialed + 1) _ fits
    | some text => exact .dialed ref m.dialed _ fits
  | returned | reread | failed | finished | panicked => cases acted

end Moves

end MmoServer.Rpc
