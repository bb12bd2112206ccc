import MmoServer.Rpc.ConnReturns

set_option autoImplicit false

namespace MmoServer.Rpc

open RWMutex

section Holding

def Phase.hold : Phase → Hold
  | .reading _ => .read
  | .writing _ | .waitingLocked _ => .write
  | _ => .free

def Phase.Twice : Phase → Prop
  | .waitingLocked _ | .unlockedReading | .unlockingAgain => True
  | _ => False

def Phase.Done : Phase → Prop
  | .returned _ | .reread _ | .failed _ | .finished | .panicked => True
  | _ => False

variable (m : ConnManager) (g : Nat) (endpoint : String)

variable (phase : Phase)

theorem outside_hold (outside : phase.Outside) : phase.hold = .free ∧ ¬ phase.Twice := by
  cases phase with
  | lock | waiting | dialing | returned | failed | finished | panicked => exact ⟨rfl, id⟩
  | _ => cases outside

theorem done_hold (done : phase.Done) : phase.hold = .free := by
  cases phase with
  | returned | reread | failed | finished | panicked => rfl
  | _ => cases done

theorem unlock_hold (free : phase.hold = .free) (once : ¬ phase.Twice) :
    (m.unlock phase).phase.hold = .free ∧ ¬ (m.unlock phase).phase.Twice := by
  rw [unlock_phase]
  split
  · exact ⟨rfl, id⟩
  · exact ⟨free, once⟩

theorem runlock_hold (free : phase.hold = .free) (once : ¬ phase.Twice) :
    (m.runlock g phase).phase.hold = .free ∧ ¬ (m.runlock g phase).phase.Twice := by
  rw [runlock_phase]
  split
  · exact ⟨rfl, id⟩
  · exact ⟨free, once⟩

theorem await_free : phase.waits.foldlM Hold.after .free = some .free := by
  cases phase <;> rfl

theorem acts_hold (move : Move) (sound : Sound m.heap) (once : ¬ phase.Twice) (acts : Acts m g endpoint phase move) :
    (move.ops.foldlM Hold.after phase.hold = some move.phase.hold ∧ ¬ move.phase.Twice) ∨
      phase = .writing .rechecking ∧ move.ops = [.await] ∧ ∃ entry ∈ m.entry endpoint, entry.2.creating = true := by
  cases acts with
  | rlocked | locked => exact .inl ⟨rfl, id⟩
  | timedOut | awaited | dialed => exact .inl ⟨rfl, id⟩
  | looked after next heap mu fits outside =>
    obtain ⟨free, single⟩ := outside_hold next outside
    obtain ⟨left, also⟩ := runlock_hold after g next free single
    refine .inl ⟨?_, also⟩
    rw [left]
    exact await_free next
  | lookedNil ref conn found created missing =>
    obtain ⟨-, here⟩ := entry_found m endpoint ref conn found
    exact absurd missing (sound conn (List.mem_of_getElem? here) created)
  | reread =>
    obtain ⟨left, also⟩ := runlock_hold m g (.reread (m.connections.lookup endpoint)) rfl id
    refine .inl ⟨?_, also⟩
    rw [left, runlock_ops]
    rfl
  | wrote now after next nilCall heap mu fits outside =>
    obtain ⟨free, single⟩ := outside_hold next outside
    obtain ⟨left, also⟩ := unlock_hold after next free single
    refine .inl ⟨?_, also⟩
    rw [left, unlock_ops]
    rfl
  | waitsLocked ref conn found creating => exact .inr ⟨rfl, rfl, (ref, conn), found, creating⟩
  | timedOutLocked | awaitedLocked | unlockedReading | unlockingAgain => exact absurd trivial once

theorem recheck_contended (choice : Choice) (entry : Nat × ClientConn) (found : m.entry endpoint = some entry)
    (creating : entry.2.creating = true) :
    m.act g endpoint choice (.writing .rechecking) = some { manager := m, phase := .waitingLocked entry.1, ops := [.await] } := by
  obtain ⟨ref, conn⟩ := entry
  have now : conn.creating = true := creating
  simp only [ConnManager.act, ConnManager.write, ConnManager.recheck, found, now, if_true]

end Holding

-- The goroutine has released the lock only while it held it, once for each time it took it,
-- it never waited for a creation while it held it, and it holds nothing when it is done.
def Goroutine.Disciplined (goroutine : Goroutine) : Prop :=
  ∃ hold ∈ replay goroutine.log, goroutine.phase.Done → hold = .free

namespace ConnSystem

variable (s : ConnSystem)

def Disciplined : Prop := ∀ goroutine ∈ s.goroutines, goroutine.Disciplined

-- No goroutine that has the write lock finds an entry that is being created.
def Uncontended : Action → Prop
  | .call _ => True
  | .step g _ => s.fatal = false → ∀ goroutine ∈ s.goroutines[g]?, goroutine.phase = .writing .rechecking →
      ∀ entry ∈ s.manager.entry goroutine.endpoint, entry.2.creating = false

def InPlace (goroutine : Goroutine) : Prop :=
  replay goroutine.log = none ∨ replay goroutine.log = some goroutine.phase.hold ∧ ¬ goroutine.phase.Twice

theorem in_place_disciplined (goroutine : Goroutine) (inPlace : InPlace goroutine) :
    goroutine.Disciplined ↔ replay goroutine.log ≠ none := by
  constructor
  · rintro ⟨hold, found, -⟩ broken
    cases broken.symm.trans found
  · intro kept
    obtain ⟨held, -⟩ := inPlace.resolve_left kept
    exact ⟨goroutine.phase.hold, held, done_hold goroutine.phase⟩

theorem start_in_place (request : Request) : InPlace request.start ∧ request.start.Disciplined := by
  cases request <;> exact ⟨.inr ⟨rfl, id⟩, .free, rfl, fun _ => rfl⟩

theorem moved_in_place (goroutine : Goroutine) (move : Move) (g : Nat) (sound : Sound s.manager.heap) (inPlace : InPlace goroutine)
    (acts : Acts s.manager g goroutine.endpoint goroutine.phase move) :
    InPlace { goroutine with phase := move.phase, log := goroutine.log ++ move.ops } := by
  rcases inPlace with broken | ⟨held, once⟩
  · left
    rw [replay_append, broken]
    rfl
  · rcases acts_hold s.manager g goroutine.endpoint goroutine.phase move sound once acts with ⟨next, single⟩ | ⟨phase, ops, -⟩
    · right
      rw [replay_append, held]
      exact ⟨next, single⟩
    · left
      rw [replay_append, held, phase, ops]
      rfl

structure Ordered : Prop extends s.Invariant where
  inPlace : ∀ goroutine ∈ s.goroutines, InPlace goroutine

theorem ordered_step (action : Action) (ordered : s.Ordered) : (s.step action).Ordered := by
  refine ⟨invariant_step s action ordered.toInvariant, ?_⟩
  have cases_ := stepped s action
  generalize s.step action = after at cases_
  cases cases_ with
  | idle => exact ordered.inPlace
  | call request =>
    rw [List.forall_mem_append, List.forall_mem_singleton]
    exact ⟨ordered.inPlace, (start_in_place request).1⟩
  | moved g choice goroutine move alive found acted =>
    have member := List.mem_of_getElem? found
    have acts := acts s.manager g goroutine.endpoint choice goroutine.phase move (ordered.fits goroutine member) acted
    intro other later
    obtain ⟨at_, its⟩ := List.mem_iff_getElem?.mp later
    rcases applied s g move at_ other its with ⟨-, old⟩ | ⟨-, before, was, rfl⟩
    · exact ordered.inPlace other (List.mem_of_getElem? old)
    · cases found.symm.trans was
      exact moved_in_place s goroutine move g ordered.sound (ordered.inPlace goroutine member) acts

theorem moved_disciplined_iff (g : Nat) (choice : Choice) (goroutine : Goroutine) (move : Move) (ordered : s.Ordered)
    (disciplined : s.Disciplined) (alive : s.fatal = false) (found : s.goroutines[g]? = some goroutine)
    (acted : s.manager.act g goroutine.endpoint choice goroutine.phase = some move) :
    (s.apply g move).Disciplined ↔ s.Uncontended (.step g choice) := by
  have member := List.mem_of_getElem? found
  have inPlace := ordered.inPlace goroutine member
  have kept := (in_place_disciplined goroutine inPlace).mp (disciplined goroutine member)
  obtain ⟨held, once⟩ := inPlace.resolve_left kept
  have acts := acts s.manager g goroutine.endpoint choice goroutine.phase move (ordered.fits goroutine member) acted
  have later := moved_in_place s goroutine move g ordered.sound inPlace acts
  constructor
  · intro good _ other its rechecks entry entryFound
    cases found.symm.trans its
    apply Bool.eq_false_iff.mpr
    intro creating
    rw [rechecks, recheck_contended s.manager g goroutine.endpoint choice entry entryFound creating] at acted
    cases acted
    have still := (in_place_disciplined _ later).mp (good _ (applied_member s g _ goroutine found))
    apply still
    rw [replay_append, held, rechecks]
    rfl
  · intro uncontended other memberLater
    obtain ⟨at_, its⟩ := List.mem_iff_getElem?.mp memberLater
    rcases applied s g move at_ other its with ⟨-, old⟩ | ⟨-, before, was, rfl⟩
    · exact disciplined other (List.mem_of_getElem? old)
    · cases found.symm.trans was
      rcases acts_hold s.manager g goroutine.endpoint goroutine.phase move ordered.sound once acts with
        ⟨next, -⟩ | ⟨rechecks, -, entry, entryFound, creating⟩
      · apply (in_place_disciplined _ later).mpr
        rw [replay_append, held]
        exact fun broken => nomatch next.symm.trans broken
      · have created := uncontended alive goroutine found rechecks entry entryFound
        cases created.symm.trans creating

-- The lock is kept in order exactly as long as nobody finds a creation in progress under
-- the write lock.
theorem lock_discipline_iff (actions : List Action) :
    (∀ seen ∈ Runs.visited step {} actions, seen.Disciplined) ↔ Runs.Meets step Uncontended {} actions := by
  apply Runs.visited_iff_meets step Ordered Disciplined Uncontended
  · exact ordered_step
  · intro s action ordered disciplined
    have cases_ := stepped s action
    generalize s.step action = after at cases_
    cases cases_ with
    | call request =>
      apply iff_of_true _ trivial
      rw [Disciplined, List.forall_mem_append, List.forall_mem_singleton]
      exact ⟨disciplined, (start_in_place request).2⟩
    | idle g choice blocked =>
      apply iff_of_true disciplined
      intro alive goroutine found rechecks
      have none_ := blocked alive goroutine found
      rw [rechecks] at none_
      cases none_
    | moved g choice goroutine move alive found acted =>
      exact moved_disciplined_iff s g choice goroutine move ordered disciplined alive found acted
  · exact ⟨invariant_new, nofun⟩
  · exact nofun

def lateCaller : List Action :=
  [.call (.getConnection "game:9000"), .call (.getConnection "game:9000"), .step 0 {}, .step 0 {}, .step 1 {}, .step 1 {},
    .step 0 {}, .step 0 {}, .step 1 {}, .step 1 {}, .step 1 { timedOut := true }, .step 1 {}]

theorem late_caller_unlocks_twice :
    let after := lateCaller.foldl step {}
    after.goroutines.map Goroutine.log = [[.rlock, .runlock, .lock, .unlock], [.rlock, .runlock, .lock, .await, .unlock, .unlock]] ∧
      (after.goroutines.map fun goroutine => replay goroutine.log) = [some .free, none] ∧ after.fatal = true := by
  decide +kernel

end ConnSystem

end MmoServer.Rpc
