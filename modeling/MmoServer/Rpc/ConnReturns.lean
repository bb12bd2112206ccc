import MmoServer.Rpc.ConnSections

set_option autoImplicit false

namespace MmoServer.Rpc

section Keeping

variable (m : ConnManager) (g : Nat) (endpoint : String)

variable (phase : Phase)

theorem unlock_phase : (m.unlock phase).phase = if m.mu.writer = none then .panicked else phase := by
  rw [ConnManager.unlock, RWMutex.unlock]
  by_cases free : m.mu.writer = none
  · rw [if_pos free, if_pos free]
  · rw [if_neg free, if_neg free]

theorem runlock_phase : (m.runlock g phase).phase = if m.mu.readers = [] then .panicked else phase := by
  rw [ConnManager.runlock, RWMutex.runlock]
  by_cases free : m.mu.readers = []
  · rw [if_pos free, if_pos free]
  · rw [if_neg free, if_neg free]

theorem unlock_frame : (m.unlock phase).manager.heap = m.heap ∧ (m.unlock phase).manager.mu.readers = m.mu.readers := by
  rw [ConnManager.unlock, RWMutex.unlock]
  by_cases free : m.mu.writer = none
  · rw [if_pos free]
    exact ⟨rfl, rfl⟩
  · rw [if_neg free]
    exact ⟨rfl, rfl⟩

theorem runlock_frame : (m.runlock g phase).manager.heap = m.heap ∧
    ∀ other, other ≠ g → other ∈ m.mu.readers → other ∈ (m.runlock g phase).manager.mu.readers := by
  rw [ConnManager.runlock, RWMutex.runlock]
  by_cases free : m.mu.readers = []
  · rw [if_pos free]
    exact ⟨rfl, fun _ _ member => member⟩
  · rw [if_neg free]
    exact ⟨rfl, fun _ different member => (List.mem_erase_of_ne different).mpr member⟩

structure Keeps (move : Move) : Prop where
  heap : HeapChange m.heap move.manager.heap
  fits : Fits move.manager.heap move.phase
  readers : ∀ other, other ≠ g → other ∈ m.mu.readers → other ∈ move.manager.mu.readers
  reading : ∀ now, move.phase = .reading now → g ∈ move.manager.mu.readers

theorem keeps_unlock (after : ConnManager) (phase : Phase) (nilCall : Bool) (heap : HeapChange m.heap after.heap)
    (mu : after.mu = m.mu) (fits : Fits after.heap phase) (outside : ∀ now, phase ≠ .reading now) :
    Keeps m g { after.unlock phase with nilCall } := by
  obtain ⟨sameHeap, sameReaders⟩ := unlock_frame after phase
  constructor
  · exact sameHeap ▸ heap
  · rw [sameHeap, unlock_phase]
    split
    · trivial
    · exact fits
  · intro other _ member
    rwa [sameReaders, mu]
  · intro now reads
    rw [unlock_phase] at reads
    split at reads
    · cases reads
    · exact absurd reads (outside now)

theorem keeps_runlock (after : ConnManager) (phase : Phase) (ops : List RWMutex.Op) (heap : HeapChange m.heap after.heap)
    (mu : after.mu = m.mu) (fits : Fits after.heap phase) (outside : ∀ now, phase ≠ .reading now) :
    Keeps m g { after.runlock g phase with ops } := by
  obtain ⟨sameHeap, readers⟩ := runlock_frame after g phase
  constructor
  · exact sameHeap ▸ heap
  · rw [sameHeap, runlock_phase]
    split
    · trivial
    · exact fits
  · intro other different member
    exact readers other different (mu ▸ member)
  · intro now reads
    rw [runlock_phase] at reads
    split at reads
    · cases reads
    · exact absurd reads (outside now)

theorem outside_reading (outside : phase.Outside) (now : Reading) : phase ≠ .reading now := by
  rintro rfl
  exact outside

theorem keeps_acts (move : Move) (fits : Fits m.heap phase) (acts : Acts m g endpoint phase move) : Keeps m g move := by
  cases acts with
  | rlocked next mu locked =>
    rw [RWMutex.rlock] at locked
    split at locked
    · cases locked
      exact ⟨.same, trivial, fun _ _ member => List.mem_cons_of_mem _ member, fun _ _ => List.mem_cons_self⟩
    · cases locked
  | locked next mu locked =>
    rw [RWMutex.lock] at locked
    split at locked
    · cases locked
      exact ⟨.same, by cases next <;> exact fits, fun _ _ member => member, nofun⟩
    · cases locked
  | looked after next heap mu entries outside => exact keeps_runlock m g after next _ heap mu entries (outside_reading next outside)
  | reread => exact keeps_runlock m g m _ _ .same rfl trivial nofun
  | wrote now after next nilCall heap mu entries outside =>
    exact keeps_unlock m g after next nilCall heap mu entries (outside_reading next outside)
  | timedOutLocked | awaitedLocked | unlockedReading | unlockingAgain => exact keeps_unlock m g m _ _ .same rfl trivial nofun
  | lookedNil | waitsLocked | timedOut | awaited => exact ⟨.same, trivial, fun _ _ member => member, nofun⟩
  | dialed ref count dialed known => exact ⟨.same, known, fun _ _ member => member, nofun⟩

end Keeping

section Rereading

variable (m : ConnManager) (g : Nat) (endpoint : String)

def Rereads (phase : Phase) : Prop :=
  phase = .reading .rereading ∨ phase = .unlockedReading ∧ m.mu.writer ≠ none

instance decidableRereads (phase : Phase) : Decidable (Rereads m phase) := inferInstanceAs (Decidable (_ ∨ _))

variable (phase : Phase) (found : Option Nat)

theorem unlock_reread (ends : (m.unlock phase).phase = .reread found) : phase = .reread found := by
  rw [unlock_phase] at ends
  split at ends
  · cases ends
  · exact ends

theorem runlock_reread (ends : (m.runlock g phase).phase = .reread found) : phase = .reread found := by
  rw [runlock_phase] at ends
  split at ends
  · cases ends
  · exact ends

theorem outside_reread (outside : phase.Outside) : phase ≠ .reread found := by
  rintro rfl
  exact outside

theorem acts_reread_iff (move : Move) (found : Option Nat) (reading : ∀ now, phase = .reading now → g ∈ m.mu.readers)
    (acts : Acts m g endpoint phase move) : move.phase = .reread found ↔ Rereads m phase ∧ found = m.connections.lookup endpoint := by
  have elsewhere : move.phase ≠ .reread found → ¬ Rereads m phase →
      (move.phase = .reread found ↔ Rereads m phase ∧ found = m.connections.lookup endpoint) :=
    fun other outside => iff_of_false other fun both => outside both.1
  cases acts with
  | reread =>
    have held := List.ne_nil_of_mem (reading .rereading rfl)
    rw [runlock_phase, if_neg held]
    simp [Rereads, eq_comm]
  | unlockedReading =>
    rw [unlock_phase]
    by_cases free : m.mu.writer = none
    · simp [Rereads, free]
    · simp [Rereads, free, eq_comm]
  | looked after next heap mu fits outside =>
    apply elsewhere _ (by simp [Rereads])
    exact fun ends => outside_reread next found outside (runlock_reread after g next found ends)
  | wrote now after next nilCall heap mu fits outside =>
    apply elsewhere _ (by simp [Rereads])
    exact fun ends => outside_reread next found outside (unlock_reread after next found ends)
  | timedOutLocked | awaitedLocked | unlockingAgain =>
    apply elsewhere _ (by simp [Rereads])
    exact fun ends => nomatch unlock_reread m _ found ends
  | rlocked | locked | lookedNil | waitsLocked | timedOut | awaited | dialed => exact elsewhere nofun (by simp [Rereads])

theorem acts_reread_heap (move : Move) (rereads : Rereads m phase) (acts : Acts m g endpoint phase move) :
    move.manager.heap = m.heap := by
  rcases rereads with rfl | ⟨rfl, -⟩
  · cases acts
    exact (runlock_frame m g _).1
  · cases acts
    exact (unlock_frame m _).1

end Rereading

namespace ConnSystem

section Steps

variable (s : ConnSystem)

inductive Stepped : Action → ConnSystem → Prop
  | call (request : Request) : Stepped (.call request) { s with goroutines := s.goroutines ++ [request.start] }
  | idle (g : Nat) (choice : Choice) (blocked : s.fatal = false → ∀ goroutine, s.goroutines[g]? = some goroutine →
      s.manager.act g goroutine.endpoint choice goroutine.phase = none) : Stepped (.step g choice) s
  | moved (g : Nat) (choice : Choice) (goroutine : Goroutine) (move : Move) (alive : s.fatal = false)
      (found : s.goroutines[g]? = some goroutine)
      (acted : s.manager.act g goroutine.endpoint choice goroutine.phase = some move) : Stepped (.step g choice) (s.apply g move)

theorem stepped (action : Action) : Stepped s action (s.step action) := by
  cases action with
  | call request => exact .call request
  | step g choice =>
    rw [step]
    cases alive : s.fatal with
    | true => exact .idle g choice fun running => nomatch running.symm.trans alive
    | false =>
      simp only [Bool.false_eq_true, if_false]
      cases found : s.goroutines[g]? with
      | none => exact .idle g choice fun _ goroutine its => nomatch found.symm.trans its
      | some goroutine =>
        simp only
        cases acted : s.manager.act g goroutine.endpoint choice goroutine.phase with
        | none =>
          apply Stepped.idle
          intro _ other its
          cases found.symm.trans its
          exact acted
        | some move => exact .moved g choice goroutine move alive found acted

theorem applied (g : Nat) (move : Move) (at_ : Nat) (goroutine : Goroutine)
    (found : (s.apply g move).goroutines[at_]? = some goroutine) :
    at_ ≠ g ∧ s.goroutines[at_]? = some goroutine ∨ at_ = g ∧ ∃ before, s.goroutines[g]? = some before ∧
      goroutine = { before with phase := move.phase, log := before.log ++ move.ops } := by
  rw [apply, List.getElem?_modify] at found
  obtain ⟨before, was, rfl⟩ := Option.map_eq_some_iff.mp found
  by_cases same : g = at_
  · subst same
    exact .inr ⟨rfl, before, was, if_pos rfl⟩
  · refine .inl ⟨Ne.symm same, ?_⟩
    rw [was, if_neg same]

theorem applied_member (g : Nat) (move : Move) (goroutine : Goroutine) (found : s.goroutines[g]? = some goroutine) :
    { goroutine with phase := move.phase, log := goroutine.log ++ move.ops } ∈ (s.apply g move).goroutines := by
  apply List.mem_of_getElem? (i := g)
  rw [apply, List.getElem?_modify_eq, found]
  rfl

structure Invariant : Prop where
  sound : Sound s.manager.heap
  fits : ∀ goroutine ∈ s.goroutines, Fits s.manager.heap goroutine.phase
  reading : ∀ (g : Nat) goroutine now, s.goroutines[g]? = some goroutine → goroutine.phase = .reading now → g ∈ s.manager.mu.readers

theorem start_fits (request : Request) (heap : List ClientConn) :
    Fits heap request.start.phase ∧ (∀ now, request.start.phase ≠ .reading now) ∧ request.start.phase.result = none := by
  cases request <;> exact ⟨trivial, nofun, rfl⟩

theorem started (request : Request) (at_ : Nat) (goroutine : Goroutine)
    (found : (s.goroutines ++ [request.start])[at_]? = some goroutine) : s.goroutines[at_]? = some goroutine ∨ goroutine = request.start := by
  rw [List.getElem?_append] at found
  split at found
  · exact .inl found
  · exact .inr (List.mem_singleton.mp (List.mem_of_getElem? found))

theorem invariant_step (action : Action) (inv : s.Invariant) : (s.step action).Invariant := by
  have cases_ := stepped s action
  generalize s.step action = after at cases_
  cases cases_ with
  | idle => exact inv
  | call request =>
    obtain ⟨fits, outside, -⟩ := start_fits request s.manager.heap
    constructor
    · exact inv.sound
    · intro goroutine member
      rcases List.mem_append.mp member with old | new
      · exact inv.fits goroutine old
      · rwa [List.mem_singleton.mp new]
    · intro g goroutine now found reads
      rcases started s request g goroutine found with old | rfl
      · exact inv.reading g goroutine now old reads
      · exact absurd reads (outside now)
  | moved g choice goroutine move alive found acted =>
    have fits := inv.fits goroutine (List.mem_of_getElem? found)
    have keeps := keeps_acts _ _ _ _ _ fits (acts s.manager g goroutine.endpoint choice goroutine.phase move fits acted)
    constructor
    · exact sound_change _ _ inv.sound keeps.heap
    · intro other member
      obtain ⟨at_, its⟩ := List.mem_iff_getElem?.mp member
      rcases applied s g move at_ other its with ⟨-, old⟩ | ⟨-, before, -, rfl⟩
      · exact fits_change _ _ _ keeps.heap (inv.fits other (List.mem_of_getElem? old))
      · exact keeps.fits
    · intro at_ other now its reads
      rcases applied s g move at_ other its with ⟨different, old⟩ | ⟨rfl, before, -, rfl⟩
      · exact keeps.readers at_ different (inv.reading at_ other now old reads)
      · exact keeps.reading now reads

theorem invariant_new : ({} : ConnSystem).Invariant where
  sound := nofun
  fits := nofun
  reading := nofun

end Steps

section Returning

variable (s : ConnSystem)

def Returns : Prop :=
  ∀ goroutine ∈ s.goroutines, ∀ found, goroutine.phase.result = some (.ok found) → ∃ ref ∈ found, Connected s.manager.heap ref

def Refinds : Action → Prop
  | .call _ => True
  | .step g _ => s.fatal = false → ∀ goroutine ∈ s.goroutines[g]?, Rereads s.manager goroutine.phase →
      ∃ ref ∈ s.manager.connections.lookup goroutine.endpoint, Connected s.manager.heap ref

theorem result_ok (phase : Phase) (found : Option Nat) (ends : phase.result = some (.ok found)) :
    phase = .reread found ∨ ∃ ref, phase = .returned ref ∧ found = some ref := by
  cases phase with
  | returned ref =>
    cases ends
    exact .inr ⟨ref, rfl, rfl⟩
  | reread found =>
    cases ends
    exact .inl rfl
  | _ => cases ends

theorem idle_refinds (g : Nat) (choice : Choice) (blocked : s.fatal = false → ∀ goroutine, s.goroutines[g]? = some goroutine →
    s.manager.act g goroutine.endpoint choice goroutine.phase = none) : s.Refinds (.step g choice) := by
  intro alive goroutine found rereads
  have none_ := blocked alive goroutine found
  rcases rereads with reads | ⟨reads, -⟩
  · rw [reads] at none_
    cases none_
  · rw [reads] at none_
    cases none_

theorem moved_returns_iff (g : Nat) (choice : Choice) (goroutine : Goroutine) (move : Move) (inv : s.Invariant) (returns : s.Returns)
    (alive : s.fatal = false) (found : s.goroutines[g]? = some goroutine)
    (acted : s.manager.act g goroutine.endpoint choice goroutine.phase = some move) :
    (s.apply g move).Returns ↔ s.Refinds (.step g choice) := by
  have fits := inv.fits goroutine (List.mem_of_getElem? found)
  have acts := acts s.manager g goroutine.endpoint choice goroutine.phase move fits acted
  have keeps := keeps_acts _ _ _ _ _ fits acts
  have rereads := fun result => acts_reread_iff _ _ _ _ _ result (fun now => inv.reading g goroutine now found) acts
  constructor
  · intro good _ other its again
    cases found.symm.trans its
    have ends : move.phase.result = some (.ok (s.manager.connections.lookup goroutine.endpoint)) := by
      rw [(rereads _).mpr ⟨again, rfl⟩, Phase.result]
    have set := good _ (applied_member s g move goroutine found) _ ends
    rwa [apply, acts_reread_heap _ _ _ _ _ again acts] at set
  · intro finds other member result ends
    obtain ⟨at_, its⟩ := List.mem_iff_getElem?.mp member
    rcases applied s g move at_ other its with ⟨-, old⟩ | ⟨-, before, was, rfl⟩
    · obtain ⟨ref, its, set⟩ := returns other (List.mem_of_getElem? old) result ends
      exact ⟨ref, its, connected_change _ _ ref keeps.heap set⟩
    · cases found.symm.trans was
      rcases result_ok move.phase result ends with again | ⟨ref, done, rfl⟩
      · obtain ⟨phase, rfl⟩ := (rereads result).mp again
        obtain ⟨ref, its, set⟩ := finds alive goroutine found phase
        exact ⟨ref, its, connected_change _ _ ref keeps.heap set⟩
      · have fits := keeps.fits
        rw [done] at fits
        exact ⟨ref, rfl, fits⟩

-- Only what a waiter reads again can be no connection, when the entry it waited for was
-- removed or replaced in the meantime.
theorem connections_returned_iff (actions : List Action) :
    (∀ seen ∈ Runs.visited step {} actions, seen.Returns) ↔ Runs.Meets step Refinds {} actions := by
  apply Runs.visited_iff_meets step Invariant Returns Refinds
  · exact invariant_step
  · intro s action inv returns
    have cases_ := stepped s action
    generalize s.step action = after at cases_
    cases cases_ with
    | call request =>
      apply iff_of_true _ trivial
      intro goroutine member found ends
      rcases List.mem_append.mp member with old | new
      · exact returns goroutine old found ends
      · rw [List.mem_singleton.mp new, (start_fits request []).2.2] at ends
        cases ends
    | idle g choice blocked => exact iff_of_true returns (idle_refinds s g choice blocked)
    | moved g choice goroutine move alive found acted =>
      exact moved_returns_iff s g choice goroutine move inv returns alive found acted
  · exact invariant_new
  · exact nofun

def failedDial : List Action :=
  [.call (.getConnection "game:9000"), .call (.getConnection "game:9000"), .step 0 {}, .step 0 {}, .step 0 {}, .step 0 {},
    .step 1 {}, .step 1 {}, .step 0 { dialError := some "refused" }, .step 0 {}, .step 0 {}, .step 1 {}, .step 1 {}, .step 1 {}]

theorem failed_dial_returns_nil :
    let after := failedDial.foldl step {}
    after.goroutines.map Goroutine.phase = [.failed "failed to connect to game:9000: refused", .reread none] ∧
      (after.goroutines.map fun goroutine => goroutine.phase.result.map after.manager.serviceClient) =
        [some (.error "failed to connect to game:9000: refused"), some .nilEntry] := by
  decide +kernel

end Returning

end ConnSystem

end MmoServer.Rpc
