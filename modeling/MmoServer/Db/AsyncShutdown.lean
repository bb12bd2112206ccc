import MmoServer.Db.AsyncStops

set_option autoImplicit false

namespace MmoServer.Db.Async.AsyncDB

variable {R V : Type}

theorem all_left_iff (workers : List (Worker R V)) :
    workers.all Worker.isStopped = true ↔ ∀ w, w < workers.length → Left workers w := by
  rw [List.all_eq_true]
  constructor
  · intro all w within
    rw [Left, List.getElem?_eq_getElem within]
    exact all _ (List.getElem_mem within)
  · intro all worker member
    obtain ⟨w, within, rfl⟩ := List.mem_iff_getElem.mp member
    have left := all w within
    rw [Left, List.getElem?_eq_getElem within] at left
    exact left

theorem left_stock (workers : List (Worker R V)) (all : workers.all Worker.isStopped = true) :
    workers.flatMap Worker.stock = [] := by
  rw [List.flatMap_eq_nil_iff]
  intro worker member
  have stopped := List.all_eq_true.mp all worker member
  cases worker with
  | stopped => rfl
  | idle | holding op | retrying op | finishing op result => cases stopped

structure Shutting (s : AsyncDB R V) : Prop where
  owner : ∀ holder ∈ s.holder, holder.owner = .close → s.closing = .sweeping
  sweeping : s.closing = .sweeping → ∃ batch pending, s.holder = some ⟨.close, batch, pending⟩ ∧
    ∀ id ops, s.batchQueues.lookup id = some ops → ops ≠ [] → id ∈ pending
  left : ∀ w, Left s.workers w → s.closing.stopChanClosed = true
  waited : s.closing = .waited ∨ s.closing = .returned → s.workers.all Worker.isStopped = true

variable (before after : AsyncDB R V)

theorem stop_chan_kept (shutting : before.Shutting) (turn : Turn before after) (stopping : before.closing.stopChanClosed = true) :
    after.closing.stopChanClosed = true := by
  cases turn with
  | kept _ _ closing => rw [closing, stopping]
  | locked _ _ closing => rw [closing, stopping]
  | sent owner op batch pending _ _ _ closing => rw [closing, stopping]
  | next owner batchID batch pending _ _ _ closing => rw [closing, stopping]
  | released owner was _ _ closing =>
    have other : owner ≠ .close := by
      rintro rfl
      rw [shutting.owner _ was rfl] at stopping
      cases stopping
    rw [closing, if_neg other, stopping]
  | sweeps pending _ _ _ _ marked =>
    rw [marked] at stopping
    cases stopping
  | closes _ _ _ goes =>
    generalize before.closing = source at goes stopping
    generalize after.closing = target at goes
    cases goes <;> first | rfl | cases stopping

def SweepHeld (s : AsyncDB R V) : Prop :=
  (∀ holder ∈ s.holder, holder.owner = .close → s.closing = .sweeping) ∧
    (s.closing = .sweeping → ∃ batch pending, s.holder = some ⟨.close, batch, pending⟩ ∧
      ∀ id ops, s.batchQueues.lookup id = some ops → ops ≠ [] → id ∈ pending)

theorem sweep_handed_on (owner : Owner) (oldBatch newBatch : List (AsyncOperation R V)) (oldPending newPending : List (List UInt8))
    (held : before.SweepHeld) (was : before.holder = some ⟨owner, oldBatch, oldPending⟩)
    (now : after.holder = some ⟨owner, newBatch, newPending⟩) (closing : after.closing = before.closing)
    (covered : (∀ id ops, before.batchQueues.lookup id = some ops → ops ≠ [] → id ∈ oldPending) →
      ∀ id ops, after.batchQueues.lookup id = some ops → ops ≠ [] → id ∈ newPending) :
    after.SweepHeld := by
  constructor
  · intro holder found own
    cases now.symm.trans found
    rw [closing]
    exact held.1 _ was own
  · intro sweeping
    obtain ⟨batch, pending, found, lists⟩ := held.2 (closing ▸ sweeping)
    cases was.symm.trans found
    exact ⟨newBatch, newPending, now, covered lists⟩

theorem sweep_turn (held : before.SweepHeld) (turn : Turn before after) : after.SweepHeld := by
  cases turn with
  | kept holder queues closing =>
    rw [SweepHeld, holder, queues, closing]
    exact held
  | locked free other closing =>
    refine ⟨fun holder found own => absurd own (other holder found), fun sweeping => ?_⟩
    obtain ⟨_, _, found, _⟩ := held.2 (closing ▸ sweeping)
    cases free.symm.trans found
  | sent owner op batch pending was now queues closing =>
    exact sweep_handed_on before after owner _ batch _ pending held was now closing fun covered => queues ▸ covered
  | next owner batchID batch pending was now queues closing =>
    apply sweep_handed_on before after owner _ batch _ pending held was now closing
    intro covered id ops found some
    obtain ⟨earlier, apart⟩ := queues id ops found some
    exact (List.mem_cons.mp (covered id ops earlier some)).resolve_left apart
  | released owner was now queues closing =>
    refine ⟨fun holder found => (nomatch now.symm.trans found), fun sweeping => ?_⟩
    rw [closing] at sweeping
    split at sweeping
    · cases sweeping
    · rename_i other
      obtain ⟨_, _, found, _⟩ := held.2 sweeping
      cases was.symm.trans found
      exact absurd rfl other
  | sweeps pending free now covered queues marked closing =>
    exact ⟨fun _ _ _ => closing, fun _ => ⟨[], pending, now, queues ▸ fun id ops found _ => covered id ops found⟩⟩
  | closes holder queues workers goes =>
    constructor
    · rw [holder]
      intro held_ some own
      generalize after.closing = target at goes ⊢
      rw [held.1 held_ some own] at goes
      cases goes
    · intro sweeping
      generalize before.closing = source at goes
      rw [sweeping] at goes
      cases goes

theorem waited_turn (shutting : before.Shutting) (turn : Turn before after)
    (all : before.workers.all Worker.isStopped = true → after.workers.all Worker.isStopped = true)
    (late : after.closing = .waited ∨ after.closing = .returned) : after.workers.all Worker.isStopped = true := by
  cases turn with
  | kept _ _ closing | locked _ _ closing | sent _ _ _ _ _ _ _ closing | next _ _ _ _ _ _ _ closing =>
    exact all (shutting.waited (closing ▸ late))
  | released owner _ _ _ closing =>
    rw [closing] at late
    split at late
    · rcases late with wait | done <;> contradiction
    · exact all (shutting.waited late)
  | sweeps _ _ _ _ _ _ closing =>
    rw [closing] at late
    rcases late with wait | done <;> contradiction
  | closes _ _ _ goes =>
    generalize reached : before.closing = source at goes
    generalize after.closing = target at goes late
    cases goes with
    | call | stop => rcases late with wait | done <;> contradiction
    | wait gone => exact all gone
    | queue => exact all (shutting.waited (.inl reached))

theorem Shutting.step (action : Action R V) (shutting : before.Shutting) (taken : before.step action = some after) :
    after.Shutting := by
  have turn := step_turn before after action taken
  have stops := step_stops before after action taken
  have held := sweep_turn before after ⟨shutting.owner, shutting.sweeping⟩ turn
  refine ⟨held.1, held.2, ?_, ?_⟩
  · intro w gone
    rcases stops.fresh w gone with earlier | ⟨stopping, _⟩
    · exact stop_chan_kept before after shutting turn (shutting.left w earlier)
    · exact stop_chan_kept before after shutting turn stopping
  · apply waited_turn before after shutting turn
    rw [all_left_iff, all_left_iff, stops.count]
    exact fun gone w within => stops.kept w (gone w within)

end MmoServer.Db.Async.AsyncDB
