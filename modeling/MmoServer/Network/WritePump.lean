import Mathlib.Data.List.Basic
import Mathlib.Tactic

set_option autoImplicit false

namespace MmoServer.Network

-- Where the pump is in its loop: it waits for a message, it has opened a frame, or it
-- has read the length of the queue and moves that many messages into the frame.
inductive PumpPhase where
  | waiting
  | opened (frame : List (List UInt8))
  | draining (n i : Nat) (frame : List (List UInt8))
deriving DecidableEq, Repr

def PumpPhase.frame : PumpPhase → List (List UInt8)
  | .waiting => []
  | .opened frame | .draining _ _ frame => frame

-- The Send channel of a client with its pump, what was accepted into the channel, and the
-- WebSocket messages that the peer has received.
structure Outbox where
  queue : List (List UInt8) := []
  pump : PumpPhase := .waiting
  accepted : List (List UInt8) := []
  received : List (List UInt8) := []
deriving DecidableEq, Repr

namespace Outbox

section Sending

variable (o : Outbox)

def offer (message : List UInt8) : Option Outbox :=
  if o.queue.length < 256 then some { o with queue := o.queue ++ [message], accepted := o.accepted ++ [message] } else none

def sendMessage (message : List UInt8) : Except String Unit × Outbox :=
  match o.offer message with
  | some sent => (.ok (), sent)
  | none => (.error "send buffer full", o)

-- One step of writePump. All that is written between NextWriter and Close is one message.
def writePump : Outbox :=
  match o.pump, o.queue with
  | .waiting, message :: rest => { o with queue := rest, pump := .opened [message] }
  | .waiting, [] => o
  | .opened frame, _ => { o with pump := .draining o.queue.length 0 frame }
  | .draining n i frame, queue =>
    if i < n then
      match queue with
      | message :: rest => { o with queue := rest, pump := .draining n (i + 1) (frame ++ [message]) }
      | [] => o
    else { o with pump := .waiting, received := o.received ++ [frame.flatten] }

end Sending

section Boundaries

variable (o : Outbox)

def Bounded : Prop := o.accepted = o.received ++ (o.pump.frame ++ o.queue)

instance decidableBounded : Decidable o.Bounded := inferInstanceAs (Decidable (_ = _))

-- The condition: for a frame that is closed, the length was read from an empty queue.
def ReadsEmpty : Prop := ∀ n frame, o.pump = .draining n n frame → n = 0

def Counted : Prop :=
  match o.pump with
  | .waiting => True
  | .opened frame => frame.length = 1
  | .draining n i frame => i ≤ n ∧ frame.length = i + 1

theorem counted_offer (message : List UInt8) (sent : Outbox) (counted : o.Counted) (offered : o.offer message = some sent) :
    sent.Counted := by
  rw [offer] at offered
  split at offered <;> cases offered
  exact counted

theorem write_pump_counted (counted : o.Counted) : o.writePump.Counted := by
  rw [Counted] at counted
  cases pump : o.pump with
  | waiting => cases queue : o.queue <;> simp [writePump, pump, queue, Counted]
  | opened frame =>
    rw [pump] at counted
    simpa [writePump, pump, Counted] using counted
  | draining n i frame =>
    rw [pump] at counted
    by_cases more : i < n
    · cases queue : o.queue with
      | nil => simpa [writePump, pump, queue, more, Counted] using counted
      | cons message rest => simpa [writePump, pump, queue, more, Counted] using counted.2
    · simp [writePump, pump, more, Counted]

theorem bounded_offer (message : List UInt8) (sent : Outbox) (bounded : o.Bounded) (offered : o.offer message = some sent) :
    sent.Bounded := by
  rw [offer] at offered
  split at offered
  · cases offered
    rw [Bounded] at bounded ⊢
    rw [bounded]
    simp
  · cases offered

theorem flatten_eq_self (frame : List (List UInt8)) : frame = [frame.flatten] ↔ frame.length = 1 := by
  constructor
  · intro same
    rw [same, List.length_singleton]
  · intro one
    obtain ⟨message, rfl⟩ := List.length_eq_one_iff.mp one
    simp

theorem write_pump_bounded_iff (counted : o.Counted) (bounded : o.Bounded) : o.writePump.Bounded ↔ o.ReadsEmpty := by
  rw [Bounded] at bounded
  rw [Counted] at counted
  cases pump : o.pump with
  | waiting =>
    refine iff_of_true ?_ fun n frame at_ => nomatch pump.symm.trans at_
    cases queue : o.queue with
    | nil => simpa [writePump, pump, queue, Bounded] using bounded
    | cons message rest => simpa [writePump, pump, queue, Bounded, PumpPhase.frame] using bounded
  | opened frame =>
    refine iff_of_true ?_ fun n frame at_ => nomatch pump.symm.trans at_
    simpa [writePump, pump, Bounded, PumpPhase.frame] using bounded
  | draining n i frame =>
    rw [pump] at counted
    by_cases more : i < n
    · refine iff_of_true ?_ fun n frame at_ => ?_
      · cases queue : o.queue with
        | nil => simpa [writePump, pump, queue, more, Bounded] using bounded
        | cons message rest => simpa [writePump, pump, queue, more, Bounded, PumpPhase.frame] using bounded
      · cases pump.symm.trans at_
        exact absurd more (lt_irrefl _)
    · have done : i = n := by omega
      subst done
      have own : o.ReadsEmpty ↔ frame.length = 1 := by
        simp [ReadsEmpty, pump, counted.2]
      rw [own, ← flatten_eq_self]
      rw [pump, PumpPhase.frame] at bounded
      simp only [writePump, pump, if_neg more, Bounded, PumpPhase.frame, bounded]
      rw [List.nil_append, List.append_assoc, List.append_cancel_left_eq]
      exact ⟨fun same => List.append_cancel_right same, fun same => congrArg (· ++ o.queue) same⟩

end Boundaries

end Outbox

def messageID : List UInt8 → Option Int32
  | a :: b :: c :: d :: _ => some (a.toUInt32 <<< 24 ||| b.toUInt32 <<< 16 ||| c.toUInt32 <<< 8 ||| d.toUInt32).toInt32
  | _ => none

end MmoServer.Network
