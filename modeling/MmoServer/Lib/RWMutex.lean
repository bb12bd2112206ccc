import Mathlib.Tactic

set_option autoImplicit false

-- A lock for one writer or many readers. Who holds it is kept, but a release does not ask.
structure RWMutex where
  writer : Option Nat := none
  readers : List Nat := []
deriving DecidableEq, Repr

namespace RWMutex

-- What a goroutine does to the lock, and the places where it waits for another goroutine.
inductive Op where
  | lock
  | unlock
  | rlock
  | runlock
  | await
deriving DecidableEq, Repr

inductive Hold where
  | free
  | read
  | write
deriving DecidableEq, Repr

variable (mu : RWMutex) (g : Nat)

def lock : Option RWMutex := if mu.writer = none ∧ mu.readers = [] then some { mu with writer := some g } else none

def rlock : Option RWMutex := if mu.writer = none then some { mu with readers := g :: mu.readers } else none

def unlock : Option RWMutex := if mu.writer = none then none else some { mu with writer := none }

def runlock : Option RWMutex := if mu.readers = [] then none else some { mu with readers := mu.readers.erase g }

-- Each lock is released by its holder, once, and nobody waits with the lock held.
def Hold.after : Hold → Op → Option Hold
  | .free, .lock => some .write
  | .write, .unlock => some .free
  | .free, .rlock => some .read
  | .read, .runlock => some .free
  | .free, .await => some .free
  | _, _ => none

def replay (ops : List Op) : Option Hold := ops.foldlM Hold.after .free

theorem replay_append (first second : List Op) :
    replay (first ++ second) = (replay first).bind fun hold => second.foldlM Hold.after hold := by
  rw [replay, List.foldlM_append]
  rfl

end RWMutex
