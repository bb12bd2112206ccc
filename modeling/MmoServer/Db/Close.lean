import MmoServer.Db.FlushOutcome

set_option autoImplicit false

namespace MmoServer.Db

variable {V : Type}

inductive CloseStage where
  | flagged
  | flushing (number : Nat)
  | panicked
deriving DecidableEq, Repr

-- The layer under its Close calls: the deferred writes acknowledged so far, the
-- call in progress and one that has returned nil, each with the deferred writes
-- acknowledged before it, and how many writes were acknowledged after that.
structure Layer (V : Type) where
  server : Server V
  isClosed : Bool := false
  deferred : List WriteID := []
  closing : Option (CloseStage × List WriteID) := none
  returned : Option (List WriteID) := none
  late : Nat := 0

inductive LayerAction (V : Type) where
  | serve (action : Action V)
  | close
  | lastFlush (number : Nat) (orders : Orders V)
  | closeReturn

namespace Layer

def note (s : Layer V) : Action V → Layer V
  | .write w env =>
    match (w.run { env with ticket := s.server.next } s.server.sync).1 with
    | .error _ => s
    | .ok () => { s with
        deferred := if w.immediate then s.deferred else s.deferred ++ w.writeIDs s.server.next
        late := if s.returned.isSome then s.late + 1 else s.late }
  | _ => s

def lastFlush (number : Nat) (orders : Orders V) (found : List WriteID) (s : Layer V) : Layer V :=
  let chosen := (s.server.sync.selectEntries orders.dirty).1
  let panics := chosen ≠ [] ∧ (planFlush orders s.server.sync.config.batchSize chosen).isNone
  { s with
    server := s.server.beginFlush number orders
    closing := some (if panics then .panicked else .flushing number, found) }

def step (s : Layer V) : LayerAction V → Option (Layer V)
  | .serve action => (s.server.step action).map fun after => { s.note action with server := after }
  | .close =>
    if s.isClosed then some { s with returned := some s.deferred }
    else some { s with isClosed := true, closing := some (.flagged, s.deferred) }
  | .lastFlush number orders =>
    match s.closing, s.server.tasks.lookup number with
    | some (.flagged, found), none => some (s.lastFlush number orders found)
    | _, _ => none
  | .closeReturn =>
    match s.closing with
    | some (.flushing number, found) =>
      match s.server.tasks.lookup number with
      | none => some { s with closing := none, returned := some found }
      | some _ => none
    | _ => none

theorem last_flush_closing (number : Nat) (orders : Orders V) (found : List WriteID) (s : Layer V) :
    ∃ stage, (s.lastFlush number orders found).closing = some (stage, found) ∧ ∀ other, stage = .flushing other → other = number := by
  refine ⟨_, rfl, ?_⟩
  intro other running
  split at running
  · cases running
  · cases running
    rfl

theorem note_keeps (s : Layer V) (action : Action V) :
    (s.note action).server = s.server ∧ (s.note action).isClosed = s.isClosed ∧ (s.note action).closing = s.closing ∧
      (s.note action).returned = s.returned := by
  cases action with
  | write w env =>
    rw [note]
    split <;> exact ⟨rfl, rfl, rfl, rfl⟩
  | _ => exact ⟨rfl, rfl, rfl, rfl⟩

theorem serve_run (s : Layer V) (actions : List (Action V)) (after : Server V)
    (ran : Runs.run Server.step s.server actions = some after) :
    ∃ final, Runs.run step s (actions.map .serve) = some final ∧ final.server = after ∧ final.isClosed = s.isClosed ∧
      final.closing = s.closing := by
  induction actions generalizing s with
  | nil =>
    cases ran
    exact ⟨s, rfl, rfl, rfl, rfl⟩
  | cons action rest ih =>
    obtain ⟨next, taken, later⟩ := Option.bind_eq_some_iff.mp ran
    obtain ⟨final, served, same, flag, call⟩ := ih { s.note action with server := next } later
    obtain ⟨_, kept, stage, _⟩ := s.note_keeps action
    refine ⟨final, ?_, same, flag.trans kept, call.trans stage⟩
    rw [List.map_cons, Runs.run, step, taken]
    exact served

-- A Close that nothing comes between flushes once and returns nil, whatever the
-- Flush returned.
theorem close_alone (number : Nat) (env : Env V) (s : Layer V) (opened : s.isClosed = false)
    (fresh : s.server.tasks.lookup number = none) (calm : (s.server.sync.flush env).1 ≠ .panicked) :
    ∃ actions final, Runs.run step s ([.close, .lastFlush number env.orders] ++ actions ++ [.closeReturn]) = some final ∧
      final.server.sync = (s.server.sync.flush env).2 ∧ final.isClosed = true ∧ final.returned = some s.deferred := by
  have goesOn : (s.lastFlush number env.orders s.deferred).closing = some (.flushing number, s.deferred) := by
    rw [lastFlush, if_neg]
    rintro ⟨chosen, panics⟩
    refine calm ?_
    have config : (s.server.sync.selectEntries env.orders.dirty).2.config = s.server.sync.config := rfl
    simp [CacheSync.flush, config, chosen, Option.isNone_iff_eq_none.mp panics]
  obtain ⟨actions, after, ran, alone⟩ := Server.flush_alone number env s.server fresh
  have begun : s.server.step (.beginFlush number env.orders) = some (s.server.beginFlush number env.orders) := by
    rw [Server.step, fresh]
  rw [Runs.run, begun, Option.bind_some] at ran
  let flushing := { s.lastFlush number env.orders s.deferred with isClosed := true }
  obtain ⟨final, served, same, flag, call⟩ := serve_run flushing actions after ran
  refine ⟨actions.map .serve, { final with closing := none, returned := some s.deferred }, ?_, same ▸ alone.sync, flag, rfl⟩
  have closed : Runs.run step s [.close, .lastFlush number env.orders] = some flushing := by
    simp [Runs.run, step, opened, fresh, lastFlush, flushing]
  have returns : Runs.run step final [.closeReturn] = some { final with closing := none, returned := some s.deferred } := by
    simp [Runs.run, step, call, flushing, goesOn, same, alone.task]
  rw [Runs.run_append, Runs.run_append, closed, Option.bind_some, served, Option.bind_some, returns]

end Layer

end MmoServer.Db
