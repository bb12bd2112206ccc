import MmoServer.Gateway.QuicStream
import MmoServer.Gateway.SessionManager
import MmoServer.Lib.Runs

set_option autoImplicit false

namespace MmoServer.Gateway

open Protocol

-- The goroutines of a QUICStreamHandler, each by the step that it takes next. They
-- read and write the field sessionID without a lock.
inductive HandlePhase where
  | naming
  | loading
  | adding (sessionID : List UInt8)
  | checking
  | accepting
  | returned
deriving DecidableEq, Repr

inductive StreamPhase where
  | starting
  | reading
  | taking (named : List UInt8)
  | testing
  | naming
  | loading
  | creating (sessionID : List UInt8)
  | responding
  | marking
  | serving
  | touching (session : Option SessionRef)
  | ended
deriving DecidableEq, Repr

inductive ClosePhase where
  | uncalled
  | cancelling
  | closingStreams
  | testing
  | loading
  | removing (sessionID : List UInt8)
  | returned
deriving DecidableEq, Repr

-- The IDs under which the handler added a session before Close returned and after, and
-- the ID that Close passed to RemoveSession.
structure Books where
  early : List (List UInt8) := []
  late : List (List UInt8) := []
  removed : Option (List UInt8) := none
deriving DecidableEq, Repr

structure QUICStreamHandler where
  connection : Nat
  streams : List Nat := []
  sessionManager : SessionManager
  bufferSize : Nat
  cancelled : Bool := false
  sessionID : List UInt8 := []
  authenticated : Bool := false
  handling : HandlePhase := .naming
  phases : GoMap Nat StreamPhase := ∅
  closing : ClosePhase := .uncalled
  books : Books := {}

-- What a step finds around it. Without bytes the Read has failed, or the length in
-- front was too large.
structure StepEnv where
  now : Int := 0
  converted : UInt64 := 0
  generated : List UInt8 := []
  read : Option (List UInt8) := none
  accepted : Option Nat := none
  responds : Bool := true

namespace QUICStreamHandler

variable (converter : ConverterEnv)

def newQUICStreamHandler (connection : Nat) (sessionManager : SessionManager) (bufferSize : Nat) : QUICStreamHandler :=
  { connection, sessionManager, bufferSize }

section Steps

def recordAdded (sessionID : List UInt8) (h : QUICStreamHandler) : Books :=
  if h.closing = .returned then { h.books with late := h.books.late ++ [sessionID] }
  else { h.books with early := h.books.early ++ [sessionID] }

def addSession (now : Int) (sessionID : List UInt8) (h : QUICStreamHandler) : QUICStreamHandler :=
  let session := Session.newSessionWithQUIC sessionID .quic h.connection now
  match (h.sessionManager.alloc session).addSession h.sessionManager.heap.length with
  | (.error _, sessionManager) => { h with sessionManager }
  | (.ok _, sessionManager) => { h with sessionManager, books := h.recordAdded sessionID }

def getOrCreate (now : Int) (sessionID : List UInt8) (h : QUICStreamHandler) : QUICStreamHandler :=
  let sessionManager := (h.sessionManager.getOrCreate sessionID now).2
  match h.sessionManager.getSession sessionID with
  | some _ => { h with sessionManager }
  | none => { h with sessionManager, books := h.recordAdded sessionID }

-- No error of AcceptStream is temporary, so each one ends the loop.
def handleStep (env : StepEnv) (h : QUICStreamHandler) : Option QUICStreamHandler :=
  match h.handling with
  | .naming => some { h with sessionID := env.generated, handling := .loading }
  | .loading => some { h with handling := .adding h.sessionID }
  | .adding sessionID => some { h.addSession env.now sessionID with handling := .checking }
  | .checking => some { h with handling := if h.cancelled = true then .returned else .accepting }
  | .accepting =>
    match env.accepted with
    | none => some { h with handling := .returned }
    | some id =>
      match h.phases.lookup id with
      | some _ => none
      | none => some { h with streams := id :: h.streams, phases := h.phases.insert id .starting, handling := .checking }
  | .returned => none

def streamPhase (env : StepEnv) (h : QUICStreamHandler) : StreamPhase → Option (QUICStreamHandler × StreamPhase)
  | .starting => some (h, if h.authenticated = true then .serving else .reading)
  | .reading =>
    match env.read with
    | none => some (h, .ended)
    | some bytes =>
      match toInternal converter env.converted .quic .binary (bytes.take h.bufferSize) with
      | .error _ => some (h, .ended)
      | .ok authMsg => some (h, .taking authMsg.sessionID)
  | .taking named => some ({ h with sessionID := named }, .testing)
  | .testing => some (h, if h.sessionID = [] then .naming else .loading)
  | .naming => some ({ h with sessionID := env.generated }, .loading)
  | .loading => some (h, .creating h.sessionID)
  | .creating sessionID => some (h.getOrCreate env.now sessionID, .responding)
  | .responding => some (h, if env.responds = true then .marking else .ended)
  | .marking => some ({ h with authenticated := true }, .serving)
  | .serving =>
    match env.read with
    | none => some (h, .ended)
    | some msgBuf =>
      match toInternal converter env.converted .quic .binary msgBuf with
      | .error _ => some (h, .serving)
      | .ok _ => some (h, .touching (h.sessionManager.getSession h.sessionID))
  | .touching none => some (h, .serving)
  | .touching (some session) =>
    some ({ h with sessionManager := h.sessionManager.change session (Session.updateLastActiveTime env.now) }, .serving)
  | .ended => none

def enter (id : Nat) (following : StreamPhase) (h : QUICStreamHandler) : QUICStreamHandler :=
  { h with
    phases := h.phases.insert id following
    streams := if following = .ended then h.streams.filter (· ≠ id) else h.streams }

def streamStep (id : Nat) (env : StepEnv) (h : QUICStreamHandler) : Option QUICStreamHandler :=
  (h.phases.lookup id).bind fun phase => (streamPhase converter env h phase).map fun (after, following) => after.enter id following

def closeStep (h : QUICStreamHandler) : Option QUICStreamHandler :=
  match h.closing with
  | .uncalled => some { h with closing := .cancelling }
  | .cancelling => some { h with cancelled := true, closing := .closingStreams }
  | .closingStreams => some { h with streams := [], closing := .testing }
  | .testing => some { h with closing := if h.sessionID ≠ [] then .loading else .returned }
  | .loading => some { h with closing := .removing h.sessionID }
  | .removing sessionID =>
    some { h with
      sessionManager := (h.sessionManager.removeSession sessionID).2
      closing := .returned
      books := { h.books with removed := some sessionID } }
  | .returned => none

inductive Action where
  | handle (env : StepEnv)
  | stream (id : Nat) (env : StepEnv)
  | close

def step (h : QUICStreamHandler) : Action → Option QUICStreamHandler
  | .handle env => h.handleStep env
  | .stream id env => streamStep converter id env h
  | .close => h.closeStep

end Steps

section Effects

def held (h : QUICStreamHandler) : GoMap (List UInt8) SessionRef := h.sessionManager.sessions

inductive Effect (h after : QUICStreamHandler) : Prop where
  | none (table : after.held = h.held) (books : after.books = h.books)
      (open_ : after.closing ≠ .returned → h.closing ≠ .returned)
  | added (sessionID : List UInt8) (ref : SessionRef) (table : after.held = h.held.insert sessionID ref)
      (books : after.books = h.recordAdded sessionID) (closing : after.closing = h.closing)
  | removed (sessionID : List UInt8) (open_ : h.closing ≠ .returned)
      (table : ∀ id, after.held.lookup id = if id = sessionID then Option.none else h.held.lookup id)
      (books : after.books = { h.books with removed := some sessionID }) (closing : after.closing = .returned)

theorem add_allocated (m : SessionManager) (session : Session) :
    (m.alloc session).addSession m.heap.length =
      match m.sessions.lookup session.id with
      | some _ => (.error .sessionAlreadyExists, m.alloc session)
      | none => (.ok (), { m.alloc session with sessions := m.sessions.insert session.id m.heap.length }) := by
  have stored : (m.alloc session).heap[m.heap.length]? = some session := List.getElem?_concat_length
  rw [SessionManager.addSession, stored]
  rfl

theorem add_session_effect (now : Int) (sessionID : List UInt8) (h : QUICStreamHandler) :
    Effect h (h.addSession now sessionID) := by
  have own : (Session.newSessionWithQUIC sessionID .quic h.connection now).id = sessionID := rfl
  rw [addSession, add_allocated, own]
  cases h.sessionManager.sessions.lookup sessionID with
  | none => exact .added sessionID h.sessionManager.heap.length rfl rfl rfl
  | some ref => exact .none rfl rfl id

theorem get_or_create_effect (now : Int) (sessionID : List UInt8) (h : QUICStreamHandler) :
    Effect h (h.getOrCreate now sessionID) := by
  rw [getOrCreate, SessionManager.getSession, SessionManager.getOrCreate]
  cases h.sessionManager.sessions.lookup sessionID with
  | none => exact .added sessionID h.sessionManager.heap.length rfl rfl rfl
  | some ref => exact .none rfl rfl id

theorem removed_lookup (m : SessionManager) (sessionID id : List UInt8) :
    (m.removeSession sessionID).2.sessions.lookup id = if id = sessionID then none else m.sessions.lookup id := by
  rw [SessionManager.removeSession]
  cases found : m.sessions.lookup sessionID with
  | none =>
    by_cases same : id = sessionID
    · rw [if_pos same, same]
      exact found
    · rw [if_neg same]
  | some ref => exact AList.lookup_erase_eq _ _ _

theorem effect_of_same (h middle after : QUICStreamHandler) (table : after.held = middle.held) (books : after.books = middle.books)
    (closing : after.closing = middle.closing) (effect : Effect h middle) : Effect h after := by
  cases effect with
  | none kept same open_ => exact .none (table.trans kept) (books.trans same) (by rwa [closing])
  | added sessionID ref kept same still => exact .added sessionID ref (table.trans kept) (books.trans same) (closing.trans still)
  | removed sessionID open_ kept same closed =>
    exact .removed sessionID open_ (by rwa [table]) (books.trans same) (closing.trans closed)

theorem handle_effect (env : StepEnv) (h after : QUICStreamHandler) (taken : h.handleStep env = some after) : Effect h after := by
  unfold handleStep at taken
  split at taken
  case h_3 sessionID _ =>
    cases taken
    exact effect_of_same h (h.addSession env.now sessionID) _ rfl rfl rfl (add_session_effect env.now sessionID h)
  all_goals (repeat' split at taken) <;> cases taken <;> exact .none rfl rfl id

theorem stream_phase_effect (env : StepEnv) (h after : QUICStreamHandler) (phase following : StreamPhase)
    (taken : streamPhase converter env h phase = some (after, following)) : Effect h after := by
  unfold streamPhase at taken
  split at taken
  case h_7 sessionID =>
    cases taken
    exact get_or_create_effect env.now sessionID h
  all_goals (repeat' split at taken) <;> cases taken <;> exact .none rfl rfl id

theorem close_effect (h after : QUICStreamHandler) (taken : h.closeStep = some after) : Effect h after := by
  unfold closeStep at taken
  split at taken
  case h_6 sessionID at_ =>
    cases taken
    exact .removed sessionID (by simp [at_]) (removed_lookup h.sessionManager sessionID) rfl rfl
  case h_7 => cases taken
  all_goals
    rename_i at_
    cases taken
    exact .none rfl rfl (fun _ => by simp [at_])

theorem step_effect (h after : QUICStreamHandler) (action : Action) (taken : step converter h action = some after) :
    Effect h after := by
  cases action with
  | handle env => exact handle_effect env h after taken
  | close => exact close_effect h after taken
  | stream id env =>
    obtain ⟨phase, -, moved⟩ := Option.bind_eq_some_iff.mp taken
    obtain ⟨⟨middle, following⟩, moves, rfl⟩ := Option.map_eq_some_iff.mp moved
    exact effect_of_same h middle _ rfl rfl rfl (stream_phase_effect converter env h middle phase following moves)

end Effects

section Sessions

def Over (h : QUICStreamHandler) : Prop := h.closing = .returned ∧ ∀ phase ∈ h.phases.values, phase = .ended

def added (h : QUICStreamHandler) : List (List UInt8) := h.books.early ++ h.books.late

def LeavesNone (h : QUICStreamHandler) : Prop := ∀ id ∈ h.added, h.held.lookup id = none

instance decidableOver (h : QUICStreamHandler) : Decidable h.Over := inferInstanceAs (Decidable (_ ∧ _))

instance decidableLeavesNone (h : QUICStreamHandler) : Decidable h.LeavesNone :=
  inferInstanceAs (Decidable (∀ id ∈ h.added, h.held.lookup id = none))

structure Accounted (h : QUICStreamHandler) : Prop where
  pending : h.closing ≠ .returned → h.books.late = [] ∧ h.books.removed = none
  late : ∀ id ∈ h.books.late, h.held.lookup id ≠ none
  early : ∀ id ∈ h.books.early, h.books.removed ≠ some id → h.held.lookup id ≠ none
  gone : ∀ id, h.books.removed = some id → id ∉ h.books.late → h.held.lookup id = none

theorem accounted_added (h after : QUICStreamHandler) (sessionID : List UInt8) (ref : SessionRef)
    (table : after.held = h.held.insert sessionID ref) (books : after.books = h.recordAdded sessionID)
    (closing : after.closing = h.closing) (accounted : h.Accounted) : after.Accounted := by
  have present : after.held.lookup sessionID ≠ none := by simp [table]
  have kept : ∀ id, h.held.lookup id ≠ none → after.held.lookup id ≠ none := by
    intro id before
    rw [table, AList.lookup_insert_eq]
    split
    · simp
    · exact before
  by_cases closed : h.closing = .returned
  · rw [recordAdded, if_pos closed] at books
    constructor
    · exact fun unfinished => absurd (closing.trans closed) unfinished
    · intro id member
      rw [books] at member
      rcases List.mem_append.mp member with before | now
      · exact kept id (accounted.late id before)
      · rwa [List.mem_singleton.mp now]
    · intro id member other
      rw [books] at member other
      exact kept id (accounted.early id member other)
    · intro id removes apart
      rw [books] at removes apart
      obtain ⟨before, other⟩ : id ∉ h.books.late ∧ id ≠ sessionID := by simpa using apart
      rw [table, AList.lookup_insert_eq, if_neg other]
      exact accounted.gone id removes before
  · rw [recordAdded, if_neg closed] at books
    obtain ⟨no_late, no_removed⟩ := accounted.pending closed
    constructor
    · intro _
      rw [books]
      exact ⟨no_late, no_removed⟩
    · intro id member
      rw [books] at member
      exact kept id (accounted.late id member)
    · intro id member other
      rw [books] at member other
      rcases List.mem_append.mp member with before | now
      · exact kept id (accounted.early id before other)
      · rwa [List.mem_singleton.mp now]
    · intro id removes
      rw [books] at removes
      cases no_removed.symm.trans removes

theorem accounted_removed (h after : QUICStreamHandler) (sessionID : List UInt8) (open_ : h.closing ≠ .returned)
    (table : ∀ id, after.held.lookup id = if id = sessionID then none else h.held.lookup id)
    (books : after.books = { h.books with removed := some sessionID }) (closing : after.closing = .returned)
    (accounted : h.Accounted) : after.Accounted := by
  obtain ⟨no_late, no_removed⟩ := accounted.pending open_
  constructor
  · exact fun unfinished => absurd closing unfinished
  · intro id member
    rw [books, no_late] at member
    cases member
  · intro id member other
    rw [books] at member other
    have apart : id ≠ sessionID := fun same => other (by rw [same])
    rw [table, if_neg apart]
    exact accounted.early id member (by simp [no_removed])
  · intro id removes _
    rw [books] at removes
    rw [table, if_pos (Option.some.inj removes).symm]

theorem accounted_step (h : QUICStreamHandler) (action : Action) (after : QUICStreamHandler) (accounted : h.Accounted)
    (taken : step converter h action = some after) : after.Accounted := by
  cases step_effect converter h after action taken with
  | none table books open_ =>
    constructor
    · intro unfinished
      rw [books]
      exact accounted.pending (open_ unfinished)
    · rw [books, table]
      exact accounted.late
    · rw [books, table]
      exact accounted.early
    · rw [books, table]
      exact accounted.gone
  | added sessionID ref table books closing => exact accounted_added h after sessionID ref table books closing accounted
  | removed sessionID open_ table books closing => exact accounted_removed h after sessionID open_ table books closing accounted

theorem accounted_new (connection : Nat) (sessionManager : SessionManager) (bufferSize : Nat) :
    (newQUICStreamHandler connection sessionManager bufferSize).Accounted := by
  constructor <;> simp [newQUICStreamHandler]

theorem leaves_none_iff (h : QUICStreamHandler) (accounted : h.Accounted) :
    h.LeavesNone ↔ h.books.late = [] ∧ ∀ id ∈ h.books.early, h.books.removed = some id := by
  constructor
  · intro none_left
    constructor
    · apply List.eq_nil_iff_forall_not_mem.mpr
      intro id member
      exact accounted.late id member (none_left id (List.mem_append_right _ member))
    · intro id member
      by_contra kept
      exact accounted.early id member kept (none_left id (List.mem_append_left _ member))
  · intro conditions id member
    obtain ⟨no_late, all⟩ := conditions
    rw [added, no_late, List.append_nil] at member
    exact accounted.gone id (all id member) (by simp [no_late])

-- At any moment, and so when the handler is over: Close removes one ID, and no session
-- is left exactly when each was added under that ID and before Close returned. Sessions
-- under two IDs are never both removed.
theorem closed_handler_leaves_none_iff (connection : Nat) (sessionManager : SessionManager) (bufferSize : Nat)
    (actions : List Action) (final : QUICStreamHandler)
    (ran : Runs.run (step converter) (newQUICStreamHandler connection sessionManager bufferSize) actions = some final) :
    (final.LeavesNone ↔ final.books.late = [] ∧ ∀ id ∈ final.books.early, final.books.removed = some id) ∧
      (final.LeavesNone → ∀ first ∈ final.added, ∀ second ∈ final.added, first = second) := by
  have accounted : final.Accounted := Runs.run_invariant (step converter) Accounted _ final actions
    (accounted_new connection sessionManager bufferSize) (accounted_step converter) ran
  have exact_ := leaves_none_iff final accounted
  refine ⟨exact_, ?_⟩
  intro none_left first member second other
  obtain ⟨no_late, all⟩ := exact_.mp none_left
  rw [added, no_late, List.append_nil] at member other
  exact Option.some.inj ((all first member).symm.trans (all second other))

def idleManager : SessionManager := { heartbeatTTL := 30 }

def opened : List Action :=
  [.handle { generated := [1] }, .handle {}, .handle {}, .handle {}, .handle { accepted := some 4 }]

def closed : List Action := List.replicate 6 .close ++ [.handle {}]

def refusedLogin : List Action := [.stream 4 {}, .stream 4 {}]

def acceptedLogin : List Action :=
  [.stream 4 {}, .stream 4 { read := some QuicStream.login }, .stream 4 {}, .stream 4 {}, .stream 4 { generated := [2] },
    .stream 4 {}, .stream 4 {}, .stream 4 {}, .stream 4 {}, .stream 4 {}]

theorem refused_login_leaves_none :
    ∃ final ∈ Runs.run (step plainEnv) (newQUICStreamHandler 7 idleManager 1024) (opened ++ refusedLogin ++ closed),
      final.Over ∧ final.added = [[1]] ∧ final.LeavesNone := by
  have ends : ∃ final ∈ Runs.run (step plainEnv) (newQUICStreamHandler 7 idleManager 1024) (opened ++ refusedLogin ++ closed),
      final.Over ∧ final.books = { early := [[1]], removed := some [1] } := by
    decide +kernel
  obtain ⟨final, ran, finished, books⟩ := ends
  have exact_ := (closed_handler_leaves_none_iff plainEnv 7 idleManager 1024 _ final ran).1
  refine ⟨final, ran, finished, by rw [added, books]; rfl, exact_.mpr ?_⟩
  rw [books]
  decide

theorem accepted_login_leaves_session :
    ∃ final ∈ Runs.run (step plainEnv) (newQUICStreamHandler 7 idleManager 1024) (opened ++ acceptedLogin ++ closed),
      final.Over ∧ final.handling = .returned ∧ final.added = [[1], [2]] ∧ final.books.removed = some [2] ∧
        ¬ final.LeavesNone := by
  decide +kernel

end Sessions

end QUICStreamHandler

end MmoServer.Gateway
