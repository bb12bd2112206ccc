import MmoServer.Gateway.SessionManager
import MmoServer.Lib.Runs

set_option autoImplicit false

namespace MmoServer.Gateway

open Protocol

def Session.transports (s : Session) : List Transport :=
  s.wsConn.toList.map .webSocket ++ s.secureConn.toList.map .secure ++ s.quicStream.toList.map .stream ++ s.quicConn.toList.map .quic

namespace SessionManager

inductive Call where
  | newSession (id : List UInt8) (connType : ConnectionType) (conn : Nat) (now : Int)
  | newSessionWithSecureConnection (id : List UInt8) (connType : ConnectionType) (conn : Nat) (now : Int)
  | newSessionWithQUIC (id : List UInt8) (connType : ConnectionType) (conn : Nat) (now : Int)
  | addSession (ref : SessionRef)
  | getOrCreate (sessionID : List UInt8) (now : Int)
  | removeSession (sessionID : List UInt8)
  | checkHeartbeats (now : Int) (order : Shuffle (List UInt8 × SessionRef))
  | stop (order : Shuffle SessionRef)
  | close (ref : SessionRef)

def step (m : SessionManager) : Call → SessionManager
  | .newSession id connType conn now => m.alloc (Session.newSession id connType conn now)
  | .newSessionWithSecureConnection id connType conn now => m.alloc (Session.newSessionWithSecureConnection id connType conn now)
  | .newSessionWithQUIC id connType conn now => m.alloc (Session.newSessionWithQUIC id connType conn now)
  | .addSession ref => (m.addSession ref).2
  | .getOrCreate sessionID now => (m.getOrCreate sessionID now).2
  | .removeSession sessionID => (m.removeSession sessionID).2
  | .checkHeartbeats now order => m.checkHeartbeats now order
  | .stop order => m.stop order
  | .close ref => m.closeSession ref

section Flags

-- The sessions whose flag a call sets while it leaves their connections alone.
def removes (m : SessionManager) : Call → List SessionRef
  | .removeSession sessionID => (m.sessions.lookup sessionID).toList
  | .checkHeartbeats now order => (m.expiredSessions now order).filterMap m.sessions.lookup
  | .stop order => order.apply m.sessions.values
  | _ => []

structure Flagged (refs : List SessionRef) (m after : SessionManager) : Prop where
  size : after.heap.length = m.heap.length
  kept : ∀ ref s, m.heap[ref]? = some s → ∃ s' : Session, after.heap[ref]? = some s' ∧ s'.transports = s.transports ∧
    (s'.closed = true ↔ s.closed = true ∨ ref ∈ refs)

theorem flagged_none (m after : SessionManager) (same : after.heap = m.heap) : Flagged [] m after where
  size := by rw [same]
  kept ref s found := ⟨s, by rw [same, found], rfl, by simp⟩

variable (m : SessionManager) (ref : SessionRef)

theorem flagged_change (f : Session → Session) (refs : List SessionRef) (transports : ∀ s, (f s).transports = s.transports)
    (flags : ∀ s, (f s).closed = true ↔ s.closed = true ∨ ref ∈ refs) (others : ∀ other ∈ refs, other = ref) :
    Flagged refs m (m.change ref f) where
  size := by simp [change]
  kept other s found := by
    by_cases same : ref = other
    · subst same
      exact ⟨f s, by simp [change, found], transports s, flags s⟩
    · refine ⟨s, by simp [change, same, found], rfl, ?_⟩
      have apart : other ∉ refs := fun member => same (others other member).symm
      simp [apart]

theorem flagged_mark : Flagged [ref] m (m.markClosed ref) :=
  flagged_change m ref _ [ref] (fun _ => rfl) (by simp) (by simp)

theorem flagged_trans (first second : List SessionRef) (m middle after : SessionManager) (early : Flagged first m middle)
    (late : Flagged second middle after) : Flagged (first ++ second) m after where
  size := late.size.trans early.size
  kept ref s found := by
    obtain ⟨s', here, transports, flag⟩ := early.kept ref s found
    obtain ⟨s'', there, transports', flag'⟩ := late.kept ref s' here
    exact ⟨s'', there, transports'.trans transports, by rw [flag', flag, List.mem_append, or_assoc]⟩

theorem flagged_same (first second : List SessionRef) (m after : SessionManager) (flagged : Flagged first m after)
    (same : ∀ ref, ref ∈ first ↔ ref ∈ second) : Flagged second m after where
  size := flagged.size
  kept ref s found := by
    obtain ⟨s', here, transports, flag⟩ := flagged.kept ref s found
    exact ⟨s', here, transports, by rw [flag, same]⟩

theorem flagged_remove (sessionID : List UInt8) : Flagged (m.sessions.lookup sessionID).toList m (m.removeSession sessionID).2 := by
  rw [removeSession]
  cases found : m.sessions.lookup sessionID with
  | none => exact flagged_none m m rfl
  | some ref => exact ⟨(flagged_mark m ref).size, (flagged_mark m ref).kept⟩

theorem flagged_removals (ids : List (List UInt8)) :
    Flagged (ids.filterMap m.sessions.lookup) m (ids.foldl (fun m sessionID => (m.removeSession sessionID).2) m) := by
  induction ids generalizing m with
  | nil => exact flagged_none m m rfl
  | cons id rest ih =>
    have sessions : ∀ other, (m.removeSession id).2.sessions.lookup other = if other = id then none else m.sessions.lookup other := by
      intro other
      rw [removeSession]
      cases found : m.sessions.lookup id with
      | none =>
        by_cases same : other = id
        · rw [same, if_pos rfl, found]
        · rw [if_neg same]
      | some ref => exact AList.lookup_erase_eq _ _ _
    refine flagged_same _ _ m _ (flagged_trans _ _ m _ _ (flagged_remove m id) (ih (m.removeSession id).2)) ?_
    intro ref
    simp only [List.mem_append, List.mem_filterMap, Option.mem_toList, sessions, List.mem_cons]
    constructor
    · rintro (here | ⟨other, member, found⟩)
      · exact ⟨id, .inl rfl, here⟩
      · split at found
        · cases found
        · exact ⟨other, .inr member, found⟩
    · rintro ⟨other, rfl | member, found⟩
      · exact .inl found
      · by_cases same : other = id
        · subst same
          exact .inl found
        · exact .inr ⟨other, member, by rw [if_neg same, found]⟩

theorem flagged_marks (refs : List SessionRef) : Flagged refs m (refs.foldl (fun m ref => m.markClosed ref) m) := by
  induction refs generalizing m with
  | nil => exact flagged_none m m rfl
  | cons ref rest ih => exact flagged_trans [ref] rest m _ _ (flagged_mark m ref) (ih (m.markClosed ref))

theorem flagged_close : Flagged [ref] m (m.closeSession ref) := by
  rw [closeSession]
  cases found : m.heap[ref]? with
  | none =>
    refine ⟨rfl, fun other s present => ⟨s, present, rfl, ?_⟩⟩
    have apart : other ≠ ref := by
      rintro rfl
      cases found.symm.trans present
    simp [apart]
  | some s =>
    have changed := flagged_change m ref (fun s => s.close.1) [ref]
      (fun s => by unfold Session.close; split <;> rfl) (fun s => by unfold Session.close; split <;> simp_all) (by simp)
    exact ⟨changed.size, changed.kept⟩

end Flags

section Transports

def ClosedTransports (m : SessionManager) : Prop :=
  ∀ s ∈ m.heap, s.closed = true → ∀ transport ∈ s.transports, transport ∈ m.closedConns

-- The condition: a removed session has no open connection left, and an open
-- session is closed where its type is that of its connections.
def ClosesAll (m : SessionManager) : Call → Prop
  | .close ref => ∀ s ∈ m.heap[ref]?, s.closed = false → ∀ transport ∈ s.transports, transport ∈ m.closedConns ∨ transport ∈ s.closes
  | call => ∀ ref ∈ m.removes call, ∀ s ∈ m.heap[ref]?, ∀ transport ∈ s.transports, transport ∈ m.closedConns

theorem closed_alloc (m : SessionManager) (fresh : Session) (open_ : fresh.closed = false) (closed : m.ClosedTransports) :
    (m.alloc fresh).ClosedTransports := by
  intro s member flag
  rcases List.mem_append.mp member with old | new
  · exact closed s old flag
  · rw [List.mem_singleton.mp new, open_] at flag
    cases flag

theorem closed_flagged_iff (refs : List SessionRef) (m after : SessionManager) (more : List Transport) (flagged : Flagged refs m after)
    (log : after.closedConns = m.closedConns ++ more) (closed : m.ClosedTransports) :
    after.ClosedTransports ↔ ∀ ref ∈ refs, ∀ s ∈ m.heap[ref]?, ∀ transport ∈ s.transports, transport ∈ m.closedConns ++ more := by
  constructor
  · intro closed' ref member s found transport its
    obtain ⟨s', here, transports, flag⟩ := flagged.kept ref s found
    rw [← log]
    exact closed' s' (List.mem_of_getElem? here) (flag.mpr (.inr member)) transport (by rwa [transports])
  · intro all s' member flag' transport its
    obtain ⟨ref, within, rfl⟩ := List.mem_iff_getElem.mp member
    have before : ref < m.heap.length := by rwa [← flagged.size]
    obtain ⟨s, here, transports, flag⟩ := flagged.kept ref m.heap[ref] (List.getElem?_eq_getElem before)
    rw [List.getElem?_eq_getElem within] at here
    cases here
    rw [log]
    rw [transports] at its
    rcases flag.mp flag' with already | now
    · exact List.mem_append_left _ (closed _ (List.getElem_mem before) already transport its)
    · exact all ref now _ (List.getElem?_eq_getElem before) transport its

theorem removals_log (ids : List (List UInt8)) (m : SessionManager) :
    (ids.foldl (fun m sessionID => (m.removeSession sessionID).2) m).closedConns = m.closedConns := by
  induction ids generalizing m with
  | nil => rfl
  | cons id rest ih =>
    rw [List.foldl_cons, ih, removeSession]
    split <;> rfl

theorem marks_log (refs : List SessionRef) (m : SessionManager) :
    (refs.foldl (fun m ref => m.markClosed ref) m).closedConns = m.closedConns := by
  induction refs generalizing m with
  | nil => rfl
  | cons ref rest ih =>
    rw [List.foldl_cons, ih]
    rfl

theorem closed_close_iff (m : SessionManager) (ref : SessionRef) (closed : m.ClosedTransports) :
    (m.closeSession ref).ClosedTransports ↔ m.ClosesAll (.close ref) := by
  have log : (m.closeSession ref).closedConns = m.closedConns ++ (m.heap[ref]?.map fun s => s.close.2).getD [] := by
    rw [closeSession]
    cases m.heap[ref]? <;> simp
  rw [closed_flagged_iff [ref] m _ _ (flagged_close m ref) log closed, List.forall_mem_singleton, ClosesAll]
  refine forall₂_congr fun s found => ?_
  rw [Option.mem_def.mp found, Option.map_some, Option.getD_some, Session.close]
  by_cases flag : s.closed = true
  · simpa [flag] using closed s (List.mem_of_getElem? found) flag
  · simp [flag]

theorem closed_step_iff (m : SessionManager) (call : Call) (closed : m.ClosedTransports) :
    (m.step call).ClosedTransports ↔ m.ClosesAll call := by
  have keeps : ∀ refs after, Flagged refs m after → after.closedConns = m.closedConns → (after.ClosedTransports ↔
      ∀ ref ∈ refs, ∀ s ∈ m.heap[ref]?, ∀ transport ∈ s.transports, transport ∈ m.closedConns) := by
    intro refs after flagged log
    have iff_ := closed_flagged_iff refs m after [] flagged (log.trans (List.append_nil _).symm) closed
    rwa [List.append_nil] at iff_
  have fresh : ∀ (s : Session), s.closed = false → ((m.alloc s).ClosedTransports ↔ ∀ ref ∈ ([] : List SessionRef),
      ∀ s ∈ m.heap[ref]?, ∀ transport ∈ s.transports, transport ∈ m.closedConns) :=
    fun s open_ => iff_of_true (closed_alloc m s open_ closed) (by simp)
  cases call with
  | newSession id connType conn now => exact fresh _ rfl
  | newSessionWithSecureConnection id connType conn now => exact fresh _ rfl
  | newSessionWithQUIC id connType conn now => exact fresh _ rfl
  | addSession ref =>
    have heap : (m.addSession ref).2.heap = m.heap ∧ (m.addSession ref).2.closedConns = m.closedConns := by
      rw [addSession]
      split
      · exact ⟨rfl, rfl⟩
      · split <;> exact ⟨rfl, rfl⟩
    exact keeps [] _ (flagged_none m _ heap.1) heap.2
  | getOrCreate sessionID now =>
    change (m.getOrCreate sessionID now).2.ClosedTransports ↔ _
    rw [getOrCreate]
    split
    · rename_i ref found
      exact keeps [] _ (flagged_change m ref (Session.updateLastActiveTime now) [] (fun _ => rfl)
        (fun s => by simp [Session.updateLastActiveTime]) (by simp)) rfl
    · exact fresh { id := sessionID, connectionType := .quic, lastActivity := now } rfl
  | removeSession sessionID => exact keeps _ _ (flagged_remove m sessionID) (removals_log [sessionID] m)
  | checkHeartbeats now order =>
    exact keeps _ _ (flagged_removals m (m.expiredSessions now order)) (removals_log (m.expiredSessions now order) m)
  | stop order =>
    have marked := flagged_marks m (order.apply m.sessions.values)
    exact keeps (order.apply m.sessions.values) _ ⟨marked.size, marked.kept⟩ (marks_log (order.apply m.sessions.values) m)
  | close ref => exact closed_close_iff m ref closed

theorem closed_sessions_released_iff (heartbeatTTL : Int) (calls : List Call) :
    (∀ seen ∈ Runs.visited step { heartbeatTTL } calls, seen.ClosedTransports) ↔ Runs.Meets step ClosesAll { heartbeatTTL } calls := by
  refine Runs.visited_iff_meets step (fun _ => True) ClosedTransports ClosesAll (fun _ _ _ => trivial) ?_ _ calls trivial ?_
  · exact fun m call _ closed => closed_step_iff m call closed
  · intro s member
    cases member

def removedFirst : List Call :=
  [.newSession [1] .webSocket 7 0, .addSession 0, .removeSession [1], .close 0]

theorem removed_session_keeps_connection :
    ¬ (removedFirst.foldl step { heartbeatTTL := 60 }).ClosedTransports ∧
      (removedFirst.foldl step { heartbeatTTL := 60 }).heap.map (fun s => (s.closed, s.transports)) = [(true, [.webSocket 7])] ∧
      (removedFirst.foldl step { heartbeatTTL := 60 }).closedConns = [] := by
  have heap : (removedFirst.foldl step { heartbeatTTL := 60 }).heap =
      [{ Session.newSession [1] .webSocket 7 0 with closed := true }] := by
    decide
  have log : (removedFirst.foldl step { heartbeatTTL := 60 }).closedConns = [] := by decide
  refine ⟨fun closed => ?_, by rw [heap]; decide, log⟩
  have released := closed { Session.newSession [1] .webSocket 7 0 with closed := true } (by rw [heap]; simp) rfl (.webSocket 7) (by decide)
  rw [log] at released
  cases released

end Transports

end SessionManager

end MmoServer.Gateway
