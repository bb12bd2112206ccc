import MmoServer.Gateway.SessionManager
import MmoServer.Lib.Runs

set_option autoImplicit false

namespace MmoServer.Gateway

-- The tables of sessions of a GatewayHandler. An empty user ID stands for no user.
structure GatewayHandler where
  heap : List Session := []
  sessions : GoMap (List UInt8) SessionRef := ∅
  sessionsByUser : GoMap (List UInt8) (GoMap (List UInt8) SessionRef) := ∅
  maxInactiveTime : Int
  closedConns : List Transport := []

namespace GatewayHandler

section Index

abbrev Index := GoMap (List UInt8) (GoMap (List UInt8) SessionRef)

def enlist (userID id : List UInt8) (ref : SessionRef) (index : Index) : Index :=
  index.insert userID (((index.lookup userID).getD ∅).insert id ref)

def unlist (userID id : List UInt8) (index : Index) : Index :=
  match index.lookup userID with
  | none => index
  | some userSessions =>
    let left := userSessions.erase id
    if left.size = 0 then index.erase userID else index.insert userID left

def entry (index : Index) (userID id : List UInt8) : Option SessionRef := (index.lookup userID).bind fun own => own.lookup id

theorem entry_enlist (index : Index) (userID id user other : List UInt8) (ref : SessionRef) :
    entry (enlist userID id ref index) user other = if user = userID ∧ other = id then some ref else entry index user other := by
  rw [entry, enlist, AList.lookup_insert_eq]
  by_cases own : user = userID
  · subst own
    rw [if_pos rfl, Option.bind_some, AList.lookup_insert_eq]
    by_cases same : other = id
    · simp [same]
    · rw [if_neg same, if_neg (fun both => same both.2), entry]
      cases index.lookup user <;> simp
  · rw [if_neg own, if_neg (fun both => own both.1), entry]

theorem entry_unlist (index : Index) (userID id user other : List UInt8) :
    entry (unlist userID id index) user other = if user = userID ∧ other = id then none else entry index user other := by
  rw [unlist]
  cases found : index.lookup userID with
  | none =>
    by_cases both : user = userID ∧ other = id
    · rw [if_pos both, both.1]
      simp only [entry, found, Option.bind_none]
    · rw [if_neg both]
  | some userSessions =>
    have own : entry index userID other = userSessions.lookup other := by rw [entry, found, Option.bind_some]
    have left : (userSessions.erase id).lookup other = if other = id then none else userSessions.lookup other :=
      AList.lookup_erase_eq _ _ _
    simp only
    by_cases here : user = userID
    · subst here
      simp only [true_and, own, ← left]
      split
      · rename_i empty
        have none_left : (userSessions.erase id).lookup other = none := AList.lookup_of_size_zero _ _ empty
        rw [none_left, entry, AList.lookup_erase]
        rfl
      · rw [entry, AList.lookup_insert, Option.bind_some]
    · have apart : ¬ (user = userID ∧ other = id) := fun both => here both.1
      simp only [if_neg apart]
      split
      · rw [entry, AList.lookup_erase_eq, if_neg here, entry]
      · rw [entry, AList.lookup_insert_eq, if_neg here, entry]

end Index

section Tables

def userOf (h : GatewayHandler) (ref : SessionRef) : Option (List UInt8) := h.heap[ref]?.map Session.userID

def change (ref : SessionRef) (f : Session → Session) (h : GatewayHandler) : GatewayHandler :=
  { h with heap := h.heap.modify ref f }

def registerSession (ref : SessionRef) (h : GatewayHandler) : GatewayHandler :=
  match h.heap[ref]? with
  | none => h
  | some s =>
    let stored := { h with sessions := h.sessions.insert s.id ref }
    if s.userID ≠ [] then { stored with sessionsByUser := enlist s.userID s.id ref h.sessionsByUser } else stored

-- The session leaves the index under the user ID that it has now.
def remove (id : List UInt8) (ref : SessionRef) (h : GatewayHandler) : GatewayHandler :=
  let userID := (h.userOf ref).getD []
  let unlisted := if userID ≠ [] then { h with sessionsByUser := unlist userID id h.sessionsByUser } else h
  { unlisted with sessions := h.sessions.erase id }

def unregisterSession (sessionID : List UInt8) (h : GatewayHandler) : GatewayHandler :=
  match h.sessions.lookup sessionID with
  | none => h
  | some ref => h.remove sessionID ref

def closeSession (ref : SessionRef) (h : GatewayHandler) : GatewayHandler :=
  match h.heap[ref]? with
  | none => h
  | some s => { h.change ref (fun s => s.close.1) with closedConns := h.closedConns ++ s.close.2 }

def cleanupEntry (now : Int) (h : GatewayHandler) (entry : List UInt8 × SessionRef) : GatewayHandler :=
  match h.heap[entry.2]? with
  | none => h
  | some s => if h.maxInactiveTime < now - s.lastActivity then (h.remove entry.1 entry.2).closeSession entry.2 else h

def cleanupInactiveSessions (now : Int) (order : Shuffle (List UInt8 × SessionRef)) (h : GatewayHandler) : GatewayHandler :=
  (order.apply h.sessions.pairs).foldl (cleanupEntry now) h

def getUserSessions (userID : List UInt8) (order : Shuffle SessionRef) (h : GatewayHandler) : List SessionRef :=
  match h.sessionsByUser.lookup userID with
  | none => []
  | some userSessions => order.apply userSessions.values

inductive Call where
  | create (s : Session)
  | touch (ref : SessionRef) (now : Int)
  | registerSession (ref : SessionRef)
  | setUserID (ref : SessionRef) (userID : List UInt8)
  | unregisterSession (sessionID : List UInt8)
  | cleanupInactiveSessions (now : Int) (order : Shuffle (List UInt8 × SessionRef))

def step (h : GatewayHandler) : Call → GatewayHandler
  | .create s => { h with heap := h.heap ++ [s] }
  | .touch ref now => h.change ref (Session.updateLastActiveTime now)
  | .registerSession ref => h.registerSession ref
  | .setUserID ref userID => h.change ref (Session.setUserID userID)
  | .unregisterSession sessionID => h.unregisterSession sessionID
  | .cleanupInactiveSessions now order => h.cleanupInactiveSessions now order

end Tables

section Exact

-- The index holds a session under a user exactly when the session is stored and has the user.
def Exact (h : GatewayHandler) : Prop :=
  ∀ user id ref, user ≠ [] →
    (entry h.sessionsByUser user id = some ref ↔ h.sessions.lookup id = some ref ∧ h.userOf ref = some user)

def Keyed (h : GatewayHandler) : Prop :=
  ∀ id ref, h.sessions.lookup id = some ref → ∃ s, h.heap[ref]? = some s ∧ s.id = id

-- A session that takes the place of another has its user, unless that one has none; and a
-- stored session keeps its user.
def KeepsUsers (h : GatewayHandler) : Call → Prop
  | .registerSession ref => ∀ s ∈ h.heap[ref]?, ∀ old ∈ h.sessions.lookup s.id, ∀ user ∈ h.userOf old, user = [] ∨ user = s.userID
  | .setUserID ref userID => ∀ s ∈ h.heap[ref]?, h.sessions.lookup s.id = some ref → s.userID = userID
  | _ => True

variable (h : GatewayHandler) (id : List UInt8) (ref : SessionRef)

theorem user_of_change (ref other : SessionRef) (f : Session → Session) :
    (h.change ref f).userOf other = if ref = other then h.heap[other]?.map fun s => (f s).userID else h.userOf other := by
  simp only [userOf, change, List.getElem?_modify]
  by_cases same : ref = other
  · cases h.heap[other]? <;> simp [same]
  · cases h.heap[other]? <;> simp [same]

theorem exact_same (h h' : GatewayHandler) (sessions : h'.sessions = h.sessions) (index : h'.sessionsByUser = h.sessionsByUser)
    (users : ∀ id ref, h.sessions.lookup id = some ref → h'.userOf ref = h.userOf ref) (exact_ : h.Exact) : h'.Exact := by
  intro user id ref some_
  rw [index, sessions, exact_ user id ref some_]
  refine and_congr_right fun stored => ?_
  rw [users id ref stored]

theorem keyed_change (f : Session → Session) (ids : ∀ s, (f s).id = s.id) (keyed : h.Keyed) : (h.change ref f).Keyed := by
  intro id other stored
  obtain ⟨s, found, own⟩ := keyed id other stored
  by_cases same : ref = other
  · exact ⟨f s, by simp [change, same, found], by rw [ids, own]⟩
  · exact ⟨s, by simp [change, same, found], own⟩

theorem remove_heap : (h.remove id ref).heap = h.heap := by
  simp only [remove]
  split <;> rfl

theorem keyed_remove (keyed : h.Keyed) : (h.remove id ref).Keyed := by
  intro other stored found
  have sessions : (h.remove id ref).sessions = h.sessions.erase id := rfl
  rw [sessions, AList.lookup_erase_eq] at found
  split at found
  · cases found
  · rw [remove_heap]
    exact keyed other stored found

theorem exact_remove (stored : h.sessions.lookup id = some ref) (exact_ : h.Exact) : (h.remove id ref).Exact := by
  intro user other found some_
  have users : (h.remove id ref).userOf found = h.userOf found := by rw [userOf, remove_heap, userOf]
  have sessions : (h.remove id ref).sessions.lookup other = if other = id then none else h.sessions.lookup other :=
    AList.lookup_erase_eq _ _ _
  have index : entry (h.remove id ref).sessionsByUser user other =
      if user = (h.userOf ref).getD [] ∧ other = id then none else entry h.sessionsByUser user other := by
    simp only [remove]
    split
    · exact entry_unlist _ _ _ _ _
    · rename_i unnamed
      rw [if_neg]
      rintro ⟨named, -⟩
      rw [not_not] at unnamed
      exact some_ (named.trans unnamed)
  rw [users, sessions, index]
  by_cases same : other = id
  · subst same
    rw [if_pos rfl]
    refine iff_of_false ?_ (by simp)
    split
    · simp
    · rename_i apart
      intro listed
      obtain ⟨again, named⟩ := (exact_ user other found some_).mp listed
      cases stored.symm.trans again
      exact apart ⟨by rw [named, Option.getD_some], rfl⟩
  · rw [if_neg same, if_neg (fun both => same both.2)]
    exact exact_ user other found some_

theorem user_of_close (ref other : SessionRef) : (h.closeSession ref).userOf other = h.userOf other := by
  rw [closeSession]
  cases found : h.heap[ref]? with
  | none => rfl
  | some s =>
    have named : ∀ s : Session, s.close.1.userID = s.userID := fun s => by
      unfold Session.close
      split <;> rfl
    change (h.change ref fun s => s.close.1).userOf other = h.userOf other
    rw [user_of_change]
    simp only [named, userOf, ite_self]

theorem close_tables : (h.closeSession ref).sessions = h.sessions ∧ (h.closeSession ref).sessionsByUser = h.sessionsByUser := by
  rw [closeSession]
  split <;> exact ⟨rfl, rfl⟩

theorem keyed_close (keyed : h.Keyed) : (h.closeSession ref).Keyed := by
  rw [closeSession]
  split
  · exact keyed
  · exact keyed_change h ref (fun s => s.close.1) (fun s => by unfold Session.close; split <;> rfl) keyed

theorem cleanup_entry_cases (now : Int) (first : List UInt8 × SessionRef) :
    cleanupEntry now h first = h ∨ cleanupEntry now h first = (h.remove first.1 first.2).closeSession first.2 := by
  rw [cleanupEntry]
  split
  · exact .inl rfl
  · split
    · exact .inr rfl
    · exact .inl rfl

theorem keyed_cleanup (now : Int) (entries : List (List UInt8 × SessionRef)) (h : GatewayHandler) (keyed : h.Keyed) :
    (entries.foldl (cleanupEntry now) h).Keyed := by
  induction entries generalizing h with
  | nil => exact keyed
  | cons first rest ih =>
    rw [List.foldl_cons]
    apply ih
    rcases cleanup_entry_cases h now first with idle | cleaned
    · rwa [idle]
    · rw [cleaned]
      exact keyed_close _ _ (keyed_remove h _ _ keyed)

theorem exact_cleanup (now : Int) (entries : List (List UInt8 × SessionRef)) (h : GatewayHandler)
    (distinct : (entries.map Prod.fst).Nodup) (present : ∀ entry ∈ entries, h.sessions.lookup entry.1 = some entry.2)
    (exact_ : h.Exact) : (entries.foldl (cleanupEntry now) h).Exact := by
  induction entries generalizing h with
  | nil => exact exact_
  | cons first rest ih =>
    rw [List.map_cons, List.nodup_cons] at distinct
    obtain ⟨stored, later⟩ := List.forall_mem_cons.mp present
    rw [List.foldl_cons]
    rcases cleanup_entry_cases h now first with idle | cleaned
    · rw [idle]
      exact ih h distinct.2 later exact_
    · obtain ⟨sessions, index⟩ := close_tables (h.remove first.1 first.2) first.2
      rw [cleaned]
      apply ih _ distinct.2
      · intro entry member
        have apart : entry.1 ≠ first.1 := fun same => distinct.1 (List.mem_map.mpr ⟨entry, member, same⟩)
        rw [sessions]
        change (h.sessions.erase first.1).lookup entry.1 = some entry.2
        rw [AList.lookup_erase_eq, if_neg apart, later entry member]
      · exact exact_same _ _ sessions index (fun _ other _ => user_of_close _ first.2 other) (exact_remove h _ _ stored exact_)

theorem registered (s : Session) (found : h.heap[ref]? = some s) :
    (h.registerSession ref).heap = h.heap ∧ (h.registerSession ref).sessions = h.sessions.insert s.id ref := by
  simp only [registerSession, found]
  split <;> exact ⟨rfl, rfl⟩

theorem register_absent (found : h.heap[ref]? = none) : h.registerSession ref = h := by simp only [registerSession, found]

theorem keyed_step (call : Call) (keyed : h.Keyed) : (h.step call).Keyed := by
  cases call with
  | create s =>
    intro id ref stored
    obtain ⟨old, found, own⟩ := keyed id ref stored
    exact ⟨old, by rw [step, List.getElem?_append_left (List.getElem?_eq_some_iff.mp found).1, found], own⟩
  | touch ref now | setUserID ref userID => exact keyed_change h ref _ (fun _ => rfl) keyed
  | registerSession ref =>
    cases found : h.heap[ref]? with
    | none => rwa [step, register_absent h ref found]
    | some s =>
      obtain ⟨heap, sessions⟩ := registered h ref s found
      intro id other stored
      rw [step, sessions, AList.lookup_insert_eq] at stored
      rw [step, heap]
      split at stored
      · rename_i same
        cases stored
        exact ⟨s, found, same.symm⟩
      · exact keyed id other stored
  | unregisterSession sessionID =>
    change (h.unregisterSession sessionID).Keyed
    rw [unregisterSession]
    split
    · exact keyed
    · exact keyed_remove h sessionID _ keyed
  | cleanupInactiveSessions now order => exact keyed_cleanup now _ h keyed

theorem exact_register_iff (exact_ : h.Exact) : (h.registerSession ref).Exact ↔ h.KeepsUsers (.registerSession ref) := by
  cases found : h.heap[ref]? with
  | none =>
    rw [register_absent h ref found]
    exact iff_of_true exact_ (by simp [KeepsUsers, found])
  | some s =>
    obtain ⟨heap, stored⟩ := registered h ref s found
    have users : ∀ other, (h.registerSession ref).userOf other = h.userOf other := fun other => by rw [userOf, heap, userOf]
    have sessions : ∀ other, (h.registerSession ref).sessions.lookup other =
        if other = s.id then some ref else h.sessions.lookup other := fun other => by rw [stored, AList.lookup_insert_eq]
    have index : ∀ user other, user ≠ [] → entry (h.registerSession ref).sessionsByUser user other =
        if user = s.userID ∧ other = s.id then some ref else entry h.sessionsByUser user other := by
      intro user other some_
      simp only [registerSession, found]
      split
      · exact entry_enlist _ _ _ _ _ _
      · rename_i unnamed
        rw [if_neg]
        rintro ⟨named, -⟩
        rw [not_not] at unnamed
        exact some_ (named.trans unnamed)
    have own : h.userOf ref = some s.userID := by rw [userOf, found, Option.map_some]
    constructor
    · intro exact' s' here old stored user named
      cases found.symm.trans here
      rw [or_iff_not_imp_left]
      intro some_
      by_contra different
      have listed := (exact_ user s.id old some_).mpr ⟨stored, named⟩
      have still := (exact' user s.id old some_).mp (by rw [index user s.id some_, if_neg (fun both => different both.1), listed])
      rw [sessions, if_pos rfl, users] at still
      cases still.1
      rw [own] at still
      exact different (Option.some_inj.mp still.2).symm
    · intro keeps user id other some_
      rw [index user id some_, sessions, users]
      by_cases same : id = s.id
      · subst same
        rw [if_pos rfl]
        by_cases mine : user = s.userID
        · subst mine
          rw [if_pos ⟨rfl, rfl⟩]
          refine ⟨fun here => ?_, fun both => both.1⟩
          cases here
          exact ⟨rfl, own⟩
        · rw [if_neg (fun both => mine both.1)]
          refine iff_of_false (fun listed => ?_) ?_
          · obtain ⟨stored, named⟩ := (exact_ user s.id other some_).mp listed
            rcases keeps s found other stored user named with none_ | same
            · exact some_ none_
            · exact mine same
          · rintro ⟨here, named⟩
            cases here
            rw [own] at named
            exact mine (Option.some_inj.mp named).symm
      · rw [if_neg same, if_neg (fun both => same both.2)]
        exact exact_ user id other some_

theorem exact_set_user_iff (userID : List UInt8) (keyed : h.Keyed) (exact_ : h.Exact) :
    (h.step (.setUserID ref userID)).Exact ↔ h.KeepsUsers (.setUserID ref userID) := by
  have users : ∀ other, (h.change ref (Session.setUserID userID)).userOf other =
      if ref = other then h.heap[other]?.map fun _ => userID else h.userOf other := fun other => user_of_change h ref other _
  constructor
  · intro exact' s found stored
    have own : h.userOf ref = some s.userID := by rw [userOf, Option.mem_def.mp found, Option.map_some]
    have renamed : (h.change ref (Session.setUserID userID)).userOf ref = some userID := by
      rw [users, if_pos rfl, Option.mem_def.mp found, Option.map_some]
    by_contra different
    by_cases some_ : s.userID = []
    · -- The new user is not listed.
      have new : userID ≠ [] := fun none_ => different (some_.trans none_.symm)
      have listed := (exact' userID s.id ref new).mpr ⟨stored, renamed⟩
      have before := (exact_ userID s.id ref new).mp listed
      rw [own] at before
      exact different (Option.some_inj.mp before.2)
    · -- The old user is still listed.
      have listed := (exact_ s.userID s.id ref some_).mpr ⟨stored, own⟩
      have after := (exact' s.userID s.id ref some_).mp listed
      have named := after.2.symm.trans renamed
      exact different (Option.some_inj.mp named)
  · intro keeps
    refine exact_same h _ rfl rfl ?_ exact_
    intro id other stored
    change (h.change ref (Session.setUserID userID)).userOf other = h.userOf other
    rw [users]
    split
    · rename_i same
      subst same
      obtain ⟨s, found, own⟩ := keyed id ref stored
      have same := keeps s found (by rw [own, stored])
      rw [userOf, found, Option.map_some, Option.map_some, same]
    · rfl

theorem exact_step_iff (call : Call) (keyed : h.Keyed) (exact_ : h.Exact) : (h.step call).Exact ↔ h.KeepsUsers call := by
  cases call with
  | create s =>
    refine iff_of_true (exact_same h _ rfl rfl ?_ exact_) trivial
    intro id ref stored
    obtain ⟨old, found, -⟩ := keyed id ref stored
    rw [userOf, step, List.getElem?_append_left (List.getElem?_eq_some_iff.mp found).1, userOf]
  | touch ref now =>
    refine iff_of_true (exact_same h _ rfl rfl ?_ exact_) trivial
    intro id other _
    change (h.change ref _).userOf other = h.userOf other
    rw [user_of_change]
    simp only [Session.updateLastActiveTime, userOf, ite_self]
  | registerSession ref => exact exact_register_iff h ref exact_
  | setUserID ref userID => exact exact_set_user_iff h ref userID keyed exact_
  | unregisterSession sessionID =>
    refine iff_of_true ?_ trivial
    change (h.unregisterSession sessionID).Exact
    rw [unregisterSession]
    split
    · exact exact_
    · rename_i ref stored
      exact exact_remove h sessionID ref stored exact_
  | cleanupInactiveSessions now order =>
    refine iff_of_true ?_ trivial
    apply exact_cleanup now _ h _ _ exact_
    · rw [((order.perm _).map _).nodup_iff, AList.pairs_keys]
      exact h.sessions.keys_nodup
    · intro entry member
      exact (AList.mem_pairs _ _ _).mp ((order.mem_apply _ _).mp member)

theorem user_sessions_exact (exact_ : h.Exact) (user : List UInt8) (some_ : user ≠ []) (order : Shuffle SessionRef) (ref : SessionRef) :
    ref ∈ h.getUserSessions user order ↔ ∃ id, h.sessions.lookup id = some ref ∧ h.userOf ref = some user := by
  have listed : ref ∈ h.getUserSessions user order ↔ ∃ id, entry h.sessionsByUser user id = some ref := by
    rw [getUserSessions]
    cases own : h.sessionsByUser.lookup user with
    | none => simp [entry, own]
    | some userSessions =>
      simp only [entry, own, Option.bind_some, Shuffle.mem_apply]
      exact AList.mem_values _ _
  rw [listed]
  exact exists_congr fun id => exact_ user id ref some_

theorem user_index_exact_iff (maxInactiveTime : Int) (calls : List Call) :
    ((∀ seen ∈ Runs.visited step { maxInactiveTime } calls, seen.Exact) ↔ Runs.Meets step KeepsUsers { maxInactiveTime } calls) ∧
    ∀ seen ∈ Runs.visited step { maxInactiveTime } calls, seen.Exact → ∀ user, user ≠ [] → ∀ order ref,
      ref ∈ seen.getUserSessions user order ↔ ∃ id, seen.sessions.lookup id = some ref ∧ seen.userOf ref = some user := by
  constructor
  · refine Runs.visited_iff_meets step Keyed Exact KeepsUsers keyed_step (fun h call => exact_step_iff h call) _ calls ?_ ?_
    · intro id ref stored
      simp at stored
    · intro user id ref _
      simp [entry]
  · exact fun seen _ exact_ user some_ order ref => user_sessions_exact seen exact_ user some_ order ref

def switchedUser : List Call :=
  [.create (Session.newSession [9] .webSocket 7 0), .setUserID 0 [1], .registerSession 0, .setUserID 0 [2], .unregisterSession [9]]

theorem removed_session_still_listed :
    (switchedUser.foldl step { maxInactiveTime := 60 }).sessions.lookup [9] = none ∧
      (switchedUser.foldl step { maxInactiveTime := 60 }).getUserSessions [1] .listed = [0] ∧
      ¬ (switchedUser.foldl step { maxInactiveTime := 60 }).Exact := by
  have gone : (switchedUser.foldl step { maxInactiveTime := 60 }).sessions.lookup [9] = none := by decide
  have listed : entry (switchedUser.foldl step { maxInactiveTime := 60 }).sessionsByUser [1] [9] = some 0 := by decide
  refine ⟨gone, by decide, fun exact_ => ?_⟩
  have stored := ((exact_ [1] [9] 0 (by decide)).mp listed).1
  rw [gone] at stored
  cases stored

end Exact

end GatewayHandler

end MmoServer.Gateway
