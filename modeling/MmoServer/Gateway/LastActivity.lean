import MmoServer.Gateway.SessionManager

set_option autoImplicit false

namespace MmoServer.Gateway

namespace SessionManager

def Keyed (m : SessionManager) : Prop :=
  ∀ id ref, m.sessions.lookup id = some ref → ∃ s, m.heap[ref]? = some s ∧ s.id = id

def lastActive (id : List UInt8) (m : SessionManager) : Option Int :=
  (m.sessions.lookup id).bind fun ref => m.heap[ref]?.map Session.lastActivity

section Effects

variable (m : SessionManager)

theorem heap_change (ref other : SessionRef) (f : Session → Session) :
    (m.change ref f).heap[other]? = m.heap[other]?.map fun s => if ref = other then f s else s := by
  rw [change, List.getElem?_modify]
  rfl

variable (ref : SessionRef) (f : Session → Session) (id : List UInt8) (time : Int)

theorem keyed_change (ids : ∀ s, (f s).id = s.id) (keyed : m.Keyed) : (m.change ref f).Keyed := by
  intro id other found
  obtain ⟨s, read, its⟩ := keyed id other found
  refine ⟨if ref = other then f s else s, by rw [heap_change, read]; rfl, ?_⟩
  split
  · rw [ids, its]
  · exact its

theorem last_active_change (times : ∀ s, (f s).lastActivity = s.lastActivity) (id : List UInt8) :
    (m.change ref f).lastActive id = m.lastActive id := by
  rw [lastActive, lastActive]
  refine Option.bind_congr fun other _ => ?_
  rw [heap_change, Option.map_map]
  congr 1
  funext s
  simp only [Function.comp_apply]
  split
  · exact times s
  · rfl

theorem last_active_update (id : List UInt8) (at_ : Int)
    (active : (m.change ref (Session.updateLastActiveTime time)).lastActive id = some at_) :
    m.lastActive id = some at_ ∨ m.sessions.lookup id = some ref ∧ at_ = time := by
  obtain ⟨other, found, read⟩ := Option.bind_eq_some_iff.mp active
  rw [heap_change, Option.map_map] at read
  obtain ⟨s, stored, its⟩ := Option.map_eq_some_iff.mp read
  by_cases here : ref = other
  · subst here
    rw [Function.comp_apply, if_pos rfl] at its
    exact .inr ⟨found, its.symm⟩
  · rw [Function.comp_apply, if_neg here] at its
    exact .inl (Option.bind_eq_some_iff.mpr ⟨other, found, Option.map_eq_some_iff.mpr ⟨s, stored, its⟩⟩)

theorem keyed_alloc (fresh : Session) (keyed : m.Keyed) : (m.alloc fresh).Keyed := by
  intro id ref found
  obtain ⟨s, read, its⟩ := keyed id ref found
  exact ⟨s, by rw [alloc, List.getElem?_append_left (List.getElem?_eq_some_iff.mp read).1, read], its⟩

theorem last_active_alloc (fresh : Session) (keyed : m.Keyed) (id : List UInt8) : (m.alloc fresh).lastActive id = m.lastActive id := by
  refine Option.bind_congr fun ref found => ?_
  obtain ⟨s, read, -⟩ := keyed id ref found
  rw [alloc, List.getElem?_append_left (List.getElem?_eq_some_iff.mp read).1]

theorem keyed_insert (s : Session) (read : m.heap[ref]? = some s) (keyed : m.Keyed) :
    ({ m with sessions := m.sessions.insert s.id ref } : SessionManager).Keyed := by
  intro id other found
  rw [AList.lookup_insert_eq] at found
  split at found
  · rename_i same
    cases found
    exact ⟨s, read, same.symm⟩
  · exact keyed id other found

theorem last_active_insert (s : Session) (read : m.heap[ref]? = some s) (id : List UInt8) :
    ({ m with sessions := m.sessions.insert s.id ref } : SessionManager).lastActive id =
      if id = s.id then some s.lastActivity else m.lastActive id := by
  rw [lastActive, AList.lookup_insert_eq]
  split
  · rw [Option.bind_some, read]
    rfl
  · rfl

theorem keyed_remove (keyed : m.Keyed) : (m.removeSession id).2.Keyed := by
  rw [removeSession]
  split
  · exact keyed
  · intro other ref found
    rw [AList.lookup_erase_eq] at found
    split at found
    · cases found
    · exact keyed_change m _ (fun s => { s with closed := true }) (fun _ => rfl) keyed other ref found

theorem last_active_remove (id other : List UInt8) :
    (m.removeSession id).2.lastActive other = if other = id then none else m.lastActive other := by
  rw [removeSession]
  split
  · rename_i missing
    split
    · rename_i same
      rw [same, lastActive, missing]
      rfl
    · rfl
  · rw [lastActive, AList.lookup_erase_eq]
    split
    · rfl
    · exact last_active_change m _ (fun s => { s with closed := true }) (fun _ => rfl) other

theorem ttl_remove : (m.removeSession id).2.heartbeatTTL = m.heartbeatTTL := by
  rw [removeSession]
  split <;> rfl

theorem keyed_add (keyed : m.Keyed) : (m.addSession ref).2.Keyed := by
  rw [addSession]
  cases read : m.heap[ref]? with
  | none => exact keyed
  | some s =>
    cases found : m.sessions.lookup s.id with
    | some _ => simpa only [found] using keyed
    | none => simpa only [found] using keyed_insert m ref s read keyed

theorem last_active_add (at_ : Int) (active : (m.addSession ref).2.lastActive id = some at_) :
    m.lastActive id = some at_ ∨ ∃ s, m.heap[ref]? = some s ∧ s.id = id ∧ m.sessions.lookup id = none ∧ s.lastActivity = at_ := by
  rw [addSession] at active
  cases read : m.heap[ref]? with
  | none => exact .inl (by simpa only [read] using active)
  | some s =>
    cases found : m.sessions.lookup s.id with
    | some _ => exact .inl (by simpa only [read, found] using active)
    | none =>
      simp only [read, found, last_active_insert m ref s read] at active
      split at active
      · rename_i same
        exact .inr ⟨s, rfl, same.symm, by rw [same, found], Option.some_inj.mp active⟩
      · exact .inl active

theorem ttl_add : (m.addSession ref).2.heartbeatTTL = m.heartbeatTTL := by
  rw [addSession]
  split
  · rfl
  · split <;> rfl

theorem created_stored : (m.alloc { id := id, connectionType := .quic, lastActivity := time }).heap[m.heap.length]? =
      some { id := id, connectionType := .quic, lastActivity := time } := List.getElem?_concat_length

theorem keyed_get_or_create (keyed : m.Keyed) : (m.getOrCreate id time).2.Keyed := by
  rw [getOrCreate]
  split
  · exact keyed_change m _ (Session.updateLastActiveTime time) (fun _ => rfl) keyed
  · exact keyed_insert (m.alloc _) m.heap.length _ (created_stored m id time) (keyed_alloc m _ keyed)

theorem last_active_get_or_create (id other : List UInt8) (time at_ : Int) (keyed : m.Keyed)
    (active : (m.getOrCreate id time).2.lastActive other = some at_) : m.lastActive other = some at_ ∨ other = id ∧ at_ = time := by
  rw [getOrCreate] at active
  split at active
  · rename_i ref found
    rcases last_active_update m ref time other at_ active with kept | ⟨same, its⟩
    · exact .inl kept
    · obtain ⟨s, read, named⟩ := keyed id ref found
      obtain ⟨s', read', named'⟩ := keyed other ref same
      rw [read] at read'
      cases read'
      exact .inr ⟨named'.symm.trans named, its⟩
  · have inserted := last_active_insert (m.alloc _) m.heap.length _ (created_stored m id time) other
    rw [last_active_alloc m _ keyed] at inserted
    have both := inserted.symm.trans active
    split at both
    · rename_i same
      exact .inr ⟨same, (Option.some_inj.mp both).symm⟩
    · exact .inl both

theorem ttl_get_or_create : (m.getOrCreate id time).2.heartbeatTTL = m.heartbeatTTL := by
  rw [getOrCreate]
  split <;> rfl

end Effects

end SessionManager

end MmoServer.Gateway
