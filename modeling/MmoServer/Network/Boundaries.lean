import MmoServer.Network.Server

set_option autoImplicit false

namespace MmoServer.Network

namespace Server

variable (s : Server)

def KeepsOutboxes (after : Server) : Prop :=
  ∀ client ∈ after.heap, ∃ before ∈ s.heap, client.outbox = before.outbox ∨
    ∃ message, before.outbox.offer message = some client.outbox

theorem keeps_same (after : Server) (same : after.heap = s.heap) : s.KeepsOutboxes after := by
  intro client member
  exact ⟨client, same ▸ member, .inl rfl⟩

theorem keeps_set (after : Server) (ref : Nat) (client changed : Client) (found : s.heap[ref]? = some client)
    (heap : after.heap = s.heap.set ref changed)
    (outbox : changed.outbox = client.outbox ∨ ∃ message, client.outbox.offer message = some changed.outbox) :
    s.KeepsOutboxes after := by
  intro other member
  rw [heap] at member
  rcases List.mem_or_eq_of_mem_set member with old | rfl
  · exact ⟨other, old, .inl rfl⟩
  · exact ⟨client, List.mem_of_getElem? found, outbox⟩

theorem resume_heap (caller : Option Loop) : (s.resume caller).1.heap = s.heap := by
  cases caller with
  | none => rfl
  | some loop =>
    rw [resume]
    cases loop.op <;> rfl

theorem visit_outboxes (op : Operation) (id : String) (ref : Nat) (rest : List (String × Nat)) (client : Client)
    (found : s.heap[ref]? = some client) : s.KeepsOutboxes (s.visit op id ref rest client).1 := by
  cases op with
  | checkHeartbeats now =>
    rw [visit]
    split <;> exact keeps_same s s rfl
  | broadcast message =>
    simp only [visit]
    split
    · rename_i outbox offered
      exact keeps_set s _ ref client { client with outbox } found rfl (.inr ⟨message, offered⟩)
    · exact keeps_same s s rfl
  | stop => exact keeps_same s s rfl

theorem act_outboxes (g : Nat) (order : Shuffle (String × Nat)) (phase : Phase) (moved : Server × Phase)
    (acted : s.act g order phase = some moved) : s.KeepsOutboxes moved.1 := by
  cases s.act_acts g order phase moved acted with
  | acquired | released | locked => exact keeps_same s _ rfl
  | visited op id ref rest client found => exact visit_outboxes s op id ref rest client found
  | returned ref caller => exact keeps_same s _ (resume_heap s caller)
  | closed ref caller client found =>
    exact keeps_set s _ ref client { client with closed := true, closeMutex := some g } found rfl (.inl rfl)
  | removed ref caller client clientsLock found =>
    exact keeps_set s _ ref client { client with closeMutex := none } found (resume_heap _ caller) (.inl rfl)

end Server

namespace System

variable (s : System)

def Every (P : Outbox → Prop) : Prop := ∀ client ∈ s.server.heap, P client.outbox

def Bounded : Prop := s.Every Outbox.Bounded

def SendsSingly : Action → Prop
  | .writePump ref => ∀ client ∈ s.server.heap[ref]?, client.closed = false → client.outbox.ReadsEmpty
  | _ => True

section Every

variable (P : Outbox → Prop) (every : s.Every P)

include every

theorem update_every_iff (ref : Nat) (change : Client → Client) :
    (s.update ref change).Every P ↔ ∀ client ∈ s.server.heap[ref]?, P (change client).outbox := by
  constructor
  · intro after client found
    apply after
    apply List.mem_of_getElem? (i := ref)
    rw [update, List.getElem?_modify_eq, Option.mem_def.mp found]
    rfl
  · intro changed client member
    obtain ⟨at_, found⟩ := List.mem_iff_getElem?.mp member
    rw [update, List.getElem?_modify] at found
    obtain ⟨before, was, rfl⟩ := Option.map_eq_some_iff.mp found
    split
    · rename_i here
      exact changed before (here ▸ was)
    · exact every before (List.mem_of_getElem? was)

theorem pump_every_iff (ref : Nat) : (s.step (.writePump ref)).Every P ↔
    ∀ client ∈ s.server.heap[ref]?, client.closed = false → P client.outbox.writePump := by
  rw [step, update_every_iff s P every]
  refine forall₂_congr fun client found => ?_
  cases closed : client.closed with
  | true => simpa using every client (List.mem_of_getElem? found)
  | false => simp

-- Messages enter an outbox one by one, and only the pump takes them out.
theorem step_every (fresh : P {}) (offers : ∀ o message sent, P o → o.offer message = some sent → P sent) (action : Action)
    (calm : ∀ ref, action ≠ .writePump ref) : (s.step action).Every P := by
  have own : ∀ ref : Nat, ∀ client ∈ s.server.heap[ref]?, P client.outbox := fun ref client found =>
    every client (List.mem_of_getElem? found)
  cases action with
  | connect id now =>
    rw [step]
    split
    · intro client member
      rcases List.mem_append.mp member with old | new
      · exact every client old
      · rw [List.mem_singleton.mp new]
        exact fresh
    · exact every
  | pong ref now => exact (update_every_iff s P every ref _).mpr (own ref)
  | sendMessage ref message =>
    refine (update_every_iff s P every ref _).mpr fun client found => ?_
    rw [Outbox.sendMessage]
    split
    · exact offers client.outbox message _ (own ref client found) ‹_›
    · exact own ref client found
  | writePump ref => exact absurd rfl (calm ref)
  | close ref => exact every
  | call op => exact every
  | step g order =>
    cases found : s.goroutines[g]? with
    | none => simpa only [step, found] using every
    | some goroutine =>
      cases acted : s.server.act g order goroutine.phase with
      | none => simpa only [step, found, acted] using every
      | some moved =>
        simp only [step, found, acted]
        intro client member
        obtain ⟨before, old, same | ⟨message, offered⟩⟩ := s.server.act_outboxes g order goroutine.phase moved acted client member
        · rw [same]
          exact every before old
        · exact offers before.outbox message _ (every before old) offered

end Every

theorem step_counted (action : Action) (counted : s.Every Outbox.Counted) : (s.step action).Every Outbox.Counted := by
  by_cases pumps : ∃ ref, action = .writePump ref
  · obtain ⟨ref, rfl⟩ := pumps
    exact (pump_every_iff s _ counted ref).mpr fun client found _ =>
      client.outbox.write_pump_counted (counted client (List.mem_of_getElem? found))
  · exact step_every s _ counted trivial Outbox.counted_offer action fun ref same => pumps ⟨ref, same⟩

theorem step_bounded_iff (action : Action) (counted : s.Every Outbox.Counted) (bounded : s.Bounded) :
    (s.step action).Bounded ↔ s.SendsSingly action := by
  have kept := step_every s _ bounded rfl Outbox.bounded_offer action
  cases action with
  | writePump ref =>
    refine (pump_every_iff s _ bounded ref).trans (forall₂_congr fun client found => forall_congr' fun _ => ?_)
    have member := List.mem_of_getElem? found
    exact Outbox.write_pump_bounded_iff client.outbox (counted client member) (bounded client member)
  | _ => exact iff_of_true (kept nofun) trivial

theorem messages_bounded_iff (heartbeatIntervalSec : Nat) (actions : List Action) :
    (∀ seen ∈ Runs.visited step (start heartbeatIntervalSec) actions, seen.Bounded) ↔
      Runs.Meets step SendsSingly (start heartbeatIntervalSec) actions := by
  apply Runs.visited_iff_meets step (·.Every Outbox.Counted) Bounded SendsSingly
  · exact step_counted
  · exact step_bounded_iff
  · exact nofun
  · exact nofun

def sentTogether : List Action :=
  [.connect "1" 0, .sendMessage 0 [0, 0, 3, 233, 1], .sendMessage 0 [0, 0, 3, 234, 2], .writePump 0, .writePump 0, .writePump 0,
    .writePump 0]

theorem sent_together_received_as_one :
    (sentTogether.foldl step (start 30)).server.heap.map Client.outbox = [{
      accepted := [[0, 0, 3, 233, 1], [0, 0, 3, 234, 2]]
      received := [[0, 0, 3, 233, 1, 0, 0, 3, 234, 2]] }] ∧
    messageID [0, 0, 3, 233, 1, 0, 0, 3, 234, 2] = some 1001 ∧ messageID [0, 0, 3, 234, 2] = some 1002 := by
  decide +kernel

end System

end MmoServer.Network
