import MmoServer.Network.ClientsLock

set_option autoImplicit false

namespace MmoServer.Network

def Phase.Acquires : Phase → Prop
  | .starting _ | .closing _ _ | .relocking _ _ => True
  | .looping _ _ | .removing _ _ | .done => False

def Phase.Nested : Phase → Prop
  | .closing _ (some _) | .relocking _ (some _) => True
  | _ => False

def Phase.passed (op : Operation) : List (String × Nat) → Phase
  | [] => .done
  | _ :: rest => .looping op rest

namespace Server

variable (s : Server)

def Closes : Operation → Client → Prop
  | .checkHeartbeats now, client => s.TimedOut now client
  | .broadcast message, client => client.outbox.offer message = none
  | .stop, _ => True

def Spares : Phase → Prop
  | .looping op ((_, ref) :: _) => ∀ client ∈ s.heap[ref]?, ¬ s.Closes op client
  | _ => True

variable (g : Nat) (order : Shuffle (String × Nat)) (phase : Phase)

theorem reenters_iff_nested (holds : s.Holds g phase) : phase.Acquires ∧ s.Locked g ↔ phase.Nested := by
  cases phase with
  | starting op => exact iff_of_false (fun both => holds both.2) id
  | looping op rest | removing ref caller | done => exact iff_of_false And.left id
  | closing ref caller | relocking ref caller =>
    cases caller with
    | none => exact iff_of_false (fun both => holds both.2) id
    | some loop => exact iff_of_true ⟨trivial, has_locked s g loop.op holds.1⟩ trivial

theorem visit_phase (op : Operation) (id : String) (ref : Nat) (rest : List (String × Nat)) (client : Client) :
    s.Closes op client ∧ (s.visit op id ref rest client).2.Nested ∨
      ¬ s.Closes op client ∧ (s.visit op id ref rest client).2 = .looping op rest := by
  cases op with
  | checkHeartbeats now =>
    rw [visit]
    split
    · rename_i late
      exact .inl ⟨late, trivial⟩
    · rename_i alive
      exact .inr ⟨alive, rfl⟩
  | broadcast message =>
    cases offered : client.outbox.offer message with
    | none => exact .inl ⟨offered, by simp only [visit, offered, Phase.Nested]⟩
    | some outbox => exact .inr ⟨by simp [Closes, offered], by simp only [visit, offered]⟩
  | stop => exact .inl ⟨trivial, trivial⟩

theorem act_nested_iff (moved : Server × Phase) (sound : s.Sound) (holds : s.Holds g phase) (acted : s.act g order phase = some moved) :
    moved.2.Nested ↔ phase.Nested ∨ ¬ s.Spares phase := by
  cases s.act_acts g order phase moved acted with
  | acquired | released => simp [Phase.Nested, Spares]
  | visited op id ref rest client found =>
    have spares : s.Spares (.looping op ((id, ref) :: rest)) ↔ ¬ s.Closes op client := by simp [Spares, found]
    rw [spares, not_not]
    rcases visit_phase s op id ref rest client with ⟨closes, nested⟩ | ⟨spared, goes_on⟩
    · exact iff_of_true nested (.inr closes)
    · rw [goes_on]
      exact iff_of_false nofun (not_or.mpr ⟨nofun, spared⟩)
  | returned ref caller client found free closed =>
    cases caller with
    | none => simp [resume, Phase.Nested, Spares]
    | some loop =>
      have opens := close_finds_open s g ref loop client sound found holds free
      cases opens.symm.trans closed
  | closed ref caller => cases caller <;> simp [Phase.Nested, Spares]
  | locked ref caller clientsLock locked =>
    cases caller with
    | none => simp [Phase.Nested, Spares]
    | some loop => cases (locked_not_free s g (has_locked s g loop.op holds.1)).symm.trans locked
  | removed ref caller =>
    cases caller with
    | none => simp [resume, Phase.Nested, Spares]
    | some loop => cases holds

theorem blocked_spares (blocked : s.act g order phase = none) : s.Spares phase := by
  cases phase with
  | looping op rest =>
    cases rest with
    | nil => trivial
    | cons entry rest =>
      have absent := Option.map_eq_none_iff.mp blocked
      intro client found
      cases absent.symm.trans found
  | starting | closing | relocking | removing | done => trivial

theorem act_looping (op : Operation) (rest : List (String × Nat)) (sound : s.Sound) (holds : s.Holds g (.looping op rest)) :
    ∃ moved, s.act g order (.looping op rest) = some moved ∧ (moved.2.Nested ∨ moved.2 = .passed op rest) := by
  obtain ⟨has, lists⟩ := holds
  cases rest with
  | nil =>
    have released : ∃ clientsLock, s.release g op = some clientsLock := by
      cases op with
      | broadcast message => exact ⟨_, if_neg (List.ne_nil_of_mem has)⟩
      | checkHeartbeats | stop => exact ⟨_, if_neg (by rw [has]; nofun)⟩
    obtain ⟨clientsLock, released⟩ := released
    exact ⟨_, by rw [act, released]; rfl, .inr rfl⟩
  | cons entry rest =>
    obtain ⟨client, found, -⟩ := sound.known entry.1 entry.2 (lists entry List.mem_cons_self)
    refine ⟨s.visit op entry.1 entry.2 rest client, by rw [act, found]; rfl, ?_⟩
    rcases visit_phase s op entry.1 entry.2 rest client with ⟨-, nested⟩ | ⟨-, goes_on⟩
    · exact .inl nested
    · exact .inr goes_on

end Server

end MmoServer.Network
