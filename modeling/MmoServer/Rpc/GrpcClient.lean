import MmoServer.Lib.GoMap
import MmoServer.Lib.Runs
import MmoServer.Lib.Slots

set_option autoImplicit false

namespace MmoServer.Rpc

inductive CallError where
  | connectionClosed
  | packFailed (text : String)
  | grpcFailed (text : String)
  | response (text : String)
  | unpackFailed (text : String)
deriving DecidableEq, Repr

def CallError.text : CallError → String
  | .connectionClosed => "connection closed"
  | .packFailed text => "failed to pack args: " ++ text
  | .grpcFailed text => "gRPC call failed: " ++ text
  | .response text => text
  | .unpackFailed text => "failed to unpack reply: " ++ text

inductive Arrival where
  | failed (text : String)
  | answered (error : String) (unpackError : Option String)
deriving DecidableEq, Repr

def Arrival.error : Arrival → Option CallError
  | .failed text => some (.grpcFailed text)
  | .answered error unpackError => if error ≠ "" then some (.response error) else unpackError.map .unpackFailed

theorem arrival_error (arrival : Arrival) : arrival.error ≠ some .connectionClosed := by
  cases arrival with
  | failed text => exact nofun
  | answered error unpackError =>
    rw [Arrival.error]
    split
    · exact nofun
    · cases unpackError <;> exact nofun

inductive CallPhase where
  | starting
  | checked
  | sequenced (sequence : UInt64)
  | waiting (sequence : UInt64)
  | arrived (sequence : UInt64) (arrival : Arrival)
  | removed (arrival : Arrival)
  | settled
  | finished
deriving DecidableEq, Repr

-- A call, with the error that it had at each signal of its Done channel and
-- whether a Close has found it in pending.
structure Call where
  phase : CallPhase := .starting
  error : Option CallError := none
  signals : List (Option CallError) := []
  found : Bool := false
deriving DecidableEq, Repr

namespace Call

variable (call : Call)

def done : Call := { call with signals := call.signals ++ [call.error] }

def fail (error : CallError) : Call := ({ call with error := some error } : Call).done

def cancel : Call := { call.fail .connectionClosed with found := true }

def Noted : Prop := call.phase ≠ .finished → (call.signals = [] ↔ call.found = false)

def Once : Prop := call.signals.length ≤ 1 ∧ ∀ error ∈ call.signals, call.error = error

instance decidableOnce : Decidable call.Once := inferInstanceAs (Decidable (_ ∧ _))

theorem once_new (fresh : call.signals = []) : call.Once := by
  rw [Once, fresh]
  exact ⟨Nat.zero_le _, nofun⟩

theorem once_done (fresh : call.signals = []) : call.done.Once := by
  simp [Once, done, fresh]

theorem done_once (once : call.done.Once) : call.signals = [] := by
  have short := once.1
  rw [done, List.length_append, List.length_singleton] at short
  exact List.eq_nil_of_length_eq_zero (by omega)

end Call

structure CallChoice where
  packError : Option String := none
  arrival : Arrival := .answered "" none

structure GRPCClient where
  seq : UInt64 := 0
  pending : GoMap UInt64 Nat := ∅
  closing : Bool := false
  swept : Bool := false
  closed : Bool := false
  calls : List Call := []

namespace GRPCClient

section Steps

variable (c : GRPCClient)

-- One step of Go or of the goroutine it starts. The check waits for the mutex, which Close
-- holds for as long as it is closing.
def act (k : Nat) (call : Call) (choice : CallChoice) : Option (GRPCClient × Call) :=
  match call.phase with
  | .starting =>
    if c.closing then none
    else if c.closed then some (c, { call.fail .connectionClosed with phase := .finished })
    else some (c, { call with phase := .checked })
  | .checked =>
    match choice.packError with
    | some text => some (c, { call.fail (.packFailed text) with phase := .finished })
    | none => some ({ c with seq := c.seq + 1 }, { call with phase := .sequenced (c.seq + 1) })
  | .sequenced sequence => some ({ c with pending := c.pending.insert sequence k }, { call with phase := .waiting sequence })
  | .waiting sequence => some (c, { call with phase := .arrived sequence choice.arrival })
  | .arrived sequence arrival => some ({ c with pending := c.pending.erase sequence }, { call with phase := .removed arrival })
  | .removed arrival => some (c, { call with phase := .settled, error := arrival.error.or call.error })
  | .settled => some (c, { call.done with phase := .finished })
  | .finished => none

inductive Acts (k : Nat) (call : Call) : GRPCClient → Call → Prop where
  | refused (at_ : call.phase = .starting) : Acts k call c { call.fail .connectionClosed with phase := .finished }
  | checked (at_ : call.phase = .starting) : Acts k call c { call with phase := .checked }
  | unpacked (text : String) (at_ : call.phase = .checked) : Acts k call c { call.fail (.packFailed text) with phase := .finished }
  | sequenced (at_ : call.phase = .checked) : Acts k call { c with seq := c.seq + 1 } { call with phase := .sequenced (c.seq + 1) }
  | registered (sequence : UInt64) (at_ : call.phase = .sequenced sequence) :
      Acts k call { c with pending := c.pending.insert sequence k } { call with phase := .waiting sequence }
  | arrived (sequence : UInt64) (arrival : Arrival) (at_ : call.phase = .waiting sequence) :
      Acts k call c { call with phase := .arrived sequence arrival }
  | removed (sequence : UInt64) (arrival : Arrival) (at_ : call.phase = .arrived sequence arrival) :
      Acts k call { c with pending := c.pending.erase sequence } { call with phase := .removed arrival }
  | settled (arrival : Arrival) (at_ : call.phase = .removed arrival) :
      Acts k call c { call with phase := .settled, error := arrival.error.or call.error }
  | signalled (at_ : call.phase = .settled) : Acts k call c { call.done with phase := .finished }

theorem act_acts (k : Nat) (call : Call) (choice : CallChoice) (after : GRPCClient) (moved : Call)
    (acted : c.act k call choice = some (after, moved)) : c.Acts k call after moved := by
  cases at_ : call.phase with
  | starting =>
    simp only [act, at_] at acted
    split at acted
    · cases acted
    · split at acted <;> cases acted
      · exact .refused at_
      · exact .checked at_
  | checked =>
    simp only [act, at_] at acted
    split at acted <;> cases acted
    · exact .unpacked _ at_
    · exact .sequenced at_
  | sequenced sequence =>
    simp only [act, at_] at acted
    cases acted
    exact .registered sequence at_
  | waiting sequence =>
    simp only [act, at_] at acted
    cases acted
    exact .arrived sequence choice.arrival at_
  | arrived sequence arrival =>
    simp only [act, at_] at acted
    cases acted
    exact .removed sequence arrival at_
  | removed arrival =>
    simp only [act, at_] at acted
    cases acted
    exact .settled arrival at_
  | settled =>
    simp only [act, at_] at acted
    cases acted
    exact .signalled at_
  | finished =>
    simp only [act, at_] at acted
    cases acted

inductive Action where
  | go
  | step (k : Nat) (choice : CallChoice)
  | closeStart
  | closeSweep (order : Shuffle Nat)
  | closeFinish

def step : Action → GRPCClient
  | .go => { c with calls := c.calls ++ [{}] }
  | .step k choice =>
    match c.calls[k]? with
    | none => c
    | some call =>
      match c.act k call choice with
      | none => c
      | some (after, moved) => { after with calls := c.calls.set k moved }
  | .closeStart => if c.closing ∨ c.closed then c else { c with closing := true, swept := false }
  | .closeSweep order =>
    if c.closing ∧ c.swept = false then
      { c with
        calls := (order.apply c.pending.values).foldl (fun calls k => calls.modify k Call.cancel) c.calls
        pending := ∅
        swept := true }
    else c
  | .closeFinish => if c.closing ∧ c.swept then { c with closing := false, closed := true } else c

end Steps

section Pending

def sequence : CallPhase → Option UInt64
  | .waiting sequence | .arrived sequence _ => some sequence
  | _ => none

def Early : CallPhase → Prop
  | .starting | .checked | .sequenced _ => True
  | _ => False

def Open : CallPhase → Prop
  | .settled | .finished => False
  | _ => True

theorem early_sequence (phase : CallPhase) (early : Early phase) : sequence phase = none := by
  cases phase with
  | starting | checked | sequenced => rfl
  | _ => cases early

variable (c : GRPCClient)

structure Invariant : Prop where
  pending : ∀ key k, c.pending.lookup key = some k → ∃ call, c.calls[k]? = some call ∧ sequence call.phase = some key ∧ call.signals = []
  early : ∀ call ∈ c.calls, Early call.phase → call.signals = []
  swept : ∀ call ∈ c.calls, Open call.phase → call.signals = [] ∨ call.error = some .connectionClosed
  noted : ∀ call ∈ c.calls, call.Noted

structure Moves (k : Nat) (after : GRPCClient) (moved : Call) : Prop where
  others : ∀ key other, other ≠ k → after.pending.lookup key = some other → c.pending.lookup key = some other
  own : ∀ key, after.pending.lookup key = some k → sequence moved.phase = some key ∧ moved.signals = []
  early : Early moved.phase → moved.signals = []
  swept : Open moved.phase → moved.signals = [] ∨ moved.error = some .connectionClosed
  noted : moved.Noted

variable (k : Nat) (call : Call) (key : UInt64)

theorem pending_own (inv : c.Invariant) (found : c.calls[k]? = some call) (key : UInt64) (known : c.pending.lookup key = some k) :
    sequence call.phase = some key ∧ call.signals = [] := by
  obtain ⟨other, its, same, fresh⟩ := inv.pending key k known
  cases found.symm.trans its
  exact ⟨same, fresh⟩

theorem moves_outside (call moved : Call) (inv : c.Invariant) (found : c.calls[k]? = some call) (after : GRPCClient)
    (same : after.pending = c.pending) (outside : sequence call.phase = none) (early : Early moved.phase → moved.signals = [])
    (swept : Open moved.phase → moved.signals = [] ∨ moved.error = some .connectionClosed) (noted : moved.Noted) :
    c.Moves k after moved where
  others _ _ _ known := same ▸ known
  own key known := nomatch outside.symm.trans (pending_own c k call inv found key (same ▸ known)).1
  early := early
  swept := swept
  noted := noted

theorem moves_registered (inv : c.Invariant) (found : c.calls[k]? = some call) (at_ : call.phase = .sequenced key)
    (fresh : call.signals = []) (noted : call.signals = [] ↔ call.found = false) :
    c.Moves k { c with pending := c.pending.insert key k } { call with phase := .waiting key } := by
  refine ⟨?_, ?_, nofun, fun _ => .inl fresh, fun _ => noted⟩
  · intro other owner different known
    rw [AList.lookup_insert_eq] at known
    split at known
    · exact absurd (Option.some_inj.mp known).symm different
    · exact known
  · intro other known
    rw [AList.lookup_insert_eq] at known
    split at known
    · rename_i here
      exact ⟨by rw [sequence, here], fresh⟩
    · have impossible := (pending_own c k call inv found other known).1
      rw [at_] at impossible
      cases impossible

theorem moves_removed (arrival : Arrival) (inv : c.Invariant) (found : c.calls[k]? = some call)
    (at_ : call.phase = .arrived key arrival) (swept : call.signals = [] ∨ call.error = some .connectionClosed)
    (noted : call.signals = [] ↔ call.found = false) :
    c.Moves k { c with pending := c.pending.erase key } { call with phase := .removed arrival } := by
  refine ⟨?_, ?_, nofun, fun _ => swept, fun _ => noted⟩
  · intro other owner _ known
    rw [AList.lookup_erase_eq] at known
    split at known
    · cases known
    · exact known
  · intro other known
    rw [AList.lookup_erase_eq] at known
    split at known
    · cases known
    · rename_i away
      have same := (pending_own c k call inv found other known).1
      rw [at_] at same
      exact absurd (Option.some_inj.mp same).symm away

theorem act_moves (after : GRPCClient) (moved : Call) (inv : c.Invariant) (found : c.calls[k]? = some call)
    (acts : c.Acts k call after moved) : c.Moves k after moved := by
  have member := List.mem_of_getElem? found
  have early := inv.early call member
  have swept := inv.swept call member
  have noted := inv.noted call member
  have outside := moves_outside c k call moved inv found after
  cases acts with
  | refused at_ | unpacked _ at_ | signalled at_ => exact outside rfl (at_ ▸ rfl) nofun nofun fun unfinished => absurd rfl unfinished
  | settled _ at_ => exact outside rfl (at_ ▸ rfl) nofun nofun fun _ => noted (at_ ▸ nofun)
  | checked at_ | sequenced at_ =>
    have fresh := early (at_ ▸ trivial)
    exact outside rfl (at_ ▸ rfl) (fun _ => fresh) (fun _ => .inl fresh) fun _ => noted (at_ ▸ nofun)
  | registered key at_ => exact moves_registered c k call key inv found at_ (early (at_ ▸ trivial)) (noted (at_ ▸ nofun))
  | arrived key arrival at_ =>
    refine ⟨fun _ _ _ known => known, ?_, nofun, fun _ => swept (at_ ▸ trivial), fun _ => noted (at_ ▸ nofun)⟩
    intro other known
    obtain ⟨same, fresh⟩ := pending_own c k call inv found other known
    rw [at_] at same
    exact ⟨same, fresh⟩
  | removed key arrival at_ => exact moves_removed c k call key arrival inv found at_ (swept (at_ ▸ trivial)) (noted (at_ ▸ nofun))

theorem invariant_moved (call moved : Call) (after : GRPCClient) (inv : c.Invariant) (found : c.calls[k]? = some call)
    (moves : c.Moves k after moved) : ({ after with calls := c.calls.set k moved } : GRPCClient).Invariant := by
  have inside := (List.getElem?_eq_some_iff.mp found).1
  constructor
  · intro key owner known
    by_cases here : owner = k
    · subst here
      exact ⟨moved, List.getElem?_set_self inside, moves.own key known⟩
    · obtain ⟨other, its, facts⟩ := inv.pending key owner (moves.others key owner here known)
      exact ⟨other, by rwa [List.getElem?_set_ne (Ne.symm here)], facts⟩
  · exact (Slots.forall_set_iff _ c.calls k call moved found inv.early).mpr moves.early
  · exact (Slots.forall_set_iff _ c.calls k call moved found inv.swept).mpr moves.swept
  · exact (Slots.forall_set_iff _ c.calls k call moved found inv.noted).mpr moves.noted

theorem pending_nodup (inv : c.Invariant) : c.pending.values.Nodup := by
  apply AList.values_nodup fun k => ((c.calls[k]?.bind fun call => sequence call.phase).getD 0)
  intro key k known
  obtain ⟨call, found, same, -⟩ := inv.pending key k known
  rw [found, Option.bind_some, same, Option.getD_some]

theorem swept_call (order : Shuffle Nat) (inv : c.Invariant) (i : Nat) :
    ((order.apply c.pending.values).foldl (fun calls k => calls.modify k Call.cancel) c.calls)[i]? =
      c.calls[i]?.map fun call => if i ∈ c.pending.values then call.cancel else call := by
  rw [Slots.foldl_modify Call.cancel _ ((order.perm _).nodup_iff.mpr (pending_nodup c inv))]
  simp only [Shuffle.mem_apply]

theorem swept_fresh (inv : c.Invariant) (k : Nat) (call : Call) (found : c.calls[k]? = some call) (member : k ∈ c.pending.values) :
    call.signals = [] ∧ ∃ key, sequence call.phase = some key := by
  obtain ⟨key, known⟩ := (AList.mem_values _ _).mp member
  obtain ⟨same, fresh⟩ := pending_own c k call inv found key known
  exact ⟨fresh, key, same⟩

theorem invariant_sweep (order : Shuffle Nat) (after : GRPCClient) (inv : c.Invariant) (pending : after.pending = ∅)
    (calls : after.calls = (order.apply c.pending.values).foldl (fun calls k => calls.modify k Call.cancel) c.calls) :
    after.Invariant := by
  have each : ∀ call ∈ after.calls, call ∈ c.calls ∨ ∃ before ∈ c.calls, call = before.cancel ∧ ∃ key, sequence before.phase = some key := by
    intro call member
    obtain ⟨i, its⟩ := List.mem_iff_getElem?.mp member
    rw [calls, swept_call c order inv] at its
    obtain ⟨before, found, rfl⟩ := Option.map_eq_some_iff.mp its
    have old := List.mem_of_getElem? found
    split
    · rename_i hit
      exact .inr ⟨before, old, rfl, (swept_fresh c inv i before found hit).2⟩
    · exact .inl old
  constructor
  · intro key k known
    rw [pending] at known
    cases known
  · intro call member starts
    rcases each call member with old | ⟨before, -, rfl, key, same⟩
    · exact inv.early call old starts
    · cases (early_sequence before.phase starts).symm.trans same
  · intro call member opens
    rcases each call member with old | ⟨before, -, rfl, -⟩
    · exact inv.swept call old opens
    · exact .inr rfl
  · intro call member
    rcases each call member with old | ⟨before, -, rfl, -⟩
    · exact inv.noted call old
    · exact fun _ => by simp [Call.cancel, Call.fail, Call.done]

theorem invariant_step (action : Action) (inv : c.Invariant) : (c.step action).Invariant := by
  cases action with
  | go =>
    constructor
    · intro key k known
      obtain ⟨call, found, facts⟩ := inv.pending key k known
      exact ⟨call, Slots.look_kept c.calls _ k call found, facts⟩
    · rw [step, List.forall_mem_append, List.forall_mem_singleton]
      exact ⟨inv.early, fun _ => rfl⟩
    · rw [step, List.forall_mem_append, List.forall_mem_singleton]
      exact ⟨inv.swept, fun _ => .inl rfl⟩
    · rw [step, List.forall_mem_append, List.forall_mem_singleton]
      exact ⟨inv.noted, fun _ => by simp⟩
  | step k choice =>
    cases found : c.calls[k]? with
    | none => simpa only [step, found] using inv
    | some call =>
      cases acted : c.act k call choice with
      | none => simpa only [step, found, acted] using inv
      | some result =>
        simp only [step, found, acted]
        exact invariant_moved c k call result.2 result.1 inv found (act_moves c k call _ _ inv found (act_acts c k call choice _ _ acted))
  | closeStart =>
    rw [step]
    split
    · exact inv
    · exact ⟨inv.pending, inv.early, inv.swept, inv.noted⟩
  | closeSweep order =>
    rw [step]
    split
    · exact invariant_sweep c order _ inv rfl rfl
    · exact inv
  | closeFinish =>
    rw [step]
    split
    · exact ⟨inv.pending, inv.early, inv.swept, inv.noted⟩
    · exact inv

theorem invariant_new : ({} : GRPCClient).Invariant where
  pending := nofun
  early := nofun
  swept := nofun
  noted := nofun

end Pending

end GRPCClient

end MmoServer.Rpc
