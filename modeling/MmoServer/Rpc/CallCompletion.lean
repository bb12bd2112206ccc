import MmoServer.Rpc.GrpcClient

set_option autoImplicit false

namespace MmoServer.Rpc.GRPCClient

variable (c : GRPCClient)

def CompleteOnce : Prop := ∀ call ∈ c.calls, call.Once

-- The condition: no Close has found the call in pending when its goroutine sets
-- the error or signals.
def Unfound (call : Call) : Prop :=
  match call.phase with
  | .removed arrival => arrival.error ≠ none → call.found = false
  | .settled => call.found = false
  | _ => True

def Untouched : Action → Prop
  | .step k _ => ∀ call ∈ c.calls[k]?, Unfound call
  | _ => True

theorem once_same (call moved : Call) (error : moved.error = call.error) (signals : moved.signals = call.signals) :
    moved.Once ↔ call.Once := by
  rw [Call.Once, Call.Once, error, signals]

theorem settled_once_iff (call : Call) (arrival : Arrival) (once : call.Once)
    (swept : call.signals = [] ∨ call.error = some .connectionClosed) :
    ({ call with phase := .settled, error := arrival.error.or call.error } : Call).Once ↔ (arrival.error ≠ none → call.signals = []) := by
  cases set : arrival.error with
  | none =>
    rw [Option.none_or]
    exact iff_of_true ((once_same call _ rfl rfl).mpr once) fun wrong => absurd rfl wrong
  | some error =>
    rw [Option.some_or]
    constructor
    · intro after _
      by_contra signalled
      have closed := swept.resolve_left signalled
      obtain ⟨signal, member⟩ := List.exists_mem_of_ne_nil _ signalled
      have changed : some error = signal := after.2 signal member
      have before : call.error = signal := once.2 signal member
      exact arrival_error arrival (set.trans (changed.trans (before.symm.trans closed)))
    · exact fun fresh => Call.once_new _ (fresh nofun)

theorem acts_once_iff (k : Nat) (call : Call) (after : GRPCClient) (moved : Call) (once : call.Once)
    (early : Early call.phase → call.signals = []) (swept : Open call.phase → call.signals = [] ∨ call.error = some .connectionClosed)
    (noted : call.Noted) (acts : c.Acts k call after moved) : moved.Once ↔ Unfound call := by
  rw [Unfound]
  cases acts with
  | refused at_ =>
    rw [at_] at early ⊢
    exact iff_of_true (Call.once_done { call with error := some .connectionClosed } (early trivial)) trivial
  | unpacked text at_ =>
    rw [at_] at early ⊢
    exact iff_of_true (Call.once_done { call with error := some (.packFailed text) } (early trivial)) trivial
  | checked at_ | sequenced at_ | registered key at_ | arrived key arrival at_ | removed key arrival at_ =>
    rw [at_]
    exact iff_of_true ((once_same call _ rfl rfl).mpr once) trivial
  | settled arrival at_ =>
    have fresh := noted (at_ ▸ nofun)
    rw [at_] at swept ⊢
    rw [settled_once_iff call arrival once (swept trivial), fresh]
  | signalled at_ =>
    have fresh := noted (at_ ▸ nofun)
    rw [at_, ← fresh]
    exact ⟨call.done_once, call.once_done⟩

theorem step_once_iff (k : Nat) (choice : CallChoice) (inv : c.Invariant) (complete : c.CompleteOnce) :
    (c.step (.step k choice)).CompleteOnce ↔ c.Untouched (.step k choice) := by
  cases found : c.calls[k]? with
  | none =>
    simp only [step, Untouched, found]
    apply iff_of_true complete
    intro call member
    cases member
  | some call =>
    have member := List.mem_of_getElem? found
    have own : c.Untouched (.step k choice) ↔ Unfound call := by
      simp only [Untouched, found, Option.mem_some]
      exact ⟨fun all => all call rfl, fun it _ same => same ▸ it⟩
    rw [own]
    cases acted : c.act k call choice with
    | none =>
      simp only [step, found, acted]
      apply iff_of_true complete
      rw [Unfound]
      cases at_ : call.phase with
      | removed arrival | settled =>
        simp only [act, at_] at acted
        cases acted
      | _ => trivial
    | some result =>
      have completes := acts_once_iff c k call result.1 result.2 (complete call member) (inv.early call member) (inv.swept call member)
        (inv.noted call member) (act_acts c k call choice _ _ acted)
      rw [← completes]
      simp only [step, found, acted]
      exact Slots.forall_set_iff Call.Once c.calls k call result.2 found complete

theorem sweep_once (order : Shuffle Nat) (inv : c.Invariant) (complete : c.CompleteOnce) :
    ∀ call ∈ (order.apply c.pending.values).foldl (fun calls k => calls.modify k Call.cancel) c.calls, call.Once := by
  intro call member
  obtain ⟨i, its⟩ := List.mem_iff_getElem?.mp member
  rw [swept_call c order inv] at its
  obtain ⟨before, found, rfl⟩ := Option.map_eq_some_iff.mp its
  split
  · rename_i hit
    exact Call.once_done { before with error := some .connectionClosed } (swept_fresh c inv i before found hit).1
  · exact complete before (List.mem_of_getElem? found)

-- Close itself never signals a call twice. A call is completed once exactly when its own
-- goroutine does not come after Close.
theorem calls_complete_once_iff (actions : List Action) :
    (∀ seen ∈ Runs.visited step {} actions, seen.CompleteOnce) ↔ Runs.Meets step Untouched {} actions := by
  apply Runs.visited_iff_meets step Invariant CompleteOnce Untouched
  · exact invariant_step
  · intro c action inv complete
    cases action with
    | go =>
      apply iff_of_true _ trivial
      rw [step, CompleteOnce, List.forall_mem_append, List.forall_mem_singleton]
      exact ⟨complete, Call.once_new _ rfl⟩
    | step k choice => exact step_once_iff c k choice inv complete
    | closeStart | closeFinish =>
      apply iff_of_true _ trivial
      rw [step]
      split <;> exact complete
    | closeSweep order =>
      apply iff_of_true _ trivial
      rw [step]
      split
      · exact sweep_once c order inv complete
      · exact complete
  · exact invariant_new
  · intro call member
    cases member

def closedWhileWaiting : List Action :=
  [.go, .step 0 {}, .step 0 {}, .step 0 {}, .closeStart, .closeSweep .listed, .closeFinish,
    .step 0 { arrival := .failed "context canceled" }, .step 0 {}, .step 0 {}, .step 0 {}]

theorem closed_while_waiting_signalled_twice :
    (closedWhileWaiting.foldl step {}).calls = [{
      phase := .finished
      error := some (.grpcFailed "context canceled")
      signals := [some .connectionClosed, some (.grpcFailed "context canceled")]
      found := true }] := by
  decide +kernel

end MmoServer.Rpc.GRPCClient
