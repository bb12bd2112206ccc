import MmoServer.Rpc.SimpleHolding

set_option autoImplicit false

namespace MmoServer.Rpc

structure SimpleCall.Own (call : SimpleCall) : Prop where
  response : ∀ resp, call.response = some resp → resp.sequence = call.sequence
  returned : ∀ resp, call.phase = .returned (.ok resp) → resp.sequence = call.sequence
  empty : call.phase.Unregistered → call.response = none

namespace SimpleClient

variable (call : SimpleCall) (resp : SimpleResponse)

theorem own_phase (phase : SimplePhase) (own : call.Own) (registered : ¬ phase.Unregistered)
    (unanswered : ∀ resp, phase ≠ .returned (.ok resp)) : ({ call with phase } : SimpleCall).Own :=
  ⟨own.response, fun resp returned => absurd returned (unanswered resp), fun fresh => absurd fresh registered⟩

theorem own_number (sequence : UInt64) (own : call.Own) (starting : call.phase = .starting) :
    ({ call with sequence, phase := .numbered } : SimpleCall).Own := by
  have empty : call.response = none := by
    apply own.empty
    rw [starting]
    trivial
  refine ⟨fun resp filled => ?_, fun resp returned => ?_, fun _ => empty⟩
  · cases empty.symm.trans filled
  · cases returned

theorem own_answer (own : call.Own) (filled : call.response = some resp) :
    ({ call with phase := .returned (answer resp), response := none } : SimpleCall).Own := by
  refine ⟨fun _ again => ?_, fun result returned => ?_, fun fresh => fresh.elim⟩
  · cases again
  · have ok : answer resp = .ok result := SimplePhase.returned.inj returned
    unfold answer at ok
    split at ok
    · cases ok
    · cases ok
      exact own.response resp filled

theorem own_offer (own : call.Own) (registered : ¬ call.phase.Unregistered) (same : resp.sequence = call.sequence) :
    (call.offer resp).Own := by
  unfold SimpleCall.offer
  split
  next =>
    refine ⟨?_, own.returned, fun fresh => absurd fresh registered⟩
    rintro other filled
    cases filled
    exact same
  next => exact own

theorem offer_same :
    (call.offer resp).sequence = call.sequence ∧ (call.offer resp).phase = call.phase ∧ (call.offer resp).closes = call.closes := by
  unfold SimpleCall.offer
  split <;> exact ⟨rfl, rfl, rfl⟩

structure Invariant (c : SimpleClient) : Prop where
  numbered : Numbered c.seq c.calls
  own : ∀ call ∈ c.calls, call.Own
  kept : ∃ custody, c.Kept custody

theorem invariant_new : Invariant {} := by
  have none_called (k : Nat) (call : SimpleCall) : ({} : SimpleClient).calls[k]? ≠ some call := by simp
  have none_read (p : Nat) (processing : Processing) : ({} : SimpleClient).responses[p]? ≠ some processing := by simp
  refine ⟨⟨rfl, ?_, ?_⟩, by simp, fun _ => .unregistered, ?_, fun _ _ => rfl, ?_, ?_, by simp, by simp, ?_⟩
  · exact fun k call at_ => absurd at_ (none_called k call)
  · exact fun i _ first _ at_ => absurd at_ (none_called i first)
  · simp
  · exact fun p resp k at_ => absurd at_ (none_read p _)
  · exact fun p k at_ => absurd at_ (none_read p _)
  · exact fun k call at_ => absurd at_ (none_called k call)

theorem own_set (calls : List SimpleCall) (k : Nat) (call moved : SimpleCall) (found : calls[k]? = some call)
    (all : ∀ call ∈ calls, call.Own) (own : moved.Own) : ∀ call ∈ calls.set k moved, call.Own :=
  (Slots.forall_set_iff SimpleCall.Own calls k call moved found all).mpr own

theorem registered_has_number (phase : SimplePhase) (registered : ¬ phase.Unregistered) : phase.hasNumber = true := by
  cases phase with
  | starting => exact absurd trivial registered
  | _ => rfl

section CallSteps

variable (c : SimpleClient) (k : Nat) (call : SimpleCall)

theorem number_keeps (inv : c.Invariant) (few : c.calls.length < 2 ^ 64) (found : c.calls[k]? = some call)
    (at_ : call.phase = .starting) :
    Invariant { c with
      seq := c.seq + 1
      calls := c.calls.set k { call with sequence := c.seq + 1, phase := .numbered } } := by
  obtain ⟨custody, kept⟩ := inv.kept
  have free := custody_unregistered c custody k call kept found (by rw [at_]; trivial)
  have set := kept_set c custody k call { call with sequence := c.seq + 1, phase := .numbered } kept found
    (fun begun => absurd free begun) (kept.closes k call found) (fun _ => free)
  exact ⟨numbered_next c.seq c.calls k call inv.numbered found at_ few,
    own_set c.calls k call _ found inv.own (own_number call _ (inv.own call (List.mem_of_getElem? found)) at_),
    custody, kept_congr _ custody _ set rfl rfl rfl rfl⟩

theorem register_keeps (inv : c.Invariant) (found : c.calls[k]? = some call) (at_ : call.phase = .numbered) :
    Invariant { c with
      pending := c.pending.insert call.sequence k
      calls := c.calls.set k { call with phase := .registered } } := by
  obtain ⟨custody, kept⟩ := inv.kept
  have has : call.phase.hasNumber = true := by
    rw [at_]
    rfl
  have free := custody_unregistered c custody k call kept found (by rw [at_]; trivial)
  have alone : c.pending.lookup call.sequence = none := by
    cases listed : c.pending.lookup call.sequence with
    | none => rfl
    | some i =>
      cases lookup_alone c custody k call kept found inv.numbered has i listed
      cases free.symm.trans ((kept.listed _ _).mp listed).1
  have set := kept_set c custody k call { call with phase := .registered } kept found (fun _ => rfl) (kept.closes k call found)
    (fun registered => registered.elim)
  have here := (Slots.look_set c.calls k k call { call with phase := .registered } found).trans (if_pos rfl)
  exact ⟨numbered_set c.seq c.calls k call _ inv.numbered found has rfl rfl,
    own_set c.calls k call _ found inv.own
      (own_phase call .registered (inv.own call (List.mem_of_getElem? found)) id fun _ returned => by cases returned),
    _, kept_registered _ custody k { call with phase := .registered } set here id free alone⟩

theorem move_keeps (phase : SimplePhase) (written : List SimpleJsonRequest) (inv : c.Invariant) (found : c.calls[k]? = some call)
    (before : call.phase.Underway) (later : phase.Underway) :
    Invariant { c with written, calls := c.calls.set k { call with phase } } := by
  obtain ⟨custody, kept⟩ := inv.kept
  have has := (underway_registered call.phase before).1
  obtain ⟨still, registered⟩ := underway_registered phase later
  have set := kept_set c custody k call { call with phase } kept found (fun _ => rfl) (kept.closes k call found)
    (fun fresh => absurd fresh registered)
  refine ⟨numbered_set c.seq c.calls k call _ inv.numbered found has still rfl, ?_, custody,
    kept_congr _ custody _ set rfl rfl rfl rfl⟩
  refine own_set c.calls k call _ found inv.own (own_phase call phase (inv.own call (List.mem_of_getElem? found)) registered ?_)
  rintro resp rfl
  exact later.elim

theorem answer_keeps (resp : SimpleResponse) (inv : c.Invariant) (found : c.calls[k]? = some call) (at_ : call.phase = .waiting)
    (filled : call.response = some resp) :
    Invariant { c with calls := c.calls.set k { call with phase := .returned (answer resp), response := none } } := by
  obtain ⟨custody, kept⟩ := inv.kept
  have has : call.phase.hasNumber = true := by
    rw [at_]
    rfl
  exact ⟨numbered_set c.seq c.calls k call _ inv.numbered found has rfl rfl,
    own_set c.calls k call _ found inv.own (own_answer call resp (inv.own call (List.mem_of_getElem? found)) filled),
    custody, kept_set c custody k call _ kept found (fun _ => rfl) (kept.closes k call found) (fun fresh => fresh.elim)⟩

theorem leave_keeps (error : SimpleError) (inv : c.Invariant) (found : c.calls[k]? = some call)
    (at_ : call.phase = .leaving error) :
    Invariant { c with
      pending := c.pending.erase call.sequence
      calls := c.calls.set k { call with phase := .returned (.error error) } } := by
  obtain ⟨custody, kept⟩ := inv.kept
  have has : call.phase.hasNumber = true := by
    rw [at_]
    rfl
  have set := kept_set c custody k call { call with phase := .returned (.error error) } kept found (fun _ => rfl)
    (kept.closes k call found) (fun fresh => fresh.elim)
  have here := (Slots.look_set c.calls k k call { call with phase := .returned (.error error) } found).trans (if_pos rfl)
  have numbered := numbered_set c.seq c.calls k call { call with phase := .returned (.error error) } inv.numbered found has
    rfl rfl
  refine ⟨numbered, ?_, kept_left _ custody k { call with phase := .returned (.error error) } set here id rfl numbered⟩
  refine own_set c.calls k call _ found inv.own (own_phase call _ (inv.own call (List.mem_of_getElem? found)) id ?_)
  intro resp returned
  cases SimplePhase.returned.inj returned

theorem calls_keep (moved : SimpleCall) (after : SimpleClient) (inv : c.Invariant) (few : c.calls.length < 2 ^ 64)
    (found : c.calls[k]? = some call) (acts : c.Calls k call after moved) :
    Invariant { after with calls := c.calls.set k moved } := by
  cases acts with
  | numbered at_ => exact number_keeps c k call inv few found at_
  | registered at_ => exact register_keeps c k call inv found at_
  | moved phase written before later => exact move_keeps c k call phase written inv found before later
  | answered resp at_ filled => exact answer_keeps c k call resp inv found at_ filled
  | left error at_ => exact leave_keeps c k call error inv found at_

end CallSteps

section ResponseSteps

variable (c : SimpleClient) (p : Nat) (processing : Processing)

theorem offer_keeps (resp : SimpleJsonResponse) (k : Nat) (call : SimpleCall) (delivered : List (Nat × Nat)) (inv : c.Invariant)
    (at_ : c.responses[p]? = some (.taken resp k)) (found : c.calls[k]? = some call)
    (own : delivered = [(p, k)] ∨ delivered = []) :
    Invariant { c with
      calls := c.calls.set k (call.offer resp.simple)
      responses := c.responses.set p (.offered k)
      deliveries := c.deliveries ++ delivered } := by
  obtain ⟨custody, kept⟩ := inv.kept
  obtain ⟨held, one, one_at, sequence⟩ := kept.taken p resp k at_
  cases found.symm.trans one_at
  obtain ⟨same, phase, closes⟩ := offer_same call resp.simple
  have registered := ((kept_held c custody k p kept held).2.2.2.2 call found).2
  have has := registered_has_number call.phase registered
  have offered := kept_offered c custody k call p resp delivered kept at_ found own
  have set := kept_set _ _ k call (call.offer resp.simple) offered found (fun _ => same)
    (closes ▸ offered.closes k call found) (fun fresh => absurd (phase ▸ fresh) registered)
  exact ⟨numbered_set c.seq c.calls k call _ inv.numbered found has (phase ▸ has) same,
    own_set c.calls k call _ found inv.own
      (own_offer call _ (inv.own call (List.mem_of_getElem? found)) registered sequence.symm),
    _, set⟩

theorem close_keeps (k : Nat) (call : SimpleCall) (inv : c.Invariant) (at_ : c.responses[p]? = some (.offered k))
    (found : c.calls[k]? = some call) :
    Invariant { c with calls := c.calls.set k call.close, responses := c.responses.set p .finished } := by
  obtain ⟨custody, kept⟩ := inv.kept
  have held := kept.offered p k at_
  obtain ⟨unclosed, registered⟩ := (kept_held c custody k p kept held).2.2.2.2 call found
  have has := registered_has_number call.phase registered
  have first : call.close.closes = 1 := by
    have most := (kept.closes k call found).1
    change call.closes + 1 = 1
    omega
  have released := kept_closed c custody k call p kept at_ found
  have set := kept_set _ _ k call call.close released found (fun _ => rfl)
    ⟨by rw [first], fun _ => Function.update_self k _ custody⟩ (fun fresh => absurd fresh registered)
  have own := inv.own call (List.mem_of_getElem? found)
  exact ⟨numbered_set c.seq c.calls k call _ inv.numbered found has has rfl,
    own_set c.calls k call _ found inv.own ⟨own.response, own.returned, own.empty⟩, _, set⟩

theorem processes_keep (moved : Processing) (after : SimpleClient) (inv : c.Invariant) (found : c.responses[p]? = some processing)
    (acts : c.Processes p processing after moved) : Invariant { after with responses := c.responses.set p moved } := by
  obtain ⟨custody, kept⟩ := inv.kept
  cases acts with
  | dropped data at_ => exact ⟨inv.numbered, inv.own, custody, kept_dropped c custody p data kept (at_ ▸ found)⟩
  | taken resp k at_ listed =>
    exact ⟨inv.numbered, inv.own, _, kept_taken c custody k p resp kept (at_ ▸ found) listed⟩
  | offered resp k call delivered at_ its own => exact offer_keeps c p resp k call delivered inv (at_ ▸ found) its own
  | closed k call at_ its => exact close_keeps c p k call inv (at_ ▸ found) its

end ResponseSteps

theorem invariant_step (c : SimpleClient) (action : Action) (few : c.calls.length < 2 ^ 64) (inv : c.Invariant) :
    (c.step action).Invariant := by
  obtain ⟨custody, kept⟩ := inv.kept
  have effect := step_effect c action
  generalize c.step action = following at effect ⊢
  cases effect with
  | idle => exact inv
  | started serviceMethod message =>
    refine ⟨numbered_append c.seq c.calls _ inv.numbered rfl, ?_, custody, kept_called c custody _ kept rfl rfl⟩
    rw [List.forall_mem_append, List.forall_mem_singleton]
    refine ⟨inv.own, fun _ filled => ?_, fun _ returned => ?_, fun _ => rfl⟩
    · cases filled
    · cases returned
  | called k call moved after found acts => exact calls_keep c k call moved after inv few found acts
  | received data => exact ⟨inv.numbered, inv.own, custody, kept_received c custody data kept⟩
  | disconnected => exact ⟨inv.numbered, inv.own, custody, kept_congr c custody _ kept rfl rfl rfl rfl⟩
  | processed p processing moved after found acts => exact processes_keep c p processing moved after inv found acts

theorem step_length (c : SimpleClient) (action : Action) : c.calls.length ≤ (c.step action).calls.length := by
  have effect := step_effect c action
  generalize c.step action = following at effect ⊢
  cases effect with
  | idle | received | disconnected => exact le_rfl
  | started => exact List.length_append ▸ Nat.le_add_right _ _
  | called => exact (List.length_set ..).ge
  | processed p processing moved after found acts =>
    cases acts with
    | dropped | taken => exact le_rfl
    | offered | closed => exact (List.length_set ..).ge

theorem invariant_run (actions : List Action) :
    ∀ seen ∈ Runs.visited step {} actions, seen.calls.length < 2 ^ 64 → seen.Invariant := by
  refine Runs.visited_invariant step (fun c => c.calls.length < 2 ^ 64 → c.Invariant) (fun _ _ => True) ?_ {} actions
    (fun _ => invariant_new) (Runs.meets_free step {} actions)
  intro c action inv _ few
  have before := lt_of_le_of_lt (step_length c action) few
  exact invariant_step c action before (inv before)

-- What the numbering is for: each processed response fills the channel of at
-- most one call, each call gets at most one, with its own number, and its Done is closed once.
structure Matched (c : SimpleClient) : Prop where
  own : ∀ call ∈ c.calls, ∀ resp, call.phase = .returned (.ok resp) → resp.sequence = call.sequence
  one_call : (c.deliveries.map Prod.fst).Nodup
  one_response : (c.deliveries.map Prod.snd).Nodup
  done_once : ∀ call ∈ c.calls, call.closes ≤ 1

theorem responses_reach_their_calls (actions : List Action) (few : (actions.foldl step {}).calls.length < 2 ^ 64) :
    (actions.foldl step {}).Matched := by
  have inv := invariant_run actions _ (Runs.last_visited step {} actions) few
  obtain ⟨custody, kept⟩ := inv.kept
  refine ⟨fun call member => (inv.own call member).returned, kept.once.1, kept.once.2, ?_⟩
  intro call member
  obtain ⟨k, found⟩ := List.mem_iff_getElem?.mp member
  exact (kept.closes k call found).1

def echoed (sequence : UInt64) (reply : List UInt8) : Action := .receive (.ok ⟨"Echo", sequence, "", reply⟩)

def waits (k : Nat) : List Action := List.replicate 5 (.step k {})

def crossedResponses : List Action :=
  ([[.call "Echo" "a", .call "Echo" "b", .call "Echo" "c"], waits 0, waits 1, waits 2,
    [echoed 2 [98], echoed 2 [98], echoed 1 [97], echoed 3 [99], echoed 9 [], .receive (.error "unexpected end of JSON input")],
    [.process 1, .process 0, .step 2 { wake := .context "context canceled" }, .process 1, .process 2, .process 1, .process 2,
      .process 2, .step 1 {}, .step 0 {}, .step 2 {}, .process 3, .process 4, .process 5]] : List (List Action)).flatten

theorem crossed_responses_matched :
    (crossedResponses.foldl step {}).calls.map (fun call => (call.phase, call.closes)) =
        [(.returned (.ok ⟨"Echo", 1, "", [97]⟩), 1), (.returned (.ok ⟨"Echo", 2, "", [98]⟩), 1),
          (.returned (.error (.context "context canceled")), 0)] ∧
      (crossedResponses.foldl step {}).Matched := by
  exact ⟨by decide +kernel, responses_reach_their_calls crossedResponses (by decide +kernel)⟩

end SimpleClient

end MmoServer.Rpc
