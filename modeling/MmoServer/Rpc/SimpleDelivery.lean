import MmoServer.Rpc.SimpleNumbers

set_option autoImplicit false

namespace MmoServer.Rpc

namespace SimpleClient

section Listed

-- What an entry of pending leads to, in any run and however often the numbers have
-- wrapped around: a call of that number that no response has reached.
structure Listed (pending : GoMap UInt64 Nat) (calls : List SimpleCall) (responses : List Processing) : Prop where
  waits : ∀ sequence k, pending.lookup sequence = some k → ∃ call, calls[k]? = some call ∧ call.sequence = sequence ∧
    ¬ call.phase.Unregistered ∧ call.response = none
  free : ∀ sequence (k p : Nat) resp, pending.lookup sequence = some k → responses[p]? ≠ some (.taken resp k)
  taken : ∀ (p : Nat) resp k, responses[p]? = some (.taken resp k) → ∃ call, calls[k]? = some call ∧ ¬ call.phase.Unregistered
  fresh : ∀ (k : Nat) call, calls[k]? = some call → call.phase.Unregistered → call.response = none

variable (pending : GoMap UInt64 Nat) (calls : List SimpleCall) (responses : List Processing) (k : Nat) (call moved : SimpleCall)
  (listed : Listed pending calls responses)

include listed

theorem listed_erase (sequence : UInt64) : Listed (pending.erase sequence) calls responses := by
  have earlier (other : UInt64) (i : Nat) (found : (pending.erase sequence).lookup other = some i) : pending.lookup other = some i := by
    rw [AList.lookup_erase_eq] at found
    split at found
    · cases found
    · exact found
  exact ⟨fun other i found => listed.waits other i (earlier other i found),
    fun other i p resp found => listed.free other i p resp (earlier other i found), listed.taken, listed.fresh⟩

theorem listed_set (found : calls[k]? = some call)
    (kept : ¬ call.phase.Unregistered → moved.sequence = call.sequence ∧ ¬ moved.phase.Unregistered)
    (empty : call.response = none → (∃ sequence, pending.lookup sequence = some k) ∨ moved.phase.Unregistered → moved.response = none) :
    Listed pending (calls.set k moved) responses := by
  have look (i : Nat) := Slots.look_set calls k i call moved found
  refine ⟨?_, listed.free, ?_, ?_⟩
  · intro sequence i at_
    obtain ⟨one, one_at, own, registered, none_⟩ := listed.waits sequence i at_
    by_cases here : i = k
    · subst here
      cases found.symm.trans one_at
      obtain ⟨same, still⟩ := kept registered
      exact ⟨moved, (look i).trans (if_pos rfl), same.trans own, still, empty none_ (.inl ⟨sequence, at_⟩)⟩
    · exact ⟨one, ((look i).trans (if_neg here)).trans one_at, own, registered, none_⟩
  · intro p resp i at_
    obtain ⟨one, one_at, registered⟩ := listed.taken p resp i at_
    by_cases here : i = k
    · subst here
      cases found.symm.trans one_at
      exact ⟨moved, (look i).trans (if_pos rfl), (kept registered).2⟩
    · exact ⟨one, ((look i).trans (if_neg here)).trans one_at, registered⟩
  · intro i one one_at unregistered
    rw [look] at one_at
    split at one_at
    next =>
      cases one_at
      have before : call.phase.Unregistered := by
        by_contra registered
        exact (kept registered).2 unregistered
      exact empty (listed.fresh k call found before) (.inr unregistered)
    next => exact listed.fresh i one one_at unregistered

theorem listed_insert (found : calls[k]? = some call) (registered : ¬ call.phase.Unregistered) (empty : call.response = none)
    (untaken : ∀ (p : Nat) resp, responses[p]? ≠ some (.taken resp k)) : Listed (pending.insert call.sequence k) calls responses := by
  have cases_ (sequence : UInt64) (i : Nat) (at_ : (pending.insert call.sequence k).lookup sequence = some i) :
      sequence = call.sequence ∧ i = k ∨ pending.lookup sequence = some i := by
    rw [AList.lookup_insert_eq] at at_
    split at at_
    next same =>
      cases at_
      exact .inl ⟨same, rfl⟩
    next => exact .inr at_
  refine ⟨?_, ?_, listed.taken, listed.fresh⟩
  · intro sequence i at_
    rcases cases_ sequence i at_ with ⟨rfl, rfl⟩ | old
    · exact ⟨call, found, rfl, registered, empty⟩
    · exact listed.waits sequence i old
  · intro sequence i p resp at_
    rcases cases_ sequence i at_ with ⟨_, rfl⟩ | old
    · exact untaken p resp
    · exact listed.free sequence i p resp old

theorem listed_responses (p : Nat) (before after : Processing) (found : responses[p]? = some before)
    (takes : ∀ resp i, after = .taken resp i → (∀ sequence, pending.lookup sequence ≠ some i) ∧
      ∃ call, calls[i]? = some call ∧ ¬ call.phase.Unregistered) : Listed pending calls (responses.set p after) := by
  have look (q : Nat) := Slots.look_set responses p q before after found
  refine ⟨listed.waits, ?_, ?_, listed.fresh⟩
  · intro sequence i q resp at_ read
    rw [look] at read
    split at read
    next => exact (takes resp i (Option.some.inj read)).1 sequence at_
    next => exact listed.free sequence i q resp at_ read
  · intro q resp i read
    rw [look] at read
    split at read
    next => exact (takes resp i (Option.some.inj read)).2
    next => exact listed.taken q resp i read

end Listed

section Steps

variable (c : SimpleClient) (listed : Listed c.pending c.calls c.responses)

include listed

theorem listed_calls (k : Nat) (call moved : SimpleCall) (after : SimpleClient) (found : c.calls[k]? = some call)
    (acts : c.Calls k call after moved) : Listed after.pending (c.calls.set k moved) after.responses := by
  cases acts with
  | numbered at_ =>
    exact listed_set _ _ _ k call _ listed found (fun registered => absurd (by rw [at_]; trivial) registered) fun none_ _ => none_
  | registered at_ =>
    have unregistered : call.phase.Unregistered := by
      rw [at_]
      trivial
    have empty := listed.fresh k call found unregistered
    have set := listed_set _ _ _ k call { call with phase := .registered } listed found (fun _ => ⟨rfl, id⟩) fun none_ _ => none_
    have here := (Slots.look_set c.calls k k call { call with phase := .registered } found).trans (if_pos rfl)
    refine listed_insert _ _ _ k { call with phase := .registered } set here id empty fun p resp read => ?_
    obtain ⟨one, one_at, registered⟩ := listed.taken p resp k read
    cases found.symm.trans one_at
    exact registered unregistered
  | moved phase written before later =>
    exact listed_set _ _ _ k call _ listed found (fun _ => ⟨rfl, (underway_registered phase later).2⟩) fun none_ _ => none_
  | answered resp at_ filled => exact listed_set _ _ _ k call _ listed found (fun _ => ⟨rfl, id⟩) fun _ _ => rfl
  | left error at_ =>
    exact listed_set _ _ _ k call _ (listed_erase _ _ _ listed call.sequence) found (fun _ => ⟨rfl, id⟩) fun none_ _ => none_

theorem listed_processes (p : Nat) (processing moved : Processing) (after : SimpleClient) (found : c.responses[p]? = some processing)
    (acts : c.Processes p processing after moved) : Listed after.pending after.calls (c.responses.set p moved) := by
  cases acts with
  | dropped data at_ => exact listed_responses _ _ _ listed p processing .finished found fun _ _ same => by cases same
  | taken resp k at_ here =>
    refine listed_responses _ _ _ (listed_erase _ _ _ listed resp.sequence) p processing _ found fun other i same => ?_
    cases same
    obtain ⟨call, call_at, own, registered, _⟩ := listed.waits resp.sequence k here
    refine ⟨fun sequence again => ?_, call, call_at, registered⟩
    rw [AList.lookup_erase_eq] at again
    split at again
    · cases again
    next apart =>
      obtain ⟨one, one_at, same, _⟩ := listed.waits sequence k again
      cases call_at.symm.trans one_at
      exact apart (same.symm.trans own)
  | offered resp k call delivered at_ call_at own =>
    have unlisted (sequence : UInt64) := listed.free sequence k p resp
    obtain ⟨one, one_at, registered⟩ := listed.taken p resp k (at_ ▸ found)
    cases call_at.symm.trans one_at
    have same : (call.offer resp.simple).sequence = call.sequence ∧ (call.offer resp.simple).phase = call.phase := by
      rw [SimpleCall.offer]
      split <;> exact ⟨rfl, rfl⟩
    have set := listed_set _ _ _ k call (call.offer resp.simple) listed call_at (fun still => ⟨same.1, same.2 ▸ still⟩) fun _ now => by
      rcases now with ⟨sequence, listed_⟩ | unregistered
      · exact absurd (at_ ▸ found) (unlisted sequence listed_)
      · exact absurd (same.2 ▸ unregistered) registered
    exact listed_responses _ _ _ set p processing _ found fun _ _ same => by cases same
  | closed k call at_ call_at =>
    have set := listed_set _ _ _ k call call.close listed call_at (fun still => ⟨rfl, still⟩) fun none_ _ => none_
    exact listed_responses _ _ _ set p processing _ found fun _ _ same => by cases same

theorem listed_started (added : SimpleCall) (empty : added.response = none) : Listed c.pending (c.calls ++ [added]) c.responses := by
  refine ⟨?_, listed.free, ?_, ?_⟩
  · intro sequence k found
    obtain ⟨call, at_, own⟩ := listed.waits sequence k found
    exact ⟨call, Slots.look_kept c.calls _ k call at_, own⟩
  · intro p resp k read
    obtain ⟨call, at_, registered⟩ := listed.taken p resp k read
    exact ⟨call, Slots.look_kept c.calls _ k call at_, registered⟩
  · intro k call at_ unregistered
    rcases Slots.look_appended c.calls k _ call at_ with earlier | ⟨_, rfl⟩
    · exact listed.fresh k call earlier unregistered
    · exact empty

theorem listed_received (data : Except String SimpleJsonResponse) : Listed c.pending c.calls (c.responses ++ [.started data]) := by
  have read (p : Nat) (resp : SimpleJsonResponse) (k : Nat) (at_ : (c.responses ++ [.started data])[p]? = some (.taken resp k)) :
      c.responses[p]? = some (.taken resp k) := by
    rcases Slots.look_appended c.responses p _ _ at_ with earlier | ⟨_, same⟩
    · exact earlier
    · cases same
  exact ⟨listed.waits, fun sequence k p resp found at_ => listed.free sequence k p resp found (read p resp k at_),
    fun p resp k at_ => listed.taken p resp k (read p resp k at_), listed.fresh⟩

theorem listed_step (action : Action) : Listed (c.step action).pending (c.step action).calls (c.step action).responses := by
  have effect := step_effect c action
  generalize c.step action = following at effect ⊢
  cases effect with
  | idle | disconnected => exact listed
  | started serviceMethod message => exact listed_started c listed _ rfl
  | called k call moved after found acts => exact listed_calls c listed k call moved after found acts
  | received data => exact listed_received c listed data
  | processed p processing moved after found acts => exact listed_processes c listed p processing moved after found acts

end Steps

theorem listed_run (actions : List Action) :
    Listed (actions.foldl step {}).pending (actions.foldl step {}).calls (actions.foldl step {}).responses := by
  have start : Listed ({} : SimpleClient).pending ({} : SimpleClient).calls ({} : SimpleClient).responses := by
    constructor <;> simp
  exact Runs.visited_invariant step (fun c => Listed c.pending c.calls c.responses) (fun _ _ => True)
    (fun c action listed _ => listed_step c listed action) {} actions start (Runs.meets_free step {} actions) _
    (Runs.last_visited step {} actions)

section Delivery

def outcome (c : SimpleClient) (k : Nat) : Option (Except SimpleError SimpleResponse) :=
  c.calls[k]?.bind fun call =>
    match call.phase with
    | .returned result => some result
    | _ => none

theorem process_last (c after : SimpleClient) (before : List Processing) (processing moved : Processing)
    (responses : c.responses = before ++ [processing]) (stepped : c.processStep before.length processing = some (after, moved)) :
    c.step (.process before.length) = { after with responses := before ++ [moved] } := by
  have read : c.responses[before.length]? = some processing := by
    rw [responses, List.getElem?_concat_length]
  have set : c.responses.set before.length moved = before ++ [moved] := by
    rw [responses, List.set_append_right _ _ (le_refl _), Nat.sub_self]
    rfl
  simp only [step, read, stepped, set]

theorem process_ended (c : SimpleClient) (before : List Processing) (responses : c.responses = before ++ [.finished]) :
    c.step (.process before.length) = c := by
  have read : c.responses[before.length]? = some .finished := by
    rw [responses, List.getElem?_concat_length]
  simp only [step, read, processStep]

def processed (c : SimpleClient) (data : Except String SimpleJsonResponse) : SimpleClient :=
  ([.receive data, .process c.responses.length, .process c.responses.length, .process c.responses.length] : List Action).foldl step c

def deliver (c : SimpleClient) (k : Nat) (data : Except String SimpleJsonResponse) : SimpleClient :=
  (c.processed data).step (.step k {})

section Processed

variable (c : SimpleClient) (resp : SimpleJsonResponse)

theorem process_takes (j : Nat) (pending : c.pending.lookup resp.sequence = some j) (before : List Processing) :
    ({ c with responses := before ++ [.started (.ok resp)] } : SimpleClient).step (.process before.length) =
      { c with pending := c.pending.erase resp.sequence, responses := before ++ [.taken resp j] } := by
  rw [process_last _ { c with pending := c.pending.erase resp.sequence, responses := before ++ [.started (.ok resp)] } before _
    (.taken resp j) rfl (by simp only [processStep, pending])]

theorem process_offers (j : Nat) (one : SimpleCall) (found : c.calls[j]? = some one) (before : List Processing) :
    ({ c with responses := before ++ [.taken resp j] } : SimpleClient).step (.process before.length) =
      { c with
        calls := c.calls.set j (one.offer resp.simple)
        responses := before ++ [.offered j]
        deliveries := c.deliveries ++ if one.response = none then [(before.length, j)] else [] } := by
  rw [process_last _
    { c with
      calls := c.calls.set j (one.offer resp.simple)
      responses := before ++ [.taken resp j]
      deliveries := c.deliveries ++ if one.response = none then [(before.length, j)] else [] }
    before _ (.offered j) rfl (by simp only [processStep, found])]

theorem process_closes (j : Nat) (one : SimpleCall) (found : c.calls[j]? = some one) (before : List Processing)
    (responses : c.responses = before ++ [.offered j]) : (c.step (.process before.length)).calls = c.calls.set j one.close := by
  rw [process_last c { c with calls := c.calls.set j one.close } before _ .finished responses (by simp only [processStep, found])]

theorem processed_listed (open_ : c.conn = true) (j : Nat) (one : SimpleCall) (pending : c.pending.lookup resp.sequence = some j)
    (found : c.calls[j]? = some one) : (c.processed (.ok resp)).calls = c.calls.set j (one.offer resp.simple).close := by
  have offers := process_offers { c with pending := c.pending.erase resp.sequence } resp j one found c.responses
  have now : (c.calls.set j (one.offer resp.simple))[j]? = some (one.offer resp.simple) := by
    rw [Slots.look_set c.calls j j one _ found, if_pos rfl]
  simp only [processed, List.foldl_cons, List.foldl_nil]
  rw [step, if_pos open_, process_takes c resp j pending c.responses, offers,
    process_closes _ j (one.offer resp.simple) now c.responses rfl, List.set_set]

theorem processed_unknown (open_ : c.conn = true) (unknown : c.pending.lookup resp.sequence = none) :
    (c.processed (.ok resp)).calls = c.calls := by
  have dropped : ({ c with responses := c.responses ++ [.started (.ok resp)] } : SimpleClient).step (.process c.responses.length) =
      { c with responses := c.responses ++ [.finished] } := by
    rw [process_last _ { c with responses := c.responses ++ [.started (.ok resp)] } c.responses _ .finished rfl
      (by simp only [processStep, unknown])]
  have ended := process_ended { c with responses := c.responses ++ [.finished] } c.responses rfl
  simp only [processed, List.foldl_cons, List.foldl_nil]
  rw [step, if_pos open_, dropped, ended, ended]

end Processed

section Returned

variable (c : SimpleClient) (k : Nat) (call : SimpleCall) (found : c.calls[k]? = some call) (waiting : call.phase = .waiting)

include found waiting

theorem select_answered (resp : SimpleResponse) (filled : call.response = some resp) :
    (c.step (.step k {})).outcome k = some (answer resp) := by
  have stepped : c.callStep k call {} = some (c, { call with phase := .returned (answer resp), response := none }) := by
    simp only [callStep, waiting, filled]
  simp only [step, found, stepped, outcome, Slots.look_set c.calls k k call _ found, if_true, Option.bind_some]

theorem select_blocked (empty : call.response = none) : (c.step (.step k {})).calls[k]? = some call := by
  have stepped : c.callStep k call {} = none := by
    simp only [callStep, waiting, empty]
  simp only [step, found, stepped]

end Returned

structure Awaits (c : SimpleClient) (k : Nat) (request : SimpleJsonRequest) : Prop where
  connected : c.conn = true
  listed : c.pending.lookup request.sequence = some k
  waiting : ∃ call, c.calls[k]? = some call ∧ call.request = request ∧ call.phase = .waiting

theorem deliver_iff (c : SimpleClient) (listed : Listed c.pending c.calls c.responses) (k : Nat) (request : SimpleJsonRequest)
    (awaits : c.Awaits k request) (resp : SimpleJsonResponse) :
    (c.deliver k (.ok resp)).outcome k = some (answer resp.simple) ↔ resp.sequence = request.sequence := by
  obtain ⟨open_, pending, call, found, rfl, waiting⟩ := awaits
  obtain ⟨one, one_at, _, _, empty⟩ := listed.waits call.request.sequence k pending
  cases found.symm.trans one_at
  have other (apart : resp.sequence ≠ call.request.sequence) : (c.deliver k (.ok resp)).calls[k]? = some call := by
    have untouched : (c.processed (.ok resp)).calls[k]? = some call := by
      cases taken : c.pending.lookup resp.sequence with
      | none => rw [processed_unknown c resp open_ taken, found]
      | some j =>
        obtain ⟨two, two_at, own, _⟩ := listed.waits resp.sequence j taken
        have different : k ≠ j := by
          rintro rfl
          cases found.symm.trans two_at
          exact apart own.symm
        rw [processed_listed c resp open_ j two taken two_at, Slots.look_set c.calls j k two _ two_at, if_neg different, found]
    exact select_blocked _ k call untouched waiting empty
  refine ⟨fun returned => ?_, fun own => ?_⟩
  · by_contra apart
    simp [outcome, other apart, waiting] at returned
  · have offered : (call.offer resp.simple).response = some resp.simple ∧ (call.offer resp.simple).phase = .waiting := by
      rw [SimpleCall.offer, empty]
      exact ⟨rfl, waiting⟩
    have filled : (c.processed (.ok resp)).calls[k]? = some (call.offer resp.simple).close := by
      rw [processed_listed c resp open_ k call (own ▸ pending) found, Slots.look_set c.calls k k call _ found, if_pos rfl]
    exact select_answered _ k _ filled offered.2 resp.simple offered.1

end Delivery

end SimpleClient

end MmoServer.Rpc
