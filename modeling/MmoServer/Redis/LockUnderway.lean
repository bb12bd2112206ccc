import MmoServer.Redis.LockRenewal

set_option autoImplicit false

namespace MmoServer.Redis.RedisLock

def stops (l : RedisLock) : List StopRequest := l.senders ++ l.renewalStopChan ++ l.handling.toList

def outstanding (key : String) (l : RedisLock) : List String :=
  (l.starting.filter fun start => start.key = key).map Starting.token ++
    ((l.activeLocks.lookup key).bind fun ref => l.infos[ref]?).toList.map LockInfo.token ++
    (l.infos.filter fun info => info.key = key ∧ info.running = true).map LockInfo.token ++
    (l.stops.filter fun request => request.key = key).map StopRequest.cause

inductive Known (l : RedisLock) (key token : String) : Prop where
  | stored (held : Held) (found : l.store.get (l.config.formatKey key) = some held) (own : held.token = token)
  | starting (start : Starting) (member : start ∈ l.starting) (same : start.key = key) (own : start.token = token)
  | active (ref : Nat) (info : LockInfo) (entry : l.activeLocks.lookup key = some ref) (found : l.infos[ref]? = some info)
      (own : info.token = token)
  | running (info : LockInfo) (member : info ∈ l.infos) (same : info.key = key) (loop : info.running = true) (own : info.token = token)
  | stopping (request : StopRequest) (member : request ∈ l.stops) (same : request.key = key) (own : request.cause = token)

theorem Known.outstanding (l : RedisLock) (key token : String) (known : l.Known key token)
    (free : l.store.get (l.config.formatKey key) = none) : token ∈ l.outstanding key := by
  simp only [RedisLock.outstanding, List.mem_append, List.mem_map, List.mem_filter, Option.mem_toList, decide_eq_true_eq]
  cases known with
  | stored held found =>
    rw [free] at found
    cases found
  | starting start member same own => exact .inl (.inl (.inl ⟨start, ⟨member, same⟩, own⟩))
  | active ref info entry found own => exact .inl (.inl (.inr ⟨info, by simp [entry, found], own⟩))
  | running info member same loop own => exact .inl (.inr ⟨info, ⟨member, same, loop⟩, own⟩)
  | stopping request member same own => exact .inr ⟨request, ⟨member, same⟩, own⟩

structure Within (before after : RedisLock) : Prop where
  config : after.config = before.config
  stored : ∀ key held, after.store.get (before.config.formatKey key) = some held → before.Known key held.token
  starting : ∀ start ∈ after.starting, before.Known start.key start.token
  active : ∀ key ref info, after.activeLocks.lookup key = some ref → after.infos[ref]? = some info → before.Known key info.token
  running : ∀ info ∈ after.infos, info.running = true → before.Known info.key info.token
  stopping : ∀ request ∈ after.stops, before.Known request.key request.cause

theorem Within.known (before after : RedisLock) (within : Within before after) (key token : String) (known : after.Known key token) :
    before.Known key token := by
  cases known with
  | stored held found own => exact own ▸ within.stored key held (within.config ▸ found)
  | starting start member same own => exact own ▸ same ▸ within.starting start member
  | active ref info entry found own => exact own ▸ within.active key ref info entry found
  | running info member same loop own => exact own ▸ same ▸ within.running info member loop
  | stopping request member same own => exact own ▸ same ▸ within.stopping request member

section Parts

variable (l : RedisLock)

theorem known_stored (key : String) (held : Held) (found : l.store.get (l.config.formatKey key) = some held) : l.Known key held.token :=
  .stored held found rfl

theorem known_starting (start : Starting) (member : start ∈ l.starting) : l.Known start.key start.token := .starting start member rfl rfl

theorem known_active (key : String) (ref : Nat) (info : LockInfo) (entry : l.activeLocks.lookup key = some ref)
    (found : l.infos[ref]? = some info) : l.Known key info.token :=
  .active ref info entry found rfl

theorem known_running (info : LockInfo) (member : info ∈ l.infos) (loop : info.running = true) : l.Known info.key info.token :=
  .running info member rfl loop rfl

theorem known_stopping (request : StopRequest) (member : request ∈ l.stops) : l.Known request.key request.cause :=
  .stopping request member rfl rfl

end Parts

section Infos

variable (infos : List LockInfo) (ref : Nat) (change : LockInfo → LockInfo)
  (keeps : ∀ info, (change info).key = info.key ∧ (change info).token = info.token ∧ ((change info).running = true → info.running = true))

include keeps

theorem modified_at (other : Nat) (info : LockInfo) (found : (infos.modify ref change)[other]? = some info) :
    ∃ old, infos[other]? = some old ∧ old.key = info.key ∧ old.token = info.token ∧ (info.running = true → old.running = true) := by
  rw [List.getElem?_modify] at found
  obtain ⟨old, before, rfl⟩ := Option.map_eq_some_iff.mp found
  refine ⟨old, before, ?_⟩
  split
  · exact ⟨(keeps old).1.symm, (keeps old).2.1.symm, (keeps old).2.2⟩
  · exact ⟨rfl, rfl, id⟩

theorem modified_mem (info : LockInfo) (member : info ∈ infos.modify ref change) :
    ∃ old ∈ infos, old.key = info.key ∧ old.token = info.token ∧ (info.running = true → old.running = true) := by
  obtain ⟨other, found⟩ := List.mem_iff_getElem?.mp member
  obtain ⟨old, before, same⟩ := modified_at infos ref change keeps other info found
  exact ⟨old, List.mem_of_getElem? before, same⟩

end Infos

section Steps

variable (l after : RedisLock)

theorem stored_known (store : Store) (same : NoNewToken l.store store) (key : String) (held : Held)
    (found : store.get (l.config.formatKey key) = some held) : l.Known key held.token := by
  obtain ⟨old, before, token⟩ := same _ held found
  exact .stored old before token

theorem store_within (store : Store) (same : NoNewToken l.store store) : Within l { l with store := store } :=
  ⟨rfl, stored_known l store same, known_starting l, known_active l, known_running l, known_stopping l⟩

def Placed (l : RedisLock) : Prop := ∀ key ref, l.activeLocks.lookup key = some ref → ref < l.infos.length

theorem start_within (index : Nat) (placed : l.Placed) (taken : l.startAutoRenew index = some after) :
    Within l after := by
  simp only [startAutoRenew] at taken
  split at taken
  · cases taken
  · rename_i start found
    cases taken
    have own := known_starting l start (List.mem_of_getElem? found)
    refine ⟨rfl, known_stored l, fun other left => known_starting l other (List.mem_of_mem_eraseIdx left), ?_, ?_, known_stopping l⟩
    · intro key ref info entry here
      rw [AList.lookup_insert_eq] at entry
      split at entry
      · rename_i same
        cases entry
        rw [List.getElem?_concat_length, Option.some_inj] at here
        rw [same, ← here]
        exact own
      · rw [List.getElem?_append_left (placed key ref entry)] at here
        exact known_active l key ref info entry here
    · intro info among loop
      rcases List.mem_append.mp among with old | new
      · exact known_running l info old loop
      · rw [List.mem_singleton.mp new]
        exact own

theorem stops_within (senders : List StopRequest) (request : StopRequest) (known : l.Known request.key request.cause)
    (same : senders = l.senders ++ [request] ∨ senders = l.senders) :
    ∀ other ∈ senders ++ l.renewalStopChan ++ l.handling.toList, l.Known other.key other.cause := by
  intro other member
  rcases same with rfl | rfl
  · by_cases new : other = request
    · exact new ▸ known
    · exact known_stopping l other (by simpa [stops, new] using member)
  · exact known_stopping l other member

theorem release_within (fault : Option Fault) (key token : String) : Within l (l.release fault key token) := by
  have same := no_new_token_release l.config fault key token l.store
  have cases := release_cases l.config fault key token l.store
  simp only [release]
  split
  · rename_i store answered
    rw [answered] at same cases
    refine ⟨rfl, stored_known l store same, known_starting l, known_active l, known_running l, ?_⟩
    rcases cases with ⟨_, ⟨⟩⟩ | ⟨held, found, own, _⟩
    refine stops_within l _ ⟨key, token⟩ (.stored held found own) ?_
    split
    · exact .inl rfl
    · exact .inr rfl
  · rename_i answer store _ answered
    rw [answered] at same
    exact store_within l store same

theorem stop_loop_keeps (info : LockInfo) :
    (stopLoop info).key = info.key ∧ (stopLoop info).token = info.token ∧ ((stopLoop info).running = true → info.running = true) :=
  ⟨rfl, rfl, by rintro ⟨⟩⟩

theorem close_chan_keeps (cause : String) (info : LockInfo) :
    (closeChan cause info).key = info.key ∧ (closeChan cause info).token = info.token ∧
      ((closeChan cause info).running = true → info.running = true) :=
  ⟨rfl, rfl, id⟩

section Changes

variable (ref : Nat) (change : LockInfo → LockInfo)
  (keeps : ∀ info, (change info).key = info.key ∧ (change info).token = info.token ∧ ((change info).running = true → info.running = true))

include keeps

theorem changed_active (key : String) (other : Nat) (info : LockInfo) (entry : l.activeLocks.lookup key = some other)
    (found : (l.infos.modify ref change)[other]? = some info) : l.Known key info.token := by
  obtain ⟨old, before, _, token, _⟩ := modified_at l.infos ref change keeps other info found
  exact .active other old entry before token

theorem changed_running (info : LockInfo) (member : info ∈ l.infos.modify ref change) (loop : info.running = true) :
    l.Known info.key info.token := by
  obtain ⟨old, among, key, token, running⟩ := modified_mem l.infos ref change keeps info member
  exact .running old among key (running loop) token

end Changes

theorem tick_within (ref : Nat) (fault : Option Fault) (taken : l.tick ref fault = some after) : Within l after := by
  simp only [tick] at taken
  split at taken
  · cases taken
  · rename_i info found
    have same := no_new_token_refresh l.config fault info.key info.token info.timeout l.store
    split at taken
    · rename_i loop
      simp only [refresh] at taken
      split at taken
      · rename_i refreshed answered
        obtain ⟨_, rfl⟩ := Prod.mk.inj answered
        cases taken
        refine ⟨rfl, stored_known l _ same, known_starting l, changed_active l ref _ stop_loop_keeps,
          changed_running l ref _ stop_loop_keeps, ?_⟩
        exact stops_within l _ ⟨info.key, info.token⟩ (known_running l info (List.mem_of_getElem? found) loop) (.inl rfl)
      · rename_i _ refreshed _ answered
        obtain ⟨_, rfl⟩ := Prod.mk.inj answered
        cases taken
        exact store_within l _ same
    · cases taken

theorem quit_within (ref : Nat) (taken : l.quit ref = some after) : Within l after := by
  simp only [quit] at taken
  split at taken
  · cases taken
  · split at taken
    · cases taken
      exact ⟨rfl, known_stored l, known_starting l, changed_active l ref _ stop_loop_keeps, changed_running l ref _ stop_loop_keeps,
        known_stopping l⟩
    · cases taken

theorem send_within (index : Nat) (taken : l.send index = some after) : Within l after := by
  simp only [send] at taken
  split at taken
  · cases taken
  · rename_i request found
    split at taken
    · cases taken
      refine ⟨rfl, known_stored l, known_starting l, known_active l, known_running l, ?_⟩
      intro other member
      have sent : request ∈ l.senders := List.mem_of_getElem? found
      apply known_stopping l other
      simp only [stops, List.mem_append, List.mem_singleton] at member ⊢
      rcases member with (left | queued | rfl) | handling
      · exact .inl (.inl (List.mem_of_mem_eraseIdx left))
      · exact .inl (.inr queued)
      · exact .inl (.inl sent)
      · exact .inr handling
    · cases taken

theorem receive_within (taken : l.receive = some after) : Within l after := by
  simp only [receive] at taken
  split at taken
  · rename_i request rest free waiting
    cases taken
    refine ⟨rfl, known_stored l, known_starting l, known_active l, known_running l, ?_⟩
    intro other member
    apply known_stopping l other
    simpa [stops, free, waiting, or_assoc, or_comm, or_left_comm] using member
  · cases taken

theorem handle_stop_within (taken : l.handleStop = some after) : Within l after := by
  have fewer : ∀ other ∈ l.senders ++ l.renewalStopChan ++ (none : Option StopRequest).toList, l.Known other.key other.cause :=
    fun other member => known_stopping l other (List.mem_append_left _ (by simpa using member))
  simp only [handleStop] at taken
  split at taken
  · cases taken
  · rename_i request held
    split at taken
    · cases taken
      exact ⟨rfl, known_stored l, known_starting l, known_active l, known_running l, fewer⟩
    · rename_i ref entry
      cases taken
      refine ⟨rfl, known_stored l, known_starting l, fun key other info listed found => ?_,
        changed_running l ref _ (close_chan_keeps request.cause), fewer⟩
      rw [AList.lookup_erase_eq] at listed
      split at listed
      · cases listed
      · exact changed_active l ref _ (close_chan_keeps request.cause) key other info listed found

theorem try_acquire_eq (random : Random) (fault : Option Fault) (key : String) (timeout : Int) :
    ∃ added, l.tryAcquire random fault key timeout =
        { l with store := (l.config.tryAcquire random fault key timeout l.store).2, starting := l.starting ++ added } ∧
      ∀ start ∈ added, start.key = key ∧ (l.config.tryAcquire random fault key timeout l.store).1 = .ok (some start.token) := by
  rw [tryAcquire]
  obtain ⟨answer, store⟩ := l.config.tryAcquire random fault key timeout l.store
  match answer with
  | .error err => exact ⟨[], by simp, by simp⟩
  | .ok none => exact ⟨[], by simp, by simp⟩
  | .ok (some token) =>
    by_cases renews : l.config.autoRenew = true
    · exact ⟨[⟨key, token, l.config.timeoutOf timeout⟩], by simp [renews], by simp⟩
    · exact ⟨[], by simp [renews], by simp⟩

theorem try_acquire_fresh (random : Random) (fault : Option Fault) (key : String) (timeout : Int) :
    Within l (l.tryAcquire random fault key timeout) ∨
      l.store.get (l.config.formatKey key) = none ∧
        ∃ token, ∀ other known, (l.tryAcquire random fault key timeout).Known other known →
          l.Known other known ∨ other = key ∧ known = token := by
  obtain ⟨added, now, own⟩ := try_acquire_eq l random fault key timeout
  rw [now]
  rcases try_acquire_cases l.config fault key timeout l.store random with ⟨same, refused⟩ | ⟨free, held, _, put, returned⟩
  · left
    rw [same]
    refine ⟨rfl, known_stored l, fun start member => ?_, known_active l, known_running l, known_stopping l⟩
    rcases List.mem_append.mp member with old | new
    · exact known_starting l start old
    · exact absurd (own start new).2 (refused start.token)
  · refine .inr ⟨free, held.token, fun other known found => ?_⟩
    cases found with
    | stored entry found token =>
      rw [put, Store.get_put] at found
      split at found
      · rename_i here
        have same : other = key := (String.append_right_inj l.config.keyPrefix).mp here
        have stored := (Option.filter_eq_some_iff.mp found).1
        exact .inr ⟨same, by rw [← token, Option.some.inj stored]⟩
      · exact .inl (.stored entry found token)
    | starting start member same token =>
      rcases List.mem_append.mp member with old | new
      · exact .inl (.starting start old same token)
      · exact .inr ⟨same.symm.trans (own start new).1, token.symm.trans (returned _ (own start new).2).symm⟩
    | active ref info entry found token => exact .inl (.active ref info entry found token)
    | running info member same loop token => exact .inl (.running info member same loop token)
    | stopping request member same token => exact .inl (.stopping request member same token)

end Steps

end MmoServer.Redis.RedisLock
