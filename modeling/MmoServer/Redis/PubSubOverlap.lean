import MmoServer.Redis.PubSubDelivery

set_option autoImplicit false

namespace MmoServer.Redis.RedisPubSub

section Tables

variable (ps : RedisPubSub)

theorem mem_add_names (names : List String) (set : GoMap String Unit) (name : String) :
    name ∈ addNames names set ↔ name ∈ names ∨ name ∈ set := by
  rw [addNames]
  induction names generalizing set with
  | nil => simp
  | cons head rest ih =>
    rw [List.foldl_cons, ih, AList.mem_insert, List.mem_cons]
    exact ⟨fun any => by tauto, fun any => by tauto⟩

theorem lookup_remove_names {V : Type} (names : List String) (table : GoMap String V) (name : String) :
    (removeNames names table).lookup name = if name ∈ names then none else table.lookup name := by
  rw [removeNames]
  induction names generalizing table with
  | nil => simp
  | cons head rest ih =>
    rw [List.foldl_cons, ih, AList.lookup_erase_eq]
    by_cases here : name = head <;> simp [here]

section

variable (handler : Nat) (names : List String) (table : GoMap String (List Nat)) (name : String)

theorem add_handler_lookup :
    ((addHandler handler names table).lookup name).getD [] =
      (table.lookup name).getD [] ++ List.replicate (names.count name) handler := by
  rw [addHandler]
  induction names generalizing table with
  | nil => simp
  | cons head rest ih =>
    rw [List.foldl_cons, ih, AList.lookup_insert_eq, List.count_cons]
    by_cases here : name = head
    · rw [if_pos here, here, Option.getD_some, List.append_assoc]
      simp [List.replicate_succ]
    · simp [here, Ne.symm here]

theorem add_handler_nil :
    ((addHandler handler names table).lookup name).getD [] = [] ↔ name ∉ names ∧ (table.lookup name).getD [] = [] := by
  rw [add_handler_lookup, List.append_eq_nil_iff, List.replicate_eq_nil_iff, List.count_eq_zero, and_comm]

end

structure Synced : Prop where
  channels : ∀ name, (∃ subs ∈ ps.pubsub, name ∈ subs.channels) ↔ ps.onChannel name ≠ []
  patterns : ∀ name, (∃ subs ∈ ps.pubsub, name ∈ subs.patterns) ↔ ps.onPattern name ≠ []

-- Redis carries the call out, and an unsubscription names what it drops.
def CarriedOut : Action → Prop
  | .subscribe _ _ _ outcome | .psubscribe _ _ _ outcome | .close outcome => outcome = .ok
  | .unsubscribe names outcome | .punsubscribe names outcome => outcome = .ok ∧ names ≠ []

instance decidableCarriedOut : ∀ action, Decidable (CarriedOut action)
  | .subscribe _ _ _ outcome | .psubscribe _ _ _ outcome | .close outcome => inferInstanceAs (Decidable (outcome = .ok))
  | .unsubscribe names outcome | .punsubscribe names outcome => inferInstanceAs (Decidable (outcome = .ok ∧ names ≠ []))

theorem connect_tables (supported : Bool) (connected : RedisPubSub) (found : ps.connect supported = some connected) :
    connected.handlers = ps.handlers ∧ connected.patternHandlers = ps.patternHandlers ∧
      connected.activeChannels = ps.activeChannels ∧ connected.pubsub = some (ps.pubsub.getD {}) := by
  cases held : ps.pubsub with
  | some subs =>
    simp only [connect, held, Option.some_inj] at found
    subst found
    exact ⟨rfl, rfl, rfl, held⟩
  | none =>
    simp only [connect, held] at found
    split at found
    · cases found
      rw [startMessageLoop]
      split <;> exact ⟨rfl, rfl, rfl, rfl⟩
    · cases found

theorem connect_synced (supported : Bool) (connected : RedisPubSub) (synced : ps.Synced) (found : ps.connect supported = some connected) :
    connected.Synced ∧ ∃ subs, connected.pubsub = some subs := by
  obtain ⟨channels, patterns, -, fresh⟩ := connect_tables ps supported connected found
  refine ⟨⟨fun name => ?_, fun name => ?_⟩, _, fresh⟩
  · rw [onChannel, channels, fresh]
    refine Iff.trans ?_ (synced.channels name)
    cases ps.pubsub <;> simp
  · rw [onPattern, patterns, fresh]
    refine Iff.trans ?_ (synced.patterns name)
    cases ps.pubsub <;> simp

theorem synced_subscribe (handler : Option Nat) (names : List String) (supported : Bool) (synced : ps.Synced) :
    (ps.subscribe handler names supported .ok).2.Synced ∧ (ps.psubscribe handler names supported .ok).2.Synced := by
  unfold subscribe psubscribe enter
  split
  · exact ⟨synced, synced⟩
  · split
    · exact ⟨synced, synced⟩
    · cases found : ps.connect supported with
      | none => exact ⟨synced, synced⟩
      | some connected =>
        obtain ⟨⟨channels, patterns⟩, subs, held⟩ := connect_synced ps supported connected synced found
        rw [held] at channels patterns
        simp only [Option.mem_def, Option.some_inj, exists_eq_left'] at channels patterns
        refine ⟨⟨fun name => ?_, fun name => ?_⟩, fun name => ?_, fun name => ?_⟩
        · simp only [ask, held, Option.map_some, Option.mem_def, Option.some_inj, exists_eq_left', onChannel, ne_eq, add_handler_nil,
            mem_add_names, channels]
          tauto
        · simpa [ask, held, onPattern] using patterns name
        · simpa [ask, held, onChannel] using channels name
        · simp only [ask, held, Option.map_some, Option.mem_def, Option.some_inj, exists_eq_left', onPattern, ne_eq, add_handler_nil,
            mem_add_names, patterns]
          tauto

theorem mem_drop_names (names : List String) (set : GoMap String Unit) (name : String) (some_ : names ≠ []) :
    name ∈ dropNames names set ↔ name ∉ names ∧ name ∈ set := by
  rw [dropNames, if_neg some_, ← AList.lookup_isSome, ← AList.lookup_isSome, lookup_remove_names]
  by_cases here : name ∈ names <;> simp [here]

theorem synced_unsubscribe (names : List String) (some_ : names ≠ []) (synced : ps.Synced) :
    (ps.unsubscribe names .ok).2.Synced ∧ (ps.punsubscribe names .ok).2.Synced := by
  obtain ⟨channels, patterns⟩ := synced
  cases held : ps.pubsub with
  | none =>
    simp only [unsubscribe, punsubscribe, leave, held]
    exact ⟨⟨channels, patterns⟩, channels, patterns⟩
  | some subs =>
    rw [held] at channels patterns
    simp only [Option.mem_def, Option.some_inj, exists_eq_left'] at channels patterns
    refine ⟨⟨fun name => ?_, fun name => ?_⟩, fun name => ?_, fun name => ?_⟩
    · have here := channels name
      simp only [unsubscribe, leave, held, ask, Option.map_some, Option.mem_def, Option.some_inj, exists_eq_left', onChannel,
        lookup_remove_names, mem_drop_names names _ name some_, here]
      by_cases removed : name ∈ names <;> simp [removed]
    · simpa [unsubscribe, leave, ask, held, onPattern] using patterns name
    · simpa [punsubscribe, leave, ask, held, onChannel] using channels name
    · have here := patterns name
      simp only [punsubscribe, leave, held, ask, Option.map_some, Option.mem_def, Option.some_inj, exists_eq_left', onPattern,
        lookup_remove_names, mem_drop_names names _ name some_, here]
      by_cases removed : name ∈ names <;> simp [removed]

theorem synced_close (synced : ps.Synced) : (ps.close .ok).2.Synced := by
  have empty : ∀ stopped : RedisPubSub, stopped.cleared.Synced := by
    intro stopped
    constructor <;> intro name <;> simp [cleared, onChannel, onPattern]
  rw [close]
  split
  · exact synced
  · split
    · exact ⟨synced.channels, synced.patterns⟩
    · cases ps.pubsub with
      | none => exact empty _
      | some subs => exact empty _

theorem synced_step (action : Action) (synced : ps.Synced) (carriedOut : CarriedOut action) : (ps.step action).Synced := by
  cases action with
  | subscribe handler channels supported outcome =>
    cases carriedOut
    exact (synced_subscribe ps handler channels supported synced).1
  | psubscribe handler patterns supported outcome =>
    cases carriedOut
    exact (synced_subscribe ps handler patterns supported synced).2
  | unsubscribe channels outcome =>
    obtain ⟨rfl, some_⟩ := carriedOut
    exact (synced_unsubscribe ps channels some_ synced).1
  | punsubscribe patterns outcome =>
    obtain ⟨rfl, some_⟩ := carriedOut
    exact (synced_unsubscribe ps patterns some_ synced).2
  | close outcome =>
    cases carriedOut
    exact synced_close ps synced

end Tables

section Published

variable (ps : RedisPubSub) (globMatches : String → String → Bool) (channel payload : String)

-- No pattern with handlers matches a channel that has handlers too, and none is empty.
def Apart : Prop :=
  (ps.onChannel channel = [] ∨ ∀ pattern, globMatches pattern channel = true → ps.onPattern pattern = []) ∧
    (globMatches "" channel = true → ps.onPattern "" = [])

theorem synced_single_iff (synced : ps.Synced) :
    ps.Single globMatches channel payload ↔
      (ps.onChannel channel = [] ∨ ∀ pattern, globMatches pattern channel = true → ps.onPattern pattern = []) := by
  rw [Single]
  by_cases silent : ps.onChannel channel = []
  · simp [silent]
  · obtain ⟨subs, held, own⟩ := (synced.channels channel).mpr silent
    have patterns : ∀ name, name ∈ subs.patterns ↔ ps.onPattern name ≠ [] := by
      intro name
      have here := synced.patterns name
      rw [Option.mem_def.mp held] at here
      simpa using here
    have length : (ps.delivered globMatches channel payload).length =
        1 + (subs.patterns.keys.filter fun pattern => globMatches pattern channel).length := by
      simp only [delivered, Option.mem_def.mp held, own, if_true, List.length_append, List.length_singleton, List.length_map]
    have alone : (ps.delivered globMatches channel payload).length = 1 ↔
        ∀ pattern, globMatches pattern channel = true → ps.onPattern pattern = [] := by
      rw [length, Nat.add_eq_left, List.length_eq_zero_iff, List.filter_eq_nil_iff]
      constructor
      · intro none_ pattern matched
        by_contra handled
        exact none_ pattern (AList.mem_keys.mp ((patterns pattern).mpr handled)) matched
      · intro none_ pattern member matched
        exact (patterns pattern).mp (AList.mem_keys.mpr member) (none_ pattern matched)
    simp only [silent, false_or]
    exact alone

theorem synced_heard_iff (synced : ps.Synced) :
    ps.AllHeard globMatches channel ↔ (globMatches "" channel = true → ps.onPattern "" = []) := by
  constructor
  · intro all matched
    by_contra handled
    exact (all "" matched handled).1 rfl
  · intro unnamed pattern matched handled
    refine ⟨?_, (synced.patterns pattern).mpr handled⟩
    rintro rfl
    exact handled (unnamed matched)

-- After any calls a message is handled once for each subscription exactly when its channel
-- has no handlers or one message is delivered, and all patterns that match are heard. As
-- long as Redis carries the calls out, this is when channels and patterns stay apart.
theorem published_handled_once_iff (actions : List Action) :
    (∀ seen ∈ Runs.visited step {} actions, ∀ globMatches channel payload,
      seen.HandledOnce globMatches channel payload ↔
        seen.Single globMatches channel payload ∧ seen.AllHeard globMatches channel) ∧
    (Runs.Meets step (fun _ => CarriedOut) {} actions → ∀ seen ∈ Runs.visited step {} actions, ∀ globMatches channel payload,
      seen.HandledOnce globMatches channel payload ↔ seen.Apart globMatches channel) := by
  refine ⟨fun seen _ => handled_once_iff seen, ?_⟩
  intro carriedOut seen passed globMatches channel payload
  have initial : ({} : RedisPubSub).Synced := by
    constructor <;> intro name <;> simp [onChannel, onPattern]
  have synced := Runs.visited_invariant step Synced (fun _ => CarriedOut) synced_step {} actions initial carriedOut seen passed
  rw [handled_once_iff, Apart, synced_single_iff seen globMatches channel payload synced, synced_heard_iff seen globMatches channel synced]

def overlapping : List Action :=
  [.subscribe (some 1) ["news.game"] true .ok, .psubscribe (some 2) ["news.*"] true .ok]

def startsWithNews (pattern channel : String) : Bool := pattern = "news.*" && channel = "news.game"

theorem overlapping_runs_twice :
    (overlapping.foldl step {}).runs startsWithNews "news.game" "hello" =
      [⟨.channel, 1, "news.game", "hello"⟩, ⟨.channel, 1, "news.game", "hello"⟩, ⟨.pattern "news.*", 2, "news.game", "hello"⟩] ∧
    ¬ (overlapping.foldl step {}).HandledOnce startsWithNews "news.game" "hello" := by
  decide +kernel

def topicsApart : List Action :=
  [.subscribe (some 1) ["chat"] true .ok, .psubscribe (some 2) ["news.*"] true .ok]

theorem topics_apart_handled_once :
    (topicsApart.foldl step {}).HandledOnce startsWithNews "chat" "hello" ∧
      (topicsApart.foldl step {}).HandledOnce startsWithNews "news.game" "hello" := by
  have once := (published_handled_once_iff topicsApart).2 (by decide) _ (Runs.last_visited step {} topicsApart)
  refine ⟨(once startsWithNews "chat" "hello").mpr ?_, (once startsWithNews "news.game" "hello").mpr ?_⟩
  · simp [Apart, startsWithNews]
  · exact ⟨.inl (by decide +kernel), fun matched => by simp [startsWithNews] at matched⟩

end Published

end MmoServer.Redis.RedisPubSub
