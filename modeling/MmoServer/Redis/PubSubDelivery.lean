import MmoServer.Lib.Keyed
import MmoServer.Redis.PubSub

set_option autoImplicit false

namespace MmoServer.Redis.RedisPubSub

section Counts

variable (ps : RedisPubSub) (globMatches : String → String → Bool) (channel payload : String)

def expected : List HandlerRun :=
  ps.channelRuns channel payload ++
    (ps.patternHandlers.keys.filter fun pattern => globMatches pattern channel).flatMap (ps.patternRuns channel payload)

def HandledOnce : Prop := (ps.runs globMatches channel payload).Perm (ps.expected globMatches channel payload)

instance decidableHandledOnce : Decidable (ps.HandledOnce globMatches channel payload) :=
  inferInstanceAs (Decidable (List.Perm _ _))

def onChannel : List Nat := (ps.handlers.lookup channel).getD []

def onPattern (pattern : String) : List Nat := (ps.patternHandlers.lookup pattern).getD []

def Heard (pattern : String) : Prop := pattern ≠ "" ∧ ∃ subs ∈ ps.pubsub, pattern ∈ subs.patterns

instance decidableHeard (pattern : String) : Decidable (ps.Heard pattern) :=
  inferInstanceAs (Decidable (pattern ≠ "" ∧ ∃ subs ∈ ps.pubsub, pattern ∈ subs.patterns))

def called : List String := (ps.delivered globMatches channel payload).map Message.pattern

def heardRuns (pattern : String) : List HandlerRun := if pattern ≠ "" then ps.patternRuns channel payload pattern else []

theorem delivered_fields : ∀ msg ∈ ps.delivered globMatches channel payload, msg.channel = channel ∧ msg.payload = payload := by
  intro msg member
  rw [delivered] at member
  split at member
  · cases member
  · rcases List.mem_append.mp member with own | matched
    · split at own
      · rw [List.mem_singleton.mp own]
        exact ⟨rfl, rfl⟩
      · cases own
    · obtain ⟨pattern, -, rfl⟩ := List.mem_map.mp matched
      exact ⟨rfl, rfl⟩

theorem runs_called : ps.runs globMatches channel payload =
    (ps.called globMatches channel payload).flatMap fun pattern =>
      ps.channelRuns channel payload ++ ps.heardRuns channel payload pattern := by
  rw [runs, called, List.flatMap_map]
  apply List.flatMap_congr
  intro msg member
  obtain ⟨sameChannel, samePayload⟩ := delivered_fields ps globMatches channel payload msg member
  rw [handleMessage, heardRuns, sameChannel, samePayload]

variable (pattern : String) (run : HandlerRun)

theorem mem_heard_runs (member : run ∈ ps.heardRuns channel payload pattern) : run ∈ ps.patternRuns channel payload pattern := by
  rw [heardRuns] at member
  split at member
  · exact member
  · cases member

theorem pattern_source (member : run ∈ ps.patternRuns channel payload pattern) : run.source = .pattern pattern := by
  obtain ⟨handler, -, rfl⟩ := List.mem_map.mp member
  rfl

theorem channel_source (member : run ∈ ps.channelRuns channel payload) : run.source = .channel := by
  obtain ⟨handler, -, rfl⟩ := List.mem_map.mp member
  rfl

theorem called_heard_count (source : run.source = .pattern pattern) :
    ((ps.called globMatches channel payload).flatMap (ps.heardRuns channel payload)).count run =
      if globMatches pattern channel = true ∧ ps.Heard pattern then (ps.patternRuns channel payload pattern).count run else 0 := by
  have only : ∀ other, other ≠ pattern → run ∉ ps.heardRuns channel payload other := by
    intro other different member
    have same := pattern_source ps channel payload other run (mem_heard_runs ps channel payload other run member)
    exact different (Source.pattern.inj (same.symm.trans source))
  rw [called, delivered]
  cases held : ps.pubsub with
  | none =>
    rw [if_neg]
    · rfl
    · rintro ⟨-, -, subs, its, -⟩
      cases held.symm.trans its
  | some subs =>
    have silent : ps.heardRuns channel payload "" = [] := if_neg (not_not.mpr rfl)
    have own : ((if channel ∈ subs.channels then [(⟨channel, "", payload⟩ : Message)] else []).map Message.pattern).flatMap
        (ps.heardRuns channel payload) = [] := by
      split
      · simp [silent]
      · rfl
    have heard : ps.Heard pattern ↔ pattern ≠ "" ∧ pattern ∈ subs.patterns := by
      simp [Heard, held]
    simp only [List.map_append, List.flatMap_append, own, List.nil_append, List.map_map]
    have patterns : (subs.patterns.keys.filter fun other => globMatches other channel).map
        (Message.pattern ∘ fun other => (⟨channel, other, payload⟩ : Message)) =
        subs.patterns.keys.filter fun other => globMatches other channel := List.map_id _
    rw [patterns, Keyed.count_flat_map_only _ _ (subs.patterns.keys_nodup.filter _) pattern run only]
    by_cases named : pattern = ""
    · subst named
      simp [silent, heard]
    · simp [heardRuns, heard, named, List.mem_filter, AList.mem_keys, and_comm]

theorem runs_count : (ps.runs globMatches channel payload).count run =
    (ps.delivered globMatches channel payload).length * (ps.channelRuns channel payload).count run +
      ((ps.called globMatches channel payload).flatMap (ps.heardRuns channel payload)).count run := by
  rw [runs_called, Keyed.count_flat_map_append, called, List.length_map]

theorem expected_pattern_count (source : run.source = .pattern pattern) :
    ((ps.patternHandlers.keys.filter fun pattern => globMatches pattern channel).flatMap (ps.patternRuns channel payload)).count run =
      if globMatches pattern channel = true then (ps.patternRuns channel payload pattern).count run else 0 := by
  have only : ∀ other, other ≠ pattern → run ∉ ps.patternRuns channel payload other := by
    intro other different member
    exact different (Source.pattern.inj ((pattern_source ps channel payload other run member).symm.trans source))
  rw [Keyed.count_flat_map_only _ _ (ps.patternHandlers.keys_nodup.filter _) pattern run only]
  by_cases known : pattern ∈ ps.patternHandlers
  · simp [List.mem_filter, AList.mem_keys.mp known]
  · have silent : ps.patternRuns channel payload pattern = [] := by
      rw [patternRuns, AList.lookup_eq_none.mpr known]
      rfl
    simp [silent]

end Counts

section Delivery

variable (ps : RedisPubSub) (globMatches : String → String → Bool) (channel payload : String)

theorem channel_count (run : HandlerRun) (source : run.source = .channel) :
    ((ps.called globMatches channel payload).flatMap (ps.heardRuns channel payload)).count run = 0 ∧
    ((ps.patternHandlers.keys.filter fun pattern => globMatches pattern channel).flatMap (ps.patternRuns channel payload)).count run = 0 := by
  have elsewhere : ∀ pattern, run ∉ ps.patternRuns channel payload pattern := by
    intro pattern member
    cases source.symm.trans (pattern_source ps channel payload pattern run member)
  constructor
  · rw [List.count_eq_zero, List.mem_flatMap]
    rintro ⟨pattern, -, member⟩
    exact elsewhere pattern (mem_heard_runs ps channel payload pattern run member)
  · rw [List.count_eq_zero, List.mem_flatMap]
    rintro ⟨pattern, -, member⟩
    exact elsewhere pattern member

theorem pattern_channel_count (pattern : String) (run : HandlerRun) (source : run.source = .pattern pattern) :
    (ps.channelRuns channel payload).count run = 0 := by
  rw [List.count_eq_zero]
  intro member
  cases source.symm.trans (channel_source ps channel payload run member)

def Single : Prop := ps.onChannel channel = [] ∨ (ps.delivered globMatches channel payload).length = 1

def AllHeard : Prop := ∀ pattern, globMatches pattern channel = true → ps.onPattern pattern ≠ [] → ps.Heard pattern

theorem channel_counts_iff :
    (∀ run : HandlerRun, run.source = .channel →
      (ps.runs globMatches channel payload).count run = (ps.expected globMatches channel payload).count run) ↔
      ps.Single globMatches channel payload := by
  constructor
  · intro same
    rw [Single]
    by_contra both
    rw [not_or] at both
    obtain ⟨handler, member⟩ := List.exists_mem_of_ne_nil _ both.1
    have counts := same ⟨.channel, handler, channel, payload⟩ rfl
    obtain ⟨none_, none_'⟩ := channel_count ps globMatches channel payload ⟨.channel, handler, channel, payload⟩ rfl
    have present : 0 < (ps.channelRuns channel payload).count ⟨.channel, handler, channel, payload⟩ :=
      List.count_pos_iff.mpr (List.mem_map.mpr ⟨handler, member, rfl⟩)
    rw [runs_count, expected, List.count_append, none_, none_', Nat.add_zero, Nat.add_zero] at counts
    exact both.2 (Nat.eq_of_mul_eq_mul_right present (counts.trans (Nat.one_mul _).symm))
  · rintro single run source
    obtain ⟨none_, none_'⟩ := channel_count ps globMatches channel payload run source
    rw [runs_count, expected, List.count_append, none_, none_', Nat.add_zero, Nat.add_zero]
    rcases single with silent | once
    · have empty : ps.channelRuns channel payload = [] := List.map_eq_nil_iff.mpr silent
      rw [empty, List.count_nil, Nat.mul_zero]
    · rw [once, Nat.one_mul]

theorem pattern_counts_iff :
    (∀ (run : HandlerRun) (pattern : String), run.source = .pattern pattern →
      (ps.runs globMatches channel payload).count run = (ps.expected globMatches channel payload).count run) ↔
      ps.AllHeard globMatches channel := by
  have counts : ∀ (run : HandlerRun) (pattern : String), run.source = .pattern pattern →
      ((ps.runs globMatches channel payload).count run = (ps.expected globMatches channel payload).count run ↔
        (globMatches pattern channel = true → ¬ ps.Heard pattern → (ps.patternRuns channel payload pattern).count run = 0)) := by
    intro run pattern source
    rw [runs_count, expected, List.count_append, pattern_channel_count ps channel payload pattern run source, Nat.mul_zero,
      called_heard_count ps globMatches channel payload pattern run source,
      expected_pattern_count ps globMatches channel payload pattern run source, Nat.zero_add, Nat.zero_add]
    by_cases matched : globMatches pattern channel = true
    · by_cases heard : ps.Heard pattern
      · simp [matched, heard]
      · simp only [matched, heard, and_false, if_false, if_true, not_false_eq_true, forall_const]
        exact eq_comm
    · simp [matched]
  constructor
  · intro same pattern matched handled
    obtain ⟨handler, member⟩ := List.exists_mem_of_ne_nil _ handled
    by_contra unheard
    have absent := (counts ⟨.pattern pattern, handler, channel, payload⟩ pattern rfl).mp (same _ pattern rfl) matched unheard
    rw [List.count_eq_zero] at absent
    exact absent (List.mem_map.mpr ⟨handler, member, rfl⟩)
  · intro heard run pattern source
    rw [counts run pattern source]
    intro matched unheard
    have silent : ps.onPattern pattern = [] := by
      by_contra handled
      exact unheard (heard pattern matched handled)
    have empty : ps.patternRuns channel payload pattern = [] := List.map_eq_nil_iff.mpr silent
    rw [empty, List.count_nil]

theorem handled_once_iff :
    ps.HandledOnce globMatches channel payload ↔ ps.Single globMatches channel payload ∧ ps.AllHeard globMatches channel := by
  rw [HandledOnce, List.perm_iff_count, ← channel_counts_iff, ← pattern_counts_iff ps globMatches channel payload]
  constructor
  · exact fun same => ⟨fun run _ => same run, fun run _ _ => same run⟩
  · rintro ⟨own, others⟩ run
    cases source : run.source with
    | channel => exact own run source
    | pattern pattern => exact others run pattern source

end Delivery

end MmoServer.Redis.RedisPubSub
