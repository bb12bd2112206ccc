import Mathlib.Data.List.Basic
import Mathlib.Tactic

set_option autoImplicit false

namespace History

-- The latest event of a key in a history that grows to the right.
variable {α K : Type} [DecidableEq K] (key : α → K)

def latest (sought : K) (events : List α) : Option α := (events.filter fun event => key event = sought).getLast?

variable (sought : K) (events : List α) (first second : List α) (event : α)

@[simp] theorem latest_nil : latest key sought [] = none := rfl

theorem latest_append : latest key sought (first ++ second) = (latest key sought second).or (latest key sought first) := by
  rw [latest, List.filter_append, List.getLast?_append, latest, latest]

theorem latest_concat :
    latest key sought (events ++ [event]) = if key event = sought then some event else latest key sought events := by
  rw [latest_append]
  by_cases own : key event = sought <;> simp [latest, own]

theorem latest_cons (events : List α) :
    latest key sought (event :: events) = (latest key sought events).or (if key event = sought then some event else none) := by
  rw [← List.singleton_append, latest_append]
  by_cases own : key event = sought <;> simp [latest, own]

theorem latest_eq_none : latest key sought events = none ↔ ∀ event ∈ events, key event ≠ sought := by
  rw [latest, List.getLast?_eq_none_iff, List.filter_eq_nil_iff]
  simp only [decide_eq_true_eq, ne_eq]

theorem latest_mem (found : latest key sought events = some event) : event ∈ events ∧ key event = sought := by
  have member := List.mem_of_getLast? found
  simpa using List.mem_filter.mp member

theorem latest_of_mem (member : event ∈ events) (own : key event = sought) : ∃ last, latest key sought events = some last := by
  cases found : latest key sought events with
  | some last => exact ⟨last, rfl⟩
  | none => exact absurd own ((latest_eq_none key sought events).mp found event member)

theorem latest_unique (member : event ∈ events) (only : ∀ other ∈ events, key other = key event → other = event) :
    latest key (key event) events = some event := by
  obtain ⟨last, found⟩ := latest_of_mem key (key event) events event member rfl
  obtain ⟨inside, own⟩ := latest_mem key (key event) events last found
  rw [found, only last inside own]

theorem latest_append_absent (absent : ∀ event ∈ second, key event ≠ sought) :
    latest key sought (first ++ second) = latest key sought first := by
  rw [latest_append, (latest_eq_none key sought second).mpr absent, Option.none_or]

theorem latest_append_only (member : event ∈ second) (only : ∀ other ∈ second, key other = key event → other = event) :
    latest key (key event) (first ++ second) = some event := by
  rw [latest_append, latest_unique key second event member only, Option.some_or]

theorem latest_congr (same : ∀ event, event ∈ first ↔ event ∈ second)
    (only : ∀ one ∈ second, ∀ two ∈ second, key one = key two → one = two) : latest key sought first = latest key sought second := by
  cases found : latest key sought second with
  | none =>
    rw [latest_eq_none] at found ⊢
    exact fun event member => found event ((same event).mp member)
  | some last =>
    obtain ⟨member, rfl⟩ := latest_mem key sought second last found
    exact latest_unique key first last ((same last).mpr member) fun other also equal =>
      only other ((same other).mp also) last member equal

theorem count_le_one_iff {β : Type} (test : β → Bool) (events : List β) :
    events.countP test ≤ 1 ↔ events.Pairwise fun first second => ¬ (test first = true ∧ test second = true) := by
  induction events with
  | nil => simp
  | cons event events ih =>
    rw [List.pairwise_cons, ← ih, List.countP_cons]
    by_cases hit : test event = true
    · have none_left : events.countP test + 1 ≤ 1 ↔ ∀ later ∈ events, ¬ test later = true := by
        rw [← List.countP_eq_zero]
        omega
      simp only [hit, if_true, true_and, none_left]
      refine ⟨fun none => ⟨none, ?_⟩, And.left⟩
      rw [List.countP_eq_zero.mpr none]
      decide
    · simp [hit]

end History
