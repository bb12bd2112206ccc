import Mathlib.Tactic

set_option autoImplicit false

namespace Runs

section Partial

variable {S A : Type} (step : S → A → Option S) (allowed : S → A → Prop)

inductive Reached (start : S) : S → Prop where
  | start : Reached start start
  | next (state : S) (action : A) (after : S) (before : Reached start state) (meets : allowed state action)
      (taken : step state action = some after) : Reached start after

theorem reached_invariant (inv : S → Prop) (start state : S) (initial : inv start)
    (keeps : ∀ state action after, inv state → allowed state action → step state action = some after → inv after)
    (reached : Reached step allowed start state) : inv state := by
  induction reached with
  | start => exact initial
  | next state action after _ meets taken ih => exact keeps state action after ih meets taken

def run : S → List A → Option S
  | state, [] => some state
  | state, action :: rest => (step state action).bind fun after => run after rest

theorem run_append (state : S) (first second : List A) :
    run step state (first ++ second) = (run step state first).bind fun after => run step after second := by
  induction first generalizing state with
  | nil => rfl
  | cons action rest ih =>
    cases taken : step state action with
    | none => simp [run, taken]
    | some after => simp [run, taken, ih]

theorem run_invariant (inv : S → Prop) (state final : S) (actions : List A) (initial : inv state)
    (keeps : ∀ state action after, inv state → step state action = some after → inv after)
    (ran : run step state actions = some final) : inv final := by
  induction actions generalizing state with
  | nil =>
    cases ran
    exact initial
  | cons action rest ih =>
    obtain ⟨after, first, later⟩ := Option.bind_eq_some_iff.mp ran
    exact ih after (keeps state action after initial first) later

def RunMeets : S → List A → Prop
  | _, [] => True
  | state, action :: rest => allowed state action ∧ ∀ after ∈ step state action, RunMeets after rest

theorem run_meets_free (state : S) (actions : List A) : RunMeets step (fun _ _ => True) state actions := by
  induction actions generalizing state with
  | nil => trivial
  | cons action rest ih => exact ⟨trivial, fun after _ => ih after⟩

theorem run_meets_append (state : S) (first second : List A) :
    RunMeets step allowed state (first ++ second) ↔
      RunMeets step allowed state first ∧ ∀ middle ∈ run step state first, RunMeets step allowed middle second := by
  induction first generalizing state with
  | nil => simp [RunMeets, run]
  | cons action rest ih =>
    cases taken : step state action with
    | none => simp [RunMeets, run, taken]
    | some after => simp [RunMeets, run, taken, ih, and_assoc]

theorem run_meets_each {ι : Type} (items : List ι) (each : ι → S → A → Prop) (state : S) (actions : List A) :
    RunMeets step (fun state action => ∀ item ∈ items, each item state action) state actions ↔
      ∀ item ∈ items, RunMeets step (each item) state actions := by
  induction actions generalizing state with
  | nil => simp [RunMeets]
  | cons action rest ih =>
    simp only [RunMeets, ih]
    constructor
    · exact fun all item member => ⟨all.1 item member, fun after taken => all.2 after taken item member⟩
    · exact fun all => ⟨fun item member => (all item member).1, fun after taken item member => (all item member).2 after taken⟩

theorem run_iff_meets (good : S → Prop) (exact_ : ∀ state action after, step state action = some after →
      (good after ↔ good state ∧ allowed state action)) (state final : S) (actions : List A) (holds : good state)
    (ran : run step state actions = some final) : good final ↔ RunMeets step allowed state actions := by
  have both : good final ↔ good state ∧ RunMeets step allowed state actions := by
    clear holds
    induction actions generalizing state with
    | nil =>
      cases ran
      simp [RunMeets]
    | cons action rest ih =>
      obtain ⟨after, taken, later⟩ := Option.bind_eq_some_iff.mp ran
      simp only [ih after later, exact_ state action after taken, RunMeets, taken, Option.mem_some, forall_eq', and_assoc]
  rw [both]
  simp [holds]

theorem reached_of_run (start state final : S) (actions : List A) (before : Reached step allowed start state)
    (meets : RunMeets step allowed state actions) (taken : run step state actions = some final) :
    Reached step allowed start final := by
  induction actions generalizing state with
  | nil =>
    cases taken
    exact before
  | cons action rest ih =>
    obtain ⟨after, first, later⟩ := Option.bind_eq_some_iff.mp taken
    exact ih after (.next state action after before meets.1 first) (meets.2 after first) later

instance decidableRunMeets [∀ state action, Decidable (allowed state action)] :
    ∀ state actions, Decidable (RunMeets step allowed state actions)
  | _, [] => inferInstanceAs (Decidable True)
  | state, action :: rest =>
    have : ∀ after, Decidable (RunMeets step allowed after rest) := fun after => decidableRunMeets after rest
    inferInstanceAs (Decidable (allowed state action ∧ ∀ after ∈ step state action, RunMeets step allowed after rest))

end Partial

section Total

variable {S A : Type} (step : S → A → S)

def visited : S → List A → List S
  | state, [] => [state]
  | state, action :: rest => state :: visited (step state action) rest

def Meets (condition : S → A → Prop) : S → List A → Prop
  | _, [] => True
  | state, action :: rest => condition state action ∧ Meets condition (step state action) rest

theorem meets_free (state : S) (actions : List A) : Meets step (fun _ _ => True) state actions := by
  induction actions generalizing state with
  | nil => trivial
  | cons action rest ih => exact ⟨trivial, ih (step state action)⟩

theorem visited_invariant (inv : S → Prop) (condition : S → A → Prop)
    (keeps : ∀ state action, inv state → condition state action → inv (step state action)) (state : S) (actions : List A)
    (initial : inv state) (meets : Meets step condition state actions) : ∀ seen ∈ visited step state actions, inv seen := by
  induction actions generalizing state with
  | nil => simpa [visited] using initial
  | cons action rest ih =>
    rw [visited, List.forall_mem_cons]
    exact ⟨initial, ih (step state action) (keeps state action initial meets.1) meets.2⟩

instance decidableMeets (condition : S → A → Prop) [∀ state action, Decidable (condition state action)] :
    ∀ state actions, Decidable (Meets step condition state actions)
  | _, [] => inferInstanceAs (Decidable True)
  | state, action :: rest =>
    have := decidableMeets condition (step state action) rest
    inferInstanceAs (Decidable (condition state action ∧ Meets step condition (step state action) rest))

theorem visited_iff_meets (inv good : S → Prop) (condition : S → A → Prop)
    (keeps : ∀ state action, inv state → inv (step state action))
    (exact_ : ∀ state action, inv state → good state → (good (step state action) ↔ condition state action))
    (state : S) (actions : List A) (initial : inv state) (holds : good state) :
    (∀ seen ∈ visited step state actions, good seen) ↔ Meets step condition state actions := by
  induction actions generalizing state with
  | nil => simp [visited, Meets, holds]
  | cons action rest ih =>
    simp only [visited, Meets, List.forall_mem_cons, ← exact_ state action initial holds]
    constructor
    · rintro ⟨_, later⟩
      have next : good (step state action) := later _ (by cases rest <;> simp [visited])
      exact ⟨next, (ih _ (keeps state action initial) next).mp later⟩
    · rintro ⟨next, later⟩
      exact ⟨holds, (ih _ (keeps state action initial) next).mpr later⟩

def record {E : Type} (emit : S → A → List E) (state : S × List E) (action : A) : S × List E :=
  (step state.1 action, state.2 ++ emit state.1 action)

theorem last_visited (state : S) (actions : List A) : actions.foldl step state ∈ visited step state actions := by
  induction actions generalizing state with
  | nil => exact List.mem_singleton_self state
  | cons action rest ih => exact List.mem_cons_of_mem _ (ih (step state action))

theorem simulates {T : Type} (abstract : T → A → T) (related : S → T → Prop)
    (keeps : ∀ state spec action, related state spec → related (step state action) (abstract spec action)) (state : S) (spec : T)
    (actions : List A) (initial : related state spec) : related (actions.foldl step state) (actions.foldl abstract spec) := by
  induction actions generalizing state spec with
  | nil => exact initial
  | cons action rest ih => exact ih (step state action) (abstract spec action) (keeps state spec action initial)

end Total

end Runs
