import MmoServer.Redis.PubSubOverlap

set_option autoImplicit false

namespace MmoServer.Redis.RedisPubSub

inductive Kind where
  | channels
  | patterns
deriving DecidableEq, Repr

structure Attempt where
  supported : Bool := true
  outcome : Outcome := .ok
deriving DecidableEq, Repr

section Attempts

variable (kind : Kind) (handler : Option Nat) (names : List String)

def enterAs (attempt : Attempt) (ps : RedisPubSub) : Except String Unit × RedisPubSub :=
  match kind with
  | .channels => ps.subscribe handler names attempt.supported attempt.outcome
  | .patterns => ps.psubscribe handler names attempt.supported attempt.outcome

def table (ps : RedisPubSub) : GoMap String (List Nat) :=
  match kind with
  | .channels => ps.handlers
  | .patterns => ps.patternHandlers

def registrations (id : Nat) (name : String) (ps : RedisPubSub) : Nat := (((table kind ps).lookup name).getD []).count id

structure SameTables (before after : RedisPubSub) : Prop where
  handlers : after.handlers = before.handlers
  patternHandlers : after.patternHandlers = before.patternHandlers
  activeChannels : after.activeChannels = before.activeChannels

def Atomic (attempt : Attempt) (ps : RedisPubSub) : Prop :=
  ∀ text, (enterAs kind handler names attempt ps).1 = .error text → SameTables ps (enterAs kind handler names attempt ps).2

def RefusedByRedis (attempt : Attempt) (ps : RedisPubSub) : Prop :=
  handler.isSome ∧ (ps.connect attempt.supported).isSome ∧ attempt.outcome ≠ .ok

instance decidableRefusedByRedis (attempt : Attempt) (ps : RedisPubSub) : Decidable (RefusedByRedis handler attempt ps) :=
  inferInstanceAs (Decidable (_ ∧ _ ∧ _))

def retry : List Attempt → RedisPubSub → Option RedisPubSub
  | [], _ => none
  | attempt :: rest, ps =>
    match enterAs kind handler names attempt ps with
    | (.ok (), after) => some after
    | (.error _, after) => retry rest after

def refusals : List Attempt → RedisPubSub → Nat
  | [], _ => 0
  | attempt :: rest, ps =>
    match enterAs kind handler names attempt ps with
    | (.ok (), _) => 0
    | (.error _, after) => (if RefusedByRedis handler attempt ps then 1 else 0) + refusals rest after

end Attempts

section Effects

variable (kind : Kind) (names : List String) (attempt : Attempt) (ps : RedisPubSub)

theorem enter_early (handler : Option Nat) (early : handler = none ∨ ps.connect attempt.supported = none) :
    ∃ text, enterAs kind handler names attempt ps = (.error text, ps) := by
  have refused : ∀ noNames failure register change,
      ∃ text, ps.enter noNames failure handler names attempt.supported attempt.outcome register change = (.error text, ps) := by
    intro noNames failure register change
    unfold enter
    split
    · exact ⟨_, rfl⟩
    · split
      · exact ⟨_, rfl⟩
      · rcases early with none_ | none_
        · cases none_
        · rw [none_]
          exact ⟨_, rfl⟩
  cases kind with
  | channels => exact refused _ _ _ _
  | patterns => exact refused _ _ _ _

theorem enter_registers (id : Nat) (some_ : names ≠ []) (connected : RedisPubSub) (found : ps.connect attempt.supported = some connected) :
    table kind (enterAs kind (some id) names attempt ps).2 = addHandler id names (table kind ps) ∧
      ((enterAs kind (some id) names attempt ps).1 = .ok () ↔ attempt.outcome = .ok) := by
  obtain ⟨handlers, patternHandlers, -⟩ := connect_tables ps attempt.supported connected found
  cases kind with
  | channels => simp only [enterAs, subscribe, enter, if_neg some_, found, table, ask_handlers, ask_ok_iff, handlers, and_self]
  | patterns =>
    simp only [enterAs, psubscribe, enter, if_neg some_, found, table, ask_pattern_handlers, ask_ok_iff, patternHandlers, and_self]

theorem registrations_added (id : Nat) (name : String) (after : RedisPubSub) (added : table kind after = addHandler id names (table kind ps)) :
    registrations kind id name after = registrations kind id name ps + names.count name := by
  rw [registrations, registrations, added, add_handler_lookup, List.count_append, List.count_replicate_self]

theorem same_table (after : RedisPubSub) (same : SameTables ps after) : table kind after = table kind ps := by
  cases kind with
  | channels => exact same.handlers
  | patterns => exact same.patternHandlers

theorem atomic_iff (handler : Option Nat) (some_ : names ≠ []) :
    Atomic kind handler names attempt ps ↔ ¬RefusedByRedis handler attempt ps := by
  constructor
  · rintro atomic ⟨called, reached, failed⟩
    obtain ⟨id, rfl⟩ := Option.isSome_iff_exists.mp called
    obtain ⟨connected, found⟩ := Option.isSome_iff_exists.mp reached
    obtain ⟨added, answer⟩ := enter_registers kind names attempt ps id some_ connected found
    cases result : (enterAs kind (some id) names attempt ps).1 with
    | ok => exact failed (answer.mp result)
    | error text =>
      obtain ⟨name, member⟩ := List.exists_mem_of_ne_nil names some_
      have more := registrations_added kind names ps id name _ added
      rw [registrations, registrations, same_table kind ps _ (atomic text result)] at more
      have once := List.count_pos_iff.mpr member
      omega
  · intro accepted text error
    have early : handler = none ∨ ps.connect attempt.supported = none := by
      by_contra late
      rw [not_or] at late
      obtain ⟨id, rfl⟩ := Option.ne_none_iff_exists'.mp late.1
      obtain ⟨connected, found⟩ := Option.ne_none_iff_exists'.mp late.2
      have answered : attempt.outcome = .ok := by
        by_contra failed
        exact accepted ⟨rfl, by rw [found]; rfl, failed⟩
      rw [(enter_registers kind names attempt ps id some_ connected found).2.mpr answered] at error
      cases error
    obtain ⟨_, unchanged⟩ := enter_early kind names attempt ps handler early
    rw [unchanged]
    exact ⟨rfl, rfl, rfl⟩

end Effects

section Retries

variable (kind : Kind) (id : Nat) (names : List String)

theorem retry_registrations (some_ : names ≠ []) (attempts : List Attempt) (ps last : RedisPubSub) (name : String)
    (succeeds : retry kind (some id) names attempts ps = some last) :
    registrations kind id name last =
      registrations kind id name ps + (refusals kind (some id) names attempts ps + 1) * names.count name := by
  induction attempts generalizing ps with
  | nil => cases succeeds
  | cons attempt rest ih =>
    rw [retry] at succeeds
    rw [refusals]
    cases found : ps.connect attempt.supported with
    | none =>
      have accepted : ¬RefusedByRedis (some id) attempt ps := by simp [RefusedByRedis, found]
      obtain ⟨text, unchanged⟩ := enter_early kind names attempt ps (some id) (.inr found)
      simp only [unchanged] at succeeds ⊢
      rw [ih ps succeeds, if_neg accepted, Nat.zero_add]
    | some connected =>
      obtain ⟨added, answer⟩ := enter_registers kind names attempt ps id some_ connected found
      have more := registrations_added kind names ps id name _ added
      generalize enterAs kind (some id) names attempt ps = call at succeeds answer more ⊢
      obtain ⟨result, after⟩ := call
      cases result with
      | ok =>
        cases succeeds
        simp only [more, Nat.zero_add, Nat.one_mul]
      | error text =>
        have failed : attempt.outcome ≠ .ok := fun answered => nomatch answer.mpr answered
        have refused : RefusedByRedis (some id) attempt ps := ⟨rfl, by rw [found]; rfl, failed⟩
        rw [if_pos refused, ih after succeeds, more]
        ring

theorem once_each_iff (some_ : names ≠ []) (refused : Nat) :
    (∀ name ∈ names, (refused + 1) * names.count name = 1) ↔ names.Nodup ∧ refused = 0 := by
  constructor
  · intro once
    obtain ⟨name, member⟩ := List.exists_mem_of_ne_nil names some_
    refine ⟨List.nodup_iff_count_eq_one.mpr fun other its => Nat.eq_one_of_mul_eq_one_left (once other its), ?_⟩
    have none_ := Nat.eq_one_of_mul_eq_one_right (once name member)
    omega
  · rintro ⟨distinct, rfl⟩ name member
    rw [List.nodup_iff_count_eq_one.mp distinct name member]

end Retries

-- A call that fails leaves the tables as they were exactly when it fails before Redis is
-- asked. A caller that retries is registered once per name exactly when Redis failed none
-- of its calls and no name is given twice.
theorem subscribing_atomic_iff (kind : Kind) (ps : RedisPubSub) (handler : Option Nat) (names : List String) (some_ : names ≠ []) :
    (∀ attempt, Atomic kind handler names attempt ps ↔ ¬RefusedByRedis handler attempt ps) ∧
      ∀ id ∈ handler, ∀ attempts last, retry kind handler names attempts ps = some last →
        ((∀ name ∈ names, registrations kind id name last = registrations kind id name ps + 1) ↔
          names.Nodup ∧ refusals kind handler names attempts ps = 0) := by
  refine ⟨fun attempt => atomic_iff kind names attempt ps handler some_, ?_⟩
  intro id its attempts last succeeds
  obtain rfl : handler = some id := its
  rw [← once_each_iff names some_]
  refine forall₂_congr fun name _ => ?_
  rw [retry_registrations kind id names some_ attempts ps last name succeeds, Nat.add_left_cancel_iff]

theorem late_client_registers_once :
    ∃ last, retry .patterns (some 7) ["news.*", "chat"] [⟨false, .ok⟩, ⟨false, .ok⟩, ⟨true, .ok⟩] {} = some last ∧
      ∀ name ∈ ["news.*", "chat"], registrations .patterns 7 name last = registrations .patterns 7 name {} + 1 := by
  have ends : (retry .patterns (some 7) ["news.*", "chat"] [⟨false, .ok⟩, ⟨false, .ok⟩, ⟨true, .ok⟩] {}).isSome = true := by
    decide +kernel
  obtain ⟨last, succeeds⟩ := Option.isSome_iff_exists.mp ends
  have once := (subscribing_atomic_iff .patterns {} (some 7) ["news.*", "chat"] (by decide)).2 7 rfl _ last succeeds
  exact ⟨last, succeeds, once.mpr (by decide +kernel)⟩

theorem failed_call_registers :
    let lost : Attempt := ⟨true, .failed "i/o timeout" false⟩
    (enterAs .channels (some 7) ["chat"] lost {}).1 = .error "订阅频道失败: i/o timeout" ∧
      (enterAs .channels (some 7) ["chat"] lost {}).2.activeChannels.keys = ["chat"] ∧
      ((retry .channels (some 7) ["chat"] [lost, ⟨true, .ok⟩] {}).map fun last =>
        (registrations .channels 7 "chat" last, last.runs (fun _ _ => false) "chat" "hello")) =
        some (2, [⟨.channel, 7, "chat", "hello"⟩, ⟨.channel, 7, "chat", "hello"⟩]) ∧
      ((retry .channels (some 7) ["chat", "chat"] [⟨true, .ok⟩] {}).map (registrations .channels 7 "chat")) = some 2 := by
  decide +kernel

end MmoServer.Redis.RedisPubSub
