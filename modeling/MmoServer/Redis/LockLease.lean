import MmoServer.Redis.LockOwnership

set_option autoImplicit false

namespace MmoServer.Redis

-- A lock with its renewal loop, while nothing stops the loop and others use the store.
-- The ticker starts when the answer to SetNX is there, and Redis runs a refresh some time
-- after its tick. The latency bounds both together by a sixth of the timeout.
structure Acquisition where
  client : LockConfig
  renewInterval : Int
  key : String
  token : String
  timeout : Int
  latency : Int
  renewing : client.autoRenew = true
  lasting : millisecond ≤ client.timeoutOf timeout
  prompt : 0 ≤ latency ∧ 6 * latency ≤ client.timeoutOf timeout

structure Lease where
  store : Store
  -- The last refresh, and how many up to it have failed in a row.
  ticked : Int := store.now
  failed : Nat := 0
  running : Bool := true

inductive LeaseAction where
  | elapse (ms : Nat)
  | tick (fault : Option Fault)
  | others (after : Store)

theorem Store.now_pexpire (s : Store) (key : String) (ms : Int) : (s.pexpire key ms).now = s.now := by
  rw [pexpire]
  repeat' split
  all_goals rfl

namespace Acquisition

variable (a : Acquisition) (l : Lease)

def lockKey : String := a.client.formatKey a.key

def lifetime : Int := a.client.timeoutOf a.timeout

-- The interval of startAutoRenew.
def interval : Int :=
  if a.renewInterval ≤ 0 ∨ a.lifetime.tdiv 3 ≤ a.renewInterval then a.lifetime.tdiv 3 else a.renewInterval

def period : Int := a.interval + a.latency

def step (l : Lease) : LeaseAction → Lease
  | .elapse ms => { l with store := l.store.elapse ms }
  | .others after => { l with store := after }
  | .tick fault =>
    if l.running = true then
      match a.client.refresh fault a.key a.token a.lifetime l.store with
      | (.ok true, store) => { l with store, ticked := l.store.now, failed := 0 }
      | (.ok false, store) => { l with store, ticked := l.store.now, running := false }
      | (.error _, store) => { l with store, ticked := l.store.now, failed := l.failed + 1 }
    else l

-- A refresh follows the one before within the interval and the latency, no two in a row
-- fail, and nobody else touches the lock.
def Allows (l : Lease) : LeaseAction → Prop
  | .elapse ms => millisecond * (l.store.now + ms - l.ticked) ≤ a.period
  | .tick fault => fault = none ∨ l.failed = 0
  | .others after => after.get a.lockKey = l.store.get a.lockKey ∧ after.now = l.store.now

def ms : Int := a.client.timeoutMs a.lifetime

-- The deadline is at most the failed refreshes behind one that the last would have set.
def Covers (deadline : Int) : Prop := millisecond * (l.ticked + a.ms - deadline) ≤ l.failed * a.period

structure Renewed : Prop where
  running : l.running = true
  few : l.failed ≤ 1
  timely : millisecond * (l.store.now - l.ticked) ≤ a.period
  held : ∃ deadline, l.store.get a.lockKey = some ⟨a.token, some deadline⟩ ∧ a.Covers l deadline

theorem ms_eq : a.ms = a.lifetime / 1000000 ∧ 1 ≤ a.ms := by
  have lasting : 1000000 ≤ a.lifetime := a.lasting
  have same : a.ms = a.lifetime / 1000000 := by
    rw [ms, LockConfig.timeoutMs, LockConfig.timeoutOf, if_neg (by omega)]
    exact Int.tdiv_eq_ediv_of_nonneg (by omega)
  omega

theorem period_half : 0 ≤ a.period ∧ 2 * a.period ≤ a.lifetime := by
  have lasting : 1000000 ≤ a.lifetime := a.lasting
  have prompt : 0 ≤ a.latency ∧ 6 * a.latency ≤ a.lifetime := a.prompt
  rw [period, interval, Int.tdiv_eq_ediv_of_nonneg (by omega)]
  split <;> omega

-- A key outlives two periods.
theorem live_until (deadline later : Int) (few : l.failed ≤ 1) (timely : millisecond * (later - l.ticked) ≤ a.period)
    (covers : a.Covers l deadline) : later ≤ deadline := by
  obtain ⟨least, half⟩ := a.period_half
  have most : (l.failed : Int) * a.period ≤ 1 * a.period := Int.mul_le_mul_of_nonneg_right (by omega) least
  have exact_ := a.ms_eq.1
  rw [Covers, millisecond] at covers
  rw [millisecond] at timely
  omega

theorem refresh_held (deadline : Int) (found : l.store.get a.lockKey = some ⟨a.token, some deadline⟩) (fault : Option Fault) :
    a.client.refresh fault a.key a.token a.lifetime l.store =
      match fault with
      | none => (.ok true, l.store.pexpire a.lockKey a.ms)
      | some fault => (.error ("刷新锁失败: " ++ fault.text), if fault.executed = true then l.store.pexpire a.lockKey a.ms else l.store) := by
  have script : l.store.refreshScript (a.client.formatKey a.key) a.token (a.client.timeoutMs a.lifetime) =
      (.ok 1, l.store.pexpire a.lockKey a.ms) := by
    rw [← lockKey, Store.refreshScript, Store.ownerScript, found]
    exact if_pos rfl
  rw [LockConfig.refresh, evalScript]
  cases fault with
  | none => simp only [perform, script]; rfl
  | some fault => simp only [perform, script]

theorem renewed_tick (renewed : a.Renewed l) (fault : Option Fault) (allowed : a.Allows l (.tick fault)) :
    a.Renewed (a.step l (.tick fault)) := by
  obtain ⟨deadline, found, covers⟩ := renewed.held
  have least := a.period_half.1
  have long := a.ms_eq.2
  have again := Store.get_pexpire l.store a.lockKey a.ms _ found
  rw [if_neg (by omega)] at again
  have now := Store.now_pexpire l.store a.lockKey a.ms
  rw [step, if_pos renewed.running, a.refresh_held l deadline found]
  cases fault with
  | none => exact ⟨renewed.running, by simp, by simpa [now] using least, _, again, by simp [Covers]⟩
  | some fault =>
    have few : l.failed + 1 ≤ 1 := by simpa [Allows] using allowed
    have longer : ((l.failed + 1 : Nat) : Int) * a.period = l.failed * a.period + a.period := by
      rw [Nat.cast_add_one, Int.add_mul, Int.one_mul]
    by_cases ran : fault.executed = true
    · simp only [if_pos ran]
      refine ⟨renewed.running, few, by simpa [now] using least, _, again, ?_⟩
      simp only [Covers, Int.sub_self, Int.mul_zero]
      exact Int.mul_nonneg (Int.natCast_nonneg _) least
    · simp only [if_neg ran]
      refine ⟨renewed.running, few, by simpa using least, deadline, found, ?_⟩
      have timely := renewed.timely
      simp only [Covers, longer, millisecond] at covers timely ⊢
      omega

theorem renewed_step (renewed : a.Renewed l) (action : LeaseAction) (allowed : a.Allows l action) : a.Renewed (a.step l action) := by
  obtain ⟨deadline, found, covers⟩ := renewed.held
  cases action with
  | tick fault => exact a.renewed_tick l renewed fault allowed
  | elapse ms =>
    have live := a.live_until l deadline (l.store.now + ms) renewed.few allowed covers
    have stored := (Option.filter_eq_some_iff.mp found).1
    refine ⟨renewed.running, renewed.few, allowed, deadline, Option.filter_eq_some_iff.mpr ⟨stored, ?_⟩, covers⟩
    exact decide_eq_true live
  | others after =>
    obtain ⟨same, now⟩ := allowed
    exact ⟨renewed.running, renewed.few, by simpa [step, now] using renewed.timely, deadline, same.trans found, covers⟩

theorem acquired_renewed (random : Random) (before acquired : Store)
    (ok : a.client.tryAcquire random none a.key a.timeout before = (.ok (some a.token), acquired)) : a.Renewed { store := acquired } := by
  have lasting : 1000000 ≤ a.lifetime := a.lasting
  obtain ⟨same, long⟩ := a.ms_eq
  have life : Store.lifetime (a.client.timeoutOf a.timeout) = .ok (some a.ms) := by
    have whole : (if 0 < a.lifetime ∧ a.lifetime < millisecond then 1 else a.lifetime.tdiv millisecond) = a.ms := by
      rw [millisecond, if_neg (by omega), Int.tdiv_eq_ediv_of_nonneg (by omega), same]
    rw [← lifetime, Store.lifetime, if_neg (by omega), whole]
    exact if_neg (by omega)
  cases made : generateToken random with
  | error err => simp [LockConfig.tryAcquire, made] at ok
  | ok token =>
    cases taken : before.get (a.client.formatKey a.key) with
    | some entry => simp [LockConfig.tryAcquire, made, perform, Store.setNX, life, taken] at ok
    | none =>
      simp only [LockConfig.tryAcquire, made, perform, Store.setNX, life, taken, Prod.mk.injEq, Except.ok.injEq, Option.some_inj] at ok
      obtain ⟨rfl, rfl⟩ := ok
      refine ⟨rfl, by simp, by simpa using a.period_half.1, before.now + a.ms, ?_, by simp [Covers, Store.put]⟩
      exact Store.get_put_live before _ _ (decide_eq_true (Int.le_add_of_nonneg_right (by omega)))

theorem default_lasting : millisecond ≤ defaultLockConfig.timeoutOf 0 := by decide

theorem default_prompt : 0 ≤ 5000 * millisecond ∧ 6 * (5000 * millisecond) ≤ defaultLockConfig.timeoutOf 0 := by decide

def worldLock : Acquisition :=
  ⟨defaultLockConfig, 10000 * millisecond, "world", hexText (List.replicate 16 1), 0, 5000 * millisecond, rfl, default_lasting, default_prompt⟩

-- A refresh fails as late as it may, and the next one comes at the last moment.
def lastMoment : List LeaseAction := [.elapse 15000, .tick (some ⟨"i/o timeout", false⟩), .elapse 15000, .tick none]

end Acquisition

end MmoServer.Redis
