import MmoServer.Redis.Cache

set_option autoImplicit false

namespace MmoServer.Redis

-- Durations are in nanoseconds, the clock of Redis runs in milliseconds.
def millisecond : Int := 1000000

structure Held where
  token : String
  -- None for a key without an expiry.
  deadline : Option Int
deriving DecidableEq, Repr

def Held.live (now : Int) (held : Held) : Bool := held.deadline.all fun deadline => now ≤ deadline

structure Store where
  now : Int
  keys : GoMap String Held

namespace Store

def get (key : String) (s : Store) : Option Held := (s.keys.lookup key).filter fun held => held.live s.now

def put (key : String) (held : Held) (s : Store) : Store := { s with keys := s.keys.insert key held }

def del (key : String) (s : Store) : Store := { s with keys := s.keys.erase key }

def elapse (ms : Nat) (s : Store) : Store := { s with now := s.now + ms }

-- The expiry that SetNX of the client sends: none for 0 and for KeepTTL, else whole
-- milliseconds, at least one.
def lifetime (expiration : Int) : Except String (Option Int) :=
  if expiration = 0 ∨ expiration = -1 then .ok none
  else
    let ms := if 0 < expiration ∧ expiration < millisecond then 1 else expiration.tdiv millisecond
    if ms ≤ 0 then .error "ERR invalid expire time in 'set' command" else .ok (some ms)

def setNX (key token : String) (expiration : Int) (s : Store) : Except String Bool × Store :=
  match lifetime expiration with
  | .error err => (.error err, s)
  | .ok ms =>
    match s.get key with
    | some _ => (.ok false, s)
    | none => (.ok true, s.put key ⟨token, ms.map fun ms => s.now + ms⟩)

def pexpire (key : String) (ms : Int) (s : Store) : Store :=
  if ms ≤ 0 then s.del key
  else
    match s.get key with
    | some held => s.put key { held with deadline := some (s.now + ms) }
    | none => s

-- The scripts of Release and Refresh: a command that runs if the token matches.
def ownerScript (key token : String) (command : Store → Store) (s : Store) : Except String Int × Store :=
  match s.get key with
  | some held => if held.token = token then (.ok 1, command s) else (.ok 0, s)
  | none => (.ok 0, s)

def releaseScript (key token : String) (s : Store) : Except String Int × Store := s.ownerScript key token (del key)

def refreshScript (key token : String) (ms : Int) (s : Store) : Except String Int × Store := s.ownerScript key token (pexpire key ms)

end Store

def perform {α : Type} (fault : Option Fault) (command : Store → Except String α × Store) (s : Store) : Except String α × Store :=
  match fault with
  | none => command s
  | some fault => (.error fault.text, if fault.executed = true then (command s).2 else s)

def evalScript (failure : String) (fault : Option Fault) (script : Store → Except String Int × Store) (s : Store) :
    Except String Bool × Store :=
  match perform fault script s with
  | (.error err, s) => (.error (failure ++ err), s)
  | (.ok result, s) => (.ok (result == 1), s)

structure LockConfig where
  defaultTimeout : Int
  autoRenew : Bool
  keyPrefix : String
deriving DecidableEq, Repr

def defaultLockConfig : LockConfig where
  defaultTimeout := 30000 * millisecond
  autoRenew := true
  keyPrefix := "lock:"

def hexText (bytes : List UInt8) : String :=
  String.ofList (bytes.flatMap fun byte => [(byte.toNat / 16).digitChar, (byte.toNat % 16).digitChar])

abbrev Random := Except String (Vector UInt8 16)

def generateToken (random : Random) : Except String String := random.map fun bytes => hexText bytes.toList

namespace LockConfig

variable (config : LockConfig)

def formatKey (key : String) : String := config.keyPrefix ++ key

def timeoutOf (timeout : Int) : Int := if timeout ≤ 0 then config.defaultTimeout else timeout

-- The token when the lock is acquired; none is the answer "", false, nil.
def tryAcquire (random : Random) (fault : Option Fault) (key : String) (timeout : Int) (s : Store) :
    Except String (Option String) × Store :=
  match generateToken random with
  | .error err => (.error ("生成锁令牌失败: " ++ err), s)
  | .ok token =>
    match perform fault (Store.setNX (config.formatKey key) token (config.timeoutOf timeout)) s with
    | (.error err, s) => (.error ("获取锁失败: " ++ err), s)
    | (.ok false, s) => (.ok none, s)
    | (.ok true, s) => (.ok (some token), s)

def release (fault : Option Fault) (key token : String) (s : Store) : Except String Bool × Store :=
  evalScript "释放锁失败: " fault (Store.releaseScript (config.formatKey key) token) s

def timeoutMs (timeout : Int) : Int := (config.timeoutOf timeout).tdiv millisecond

def refresh (fault : Option Fault) (key token : String) (timeout : Int) (s : Store) : Except String Bool × Store :=
  evalScript "刷新锁失败: " fault (Store.refreshScript (config.formatKey key) token (config.timeoutMs timeout)) s

def isLocked (fault : Option Fault) (key token : String) (s : Store) : Except String Bool :=
  match fault with
  | some fault => .error ("检查锁状态失败: " ++ fault.text)
  | none =>
    match s.get (config.formatKey key) with
    | none => .ok false
    | some held => if token ≠ "" then .ok (held.token == token) else .ok true

end LockConfig

def succeeded : Except String Bool → Bool
  | .ok success => success
  | .error _ => false

namespace Store

variable (s : Store) (key other : String)

@[simp] theorem get_put (held : Held) :
    (s.put key held).get other = if other = key then Option.filter (fun held => held.live s.now) (some held) else s.get other := by
  simp only [get, put, AList.lookup_insert_eq]
  split <;> rfl

@[simp] theorem get_del : (s.del key).get other = if other = key then none else s.get other := by
  simp only [get, del, AList.lookup_erase_eq]
  split <;> rfl

theorem get_put_live (held : Held) (live : held.live s.now = true) : (s.put key held).get key = some held := by
  rw [get_put, if_pos rfl, Option.filter_some_pos live]

theorem lifetime_positive (expiration ms : Int) (ok : lifetime expiration = .ok (some ms)) : 0 < ms := by
  simp only [lifetime] at ok
  split_ifs at ok <;> first | (cases ok; omega) | cases ok

theorem set_nx_cases (token : String) (expiration : Int) :
    (∃ answer, answer ≠ .ok true ∧ s.setNX key token expiration = (answer, s)) ∨
      s.get key = none ∧ ∃ deadline, Held.live s.now ⟨token, deadline⟩ = true ∧
        s.setNX key token expiration = (.ok true, s.put key ⟨token, deadline⟩) := by
  simp only [setNX]
  split
  · exact .inl ⟨_, by simp, rfl⟩
  · rename_i ms allowed
    split
    · exact .inl ⟨_, by simp, rfl⟩
    · rename_i free
      refine .inr ⟨free, _, ?_, rfl⟩
      cases ms with
      | none => rfl
      | some ms =>
        have positive := lifetime_positive expiration ms allowed
        simp only [Held.live, Option.map_some, Option.all_some, decide_eq_true_eq]
        omega

theorem owner_script_cases (token : String) (command : Store → Store) :
    s.ownerScript key token command = (.ok 0, s) ∨
      ∃ held, s.get key = some held ∧ held.token = token ∧ s.ownerScript key token command = (.ok 1, command s) := by
  simp only [ownerScript]
  cases found : s.get key with
  | none => exact .inl rfl
  | some held =>
    by_cases own : held.token = token
    · exact .inr ⟨held, rfl, own, if_pos own⟩
    · exact .inl (if_neg own)

theorem get_pexpire (ms : Int) (held : Held) (found : s.get key = some held) :
    (s.pexpire key ms).get key = if ms ≤ 0 then none else some { held with deadline := some (s.now + ms) } := by
  simp only [pexpire, found]
  split
  · simp
  · refine get_put_live s key _ ?_
    simp only [Held.live, Option.all_some, decide_eq_true_eq]
    omega

theorem get_pexpire_other (ms : Int) (apart : other ≠ key) : (s.pexpire key ms).get other = s.get other := by
  simp only [pexpire]
  split
  · rw [get_del, if_neg apart]
  · split
    · rw [get_put, if_neg apart]
    · rfl

end Store

section Calls

variable (config : LockConfig) (fault : Option Fault) (key token : String) (timeout : Int) (s : Store)

theorem perform_cases {α : Type} (command : Store → Except String α × Store) :
    perform fault command s = command s ∨
      ∃ err, perform fault command s = (.error err, (command s).2) ∨ perform fault command s = (.error err, s) := by
  cases fault with
  | none => exact .inl rfl
  | some fault =>
    refine .inr ⟨fault.text, ?_⟩
    by_cases ran : fault.executed = true
    · exact .inl (by simp [perform, ran])
    · exact .inr (by simp [perform, ran])

theorem eval_script_cases (failure : String) (command : Store → Store) :
    (evalScript failure fault (Store.ownerScript key token command) s).2 = s ∧
        succeeded (evalScript failure fault (Store.ownerScript key token command) s).1 = false ∨
      ∃ held, s.get key = some held ∧ held.token = token ∧
        (evalScript failure fault (Store.ownerScript key token command) s).2 = command s := by
  rcases perform_cases fault s (Store.ownerScript key token command) with ran | ⟨err, ran | ran⟩ <;> simp only [evalScript, ran]
  · rcases s.owner_script_cases key token command with same | ⟨held, found, own, done⟩
    · exact .inl (by simp [same, succeeded])
    · exact .inr ⟨held, found, own, by simp [done]⟩
  · rcases s.owner_script_cases key token command with same | ⟨held, found, own, done⟩
    · exact .inl (by simp [same, succeeded])
    · exact .inr ⟨held, found, own, by simp [done]⟩
  · exact .inl ⟨trivial, rfl⟩

theorem release_cases :
    (config.release fault key token s).2 = s ∧ succeeded (config.release fault key token s).1 = false ∨
      ∃ held, s.get (config.formatKey key) = some held ∧ held.token = token ∧
        (config.release fault key token s).2 = s.del (config.formatKey key) :=
  eval_script_cases fault (config.formatKey key) token s _ _

theorem refresh_cases :
    (config.refresh fault key token timeout s).2 = s ∧ succeeded (config.refresh fault key token timeout s).1 = false ∨
      ∃ held, s.get (config.formatKey key) = some held ∧ held.token = token ∧
        (config.refresh fault key token timeout s).2 = s.pexpire (config.formatKey key) (config.timeoutMs timeout) :=
  eval_script_cases fault (config.formatKey key) token s _ _

theorem try_acquire_cases (random : Random) :
    (config.tryAcquire random fault key timeout s).2 = s ∧
        (∀ token, (config.tryAcquire random fault key timeout s).1 ≠ .ok (some token)) ∨
      s.get (config.formatKey key) = none ∧ ∃ held, held.live s.now = true ∧
        (config.tryAcquire random fault key timeout s).2 = s.put (config.formatKey key) held ∧
        ∀ token, (config.tryAcquire random fault key timeout s).1 = .ok (some token) → held.token = token := by
  cases made : generateToken random with
  | error err => exact .inl (by simp [LockConfig.tryAcquire, made])
  | ok token =>
    have cases := s.set_nx_cases (config.formatKey key) token (config.timeoutOf timeout)
    rcases perform_cases fault s (Store.setNX (config.formatKey key) token (config.timeoutOf timeout)) with
      ran | ⟨err, ran | ran⟩ <;> simp only [LockConfig.tryAcquire, made, ran]
    · rcases cases with ⟨answer, refused, same⟩ | ⟨free, deadline, live, stored⟩
      · rw [same]
        match answer, refused with
        | .error err, _ => exact .inl ⟨rfl, by simp⟩
        | .ok false, _ => exact .inl ⟨rfl, by simp⟩
      · exact .inr ⟨free, ⟨token, deadline⟩, live, by simp [stored]⟩
    · rcases cases with ⟨answer, refused, same⟩ | ⟨free, deadline, live, stored⟩
      · exact .inl (by simp [same])
      · exact .inr ⟨free, ⟨token, deadline⟩, live, by simp [stored]⟩
    · exact .inl ⟨trivial, by simp⟩

def NoNewToken (before after : Store) : Prop :=
  ∀ other held, after.get other = some held → ∃ old, before.get other = some old ∧ old.token = held.token

theorem no_new_token_release : NoNewToken s (config.release fault key token s).2 := by
  intro other held found
  rcases release_cases config fault key token s with ⟨same, _⟩ | ⟨_, _, _, done⟩
  · exact ⟨held, same ▸ found, rfl⟩
  · rw [done, Store.get_del] at found
    split at found
    · cases found
    · exact ⟨held, found, rfl⟩

theorem no_new_token_refresh : NoNewToken s (config.refresh fault key token timeout s).2 := by
  intro other held found
  rcases refresh_cases config fault key token timeout s with ⟨same, _⟩ | ⟨old, before, _, done⟩
  · exact ⟨held, same ▸ found, rfl⟩
  · rw [done] at found
    by_cases here : other = config.formatKey key
    · rw [here, Store.get_pexpire s _ _ old before] at found
      split at found
      · cases found
      · cases found
        exact ⟨old, here ▸ before, rfl⟩
    · exact ⟨held, Store.get_pexpire_other s _ other _ here ▸ found, rfl⟩

theorem no_new_token_elapse (ms : Nat) : NoNewToken s (s.elapse ms) := by
  intro other held found
  obtain ⟨stored, live⟩ := Option.filter_eq_some_iff.mp found
  refine ⟨held, Option.filter_eq_some_iff.mpr ⟨stored, ?_⟩, rfl⟩
  have later : held.live (s.now + ms) = true := live
  cases expiry : held.deadline with
  | none => simp [Held.live, expiry]
  | some deadline =>
    simp only [Held.live, expiry, Option.all_some, decide_eq_true_eq] at later ⊢
    omega

end Calls

end MmoServer.Redis
