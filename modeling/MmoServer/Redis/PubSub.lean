import MmoServer.Lib.GoMap
import MmoServer.Lib.Runs

set_option autoImplicit false

namespace MmoServer.Redis

structure Subscriptions where
  channels : GoMap String Unit := ∅
  patterns : GoMap String Unit := ∅

-- How an operation of the Redis client ends. One that fails may have been carried out or not.
inductive Outcome where
  | ok
  | failed (text : String) (reached : Bool)
deriving DecidableEq, Repr

structure RedisPubSub where
  pubsub : Option Subscriptions := none
  handlers : GoMap String (List Nat) := ∅
  patternHandlers : GoMap String (List Nat) := ∅
  activeChannels : GoMap String Unit := ∅
  isRunning : Bool := false
  stopCloses : Nat := 0

def addNames (names : List String) (set : GoMap String Unit) : GoMap String Unit :=
  names.foldl (fun set name => set.insert name ()) set

def addHandler (handler : Nat) (names : List String) (table : GoMap String (List Nat)) : GoMap String (List Nat) :=
  names.foldl (fun table name => table.insert name ((table.lookup name).getD [] ++ [handler])) table

def removeNames {V : Type} (names : List String) (table : GoMap String V) : GoMap String V :=
  names.foldl (fun table name => table.erase name) table

def dropNames (names : List String) (set : GoMap String Unit) : GoMap String Unit :=
  if names = [] then ∅ else removeNames names set

namespace RedisPubSub

section Calls

variable (ps : RedisPubSub)

def startMessageLoop : RedisPubSub := if ps.isRunning then ps else { ps with isRunning := true }

-- The pool may hold a client that is neither a single node nor a cluster.
def connect (supported : Bool) : Option RedisPubSub :=
  match ps.pubsub with
  | some _ => some ps
  | none => if supported then some (startMessageLoop { ps with pubsub := some {} }) else none

def ask (outcome : Outcome) (failure : String) (change : Subscriptions → Subscriptions) : Except String Unit × RedisPubSub :=
  match outcome with
  | .ok => (.ok (), { ps with pubsub := ps.pubsub.map change })
  | .failed text reached => (.error (failure ++ text), if reached then { ps with pubsub := ps.pubsub.map change } else ps)

variable (outcome : Outcome) (failure : String) (change : Subscriptions → Subscriptions)

theorem ask_state : ∃ held, (ps.ask outcome failure change).2 = { ps with pubsub := held } := by
  cases outcome with
  | ok => exact ⟨_, rfl⟩
  | failed text reached =>
    cases reached with
    | true => exact ⟨_, rfl⟩
    | false => exact ⟨ps.pubsub, rfl⟩

theorem ask_handlers : (ps.ask outcome failure change).2.handlers = ps.handlers := by
  obtain ⟨held, after⟩ := ask_state ps outcome failure change
  rw [after]

theorem ask_pattern_handlers : (ps.ask outcome failure change).2.patternHandlers = ps.patternHandlers := by
  obtain ⟨held, after⟩ := ask_state ps outcome failure change
  rw [after]

theorem ask_ok_iff : (ps.ask outcome failure change).1 = .ok () ↔ outcome = .ok := by
  cases outcome with
  | ok => exact iff_of_true rfl rfl
  | failed text reached => exact iff_of_false nofun nofun

-- What Subscribe and PSubscribe share: the tables are changed before Redis is asked.
def enter (noNames failure : String) (handler : Option Nat) (names : List String) (supported : Bool) (outcome : Outcome)
    (register : Nat → RedisPubSub → RedisPubSub) (change : Subscriptions → Subscriptions) : Except String Unit × RedisPubSub :=
  if names = [] then (.error noNames, ps)
  else
    match handler with
    | none => (.error "消息处理函数不能为nil", ps)
    | some handler =>
      match ps.connect supported with
      | none => (.error "不支持的Redis客户端类型", ps)
      | some connected => (register handler connected).ask outcome failure change

def subscribe (handler : Option Nat) (channels : List String) (supported : Bool) (outcome : Outcome) :
    Except String Unit × RedisPubSub :=
  ps.enter "未指定订阅频道" "订阅频道失败: " handler channels supported outcome
    (fun handler ps => { ps with
      handlers := addHandler handler channels ps.handlers
      activeChannels := addNames channels ps.activeChannels })
    fun subs => { subs with channels := addNames channels subs.channels }

def psubscribe (handler : Option Nat) (patterns : List String) (supported : Bool) (outcome : Outcome) :
    Except String Unit × RedisPubSub :=
  ps.enter "未指定订阅模式" "订阅模式失败: " handler patterns supported outcome
    (fun handler ps => { ps with patternHandlers := addHandler handler patterns ps.patternHandlers })
    fun subs => { subs with patterns := addNames patterns subs.patterns }

-- What Unsubscribe and PUnsubscribe share: the tables are changed after Redis has answered.
def leave (failure : String) (outcome : Outcome) (change : Subscriptions → Subscriptions) (deregister : RedisPubSub → RedisPubSub) :
    Except String Unit × RedisPubSub :=
  match ps.pubsub with
  | none => (.error "未初始化发布订阅客户端", ps)
  | some _ =>
    match ps.ask outcome failure change with
    | (.ok (), after) => (.ok (), deregister after)
    | (.error text, after) => (.error text, after)

def unsubscribe (channels : List String) (outcome : Outcome) : Except String Unit × RedisPubSub :=
  ps.leave "取消订阅频道失败: " outcome (fun subs => { subs with channels := dropNames channels subs.channels })
    fun ps => { ps with
      handlers := removeNames channels ps.handlers
      activeChannels := removeNames channels ps.activeChannels }

def punsubscribe (patterns : List String) (outcome : Outcome) : Except String Unit × RedisPubSub :=
  ps.leave "取消订阅模式失败: " outcome (fun subs => { subs with patterns := dropNames patterns subs.patterns })
    fun ps => { ps with patternHandlers := removeNames patterns ps.patternHandlers }

inductive Closed where
  | returned (result : Except String Unit)
  | panicked

def cleared : RedisPubSub := { ps with pubsub := none, handlers := ∅, patternHandlers := ∅, activeChannels := ∅ }

def close (outcome : Outcome) : Closed × RedisPubSub :=
  if ps.isRunning = false then (.returned (.ok ()), ps)
  else if ps.stopCloses ≠ 0 then (.panicked, { ps with stopCloses := ps.stopCloses + 1 })
  else
    let stopped : RedisPubSub := { ps with isRunning := false, stopCloses := 1 }
    match ps.pubsub, outcome with
    | none, _ | some _, .ok => (.returned (.ok ()), stopped.cleared)
    | some _, .failed text reached =>
      (.returned (.error ("关闭发布订阅客户端失败: " ++ text)), if reached then { stopped with pubsub := some {} } else stopped)

inductive Action where
  | subscribe (handler : Option Nat) (channels : List String) (supported : Bool) (outcome : Outcome)
  | psubscribe (handler : Option Nat) (patterns : List String) (supported : Bool) (outcome : Outcome)
  | unsubscribe (channels : List String) (outcome : Outcome)
  | punsubscribe (patterns : List String) (outcome : Outcome)
  | close (outcome : Outcome)
deriving DecidableEq, Repr

def step : Action → RedisPubSub
  | .subscribe handler channels supported outcome => (ps.subscribe handler channels supported outcome).2
  | .psubscribe handler patterns supported outcome => (ps.psubscribe handler patterns supported outcome).2
  | .unsubscribe channels outcome => (ps.unsubscribe channels outcome).2
  | .punsubscribe patterns outcome => (ps.punsubscribe patterns outcome).2
  | .close outcome => (ps.close outcome).2

end Calls

section Messages

structure Message where
  channel : String
  pattern : String
  payload : String
deriving DecidableEq, Repr

inductive Source where
  | channel
  | pattern (pattern : String)
deriving DecidableEq, Repr

structure HandlerRun where
  source : Source
  handler : Nat
  channel : String
  payload : String
deriving DecidableEq, Repr

variable (ps : RedisPubSub)

def channelRuns (channel payload : String) : List HandlerRun :=
  ((ps.handlers.lookup channel).getD []).map fun handler => ⟨.channel, handler, channel, payload⟩

def patternRuns (channel payload pattern : String) : List HandlerRun :=
  ((ps.patternHandlers.lookup pattern).getD []).map fun handler => ⟨.pattern pattern, handler, channel, payload⟩

def handleMessage (msg : Message) : List HandlerRun :=
  ps.channelRuns msg.channel msg.payload ++
    (if msg.pattern ≠ "" then ps.patternRuns msg.channel msg.payload msg.pattern else [])

-- What Redis sends for one published message: one message for the channel if it is
-- subscribed, and one for each pattern that is subscribed and matches.
def delivered (globMatches : String → String → Bool) (channel payload : String) : List Message :=
  match ps.pubsub with
  | none => []
  | some subs =>
    (if channel ∈ subs.channels then [⟨channel, "", payload⟩] else []) ++
      ((subs.patterns.keys.filter fun pattern => globMatches pattern channel).map fun pattern => ⟨channel, pattern, payload⟩)

def runs (globMatches : String → String → Bool) (channel payload : String) : List HandlerRun :=
  (ps.delivered globMatches channel payload).flatMap ps.handleMessage

end Messages

end RedisPubSub

end MmoServer.Redis
