import MmoServer.Lib.GoMap
import MmoServer.Lib.Runs
import MmoServer.Lib.Slots

set_option autoImplicit false

namespace MmoServer.Rpc

structure SimpleJsonRequest where
  serviceMethod : String
  sequence : UInt64
  message : String
deriving DecidableEq, Repr

structure SimpleJsonResponse where
  serviceMethod : String
  sequence : UInt64
  error : String
  reply : List UInt8
deriving DecidableEq, Repr

structure SimpleResponse where
  serviceMethod : String
  sequence : UInt64
  error : String
  response : List UInt8
deriving DecidableEq, Repr

def SimpleJsonResponse.simple (resp : SimpleJsonResponse) : SimpleResponse where
  serviceMethod := resp.serviceMethod
  sequence := resp.sequence
  error := resp.error
  response := resp.reply

inductive SimpleError where
  | arguments (text : String)
  | request (text : String)
  | connectionClosed
  | sending (text : String)
  | context (text : String)
  | rpc (text : String)
  | timedOut
deriving DecidableEq, Repr

def SimpleError.text : SimpleError → String
  | .arguments text => "error serializing arguments: " ++ text
  | .request text => "error serializing request: " ++ text
  | .connectionClosed => "connection closed"
  | .sending text => "error sending message: " ++ text
  | .context text => text
  | .rpc text => "RPC error: " ++ text
  | .timedOut => "call timed out"

-- Where Call has got to. A call that is leaving has still to take itself from pending.
inductive SimplePhase where
  | starting
  | numbered
  | registered
  | serialized
  | connected
  | waiting
  | leaving (error : SimpleError)
  | returned (result : Except SimpleError SimpleResponse)
deriving DecidableEq

def SimplePhase.Underway : SimplePhase → Prop
  | .starting | .numbered | .returned _ => False
  | _ => True

-- Response is a channel for one response; Done is closed when a response was processed.
structure SimpleCall where
  serviceMethod : String
  message : String
  sequence : UInt64 := 0
  phase : SimplePhase := .starting
  response : Option SimpleResponse := none
  closes : Nat := 0

namespace SimpleCall

variable (call : SimpleCall)

def offer (resp : SimpleResponse) : SimpleCall :=
  match call.response with
  | none => { call with response := some resp }
  | some _ => call

def close : SimpleCall := { call with closes := call.closes + 1 }

def request : SimpleJsonRequest := ⟨call.serviceMethod, call.sequence, call.message⟩

end SimpleCall

inductive Processing where
  | started (data : Except String SimpleJsonResponse)
  | taken (resp : SimpleJsonResponse) (k : Nat)
  | offered (k : Nat)
  | finished
deriving DecidableEq

inductive Wake where
  | context (text : String)
  | response
  | timeout

structure SimpleChoice where
  argsError : Option String := none
  requestError : Option String := none
  writeError : Option String := none
  wake : Wake := .response

-- The client, with the requests it has written and which processing filled
-- the channel of which call.
structure SimpleClient where
  seq : UInt64 := 0
  pending : GoMap UInt64 Nat := ∅
  conn : Bool := true
  calls : List SimpleCall := []
  responses : List Processing := []
  written : List SimpleJsonRequest := []
  deliveries : List (Nat × Nat) := []

namespace SimpleClient

section Steps

variable (c : SimpleClient)

def answer (resp : SimpleResponse) : Except SimpleError SimpleResponse :=
  if resp.error ≠ "" then .error (.rpc resp.error) else .ok resp

def callStep (k : Nat) (call : SimpleCall) (choice : SimpleChoice) : Option (SimpleClient × SimpleCall) :=
  match call.phase with
  | .starting => some ({ c with seq := c.seq + 1 }, { call with sequence := c.seq + 1, phase := .numbered })
  | .numbered => some ({ c with pending := c.pending.insert call.sequence k }, { call with phase := .registered })
  | .registered =>
    match choice.argsError, choice.requestError with
    | some text, _ => some (c, { call with phase := .leaving (.arguments text) })
    | none, some text => some (c, { call with phase := .leaving (.request text) })
    | none, none => some (c, { call with phase := .serialized })
  | .serialized =>
    if c.conn then some (c, { call with phase := .connected })
    else some (c, { call with phase := .leaving .connectionClosed })
  | .connected =>
    match choice.writeError with
    | some text => some (c, { call with phase := .leaving (.sending text) })
    | none => some ({ c with written := c.written ++ [call.request] }, { call with phase := .waiting })
  | .waiting =>
    match choice.wake, call.response with
    | .context text, _ => some (c, { call with phase := .leaving (.context text) })
    | .timeout, _ => some (c, { call with phase := .leaving .timedOut })
    | .response, some resp => some (c, { call with phase := .returned (answer resp), response := none })
    | .response, none => none
  | .leaving error =>
    some ({ c with pending := c.pending.erase call.sequence }, { call with phase := .returned (.error error) })
  | .returned _ => none

-- A call that was taken from pending belongs to the goroutine that took it.
def processStep (p : Nat) : Processing → Option (SimpleClient × Processing)
  | .started (.error _) => some (c, .finished)
  | .started (.ok resp) =>
    match c.pending.lookup resp.sequence with
    | none => some (c, .finished)
    | some k => some ({ c with pending := c.pending.erase resp.sequence }, .taken resp k)
  | .taken resp k =>
    match c.calls[k]? with
    | none => none
    | some call =>
      let delivered := if call.response = none then [(p, k)] else []
      some ({ c with calls := c.calls.set k (call.offer resp.simple), deliveries := c.deliveries ++ delivered }, .offered k)
  | .offered k =>
    match c.calls[k]? with
    | none => none
    | some call => some ({ c with calls := c.calls.set k call.close }, .finished)
  | .finished => none

inductive Action where
  | call (serviceMethod message : String)
  | step (k : Nat) (choice : SimpleChoice)
  | receive (data : Except String SimpleJsonResponse)
  | readFails
  | process (p : Nat)

def step : Action → SimpleClient
  | .call serviceMethod message => { c with calls := c.calls ++ [{ serviceMethod, message }] }
  | .step k choice =>
    match c.calls[k]? with
    | none => c
    | some call =>
      match c.callStep k call choice with
      | none => c
      | some (after, moved) => { after with calls := c.calls.set k moved }
  | .receive data => if c.conn then { c with responses := c.responses ++ [.started data] } else c
  | .readFails => { c with conn := false }
  | .process p =>
    match c.responses[p]? with
    | none => c
    | some processing =>
      match c.processStep p processing with
      | none => c
      | some (after, moved) => { after with responses := c.responses.set p moved }

end Steps

section Inversion

variable (c : SimpleClient)

inductive Calls (k : Nat) (call : SimpleCall) : SimpleClient → SimpleCall → Prop where
  | numbered (at_ : call.phase = .starting) :
      Calls k call { c with seq := c.seq + 1 } { call with sequence := c.seq + 1, phase := .numbered }
  | registered (at_ : call.phase = .numbered) :
      Calls k call { c with pending := c.pending.insert call.sequence k } { call with phase := .registered }
  | moved (phase : SimplePhase) (written : List SimpleJsonRequest) (before : call.phase.Underway) (after : phase.Underway) :
      Calls k call { c with written } { call with phase }
  | answered (resp : SimpleResponse) (at_ : call.phase = .waiting) (filled : call.response = some resp) :
      Calls k call c { call with phase := .returned (answer resp), response := none }
  | left (error : SimpleError) (at_ : call.phase = .leaving error) :
      Calls k call { c with pending := c.pending.erase call.sequence } { call with phase := .returned (.error error) }

theorem call_step_calls (k : Nat) (call : SimpleCall) (choice : SimpleChoice) (after : SimpleClient) (moved : SimpleCall)
    (stepped : c.callStep k call choice = some (after, moved)) : c.Calls k call after moved := by
  have underway (phase : SimplePhase) (at_ : call.phase = phase) (still : phase.Underway) : call.phase.Underway := by
    rw [at_]
    exact still
  cases at_ : call.phase with
  | starting =>
    simp only [callStep, at_] at stepped
    cases stepped
    exact .numbered at_
  | numbered =>
    simp only [callStep, at_] at stepped
    cases stepped
    exact .registered at_
  | registered | serialized =>
    simp only [callStep, at_] at stepped
    split at stepped <;> cases stepped <;> exact .moved _ c.written (underway _ at_ trivial) trivial
  | connected =>
    simp only [callStep, at_] at stepped
    split at stepped <;> cases stepped <;> exact .moved _ _ (underway _ at_ trivial) trivial
  | waiting =>
    simp only [callStep, at_] at stepped
    split at stepped
    · cases stepped
      exact .moved _ c.written (underway _ at_ trivial) trivial
    · cases stepped
      exact .moved _ c.written (underway _ at_ trivial) trivial
    next resp _ filled =>
      cases stepped
      exact .answered resp at_ filled
    · cases stepped
  | leaving error =>
    simp only [callStep, at_] at stepped
    cases stepped
    exact .left error at_
  | returned result =>
    simp only [callStep, at_] at stepped
    cases stepped

inductive Processes (p : Nat) (processing : Processing) : SimpleClient → Processing → Prop where
  | dropped (data : Except String SimpleJsonResponse) (at_ : processing = .started data) : Processes p processing c .finished
  | taken (resp : SimpleJsonResponse) (k : Nat) (at_ : processing = .started (.ok resp))
      (found : c.pending.lookup resp.sequence = some k) :
      Processes p processing { c with pending := c.pending.erase resp.sequence } (.taken resp k)
  | offered (resp : SimpleJsonResponse) (k : Nat) (call : SimpleCall) (delivered : List (Nat × Nat))
      (at_ : processing = .taken resp k) (found : c.calls[k]? = some call) (own : delivered = [(p, k)] ∨ delivered = []) :
      Processes p processing
        { c with calls := c.calls.set k (call.offer resp.simple), deliveries := c.deliveries ++ delivered } (.offered k)
  | closed (k : Nat) (call : SimpleCall) (at_ : processing = .offered k) (found : c.calls[k]? = some call) :
      Processes p processing { c with calls := c.calls.set k call.close } .finished

theorem process_step_processes (p : Nat) (processing : Processing) (after : SimpleClient) (moved : Processing)
    (stepped : c.processStep p processing = some (after, moved)) : c.Processes p processing after moved := by
  cases processing with
  | started data =>
    cases data with
    | error text =>
      cases stepped
      exact .dropped _ rfl
    | ok resp =>
      simp only [processStep] at stepped
      split at stepped
      · cases stepped
        exact .dropped _ rfl
      next k found =>
        cases stepped
        exact .taken resp k rfl found
  | taken resp k =>
    simp only [processStep] at stepped
    split at stepped
    · cases stepped
    next call found =>
      cases stepped
      refine .offered resp k call _ rfl found ?_
      split
      · exact .inl rfl
      · exact .inr rfl
  | offered k =>
    simp only [processStep] at stepped
    split at stepped
    · cases stepped
    next call found =>
      cases stepped
      exact .closed k call rfl found
  | finished => cases stepped

inductive Effect : SimpleClient → Prop where
  | idle : Effect c
  | started (serviceMethod message : String) : Effect { c with calls := c.calls ++ [{ serviceMethod, message }] }
  | called (k : Nat) (call moved : SimpleCall) (after : SimpleClient) (found : c.calls[k]? = some call)
      (acts : c.Calls k call after moved) : Effect { after with calls := c.calls.set k moved }
  | received (data : Except String SimpleJsonResponse) : Effect { c with responses := c.responses ++ [.started data] }
  | disconnected : Effect { c with conn := false }
  | processed (p : Nat) (processing moved : Processing) (after : SimpleClient) (found : c.responses[p]? = some processing)
      (acts : c.Processes p processing after moved) : Effect { after with responses := c.responses.set p moved }

theorem step_effect (action : Action) : c.Effect (c.step action) := by
  cases action with
  | call serviceMethod message => exact .started serviceMethod message
  | step k choice =>
    rw [step]
    split
    · exact .idle
    next call found =>
      split
      · exact .idle
      next after moved stepped => exact .called k call moved after found (call_step_calls c k call choice after moved stepped)
  | receive data =>
    rw [step]
    split
    · exact .received data
    · exact .idle
  | readFails => exact .disconnected
  | process p =>
    rw [step]
    split
    · exact .idle
    next processing found =>
      split
      · exact .idle
      next after moved stepped =>
        exact .processed p processing moved after found (process_step_processes c p processing after moved stepped)

end Inversion

end SimpleClient

end MmoServer.Rpc
