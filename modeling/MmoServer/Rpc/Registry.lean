import MmoServer.Lib.GoMap
import MmoServer.Lib.Slices

set_option autoImplicit false

namespace MmoServer.Rpc

open Slices

inductive Status where
  | active
  | draining
  | down
  | other (name : String)
deriving DecidableEq, Repr

structure ServiceInstance where
  id : String
  name : String
  status : Status
deriving DecidableEq, Repr

abbrev InstanceRef := Nat

inductive Notice where
  | initial
  | delivered
  | dropped
deriving DecidableEq, Repr

structure Channel where
  service : String
  buffer : Option Slice
  received : List Slice := []
  closed : Bool := false
  notice : Notice := .initial
deriving DecidableEq, Repr

namespace Channel

def offer (instances : Slice) (ch : Channel) : Channel :=
  match ch.buffer with
  | none => { ch with buffer := some instances, notice := .delivered }
  | some _ => { ch with notice := .dropped }

def receive (ch : Channel) : Channel :=
  match ch.buffer with
  | none => ch
  | some instances => { ch with buffer := none, received := ch.received ++ [instances] }

end Channel

structure Sent where
  service : String
  instances : List InstanceRef
  current : List InstanceRef
deriving DecidableEq, Repr

structure InMemoryRegistry where
  heap : List ServiceInstance := []
  arrays : Arrays InstanceRef := []
  services : GoMap String Slice := ∅
  channels : List Channel := []
  watches : GoMap String (List Nat) := ∅
  sent : List Sent := []

namespace InMemoryRegistry

section Reading

def Down (r : InMemoryRegistry) (ref : InstanceRef) : Prop := r.heap[ref]?.map ServiceInstance.status = some .down

instance decidableDown (r : InMemoryRegistry) (ref : InstanceRef) : Decidable (r.Down ref) :=
  inferInstanceAs (Decidable (_ = _))

def HasID (r : InMemoryRegistry) (id : String) (ref : InstanceRef) : Prop := r.heap[ref]?.map ServiceInstance.id = some id

instance decidableHasID (r : InMemoryRegistry) (id : String) (ref : InstanceRef) : Decidable (r.HasID id ref) :=
  inferInstanceAs (Decidable (_ = _))

def listed (r : InMemoryRegistry) (serviceName : String) : List InstanceRef :=
  match r.services.lookup serviceName with
  | none => []
  | some instances => contents r.arrays instances

def usable (r : InMemoryRegistry) (instances : List InstanceRef) : List InstanceRef :=
  instances.filter fun ref => ¬ r.Down ref

def getInstances (r : InMemoryRegistry) (serviceName : String) : List InstanceRef := r.usable (r.listed serviceName)

end Reading

section Sending

def Accepts (r : InMemoryRegistry) (ch : Nat) : Prop := ∃ channel ∈ r.channels[ch]?, channel.buffer = none

instance decidableAccepts (r : InMemoryRegistry) (ch : Nat) : Decidable (r.Accepts ch) :=
  inferInstanceAs (Decidable (∃ channel ∈ r.channels[ch]?, channel.buffer = none))

def record (serviceName : String) (instances : Slice) (r : InMemoryRegistry) : Sent :=
  ⟨serviceName, contents r.arrays instances, r.getInstances serviceName⟩

def notify (serviceName : String) (instances : Slice) (r : InMemoryRegistry) (ch : Nat) : InMemoryRegistry :=
  { r with
    channels := r.channels.modify ch (Channel.offer instances)
    sent := if r.Accepts ch then r.sent ++ [r.record serviceName instances] else r.sent }

def watchers (r : InMemoryRegistry) (serviceName : String) : List Nat := (r.watches.lookup serviceName).getD []

def notifyWatchers (serviceName : String) (instances : Slice) (r : InMemoryRegistry) : InMemoryRegistry :=
  (r.watchers serviceName).foldl (notify serviceName instances) r

end Sending

section Calls

-- A new service keeps one list and passes on another.
def register (ref : InstanceRef) (growth : Nat) (r : InMemoryRegistry) : InMemoryRegistry :=
  match r.heap[ref]? with
  | none => r
  | some instance_ =>
    match r.services.lookup instance_.name with
    | none =>
      let stored := make [ref] 1 r.arrays
      let passed := make [ref] 1 stored.2
      notifyWatchers instance_.name passed.1
        { r with arrays := passed.2, services := r.services.insert instance_.name stored.1 }
    | some instances =>
      match (contents r.arrays instances).findIdx? fun other => r.HasID instance_.id other with
      | some i =>
        notifyWatchers instance_.name instances
          { r with arrays := assign instances i ref r.arrays, services := r.services.insert instance_.name instances }
      | none =>
        let longer := append instances ref growth r.arrays
        notifyWatchers instance_.name longer.1
          { r with arrays := longer.2, services := r.services.insert instance_.name longer.1 }

-- The first instance with the ID, in the order in which the services are visited.
def locate (instanceID : String) (order : Shuffle (String × Slice)) (r : InMemoryRegistry) : Option (String × Slice × InstanceRef) :=
  (order.apply r.services.pairs).findSome? fun (svcName, instances) =>
    ((contents r.arrays instances).find? fun ref => r.HasID instanceID ref).map fun ref => (svcName, instances, ref)

def markDown (ref : InstanceRef) (r : InMemoryRegistry) : InMemoryRegistry :=
  { r with heap := r.heap.modify ref fun instance_ => { instance_ with status := .down } }

def deregister (instanceID : String) (order : Shuffle (String × Slice)) (r : InMemoryRegistry) :
    Except String Unit × InMemoryRegistry :=
  match r.locate instanceID order with
  | none => (.error ("instance " ++ instanceID ++ " not found"), r)
  | some (svcName, instances, ref) => (.ok (), (r.markDown ref).notifyWatchers svcName instances)

def cleanupService (r : InMemoryRegistry) (entry : String × Slice) : InMemoryRegistry :=
  let instances := contents r.arrays entry.2
  if ∃ ref ∈ instances, r.Down ref then
    let active := make (r.usable instances) instances.length r.arrays
    notifyWatchers entry.1 active.1 { r with arrays := active.2, services := r.services.insert entry.1 active.1 }
  else r

def cleanup (order : Shuffle (String × Slice)) (r : InMemoryRegistry) : InMemoryRegistry :=
  (order.apply r.services.pairs).foldl cleanupService r

def watchService (serviceName : String) (r : InMemoryRegistry) : InMemoryRegistry :=
  let active := make (r.getInstances serviceName) (r.listed serviceName).length r.arrays
  let started : InMemoryRegistry := { r with
    arrays := active.2
    channels := r.channels ++ [{ service := serviceName, buffer := some active.1 }]
    watches := r.watches.insert serviceName (r.watchers serviceName ++ [r.channels.length]) }
  { started with sent := r.sent ++ [started.record serviceName active.1] }

-- The goroutine of WatchService when its context is done; it runs once.
def cancel (ch : Nat) (r : InMemoryRegistry) : InMemoryRegistry :=
  match r.channels[ch]? with
  | none => r
  | some channel =>
    if channel.closed = true then r
    else
      let left := (r.watchers channel.service).erase ch
      { r with
        watches := if left = [] then r.watches.erase channel.service else r.watches.insert channel.service left
        channels := r.channels.modify ch fun channel => { channel with closed := true } }

inductive Call where
  | create (instance_ : ServiceInstance)
  | register (ref : InstanceRef) (growth : Nat)
  | deregister (instanceID : String) (order : Shuffle (String × Slice))
  | cleanup (order : Shuffle (String × Slice))
  | watchService (serviceName : String)
  | cancel (ch : Nat)
  | receive (ch : Nat)

-- The calls hold the lock. A receive does not, but each call sends to a channel once at
-- most, so that it comes before the call or after it.
def step (r : InMemoryRegistry) : Call → InMemoryRegistry
  | .create instance_ => { r with heap := r.heap ++ [instance_] }
  | .register ref growth => r.register ref growth
  | .deregister instanceID order => (r.deregister instanceID order).2
  | .cleanup order => r.cleanup order
  | .watchService serviceName => r.watchService serviceName
  | .cancel ch => r.cancel ch
  | .receive ch => { r with channels := r.channels.modify ch Channel.receive }

end Calls

end InMemoryRegistry

end MmoServer.Rpc
