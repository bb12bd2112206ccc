import MmoServer.Protocol.Balancers
import MmoServer.Protocol.Converter

set_option autoImplicit false

namespace MmoServer.Protocol

open Json

inductive RouteError where
  | unknownType (serviceType : UInt16)
  | unknownService (serviceName : List UInt8)
  | noAvailableInstance
  | panicked
  | timeout
deriving DecidableEq, Repr

def RouteError.text : RouteError → List UInt8
  | .unknownType serviceType => utf8 ("service not found: service type " ++ toString serviceType.toNat)
  | .unknownService serviceName => utf8 "failed to get service instances: service not found: " ++ serviceName
  | .noAvailableInstance => utf8 "load balancing failed: no available service instance"
  | .panicked => utf8 "index out of range"
  | .timeout => utf8 "routing timeout"

inductive LoadBalancer where
  | roundRobin (lb : RoundRobinLoadBalancer)
  | weighted (lb : WeightedLoadBalancer)

def LoadBalancer.selectInstance (instances : List ServiceInstance) : LoadBalancer → Except SelectError Selected × LoadBalancer
  | .roundRobin lb => (lb.selectInstance instances).map id .roundRobin
  | .weighted lb => (lb.selectInstance instances).map id .weighted

structure MessageRouter where
  instances : GoMap (List UInt8) (List ServiceInstance)
  loadBalancer : LoadBalancer
  serviceMap : GoMap UInt16 (List UInt8)

structure RouteEnv where
  now : UInt64
  timedOut : Bool

def routeResponse (now : UInt64) (serviceName : List UInt8) (msg : Message) : OutMessage :=
  { msg with
    timestamp := now
    payloadLength := 0
    sourceService := serviceName
    destinationService := msg.sourceService
    payload := utf8 "Response placeholder"
    payloadNil := false }

def MessageRouter.route (env : RouteEnv) (msg : Message) (r : MessageRouter) : Except RouteError OutMessage × MessageRouter :=
  match r.serviceMap.lookup msg.serviceType with
  | none => (.error (.unknownType msg.serviceType), r)
  | some serviceName =>
    match r.instances.lookup serviceName with
    | none => (.error (.unknownService serviceName), r)
    | some instances =>
      let (selected, loadBalancer) := r.loadBalancer.selectInstance instances
      let routed := { r with loadBalancer }
      match selected with
      | .error .noAvailableInstance => (.error .noAvailableInstance, routed)
      | .error .outOfRange => (.error .panicked, routed)
      | .ok _ =>
        if env.timedOut = true then (.error .timeout, routed)
        else (.ok (routeResponse env.now serviceName msg), routed)

end MmoServer.Protocol
