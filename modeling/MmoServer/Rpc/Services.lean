import MmoServer.Lib.GoMap

set_option autoImplicit false

namespace MmoServer.Rpc

-- A type as package reflect shows it. Only defined types have a name and a package path.
inductive GoType where
  | named (pkgPath pkgName name : String)
  | pointer (elem : GoType)
  | container (kind : String) (elem : GoType)
  | literal (text : String)
deriving DecidableEq, Repr

namespace GoType

def pkgPath : GoType → String
  | named pkgPath _ _ => pkgPath
  | pointer _ | container _ _ | literal _ => ""

def name : GoType → String
  | named _ _ name => name
  | pointer _ | container _ _ | literal _ => ""

def text : GoType → String
  | named _ pkgName name => if pkgName = "" then name else pkgName ++ "." ++ name
  | pointer elem => "*" ++ elem.text
  | container kind elem => kind ++ elem.text
  | literal text => text

def elem : GoType → Option GoType
  | pointer elem | container _ elem => some elem
  | named _ _ _ | literal _ => none

def indirect : GoType → GoType
  | pointer elem => elem
  | other => other

def errorType : GoType := named "" "" "error"

def contextType : GoType := named "context" "context" "Context"

def isExportedOrBuiltinType : GoType → Bool
  | pointer elem => elem.isExportedOrBuiltinType
  | t => t.pkgPath = "" ∨ t.pkgPath = "proto_define"

end GoType

variable {V : Type}

-- A method with its receiver among the parameters. The function takes the arguments and
-- the reply, and gives the error, if any, and the reply as it left it.
structure Method (V : Type) where
  name : String
  pkgPath : String
  ins : List GoType
  outs : List GoType
  func : V → V → Option String × V

-- A value with the methods of its type. No two methods have one name.
structure Receiver (V : Type) where
  type : GoType
  present : Bool
  methods : List (Method V)
  distinct : (methods.map Method.name).Nodup

structure MethodType (V : Type) where
  method : Method V
  argType : GoType
  replyType : GoType

structure Service (V : Type) where
  name : String
  methods : GoMap String (MethodType V)

inductive Stop where
  | failed (text : String)
  | panicked (text : String)
deriving DecidableEq, Repr

structure Invocation (V : Type) where
  service : String
  method : String
  args : V
deriving DecidableEq, Repr

-- func (t *T) MethodName(ctx context.Context, args *ArgType, reply *ReplyType) error.
def methodType (method : Method V) : Option (MethodType V) :=
  match method.ins, method.outs with
  | [_, ctx, argType, replyType], [out] =>
    if method.pkgPath = "" ∧ ctx.text = "context.Context" ∧ argType.isExportedOrBuiltinType = true ∧
        replyType.isExportedOrBuiltinType = true ∧ out = GoType.errorType then
      some ⟨method, argType, replyType⟩
    else none
  | _, _ => none

def Receiver.serviceName (receiver : Receiver V) : String := receiver.type.indirect.name

def Receiver.recorded (receiver : Receiver V) : GoMap String (MethodType V) :=
  (∅ : GoMap _ _).insertPairs (receiver.methods.filterMap fun method =>
    (methodType method).map fun recorded => (method.name, recorded))

def newService (receiver : Receiver V) : Except Stop (Service V) :=
  if receiver.present = false then .error (.panicked "reflect: call of reflect.Value.Type on zero Value")
  else if receiver.serviceName = "" then .error (.failed ("no service name for type " ++ receiver.type.text))
  else .ok ⟨receiver.serviceName, receiver.recorded⟩

def Service.call (methodName : String) (args reply : V) (s : Service V) : Option String × V × List (Invocation V) :=
  match s.methods.lookup methodName with
  | none => (some ("method not found: " ++ s.name ++ "." ++ methodName), reply, [])
  | some mtype =>
    let (err, reply) := mtype.method.func args reply
    (err, reply, [⟨s.name, mtype.method.name, args⟩])

-- The first dot divides the two names; one at the very front counts as none.
def parseServiceMethod (serviceMethod : String) : Except String (String × String) :=
  match serviceMethod.toList.findIdx? (· = '.') with
  | some (dot + 1) =>
    .ok (String.ofList (serviceMethod.toList.take (dot + 1)), String.ofList (serviceMethod.toList.drop (dot + 2)))
  | some 0 | none => .error ("service/method request ill-formed: " ++ serviceMethod)

structure AnyMessage where
  typeUrl : String
  value : List UInt8
deriving DecidableEq, Repr

structure RPCRequest where
  serviceMethod : String
  sequence : UInt64
  args : Option AnyMessage
deriving DecidableEq, Repr

structure RPCResponse where
  serviceMethod : String
  sequence : UInt64
  error : String
  reply : Option AnyMessage
deriving DecidableEq, Repr

-- The messages of protobuf: which pointers implement them, new values, and Any.
structure ProtoEnv (V : Type) where
  isMessage : GoType → Bool
  zero : GoType → V
  unmarshalTo : AnyMessage → GoType → Except String V
  newAny : GoType → V → Except String AnyMessage

def ProtoEnv.unpack (env : ProtoEnv V) (args : Option AnyMessage) (argType : GoType) : Except String V :=
  match args with
  | none => .ok (env.zero argType)
  | some any => env.unmarshalTo any argType

structure GRPCServer (V : Type) where
  services : GoMap String (Service V)
  keyed : ∀ name service, services.lookup name = some service → service.name = name

def newGRPCServer : GRPCServer V where
  services := ∅
  keyed _ _ found := nomatch found

theorem keyed_insert (services : GoMap String (Service V)) (keyed : ∀ name service, services.lookup name = some service → service.name = name)
    (added : Service V) (name : String) (service : Service V) (found : (services.insert added.name added).lookup name = some service) :
    service.name = name := by
  rw [AList.lookup_insert_eq] at found
  split at found
  · rename_i same
    rw [← Option.some_inj.mp found, same]
  · exact keyed name service found

namespace GRPCServer

def register (receiver : Receiver V) (s : GRPCServer V) : Except Stop Unit × GRPCServer V :=
  match newService receiver with
  | .error stop => (.error stop, s)
  | .ok service =>
    match s.services.lookup service.name with
    | some _ => (.error (.failed ("service already registered: " ++ service.name)), s)
    | none => (.ok (), ⟨s.services.insert service.name service, keyed_insert s.services s.keyed service⟩)

def answer (req : RPCRequest) (error : String) : RPCResponse := ⟨req.serviceMethod, req.sequence, error, none⟩

def elemOf (t : GoType) : Except Stop GoType :=
  match t.elem with
  | some elem => .ok elem
  | none => .error (.panicked ("reflect: Elem of invalid type " ++ t.text))

def failUnless (holds : Bool) (text : String) : Except Stop Unit := if holds = true then .ok () else .error (.failed text)

def find {α : Type} (found : Option α) (text : String) : Except Stop α :=
  match found with
  | some value => .ok value
  | none => .error (.failed text)

-- RPCServiceServer.Call up to the call of the service: the service, the method, the
-- arguments, and the type of the reply.
def prepare (env : ProtoEnv V) (req : RPCRequest) (s : GRPCServer V) : Except Stop (Service V × String × V × GoType) := do
  let (serviceName, methodName) ← (parseServiceMethod req.serviceMethod).mapError Stop.failed
  let service ← find (s.services.lookup serviceName) ("service not found: " ++ serviceName)
  let mtype ← find (service.methods.lookup methodName) ("method not found: " ++ serviceName ++ "." ++ methodName)
  let argType ← elemOf mtype.argType
  failUnless (env.isMessage argType) "argument does not implement proto.Message"
  let args ← (env.unpack req.args argType).mapError fun err => Stop.failed ("failed to unpack args: " ++ err)
  let replyType ← elemOf mtype.replyType
  failUnless (env.isMessage replyType) "reply does not implement proto.Message"
  return (service, methodName, args, replyType)

def call (env : ProtoEnv V) (req : RPCRequest) (s : GRPCServer V) : Except String RPCResponse × List (Invocation V) :=
  match s.prepare env req with
  | .error (.panicked text) => (.error text, [])
  | .error (.failed text) => (.ok (answer req text), [])
  | .ok (service, methodName, args, replyType) =>
    match service.call methodName args (env.zero replyType) with
    | (some err, _, ran) => (.ok (answer req err), ran)
    | (none, reply, ran) =>
      match env.newAny replyType reply with
      | .error err => (.ok (answer req ("failed to pack reply: " ++ err)), ran)
      | .ok any => (.ok ⟨req.serviceMethod, req.sequence, "", some any⟩, ran)

end GRPCServer

end MmoServer.Rpc
