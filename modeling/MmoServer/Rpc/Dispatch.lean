import MmoServer.Rpc.Services

set_option autoImplicit false

namespace MmoServer.Rpc

open GRPCServer

variable {V : Type}

section Parsing

theorem parse_joined (service method : String) (some_ : service ≠ "") (plain : '.' ∉ service.toList) :
    parseServiceMethod (service ++ "." ++ method) = .ok (service, method) := by
  have letters : (service ++ "." ++ method).toList = service.toList ++ '.' :: method.toList := by
    simp [String.toList_append]
  have before : service.toList.findIdx? (· = '.') = none := by
    rw [List.findIdx?_eq_none_iff]
    intro letter member
    simp only [decide_eq_false_iff_not]
    rintro rfl
    exact plain member
  have dot : (service.toList ++ '.' :: method.toList).findIdx? (· = '.') = some service.toList.length := by
    simp [List.findIdx?_append, before, List.findIdx?_cons]
  cases length : service.toList.length with
  | zero => exact absurd (by simpa using length) some_
  | succ n =>
    rw [length] at dot
    have left : (service.toList ++ '.' :: method.toList).drop (n + 2) = method.toList := by
      rw [← List.drop_drop (i := 1) (j := n + 1), List.drop_left' length]
      rfl
    simp only [parseServiceMethod, letters, dot, List.take_left' length, left, String.ofList_toList]

theorem parse_parts (serviceMethod service method : String) (parsed : parseServiceMethod serviceMethod = .ok (service, method)) :
    '.' ∉ service.toList ∧ serviceMethod = service ++ "." ++ method := by
  unfold parseServiceMethod at parsed
  split at parsed
  · rename_i dot found
    cases parsed
    obtain ⟨short, isDot, before⟩ := List.findIdx?_eq_some_iff_getElem.mp found
    rw [decide_eq_true_iff] at isDot
    constructor
    · rw [String.toList_ofList, List.mem_take_iff_getElem]
      rintro ⟨i, below, there⟩
      exact absurd there (by simpa using before i (by omega))
    · apply String.toList_injective
      have cut : serviceMethod.toList.drop (dot + 1) = '.' :: serviceMethod.toList.drop (dot + 2) := by
        rw [List.drop_eq_getElem_cons short, isDot]
      simp only [String.toList_append, String.toList_ofList, List.append_assoc]
      exact (List.take_append_drop (dot + 1) serviceMethod.toList).symm.trans (congrArg _ cut)
  all_goals cases parsed

end Parsing

section Recording

theorem recorded_lookup (receiver : Receiver V) (method : Method V) (listed : method ∈ receiver.methods) :
    receiver.recorded.lookup method.name = methodType method := by
  have same (other : Method V) (member : other ∈ receiver.methods) (name : other.name = method.name) : other = method :=
    List.inj_on_of_nodup_map receiver.distinct member listed name
  cases found : methodType method with
  | none =>
    rw [Receiver.recorded, AList.lookup_insert_pairs_absent]
    · rfl
    · intro pair member name
      obtain ⟨other, inList, recorded⟩ := List.mem_filterMap.mp member
      obtain ⟨kept, here, rfl⟩ := Option.map_eq_some_iff.mp recorded
      rw [same other inList name, found] at here
      cases here
  | some kept =>
    have member : (method.name, kept) ∈ receiver.methods.filterMap fun method =>
        (methodType method).map fun recorded => (method.name, recorded) :=
      List.mem_filterMap.mpr ⟨method, listed, by rw [found]; rfl⟩
    refine AList.lookup_insert_pairs_mem _ ∅ _ member fun pair also name => ?_
    obtain ⟨other, inList, recorded⟩ := List.mem_filterMap.mp also
    obtain ⟨own, here, rfl⟩ := Option.map_eq_some_iff.mp recorded
    obtain rfl := same other inList name
    rw [found] at here
    rw [Option.some_inj.mp here]

def KnownPath (path : String) : Prop := path = "" ∨ path = "proto_define"

theorem exported_iff_known (path pkg name : String) :
    (GoType.pointer (.named path pkg name)).isExportedOrBuiltinType = true ↔ KnownPath path := decide_eq_true_iff

structure Documented (receiver : Receiver V) (method : Method V) (A R : GoType) : Prop where
  listed : method ∈ receiver.methods
  exported : method.pkgPath = ""
  ins : method.ins = [receiver.type, GoType.contextType, .pointer A, .pointer R]
  outs : method.outs = [GoType.errorType]

theorem method_type_documented (receiver : Receiver V) (method : Method V) (pathA pkgA nameA pathR pkgR nameR : String)
    (documented : Documented receiver method (.named pathA pkgA nameA) (.named pathR pkgR nameR)) :
    (KnownPath pathA ∧ KnownPath pathR → methodType method =
      some ⟨method, .pointer (.named pathA pkgA nameA), .pointer (.named pathR pkgR nameR)⟩) ∧
    (¬ (KnownPath pathA ∧ KnownPath pathR) → methodType method = none) := by
  have context : GoType.contextType.text = "context.Context" := by decide
  simp only [methodType, documented.ins, documented.outs]
  constructor
  · rintro ⟨argument, reply⟩
    exact if_pos ⟨documented.exported, context, (exported_iff_known _ _ _).mpr argument, (exported_iff_known _ _ _).mpr reply, trivial⟩
  · intro unknown
    exact if_neg fun passes => unknown ⟨(exported_iff_known _ _ _).mp passes.2.2.1, (exported_iff_known _ _ _).mp passes.2.2.2.1⟩

end Recording

section Registering

theorem register_effect (server : GRPCServer V) (receiver : Receiver V) :
    (∃ stop, server.register receiver = (.error stop, server)) ∨
      receiver.serviceName ≠ "" ∧ server.services.lookup receiver.serviceName = none ∧
        (server.register receiver).1 = .ok () ∧
        (server.register receiver).2.services =
          server.services.insert receiver.serviceName ⟨receiver.serviceName, receiver.recorded⟩ := by
  rw [register]
  cases made : newService receiver with
  | error stop => exact .inl ⟨stop, rfl⟩
  | ok service =>
    rw [newService] at made
    split at made
    · cases made
    · split at made
      · cases made
      · rename_i named
        cases made
        cases found : server.services.lookup receiver.serviceName with
        | some other => exact .inl ⟨.failed ("service already registered: " ++ receiver.serviceName), by simp only [found]⟩
        | none => exact .inr ⟨named, rfl, by simp only [found], by simp only [found]⟩

theorem register_ok (server after : GRPCServer V) (receiver : Receiver V) (registered : server.register receiver = (.ok (), after)) :
    receiver.serviceName ≠ "" ∧ after.services.lookup receiver.serviceName = some ⟨receiver.serviceName, receiver.recorded⟩ := by
  rcases register_effect server receiver with ⟨stop, failed⟩ | ⟨named, -, -, added⟩
  · rw [failed] at registered
    cases registered
  · rw [registered] at added
    exact ⟨named, added ▸ AList.lookup_insert _⟩

theorem register_keeps (server : GRPCServer V) (receiver : Receiver V) (name : String) (service : Service V)
    (held : server.services.lookup name = some service) : (server.register receiver).2.services.lookup name = some service := by
  rcases register_effect server receiver with ⟨stop, failed⟩ | ⟨-, free, -, added⟩
  · rw [failed]
    exact held
  · rw [added, AList.lookup_insert_eq, if_neg]
    · exact held
    · rintro rfl
      rw [held] at free
      cases free

def registerAll (receivers : List (Receiver V)) (server : GRPCServer V) : GRPCServer V :=
  receivers.foldl (fun server receiver => (server.register receiver).2) server

theorem register_all_keeps (receivers : List (Receiver V)) (server : GRPCServer V) (name : String) (service : Service V)
    (held : server.services.lookup name = some service) : (registerAll receivers server).services.lookup name = some service := by
  induction receivers generalizing server with
  | nil => exact held
  | cons receiver rest ih => exact ih _ (register_keeps server receiver name service held)

end Registering

section Calling

variable (env : ProtoEnv V) (req : RPCRequest) (server : GRPCServer V) (serviceName methodName : String) (service : Service V)

theorem call_missing (parsed : parseServiceMethod req.serviceMethod = .ok (serviceName, methodName))
    (held : server.services.lookup serviceName = some service) (missing : service.methods.lookup methodName = none) :
    server.call env req = (.ok (answer req ("method not found: " ++ serviceName ++ "." ++ methodName)), []) := by
  have stops : server.prepare env req = .error (.failed ("method not found: " ++ serviceName ++ "." ++ methodName)) := by
    simp only [prepare, parsed, Except.mapError, bind, Except.bind, held, missing, find]
  rw [call, stops]

theorem call_found (mtype : MethodType V) (A R : GoType) (args : V)
    (parsed : parseServiceMethod req.serviceMethod = .ok (serviceName, methodName))
    (held : server.services.lookup serviceName = some service) (found : service.methods.lookup methodName = some mtype)
    (argType : mtype.argType = .pointer A) (replyType : mtype.replyType = .pointer R) (argMessage : env.isMessage A = true)
    (replyMessage : env.isMessage R = true) (unpacks : env.unpack req.args A = .ok args) :
    (server.call env req).2 = [⟨service.name, mtype.method.name, args⟩] := by
  have prepared : server.prepare env req = .ok (service, methodName, args, R) := by
    simp only [prepare, parsed, Except.mapError, bind, Except.bind, held, found, find, elemOf, argType,
      replyType, GoType.elem, failUnless, argMessage, replyMessage, unpacks, if_true]
    rfl
  have runs : service.call methodName args (env.zero R) = ((mtype.method.func args (env.zero R)).1,
      (mtype.method.func args (env.zero R)).2, [⟨service.name, mtype.method.name, args⟩]) := by
    rw [Service.call, found]
  rw [call, prepared]
  simp only [runs]
  generalize mtype.method.func args (env.zero R) = result
  obtain ⟨_ | err, reply⟩ := result
  · cases packed : env.newAny R reply with
    | error err => simp only [packed]
    | ok any => simp only [packed]
  · rfl

theorem prepare_ok (args : V) (replyType : GoType) (prepared : server.prepare env req = .ok (service, methodName, args, replyType)) :
    ∃ serviceName, parseServiceMethod req.serviceMethod = .ok (serviceName, methodName) ∧
      server.services.lookup serviceName = some service := by
  unfold prepare at prepared
  cases parsed : parseServiceMethod req.serviceMethod with
  | error err =>
    rw [parsed] at prepared
    cases prepared
  | ok names =>
    refine ⟨names.1, ?_⟩
    cases held : server.services.lookup names.1 with
    | none =>
      simp only [parsed, Except.mapError, bind, Except.bind, held, find] at prepared
      cases prepared
    | some there =>
      simp only [parsed, Except.mapError, bind, Except.bind, held, find] at prepared
      repeat' split at prepared
      all_goals cases prepared
      exact ⟨rfl, rfl⟩

theorem call_invokes (invocation : Invocation V) (invoked : (server.call env req).2 = [invocation]) :
    '.' ∉ invocation.service.toList := by
  unfold call at invoked
  cases prepared : server.prepare env req with
  | error stop =>
    rw [prepared] at invoked
    cases stop <;> cases invoked
  | ok ready =>
    obtain ⟨service, methodName, args, replyType⟩ := ready
    obtain ⟨serviceName, parsed, held⟩ := prepare_ok env req server methodName service args replyType prepared
    have ran : (service.call methodName args (env.zero replyType)).2.2 = [invocation] := by
      rw [prepared] at invoked
      dsimp only at invoked
      split at invoked
      · rename_i called
        rw [called]
        exact invoked
      · rename_i called
        rw [called]
        split at invoked <;> exact invoked
    have own : invocation.service = service.name := by
      unfold Service.call at ran
      split at ran
      · cases ran
      · rw [← List.singleton_inj.mp ran]
    rw [own, server.keyed serviceName service held]
    exact (parse_parts _ _ _ parsed).1

end Calling

def Recorded (server : GRPCServer V) (receiver : Receiver V) (method : Method V) : Prop :=
  ∃ service mtype, server.services.lookup receiver.serviceName = some service ∧ service.methods.lookup method.name = some mtype ∧
    mtype.method = method

-- The filter compares whole package paths. Methods whose message types come from a
-- package of the path proto_define are called; those of mmo-server/proto_define are not
-- even recorded. The name of an instantiated generic type may have a dot, and a request
-- is divided at its first one.
theorem registered_callable_iff (env : ProtoEnv V) (server after : GRPCServer V) (receiver : Receiver V) (method : Method V)
    (pathA pkgA nameA pathR pkgR nameR : String)
    (documented : Documented receiver method (.named pathA pkgA nameA) (.named pathR pkgR nameR))
    (registered : server.register receiver = (.ok (), after)) (later : List (Receiver V))
    (argMessage : env.isMessage (.named pathA pkgA nameA) = true) (replyMessage : env.isMessage (.named pathR pkgR nameR) = true)
    (req : RPCRequest) (addressed : req.serviceMethod = receiver.serviceName ++ "." ++ method.name) (args : V)
    (unpacks : env.unpack req.args (.named pathA pkgA nameA) = .ok args) :
    (Recorded (registerAll later after) receiver method ∧
        ((registerAll later after).call env req).2 = [⟨receiver.serviceName, method.name, args⟩] ↔
      (KnownPath pathA ∧ KnownPath pathR) ∧ '.' ∉ receiver.serviceName.toList) ∧
    (¬ (KnownPath pathA ∧ KnownPath pathR) → ¬ Recorded (registerAll later after) receiver method ∧
      ('.' ∉ receiver.serviceName.toList → (registerAll later after).call env req =
        (.ok (answer req ("method not found: " ++ receiver.serviceName ++ "." ++ method.name)), []))) := by
  obtain ⟨named, added⟩ := register_ok server after receiver registered
  have held := register_all_keeps later after _ _ added
  have parsed (plain : '.' ∉ receiver.serviceName.toList) :
      parseServiceMethod req.serviceMethod = .ok (receiver.serviceName, method.name) := by
    rw [addressed]
    exact parse_joined _ _ named plain
  have recorded := recorded_lookup receiver method documented.listed
  obtain ⟨passes, refused⟩ := method_type_documented receiver method pathA pkgA nameA pathR pkgR nameR documented
  have unrecorded (unknown : ¬ (KnownPath pathA ∧ KnownPath pathR)) : ¬ Recorded (registerAll later after) receiver method := by
    rintro ⟨service, mtype, here, found, -⟩
    rw [held, Option.some_inj] at here
    rw [← here, recorded, refused unknown] at found
    cases found
  refine ⟨⟨?_, ?_⟩, fun unknown => ⟨unrecorded unknown, fun plain => ?_⟩⟩
  · rintro ⟨there, invoked⟩
    exact ⟨Classical.not_not.mp fun unknown => unrecorded unknown there, call_invokes env req _ _ invoked⟩
  · rintro ⟨known, plain⟩
    rw [passes known] at recorded
    exact ⟨⟨_, _, held, recorded, rfl⟩,
      call_found env req _ _ _ _ _ _ _ args (parsed plain) held recorded rfl rfl argMessage replyMessage unpacks⟩
  · rw [refused unknown] at recorded
    exact call_missing env req _ _ _ _ (parsed plain) held recorded

def chatRequest (path : String) : GoType := .named path "proto_define" "ChatRequest"

def chatResponse (path : String) : GoType := .named path "proto_define" "ChatResponse"

-- Messages are in their wire format. The reply has only its field delivered set.
def echoRequest (path : String) : Method (List UInt8) where
  name := "EchoRequest"
  pkgPath := ""
  ins := [.pointer (.named "mmo-server/pkg/rpc" "rpc" "TestService"), GoType.contextType, .pointer (chatRequest path),
    .pointer (chatResponse path)]
  outs := [GoType.errorType]
  func _ _ := (none, [16, 1])

def getCallCount : Method (List UInt8) where
  name := "GetCallCount"
  pkgPath := ""
  ins := [.pointer (.named "mmo-server/pkg/rpc" "rpc" "TestService")]
  outs := [.named "" "" "int"]
  func _ reply := (none, reply)

def testService (path : String) : Receiver (List UInt8) where
  type := .pointer (.named "mmo-server/pkg/rpc" "rpc" "TestService")
  present := true
  methods := [echoRequest path, getCallCount]
  distinct := by simp [echoRequest, getCallCount]

def typeUrl (message : GoType) : String := "type.googleapis.com/" ++ message.text

def wireEnv : ProtoEnv (List UInt8) where
  isMessage message := message.name = "ChatRequest" ∨ message.name = "ChatResponse"
  zero _ := []
  unmarshalTo any message :=
    if any.typeUrl = typeUrl message then .ok any.value else .error "mismatched message type"
  newAny message reply := .ok ⟨typeUrl message, reply⟩

def echoCall : RPCRequest := ⟨"TestService.EchoRequest", 7, some ⟨"type.googleapis.com/proto_define.ChatRequest", [10, 0, 34, 2, 104, 105]⟩⟩

theorem short_path_callable :
    ((newGRPCServer.register (testService "proto_define")).2.call wireEnv echoCall).2 =
      [⟨"TestService", "EchoRequest", [10, 0, 34, 2, 104, 105]⟩] :=
  ((registered_callable_iff wireEnv newGRPCServer _ (testService "proto_define") (echoRequest "proto_define") _ _ _ _ _ _
    ⟨by simp [testService], rfl, rfl, rfl⟩ rfl [] (by decide) (by decide) echoCall rfl _ rfl).1.mpr ⟨⟨.inr rfl, .inr rfl⟩, by decide⟩).2

theorem generated_messages_refused :
    (newGRPCServer.register (testService "mmo-server/proto_define")).1 = .ok () ∧
      (newGRPCServer.register (testService "mmo-server/proto_define")).2.call wireEnv echoCall =
        (.ok ⟨"TestService.EchoRequest", 7, "method not found: TestService.EchoRequest", none⟩, []) :=
  ⟨rfl, rfl⟩

end MmoServer.Rpc
