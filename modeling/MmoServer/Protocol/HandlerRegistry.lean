import MmoServer.Lib.GoMap
import MmoServer.Lib.Runs

set_option autoImplicit false

namespace MmoServer.Protocol

structure HandlerRegistry (H : Type) where
  handlers : GoMap UInt16 (GoMap UInt16 H)

namespace HandlerRegistry

variable {H : Type}

def newHandlerRegistry : HandlerRegistry H := ⟨∅⟩

def alreadyRegistered (serviceType messageType : UInt16) : String :=
  "handler already registered for service type " ++ toString serviceType.toNat ++ ", message type " ++
    toString messageType.toNat

def noHandlers (serviceType : UInt16) : String :=
  "no handlers registered for service type " ++ toString serviceType.toNat

def noHandler (serviceType messageType : UInt16) : String :=
  "no handler registered for service type " ++ toString serviceType.toNat ++ ", message type " ++
    toString messageType.toNat

def serviceMap (r : HandlerRegistry H) (serviceType : UInt16) : HandlerRegistry H × GoMap UInt16 H :=
  match r.handlers.lookup serviceType with
  | none => (⟨r.handlers.insert serviceType ∅⟩, ∅)
  | some serviceHandlers => (r, serviceHandlers)

def registerHandler (r : HandlerRegistry H) (serviceType messageType : UInt16) (handler : H) :
    Except String Unit × HandlerRegistry H :=
  let (made, serviceHandlers) := r.serviceMap serviceType
  match serviceHandlers.lookup messageType with
  | some _ => (.error (alreadyRegistered serviceType messageType), made)
  | none => (.ok (), ⟨made.handlers.insert serviceType (serviceHandlers.insert messageType handler)⟩)

def getHandler (r : HandlerRegistry H) (serviceType messageType : UInt16) : Except String H :=
  match r.handlers.lookup serviceType with
  | none => .error (noHandlers serviceType)
  | some serviceHandlers =>
    match serviceHandlers.lookup messageType with
    | none => .error (noHandler serviceType messageType)
    | some handler => .ok handler

def unregisterHandler (r : HandlerRegistry H) (serviceType messageType : UInt16) : Except String Unit × HandlerRegistry H :=
  match r.handlers.lookup serviceType with
  | none => (.error (noHandlers serviceType), r)
  | some serviceHandlers =>
    match serviceHandlers.lookup messageType with
    | none => (.error (noHandler serviceType messageType), r)
    | some _ =>
      let left := serviceHandlers.erase messageType
      if left.size = 0 then (.ok (), ⟨r.handlers.erase serviceType⟩)
      else (.ok (), ⟨r.handlers.insert serviceType left⟩)

def listHandlers (services : Shuffle (UInt16 × GoMap UInt16 H)) (messages : Shuffle UInt16) (r : HandlerRegistry H) :
    GoMap UInt16 (List UInt16) :=
  (∅ : GoMap UInt16 (List UInt16)).insertPairs
    ((services.apply r.handlers.pairs).map fun service => (service.1, messages.apply service.2.keys))

def hasHandler (r : HandlerRegistry H) (serviceType messageType : UInt16) : Bool :=
  match r.handlers.lookup serviceType with
  | none => false
  | some serviceHandlers => (serviceHandlers.lookup messageType).isSome

inductive Call (H : Type) where
  | register (serviceType messageType : UInt16) (handler : H)
  | unregister (serviceType messageType : UInt16)

def call (r : HandlerRegistry H) : Call H → Except String Unit × HandlerRegistry H
  | .register serviceType messageType handler => r.registerHandler serviceType messageType handler
  | .unregister serviceType messageType => r.unregisterHandler serviceType messageType

def step (r : HandlerRegistry H) (made : Call H) : HandlerRegistry H := (r.call made).2

section PartialMap

-- What the registry is for: a map from pairs, where a pair that is taken keeps
-- its first handler until it is given back.
abbrev Bindings (H : Type) := UInt16 × UInt16 → Option H

def Bindings.free : Bindings H := fun _ => none

def Bindings.call (bound : Bindings H) : Call H → Bool × Bindings H
  | .register serviceType messageType handler =>
    match bound (serviceType, messageType) with
    | some _ => (false, bound)
    | none => (true, Function.update bound (serviceType, messageType) (some handler))
  | .unregister serviceType messageType =>
    match bound (serviceType, messageType) with
    | some _ => (true, Function.update bound (serviceType, messageType) none)
    | none => (false, bound)

def Bindings.step (bound : Bindings H) (made : Call H) : Bindings H := (bound.call made).2

end PartialMap

def inForce (calls : List (Call H)) : Bindings H := calls.foldl Bindings.step Bindings.free

def bindings (r : HandlerRegistry H) : Bindings H :=
  fun key => (r.handlers.lookup key.1).bind fun serviceHandlers => serviceHandlers.lookup key.2

def Pruned (r : HandlerRegistry H) : Prop :=
  ∀ serviceType serviceHandlers, r.handlers.lookup serviceType = some serviceHandlers → serviceHandlers ≠ ∅

variable (services : Shuffle (UInt16 × GoMap UInt16 H)) (messages : Shuffle UInt16) (r : HandlerRegistry H)
  (m : GoMap UInt16 (GoMap UInt16 H)) (serviceType messageType : UInt16) (handler : H)

theorem bindings_update (inner : GoMap UInt16 H) (value : Option H)
    (others : ∀ other, other ≠ serviceType → m.lookup other = r.handlers.lookup other)
    (set : ∀ message, inner.lookup message = if message = messageType then value else r.bindings (serviceType, message)) :
    bindings ⟨m.insert serviceType inner⟩ = Function.update r.bindings (serviceType, messageType) value := by
  funext key
  obtain ⟨service, message⟩ := key
  by_cases same : service = serviceType
  · subst same
    by_cases exactly : message = messageType <;> simp [bindings, set, exactly]
  · rw [Function.update_of_ne (by simp [same])]
    simp [bindings, same, others service same]

theorem get_handler_ok :
    r.getHandler serviceType messageType = .ok handler ↔ r.bindings (serviceType, messageType) = some handler := by
  unfold getHandler bindings
  cases service : r.handlers.lookup serviceType with
  | none => simp
  | some serviceHandlers => cases found : serviceHandlers.lookup messageType <;> simp [found]

theorem has_handler_iff :
    r.hasHandler serviceType messageType = true ↔ ∃ handler, r.bindings (serviceType, messageType) = some handler := by
  unfold hasHandler bindings
  cases service : r.handlers.lookup serviceType with
  | none => simp
  | some serviceHandlers => simp [Option.isSome_iff_exists]

theorem list_handlers_service (serviceType : UInt16) :
    (r.listHandlers services messages).lookup serviceType =
      (r.handlers.lookup serviceType).map fun serviceHandlers => messages.apply serviceHandlers.keys :=
  AList.lookup_rekeyed services r.handlers id Function.injective_id (fun inner => messages.apply inner.keys) serviceType

theorem listed_iff :
    messageType ∈ ((r.listHandlers services messages).lookup serviceType).getD [] ↔
      ∃ handler, r.bindings (serviceType, messageType) = some handler := by
  rw [list_handlers_service]
  unfold bindings
  cases r.handlers.lookup serviceType with
  | none => simp
  | some serviceHandlers =>
    rw [Option.map_some, Option.getD_some, Shuffle.mem_apply, ← AList.mem_keys, ← AList.lookup_isSome,
      Option.isSome_iff_exists]
    rfl

theorem listed_nodup (serviceType : UInt16) : (((r.listHandlers services messages).lookup serviceType).getD []).Nodup := by
  rw [list_handlers_service]
  cases r.handlers.lookup serviceType with
  | none => exact List.nodup_nil
  | some serviceHandlers => exact (messages.perm _).nodup_iff.mpr serviceHandlers.keys_nodup

theorem bindings_prune (serviceType : UInt16) (left : GoMap UInt16 H) (empty : left.size = 0) :
    bindings ⟨m.erase serviceType⟩ = bindings ⟨m.insert serviceType left⟩ := by
  funext key
  obtain ⟨other, message⟩ := key
  by_cases same : other = serviceType
  · subst same
    simp [bindings, AList.lookup_of_size_zero left message empty]
  · simp [bindings, same]

theorem pruned_insert (serviceType : UInt16) (inner : GoMap UInt16 H) (pruned : r.Pruned)
    (others : ∀ other, other ≠ serviceType → m.lookup other = r.handlers.lookup other) (filled : inner ≠ ∅) :
    Pruned ⟨m.insert serviceType inner⟩ := by
  intro other stored found
  rw [AList.lookup_insert_eq] at found
  split at found
  next =>
    cases found
    exact filled
  next apart => exact pruned other stored (others other apart ▸ found)

theorem pruned_erase (serviceType : UInt16) (pruned : r.Pruned) : Pruned ⟨r.handlers.erase serviceType⟩ := by
  intro other stored found
  rw [AList.lookup_erase_eq] at found
  split at found
  next => cases found
  next => exact pruned other stored found

structure Follows (before : HandlerRegistry H) (made : Call H) (result : Except String Unit × HandlerRegistry H) : Prop where
  pruned : result.2.Pruned
  bound : result.2.bindings = before.bindings.step made
  answered : result.1 = .ok () ↔ (before.bindings.call made).1 = true
  refused : ∀ error, result.1 = .error error → result.2 = before

theorem service_map_others (serviceType other : UInt16) (apart : other ≠ serviceType) :
    (r.serviceMap serviceType).1.handlers.lookup other = r.handlers.lookup other := by
  unfold serviceMap
  cases r.handlers.lookup serviceType <;> simp [apart]

theorem service_map_lookup (serviceType message : UInt16) :
    (r.serviceMap serviceType).2.lookup message = r.bindings (serviceType, message) := by
  unfold serviceMap bindings
  cases r.handlers.lookup serviceType <;> simp

theorem service_map_kept (serviceType message : UInt16) (handler : H) (taken : r.bindings (serviceType, message) = some handler) :
    (r.serviceMap serviceType).1 = r := by
  unfold serviceMap
  cases service : r.handlers.lookup serviceType with
  | none => simp [bindings, service] at taken
  | some serviceHandlers => rfl

theorem refusal_follows (made : Call H) (text : String) (pruned : r.Pruned) (refuses : r.bindings.call made = (false, r.bindings)) :
    Follows r made (.error text, r) :=
  ⟨pruned, by rw [Bindings.step, refuses], by simp [refuses], fun _ _ => rfl⟩

theorem register_follows (pruned : r.Pruned) :
    Follows r (.register serviceType messageType handler) (r.registerHandler serviceType messageType handler) := by
  have looked := service_map_lookup r serviceType messageType
  cases taken : r.bindings (serviceType, messageType) with
  | some old =>
    have result : r.registerHandler serviceType messageType handler = (.error (alreadyRegistered serviceType messageType), r) := by
      simp only [registerHandler, looked, taken, service_map_kept r serviceType messageType old taken]
    rw [result]
    exact refusal_follows r _ _ pruned (by simp only [Bindings.call, taken])
  | none =>
    have others := service_map_others r serviceType
    have result : r.registerHandler serviceType messageType handler =
        (.ok (), ⟨(r.serviceMap serviceType).1.handlers.insert serviceType
          ((r.serviceMap serviceType).2.insert messageType handler)⟩) := by
      simp only [registerHandler, looked, taken]
    have filled : (r.serviceMap serviceType).2.insert messageType handler ≠ ∅ := by
      intro empty
      have present := AList.lookup_insert (a := messageType) (b := handler) (r.serviceMap serviceType).2
      rw [empty] at present
      cases present
    rw [result]
    refine ⟨pruned_insert r _ serviceType _ pruned others filled, ?_, by simp [Bindings.call, taken], fun _ failed => by cases failed⟩
    rw [bindings_update r _ serviceType messageType _ (some handler) others (by simp [service_map_lookup])]
    simp [Bindings.step, Bindings.call, taken]

theorem unregister_follows (pruned : r.Pruned) :
    Follows r (.unregister serviceType messageType) (r.unregisterHandler serviceType messageType) := by
  have refuses (free : r.bindings (serviceType, messageType) = none) :
      r.bindings.call (.unregister serviceType messageType) = (false, r.bindings) := by
    simp only [Bindings.call, free]
  unfold unregisterHandler
  cases service : r.handlers.lookup serviceType with
  | none => exact refusal_follows r _ _ pruned (refuses (by simp [bindings, service]))
  | some serviceHandlers =>
    have bound (message : UInt16) : r.bindings (serviceType, message) = serviceHandlers.lookup message := by
      simp [bindings, service]
    dsimp only
    cases found : serviceHandlers.lookup messageType with
    | none => exact refusal_follows r _ _ pruned (refuses (by rw [bound, found]))
    | some handler =>
      have allows : r.bindings.call (.unregister serviceType messageType) =
          (true, Function.update r.bindings (serviceType, messageType) none) := by
        simp only [Bindings.call, bound, found]
      have left := bindings_update r r.handlers serviceType messageType (serviceHandlers.erase messageType) none
        (fun _ _ => rfl) (by simp [bound])
      have freed : bindings ⟨r.handlers.insert serviceType (serviceHandlers.erase messageType)⟩ =
          r.bindings.step (.unregister serviceType messageType) := by
        rw [left, Bindings.step, allows]
      dsimp only
      split
      next empty =>
        exact ⟨pruned_erase r serviceType pruned, (bindings_prune _ serviceType _ empty).trans freed, by simp [allows],
          fun _ failed => by cases failed⟩
      next filled =>
        have some_left : serviceHandlers.erase messageType ≠ ∅ := by
          intro empty
          rw [empty] at filled
          exact filled rfl
        exact ⟨pruned_insert r _ serviceType _ pruned (fun _ _ => rfl) some_left, freed, by simp [allows],
          fun _ failed => by cases failed⟩

theorem call_follows (made : Call H) (pruned : r.Pruned) : Follows r made (r.call made) := by
  cases made with
  | register serviceType messageType handler => exact register_follows r serviceType messageType handler pruned
  | unregister serviceType messageType => exact unregister_follows r serviceType messageType pruned

theorem run_follows (calls : List (Call H)) :
    (calls.foldl step newHandlerRegistry).Pruned ∧ (calls.foldl step newHandlerRegistry).bindings = inForce calls := by
  refine Runs.simulates step Bindings.step (fun r bound => r.Pruned ∧ r.bindings = bound) ?_ newHandlerRegistry Bindings.free calls ?_
  · intro r bound made related
    have follows := call_follows r made related.1
    exact ⟨follows.pruned, related.2 ▸ follows.bound⟩
  · have empty : (newHandlerRegistry : HandlerRegistry H).Pruned := by
      intro serviceType serviceHandlers found
      cases found
    exact ⟨empty, rfl⟩

structure Refines (r : HandlerRegistry H) (bound : Bindings H) : Prop where
  pruned : r.Pruned
  has_iff_get : ∀ serviceType messageType,
    r.hasHandler serviceType messageType = true ↔ ∃ handler, r.getHandler serviceType messageType = .ok handler
  get_iff_listed : ∀ services messages serviceType messageType,
    (∃ handler, r.getHandler serviceType messageType = .ok handler) ↔
      messageType ∈ ((r.listHandlers services messages).lookup serviceType).getD []
  listed_once : ∀ services messages serviceType, (((r.listHandlers services messages).lookup serviceType).getD []).Nodup
  get_in_force : ∀ serviceType messageType handler,
    r.getHandler serviceType messageType = .ok handler ↔ bound (serviceType, messageType) = some handler
  answered : ∀ made, (r.call made).1 = .ok () ↔ (bound.call made).1 = true
  refused : ∀ made error, (r.call made).1 = .error error → (r.call made).2 = r

theorem registry_refines_partial_map (calls : List (Call H)) :
    Refines (calls.foldl step newHandlerRegistry) (inForce calls) := by
  obtain ⟨pruned, same⟩ := run_follows calls
  refine ⟨pruned, ?_, ?_, fun services messages serviceType => listed_nodup services messages _ serviceType, ?_, ?_, ?_⟩
  · intro serviceType messageType
    simp only [has_handler_iff, get_handler_ok]
  · intro services messages serviceType messageType
    simp only [listed_iff, get_handler_ok]
  · intro serviceType messageType handler
    rw [get_handler_ok, same]
  · intro made
    rw [← same]
    exact (call_follows _ made pruned).answered
  · exact fun made => (call_follows _ made pruned).refused

end HandlerRegistry

end MmoServer.Protocol
