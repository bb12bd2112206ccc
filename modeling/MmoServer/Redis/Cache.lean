import MmoServer.Lib.GoMap

set_option autoImplicit false

namespace MmoServer.Redis

-- encoding/json in both directions and the %v verb of fmt, at the type D.
structure Codec (D : Type) where
  marshal : D → Except String String
  unmarshal : String → Except String D
  sprint : D → String

structure Item where
  val : String
  ttl : Option Int
deriving DecidableEq

-- The client reports an error. Redis may have run the command all the same.
structure Fault where
  text : String
  executed : Bool
deriving DecidableEq, Repr

def ran : Option Fault → Bool
  | none => true
  | some fault => fault.executed

def report (failure : String) : Option Fault → Except String Unit
  | none => .ok ()
  | some fault => .error (failure ++ fault.text)

structure RedisCache (D : Type) where
  codec : Codec D
  defaultTTL : Int
  enableJSON : Bool
  items : GoMap String Item

namespace RedisCache

variable {D : Type}

def get (fault : Option String) (key : String) (c : RedisCache D) : Except String D :=
  match fault with
  | some err => .error ("从Redis获取数据失败: " ++ err)
  | none =>
    match c.items.lookup key with
    | none => .error ("缓存未命中: " ++ key)
    | some item =>
      if c.enableJSON then
        match c.codec.unmarshal item.val with
        | .error err => .error ("解析JSON数据失败: " ++ err)
        | .ok value => .ok value
      else
        .error "无法将Redis值转换为目标类型"

def serialize (c : RedisCache D) (value : D) : Except String String :=
  if c.enableJSON then
    match c.codec.marshal value with
    | .error err => .error ("序列化对象为JSON失败: " ++ err)
    | .ok val => .ok val
  else
    .ok (c.codec.sprint value)

-- The client sends no expiry for a negative duration, and KEEPTTL for -1.
def expiry (ttl : Int) (key : String) (c : RedisCache D) : Option Int :=
  let ttl := if ttl = 0 then c.defaultTTL else ttl
  if ttl > 0 then some ttl else if ttl = -1 then (c.items.lookup key).bind Item.ttl else none

def set (fault : Option Fault) (key : String) (value : D) (ttl : Int) (c : RedisCache D) : Except String Unit × RedisCache D :=
  match c.serialize value with
  | .error err => (.error err, c)
  | .ok val =>
    (report "设置缓存失败: " fault, if ran fault then { c with items := c.items.insert key ⟨val, c.expiry ttl key⟩ } else c)

def delete (fault : Option Fault) (key : String) (c : RedisCache D) : Except String Unit × RedisCache D :=
  let result := match fault, c.items.lookup key with
    | none, none => .error ("缓存键不存在: " ++ key)
    | fault, _ => report "删除缓存失败: " fault
  (result, if ran fault then { c with items := c.items.erase key } else c)

def serializeAll (c : RedisCache D) : List (String × D) → Except String (List (String × String))
  | [] => .ok []
  | (key, value) :: rest =>
    match c.serialize value with
    | .error err => .error err
    | .ok val =>
      match c.serializeAll rest with
      | .error err => .error err
      | .ok pairs => .ok ((key, val) :: pairs)

def mSet (order : Shuffle (String × D)) (fault : Option Fault) (items : GoMap String D) (c : RedisCache D) :
    Except String Unit × RedisCache D :=
  if items.size = 0 then (.ok (), c)
  else
    match c.serializeAll (order.apply items.pairs) with
    | .error err => (.error err, c)
    | .ok pairs =>
      (report "批量设置缓存失败: " fault,
        if ran fault then { c with items := c.items.insertPairs (pairs.map fun pair => (pair.1, ⟨pair.2, none⟩)) } else c)

def mGet (fault : Option String) (keys : List String) (c : RedisCache D) : Except String (List (Option String)) :=
  if keys.length = 0 then .ok []
  else
    match fault with
    | some err => .error ("批量获取缓存失败: " ++ err)
    | none => .ok (keys.map fun key => (c.items.lookup key).map Item.val)

def evict (key : String) (c : RedisCache D) : RedisCache D := { c with items := c.items.erase key }

def Faithful (value : D) (c : RedisCache D) : Prop :=
  ∀ val read, c.serialize value = .ok val → c.enableJSON = true → c.codec.unmarshal val = .ok read → read = value

theorem get_ok (fault : Option String) (key : String) (value : D) (c : RedisCache D) (found : c.get fault key = .ok value) :
    ∃ item, c.items.lookup key = some item ∧ c.enableJSON = true ∧ c.codec.unmarshal item.val = .ok value := by
  simp only [get] at found
  split at found
  · cases found
  · split at found
    · cases found
    · rename_i item present
      split at found
      · rename_i json
        split at found
        · cases found
        · rename_i read parsed
          cases found
          exact ⟨item, present, json, parsed⟩
      · cases found

theorem m_get_ok (fault : Option String) (keys : List String) (vals : List (Option String)) (c : RedisCache D)
    (ok : c.mGet fault keys = .ok vals) : vals = keys.map fun key => (c.items.lookup key).map Item.val := by
  simp only [mGet] at ok
  split at ok
  next none =>
    cases ok
    rw [List.length_eq_zero_iff.mp none, List.map_nil]
  · split at ok
    · cases ok
    · cases ok
      rfl

theorem reported (failure : String) (fault : Option Fault) :
    (∃ err, report failure fault = .error err) ∧ ran fault = false ∨
      ran fault = true ∧ (report failure fault = .ok () ∨ fault.any Fault.executed = true) := by
  rcases fault with _ | ⟨text, _ | _⟩
  · exact .inr ⟨rfl, .inl rfl⟩
  · exact .inl ⟨⟨_, rfl⟩, rfl⟩
  · exact .inr ⟨rfl, .inr rfl⟩

theorem set_cases (fault : Option Fault) (key : String) (value : D) (ttl : Int) (c : RedisCache D) :
    (∃ err, c.set fault key value ttl = (.error err, c)) ∨
      ∃ val, c.serialize value = .ok val ∧
        (c.set fault key value ttl).2 = { c with items := c.items.insert key ⟨val, c.expiry ttl key⟩ } ∧
        ((c.set fault key value ttl).1 = .ok () ∨ fault.any Fault.executed = true) := by
  rw [set]
  cases text : c.serialize value with
  | error err => exact .inl ⟨err, rfl⟩
  | ok val =>
    rcases reported "设置缓存失败: " fault with ⟨⟨err, failed⟩, unsent⟩ | ⟨sent, outcome⟩
    · exact .inl ⟨err, by simp [failed, unsent]⟩
    · exact .inr ⟨val, rfl, by simp [sent], outcome⟩

theorem serialize_all_ok (c : RedisCache D) (values : List (String × D)) (pairs : List (String × String))
    (ok : c.serializeAll values = .ok pairs) :
    (∀ pair ∈ values, ∃ val, c.serialize pair.2 = .ok val ∧ (pair.1, val) ∈ pairs) ∧
      ∀ pair ∈ pairs, ∃ value, (pair.1, value) ∈ values ∧ c.serialize value = .ok pair.2 := by
  induction values generalizing pairs with
  | nil =>
    cases ok
    simp
  | cons head tail ih =>
    simp only [serializeAll] at ok
    split at ok
    · cases ok
    · rename_i val serialized
      split at ok
      · cases ok
      · rename_i rest later
        cases ok
        obtain ⟨forth, back⟩ := ih rest later
        constructor
        · intro pair member
          rcases List.mem_cons.mp member with rfl | inTail
          · exact ⟨val, serialized, List.mem_cons_self⟩
          · obtain ⟨text, own, listed⟩ := forth pair inTail
            exact ⟨text, own, List.mem_cons_of_mem _ listed⟩
        · intro pair member
          rcases List.mem_cons.mp member with rfl | inRest
          · exact ⟨head.2, List.mem_cons_self, serialized⟩
          · obtain ⟨value, listed, own⟩ := back pair inRest
            exact ⟨value, List.mem_cons_of_mem _ listed, own⟩

theorem serialize_all_source (order : Shuffle (String × D)) (items : GoMap String D) (c : RedisCache D) (pairs : List (String × String))
    (serialized : c.serializeAll (order.apply items.pairs) = .ok pairs) (pair : String × String) (member : pair ∈ pairs) :
    ∃ value, items.lookup pair.1 = some value ∧ c.serialize value = .ok pair.2 := by
  obtain ⟨value, listed, own⟩ := (serialize_all_ok c _ pairs serialized).2 pair member
  exact ⟨value, (AList.mem_pairs items _ _).mp ((Shuffle.mem_apply _ _ _).mp listed), own⟩

theorem m_set_cases (order : Shuffle (String × D)) (fault : Option Fault) (items : GoMap String D) (c : RedisCache D) :
    (∃ err, c.mSet order fault items = (.error err, c)) ∨
      ∃ stored, (c.mSet order fault items).2 = { c with items := stored } ∧
        (∀ key, items.lookup key = none → stored.lookup key = c.items.lookup key) ∧
        (∀ key value, items.lookup key = some value → ∃ val, c.serialize value = .ok val ∧ stored.lookup key = some ⟨val, none⟩) ∧
        ((c.mSet order fault items).1 = .ok () ∨ fault.any Fault.executed = true) := by
  rw [mSet]
  split
  · rename_i none
    have empty : items = ∅ := AList.ext (List.length_eq_zero_iff.mp none)
    exact .inr ⟨c.items, rfl, fun _ _ => rfl, by simp [empty], .inl rfl⟩
  · cases serialized : c.serializeAll (order.apply items.pairs) with
    | error err => exact .inl ⟨err, rfl⟩
    | ok pairs =>
      have source := serialize_all_source order items c pairs serialized
      rcases reported "批量设置缓存失败: " fault with ⟨⟨err, failed⟩, unsent⟩ | ⟨sent, outcome⟩
      · exact .inl ⟨err, by simp [failed, unsent]⟩
      · refine .inr ⟨c.items.insertPairs (pairs.map fun pair => (pair.1, ⟨pair.2, none⟩)), by simp [sent], ?_, ?_, outcome⟩
        · intro key absent
          apply AList.lookup_insert_pairs_absent
          intro pair paired same
          obtain ⟨original, member, rfl⟩ := List.mem_map.mp paired
          obtain ⟨value, found, _⟩ := source original member
          rw [show original.1 = key from same, absent] at found
          cases found
        · intro key value found
          obtain ⟨val, own, listed⟩ := (serialize_all_ok c _ pairs serialized).1 (key, value)
            ((Shuffle.mem_apply _ _ _).mpr ((AList.mem_pairs items _ _).mpr found))
          refine ⟨val, own, AList.lookup_insert_pairs_mem _ _ (key, (⟨val, none⟩ : Item)) (List.mem_map.mpr ⟨_, listed, rfl⟩) ?_⟩
          intro other paired same
          obtain ⟨original, member, rfl⟩ := List.mem_map.mp paired
          obtain ⟨second, also, text⟩ := source original member
          have sameKey : original.1 = key := same
          rw [sameKey, found, Option.some_inj] at also
          rw [also, text, Except.ok.injEq] at own
          rw [own, sameKey]

end RedisCache

end MmoServer.Redis
