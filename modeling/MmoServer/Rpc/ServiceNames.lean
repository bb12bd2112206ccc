import MmoServer.Lib.Json
import MmoServer.Lib.JsonStrings
import MmoServer.Rpc.Dispatch

set_option autoImplicit false

-- The grammar of "Service.Method" over the bytes of a Go string, valid UTF-8 or not.
namespace MmoServer.Rpc.ServiceNames

def dot : UInt8 := 46

-- The loop, from index i on. Its variable keeps the zero it starts with when no dot is found.
def firstDot : Nat → List UInt8 → Nat
  | _, [] => 0
  | i, byte :: rest => if byte = dot then i else firstDot (i + 1) rest

def illFormed (serviceMethod : List UInt8) : List UInt8 := Json.utf8 "service/method request ill-formed: " ++ serviceMethod

def parseServiceMethod (serviceMethod : List UInt8) : Except (List UInt8) (List UInt8 × List UInt8) :=
  let at_ := firstDot 0 serviceMethod
  if at_ = 0 then .error (illFormed serviceMethod)
  else .ok (serviceMethod.take at_, serviceMethod.drop (at_ + 1))

section Loop

theorem first_dot_absent (i : Nat) (bytes : List UInt8) (absent : dot ∉ bytes) : firstDot i bytes = 0 := by
  induction bytes generalizing i with
  | nil => rfl
  | cons byte rest ih =>
    rw [List.mem_cons, not_or] at absent
    rw [firstDot, if_neg (Ne.symm absent.1)]
    exact ih (i + 1) absent.2

theorem first_dot_joined (i : Nat) (service method : List UInt8) (plain : dot ∉ service) :
    firstDot i (service ++ dot :: method) = i + service.length := by
  induction service generalizing i with
  | nil => exact if_pos rfl
  | cons byte rest ih =>
    rw [List.mem_cons, not_or] at plain
    rw [List.cons_append, firstDot, if_neg (Ne.symm plain.1), ih (i + 1) plain.2, List.length_cons]
    omega

end Loop

section Outcomes

variable (serviceMethod : List UInt8)

theorem parse_absent (absent : dot ∉ serviceMethod) : parseServiceMethod serviceMethod = .error (illFormed serviceMethod) := by
  rw [parseServiceMethod, first_dot_absent 0 serviceMethod absent]
  rfl

theorem parse_leading (method : List UInt8) : parseServiceMethod (dot :: method) = .error (illFormed (dot :: method)) := rfl

theorem parse_divided (service method : List UInt8) (named : service ≠ []) (plain : dot ∉ service) :
    parseServiceMethod (service ++ dot :: method) = .ok (service, method) := by
  have found : firstDot 0 (service ++ dot :: method) = service.length := by
    rw [first_dot_joined 0 service method plain, Nat.zero_add]
  have positive : service.length ≠ 0 := fun empty => named (List.length_eq_zero_iff.mp empty)
  have method_ : (service ++ dot :: method).drop (service.length + 1) = method := by
    rw [← List.drop_drop, List.drop_left]
    rfl
  simp only [parseServiceMethod, found, if_neg positive, List.take_left, method_]

theorem string_cases :
    dot ∉ serviceMethod ∨ (∃ method, serviceMethod = dot :: method) ∨
      ∃ service method, service ≠ [] ∧ dot ∉ service ∧ serviceMethod = service ++ dot :: method := by
  by_cases present : dot ∈ serviceMethod
  · obtain ⟨service, method, joined, plain⟩ := List.eq_append_cons_of_mem present
    cases service with
    | nil => exact .inr (.inl ⟨method, joined⟩)
    | cons byte rest => exact .inr (.inr ⟨byte :: rest, method, List.cons_ne_nil _ _, plain, joined⟩)
  · exact .inl present

theorem parse_ok (serviceMethod service method : List UInt8) (parsed : parseServiceMethod serviceMethod = .ok (service, method)) :
    service ≠ [] ∧ dot ∉ service ∧ serviceMethod = service ++ dot :: method := by
  rcases string_cases serviceMethod with absent | ⟨rest, rfl⟩ | ⟨first, second, named, plain, rfl⟩
  · rw [parse_absent serviceMethod absent] at parsed
    cases parsed
  · rw [parse_leading] at parsed
    cases parsed
  · rw [parse_divided first second named plain] at parsed
    cases parsed
    exact ⟨named, plain, rfl⟩

theorem parse_error_iff :
    (∃ err, parseServiceMethod serviceMethod = .error err) ↔ dot ∉ serviceMethod ∨ serviceMethod.head? = some dot := by
  constructor
  · rintro ⟨err, failed⟩
    rcases string_cases serviceMethod with absent | ⟨rest, rfl⟩ | ⟨first, second, named, plain, rfl⟩
    · exact .inl absent
    · exact .inr rfl
    · rw [parse_divided first second named plain] at failed
      cases failed
  · rintro (absent | leading)
    · exact ⟨_, parse_absent serviceMethod absent⟩
    · obtain ⟨rest, rfl⟩ := List.head?_eq_some_iff.mp leading
      exact ⟨_, parse_leading rest⟩

theorem parse_accepts_exactly_its_grammar (serviceMethod : List UInt8) :
    (∀ service method, parseServiceMethod serviceMethod = .ok (service, method) ↔
      service ≠ [] ∧ dot ∉ service ∧ serviceMethod = service ++ [dot] ++ method) ∧
    ((∃ err, parseServiceMethod serviceMethod = .error err) ↔ dot ∉ serviceMethod ∨ serviceMethod.head? = some dot) := by
  refine ⟨fun service method => ?_, parse_error_iff serviceMethod⟩
  have joined : service ++ [dot] ++ method = service ++ dot :: method := by
    rw [List.append_assoc, List.singleton_append]
  rw [joined]
  constructor
  · exact parse_ok serviceMethod service method
  · rintro ⟨named, plain, rfl⟩
    exact parse_divided service method named plain

end Outcomes

section Strings

theorem dot_mem_char (c : Char) (member : dot ∈ String.utf8EncodeChar c) : c = '.' := by
  rcases JsonText.char_bytes c with ⟨single, small⟩ | ⟨_, high⟩
  · rw [single, List.mem_singleton] at member
    have code := congrArg UInt8.toNat member
    rw [UInt8.toNat_ofNat', Nat.mod_eq_of_lt (by omega)] at code
    exact Char.toNat_inj.mp code.symm
  · exact absurd (high dot member) (by decide)

theorem dot_mem_utf8 (text : String) (member : dot ∈ Json.utf8 text) : '.' ∈ text.toList := by
  obtain ⟨c, listed, inside⟩ := List.mem_flatMap.mp member
  exact dot_mem_char c inside ▸ listed

theorem named_parse_absent (text : String) (absent : '.' ∉ text.toList) :
    Rpc.parseServiceMethod text = .error ("service/method request ill-formed: " ++ text) := by
  have none_ : text.toList.findIdx? (· = '.') = none := by
    rw [List.findIdx?_eq_none_iff]
    intro letter member
    simp only [decide_eq_false_iff_not]
    rintro rfl
    exact absent member
  rw [Rpc.parseServiceMethod, none_]

theorem named_parse_leading (method : String) :
    Rpc.parseServiceMethod ("." ++ method) = .error ("service/method request ill-formed: " ++ ("." ++ method)) := by
  have front : ("." ++ method).toList.findIdx? (· = '.') = some 0 := by
    rw [String.toList_append]
    rfl
  rw [Rpc.parseServiceMethod, front]

-- The parse that the dispatch uses is this one, on the strings that are UTF-8.
theorem parse_utf8 (text : String) :
    parseServiceMethod (Json.utf8 text) =
      ((Rpc.parseServiceMethod text).mapError Json.utf8).map fun names => (Json.utf8 names.1, Json.utf8 names.2) := by
  by_cases present : '.' ∈ text.toList
  · obtain ⟨service, method, joined, plain⟩ := List.eq_append_cons_of_mem present
    have dotted : text = String.ofList service ++ "." ++ String.ofList method := by
      rw [← String.toList_inj, joined]
      simp [String.toList_append]
    by_cases named : service = []
    · rw [named, String.ofList_nil, String.empty_append] at dotted
      rw [dotted, named_parse_leading, Json.utf8_append]
      simp only [Except.mapError, Except.map, Json.utf8_append]
      exact parse_leading _
    · have letters : '.' ∉ (String.ofList service).toList := by rwa [String.toList_ofList]
      have some_ : String.ofList service ≠ "" := by simpa using named
      have bytes : Json.utf8 (String.ofList service) ≠ [] := by
        rw [Json.utf8, String.toList_ofList, Ne, List.flatMap_eq_nil_iff]
        obtain ⟨c, member⟩ := List.exists_mem_of_ne_nil service named
        exact fun all => String.utf8EncodeChar_ne_nil (all c member)
      rw [dotted, parse_joined _ _ some_ letters, Json.utf8_append, Json.utf8_append, List.append_assoc]
      exact parse_divided _ _ bytes fun member => letters (dot_mem_utf8 _ member)
  · rw [parse_absent _ fun member => present (dot_mem_utf8 text member), named_parse_absent text present]
    simp only [Except.mapError, Except.map, illFormed, Json.utf8_append]

end Strings

end MmoServer.Rpc.ServiceNames
