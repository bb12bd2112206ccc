import MmoServer.Lib.History
import Mathlib.Data.List.AList

set_option autoImplicit false

-- A Go map is an association list without repeated keys. Its order means
-- nothing: a loop over a map visits the entries in the order of a Shuffle.
abbrev GoMap (K V : Type) := AList (fun _ : K => V)

structure Shuffle (α : Type) where
  apply : List α → List α
  perm : ∀ items, (apply items).Perm items

namespace Shuffle

variable {α : Type}

def listed : Shuffle α := ⟨id, fun _ => List.Perm.refl _⟩

def backward : Shuffle α := ⟨List.reverse, List.reverse_perm⟩

@[simp] theorem mem_apply (order : Shuffle α) (items : List α) (item : α) : item ∈ order.apply items ↔ item ∈ items :=
  (order.perm items).mem_iff

end Shuffle

namespace AList

variable {K V W : Type}

def values (m : GoMap K V) : List V := m.entries.map Sigma.snd

def pairs (m : GoMap K V) : List (K × V) := m.entries.map fun entry => (entry.1, entry.2)

theorem values_pairs (m : GoMap K V) : m.values = m.pairs.map Prod.snd := by
  simp [values, pairs]

def size (m : GoMap K V) : Nat := m.entries.length

@[simp] theorem size_empty : size (∅ : GoMap K V) = 0 := rfl

@[simp] theorem values_empty : values (∅ : GoMap K V) = [] := rfl

-- A loop over a map that changes each value, or what a pointer points to.
def mapValues (change : V → W) (m : GoMap K V) : GoMap K W :=
  ⟨m.entries.map (fun entry => ⟨entry.1, change entry.2⟩), by
    have keys : (m.entries.map (fun entry => (⟨entry.1, change entry.2⟩ : Sigma fun _ : K => W))).keys = m.entries.keys := by
      simp [List.keys]
    rw [List.NodupKeys, keys]
    exact m.nodupKeys⟩

theorem pairs_keys (m : GoMap K V) : m.pairs.map Prod.fst = m.keys := by
  rw [pairs, List.map_map, keys, List.keys]
  rfl

theorem keys_map_values (change : V → W) (m : GoMap K V) : (m.mapValues change).keys = m.keys := by
  simp [mapValues, keys, List.keys]

variable [DecidableEq K]

variable (key : V → K) (items : List V) (pairs : List (K × V)) (m : GoMap K V) (sought : K) (value : V)

@[simp] theorem lookup_insert_eq (key other : K) (value : V) :
    (m.insert key value).lookup other = if other = key then some value else m.lookup other := by
  by_cases same : other = key
  · subst same
    simp
  · rw [if_neg same, lookup_insert_ne same]

@[simp] theorem lookup_erase_eq (key other : K) : (m.erase key).lookup other = if other = key then none else m.lookup other := by
  by_cases same : other = key
  · subst same
    simp
  · rw [if_neg same, lookup_erase_ne same]

theorem lookup_eq_some (key : K) (value : V) : m.lookup key = some value ↔ ⟨key, value⟩ ∈ m.entries :=
  mem_lookup_iff

theorem mem_values : value ∈ m.values ↔ ∃ key, m.lookup key = some value := by
  simp only [values, List.mem_map, lookup_eq_some]
  constructor
  · rintro ⟨⟨key, stored⟩, member, rfl⟩
    exact ⟨key, member⟩
  · rintro ⟨key, member⟩
    exact ⟨⟨key, value⟩, member, rfl⟩

theorem map_values_key (own : ∀ at_ value, m.lookup at_ = some value → key value = at_) : m.values.map key = m.keys := by
  rw [values, List.map_map, keys, List.keys]
  apply List.map_congr_left
  rintro ⟨at_, value⟩ member
  exact own at_ value ((lookup_eq_some m at_ value).mpr member)

theorem values_nodup (own : ∀ at_ value, m.lookup at_ = some value → key value = at_) : m.values.Nodup :=
  List.Nodup.of_map key (map_values_key key m own ▸ m.keys_nodup)

theorem size_insert_fresh (key : K) (value : V) (absent : m.lookup key = none) : size (m.insert key value) = m.size + 1 := by
  have fresh : key ∉ m := lookup_eq_none.mp absent
  rw [size, entries_insert_of_notMem fresh, List.length_cons, size]

theorem size_erase_present (key : K) (value : V) (present : m.lookup key = some value) : size (m.erase key) + 1 = m.size := by
  have member : key ∈ m.keys := lookup_isSome.mp (by rw [present]; rfl)
  have lengths : (m.erase key).keys.length + 1 = m.keys.length := by
    rw [keys_erase, List.length_erase_of_mem member]
    have positive := List.length_pos_of_mem member
    omega
  simpa [size, keys, List.keys] using lengths

theorem lookup_of_size_zero (key : K) (empty : m.size = 0) : m.lookup key = none := by
  rw [lookup_eq_none, mem_keys, AList.keys, List.eq_nil_of_length_eq_zero empty]
  exact List.not_mem_nil

theorem eq_empty_of_lookup (absent : ∀ key, m.lookup key = none) : m = ∅ := by
  apply AList.ext
  rw [empty_entries, List.eq_nil_iff_forall_not_mem]
  rintro ⟨key, value⟩ member
  have present := (lookup_eq_some m key value).mpr member
  rw [absent key] at present
  cases present

-- The loop `for k, v := range pairs { m[k] = v }`.
def insertPairs (pairs : List (K × V)) (m : GoMap K V) : GoMap K V :=
  pairs.foldl (fun built pair => built.insert pair.1 pair.2) m

theorem lookup_insert_pairs :
    (m.insertPairs pairs).lookup sought = ((History.latest Prod.fst sought pairs).map Prod.snd).or (m.lookup sought) := by
  induction pairs generalizing m with
  | nil => rfl
  | cons head tail ih =>
    have step : m.insertPairs (head :: tail) = (m.insert head.1 head.2).insertPairs tail := rfl
    rw [step, ih, lookup_insert_eq, History.latest_cons]
    cases History.latest Prod.fst sought tail with
    | some last => rfl
    | none =>
      rw [Option.map_none, Option.none_or, Option.none_or]
      by_cases here : sought = head.1
      · rw [if_pos here, if_pos here.symm]
        rfl
      · rw [if_neg here, if_neg (Ne.symm here)]
        rfl

theorem insert_pairs_origin (found : (m.insertPairs pairs).lookup sought = some value) :
    (sought, value) ∈ pairs ∨ m.lookup sought = some value := by
  rw [lookup_insert_pairs] at found
  cases last : History.latest Prod.fst sought pairs with
  | none => exact .inr (by simpa [last] using found)
  | some pair =>
    obtain ⟨member, own⟩ := History.latest_mem Prod.fst sought pairs pair last
    rw [last, Option.map_some, Option.some_or, Option.some_inj] at found
    exact .inl (by rw [← own, ← found]; exact member)

theorem lookup_insert_pairs_mem (pair : K × V) (member : pair ∈ pairs) (only : ∀ other ∈ pairs, other.1 = pair.1 → other = pair) :
    (m.insertPairs pairs).lookup pair.1 = some pair.2 := by
  rw [lookup_insert_pairs, History.latest_unique Prod.fst pairs pair member only, Option.map_some, Option.some_or]

theorem lookup_insert_pairs_absent (absent : ∀ pair ∈ pairs, pair.1 ≠ sought) :
    (m.insertPairs pairs).lookup sought = m.lookup sought := by
  rw [lookup_insert_pairs, (History.latest_eq_none Prod.fst sought pairs).mpr absent, Option.map_none, Option.none_or]

-- The loop `for _, k := range keys { delete(m, k) }`.
def eraseAll (keys : List K) (m : GoMap K V) : GoMap K V := keys.foldl (fun built key => built.erase key) m

@[simp] theorem lookup_erase_all (keys : List K) (m : GoMap K V) (sought : K) :
    (m.eraseAll keys).lookup sought = if sought ∈ keys then none else m.lookup sought := by
  induction keys generalizing m with
  | nil => simp [eraseAll]
  | cons head tail ih =>
    have step : m.eraseAll (head :: tail) = (m.erase head).eraseAll tail := rfl
    rw [step, ih, lookup_erase_eq]
    by_cases here : sought = head <;> by_cases later : sought ∈ tail <;> simp [here, later]

@[simp] theorem lookup_map_values (change : V → W) (m : GoMap K V) (key : K) :
    (m.mapValues change).lookup key = (m.lookup key).map change := by
  cases found : m.lookup key with
  | none =>
    rw [Option.map_none, lookup_eq_none]
    intro member
    rw [mem_keys, keys_map_values] at member
    exact lookup_eq_none.mp found (mem_keys.mpr member)
  | some value =>
    rw [Option.map_some, lookup_eq_some]
    exact List.mem_map.mpr ⟨⟨key, value⟩, (lookup_eq_some m key value).mp found, rfl⟩

theorem mem_pairs (key : K) (value : V) : (key, value) ∈ m.pairs ↔ m.lookup key = some value := by
  rw [lookup_eq_some, pairs, List.mem_map]
  constructor
  · rintro ⟨entry, member, same⟩
    cases same
    exact member
  · intro member
    exact ⟨⟨key, value⟩, member, rfl⟩

theorem lookup_rekeyed {L : Type} [DecidableEq L] (order : Shuffle (K × V)) (m : GoMap K V) (rekey : K → L)
    (apart : Function.Injective rekey) (change : V → W) (key : K) :
    ((∅ : GoMap L W).insertPairs ((order.apply m.pairs).map fun pair => (rekey pair.1, change pair.2))).lookup (rekey key) =
      (m.lookup key).map change := by
  have source : ∀ built ∈ (order.apply m.pairs).map fun pair => (rekey pair.1, change pair.2), built.1 = rekey key →
      ∃ value, m.lookup key = some value ∧ built.2 = change value := by
    intro built listed same
    obtain ⟨pair, member, rfl⟩ := List.mem_map.mp listed
    refine ⟨pair.2, ?_, rfl⟩
    rw [← apart same]
    exact (mem_pairs m pair.1 pair.2).mp ((order.mem_apply _ _).mp member)
  cases found : m.lookup key with
  | none =>
    rw [lookup_insert_pairs_absent]
    · rfl
    · intro built listed same
      obtain ⟨value, stored, _⟩ := source built listed same
      cases found.symm.trans stored
  | some value =>
    have listed := List.mem_map_of_mem (f := fun pair : K × V => (rekey pair.1, change pair.2))
      ((order.mem_apply _ _).mpr ((mem_pairs m key value).mpr found))
    refine lookup_insert_pairs_mem _ ∅ _ listed fun built also same => ?_
    obtain ⟨_, stored, own⟩ := source built also same
    cases found.symm.trans stored
    exact Prod.ext same own

theorem pairs_perm (m n : GoMap K V) (same : ∀ key, m.lookup key = n.lookup key) : m.pairs.Perm n.pairs := by
  apply List.Perm.map
  exact List.lookup_ext m.nodupKeys n.nodupKeys fun key value => by
    have equal := same key
    unfold lookup at equal
    rw [equal]

theorem pairs_extract (key : K) (value : V) (present : m.lookup key = some value) :
    m.pairs.Perm ((key, value) :: (m.erase key).pairs) := by
  have restored := pairs_perm m ((m.erase key).insert key value) (by
    intro other
    by_cases same : other = key
    · rw [lookup_insert_eq, if_pos same, same, present]
    · rw [lookup_insert_eq, if_neg same, lookup_erase_eq, if_neg same])
  have inserted : ((m.erase key).insert key value).pairs = (key, value) :: ((m.erase key).erase key).pairs := rfl
  have erased : ((m.erase key).erase key).pairs.Perm (m.erase key).pairs :=
    pairs_perm _ _ fun other => by by_cases same : other = key <;> simp [same]
  exact (inserted ▸ restored).trans (erased.cons _)

def count (test : V → Bool) (m : GoMap K V) : Nat := m.values.countP test

theorem count_insert (test : V → Bool) (m : GoMap K V) (key : K) (value : V) :
    (m.insert key value).count test = (m.erase key).count test + if test value then 1 else 0 := by
  have inserted : (m.insert key value).values = value :: (m.erase key).values := rfl
  rw [count, inserted, List.countP_cons, count]

theorem count_erase (test : V → Bool) (m : GoMap K V) (key : K) :
    m.count test = (m.erase key).count test + if (m.lookup key).any test then 1 else 0 := by
  cases found : m.lookup key with
  | none =>
    have same : (m.erase key).values.Perm m.values := by
      rw [values_pairs, values_pairs]
      refine (pairs_perm _ _ fun other => ?_).map Prod.snd
      by_cases equal : other = key
      · rw [lookup_erase_eq, if_pos equal, equal, found]
      · rw [lookup_erase_eq, if_neg equal]
    simp [count, same.countP_eq]
  | some value =>
    have split : m.values.Perm (value :: (m.erase key).values) := by
      rw [values_pairs, values_pairs]
      exact (pairs_extract m key value found).map Prod.snd
    simp [count, split.countP_eq, List.countP_cons]

theorem insert_pairs_perm (distinct : (pairs.map Prod.fst).Nodup) (fresh : ∀ pair ∈ pairs, m.lookup pair.1 = none) :
    (m.insertPairs pairs).pairs.Perm (m.pairs ++ pairs) := by
  induction pairs generalizing m with
  | nil => simp [insertPairs]
  | cons head tail ih =>
    rw [List.map_cons, List.nodup_cons] at distinct
    have step : m.insertPairs (head :: tail) = (m.insert head.1 head.2).insertPairs tail := rfl
    have inserted : (m.insert head.1 head.2).pairs = head :: m.pairs := by
      rw [pairs, entries_insert_of_notMem (lookup_eq_none.mp (fresh head List.mem_cons_self))]
      rfl
    have later := ih (m.insert head.1 head.2) distinct.2 fun pair member => by
      have apart : pair.1 ≠ head.1 := fun same => distinct.1 (same ▸ List.mem_map_of_mem member)
      rw [lookup_insert_eq, if_neg apart]
      exact fresh pair (List.mem_cons_of_mem _ member)
    rw [step]
    refine later.trans ?_
    rw [inserted, List.cons_append]
    exact List.perm_middle.symm

theorem values_insert_perm (distinct : (items.map key).Nodup) :
    ((∅ : GoMap K V).insertPairs (items.map fun item => (key item, item))).values.Perm items := by
  have keys : ((items.map fun item => (key item, item)).map Prod.fst) = items.map key := by
    rw [List.map_map]
    rfl
  have inserted := (insert_pairs_perm (items.map fun item => (key item, item)) ∅ (keys ▸ distinct) (by simp)).map Prod.snd
  have same : ((items.map fun item => (key item, item)).map Prod.snd) = items := by
    rw [List.map_map]
    exact List.map_id items
  rw [← values_pairs, List.map_append, same] at inserted
  exact inserted

-- The loop `for _, v := range items { m[key(v)] = append(m[key(v)], v) }`.
def groupInto (key : V → K) (items : List V) (m : GoMap K (List V)) : GoMap K (List V) :=
  items.foldl (fun groups item => groups.insert (key item) ((groups.lookup (key item)).getD [] ++ [item])) m

theorem lookup_group_into (m : GoMap K (List V)) (sought : K) (group : List V)
    (found : (m.groupInto key items).lookup sought = some group) :
    group = (m.lookup sought).getD [] ++ items.filter fun item => key item = sought := by
  induction items generalizing m with
  | nil => simp [groupInto] at found; simp [found]
  | cons head tail ih =>
    rw [ih (m.insert (key head) ((m.lookup (key head)).getD [] ++ [head])) found, lookup_insert_eq]
    by_cases here : key head = sought
    · subst here
      simp
    · simp [here, Ne.symm here]

theorem group_into_filled (m : GoMap K (List V)) (sought : K) (group : List V)
    (filled : ∀ at_ items, m.lookup at_ = some items → items ≠ []) (found : (m.groupInto key items).lookup sought = some group) :
    group ≠ [] := by
  induction items generalizing m with
  | nil => exact filled sought group found
  | cons head tail ih =>
    refine ih (m.insert (key head) ((m.lookup (key head)).getD [] ++ [head])) ?_ found
    intro at_ stored present
    rw [lookup_insert_eq] at present
    split at present
    · cases present
      exact List.concat_ne_nil head _
    · exact filled at_ stored present

def contents (m : GoMap K (List V)) : Multiset V := (m.pairs.flatMap Prod.snd : List V)

theorem contents_insert (m : GoMap K (List V)) (key : K) (items : List V) :
    (m.insert key items).contents = (items : Multiset V) + (m.erase key).contents := by
  have inserted : (m.insert key items).pairs = (key, items) :: (m.erase key).pairs := rfl
  rw [contents, inserted, List.flatMap_cons, contents, Multiset.coe_add]

theorem contents_erase (m : GoMap K (List V)) (key : K) :
    m.contents = (((m.lookup key).getD [] : List V) : Multiset V) + (m.erase key).contents := by
  cases found : m.lookup key with
  | none =>
    have same : (m.erase key).pairs.Perm m.pairs :=
      pairs_perm _ _ fun other => by
        by_cases equal : other = key
        · rw [lookup_erase_eq, if_pos equal, equal, found]
        · rw [lookup_erase_eq, if_neg equal]
    rw [Option.getD_none, Multiset.coe_nil, zero_add]
    exact (Multiset.coe_eq_coe.mpr (same.flatMap_right _)).symm
  | some items =>
    have split := (pairs_extract m key items found).flatMap_right Prod.snd
    rw [Option.getD_some, contents, Multiset.coe_eq_coe.mpr split, List.flatMap_cons, contents, Multiset.coe_add]

theorem contents_append (m : GoMap K (List V)) (key : K) (item : V) :
    (m.insert key ((m.lookup key).getD [] ++ [item])).contents = item ::ₘ m.contents := by
  rw [contents_insert, contents_erase m key, ← Multiset.coe_add, add_right_comm, Multiset.coe_singleton, add_comm,
    Multiset.singleton_add]

theorem group_into_perm (m : GoMap K (List V)) :
    ((m.groupInto key items).pairs.flatMap Prod.snd).Perm (m.pairs.flatMap Prod.snd ++ items) := by
  apply Multiset.coe_eq_coe.mp
  change (m.groupInto key items).contents = m.contents + (items : Multiset V)
  induction items generalizing m with
  | nil => rw [groupInto, List.foldl_nil, Multiset.coe_nil, add_zero]
  | cons head tail ih =>
    have step : m.groupInto key (head :: tail) =
        (m.insert (key head) ((m.lookup (key head)).getD [] ++ [head])).groupInto key tail := rfl
    rw [step, ih, contents_append, Multiset.cons_add, ← Multiset.cons_coe, Multiset.add_cons]

end AList
