import MmoServer.Sync.PlayerState
import MmoServer.Lib.Runs

set_option autoImplicit false

namespace MmoServer.Sync

inductive Request where
  | command (command : Command)
  | subscribe (subscriberID targetID : String)
  | unsubscribe (subscriberID targetID : String)

def serve (m : PlayerStateManager) : Request → PlayerStateManager
  | .command command => execute m command
  | .subscribe subscriberID targetID => (m.subscribeToPlayer subscriberID targetID).2
  | .unsubscribe subscriberID targetID => (m.unsubscribeFromPlayer subscriberID targetID).2

-- What the calls are for: the registered players, and who follows whom.
structure Subscriptions where
  registered : Set String
  follows : Set (String × String)

namespace Subscriptions

def none : Subscriptions := ⟨∅, ∅⟩

def next (S : Subscriptions) : Request → Subscriptions
  | .command (.register _ playerID) =>
    ⟨insert playerID S.registered, {pair ∈ S.follows | pair.2 = playerID → playerID ∈ S.registered}⟩
  | .command (.move _ _ _) => S
  | .command (.unregister playerID) =>
    ⟨S.registered \ {playerID}, {pair ∈ S.follows | playerID ∈ S.registered → pair.1 ≠ playerID ∧ pair.2 ≠ playerID}⟩
  | .subscribe subscriberID targetID =>
    { S with follows := S.follows ∪ {pair | targetID ∈ S.registered ∧ pair = (subscriberID, targetID)} }
  | .unsubscribe subscriberID targetID => { S with follows := S.follows \ {(subscriberID, targetID)} }

end Subscriptions

namespace PlayerStateManager

-- The two maps have the registered players as keys, and each list enumerates
-- the followers of its player.
structure Refines (m : PlayerStateManager) (S : Subscriptions) : Prop where
  players : ∀ id, (m.players.lookup id).isSome ↔ id ∈ S.registered
  keys : ∀ id, (m.subscribers.lookup id).isSome ↔ id ∈ S.registered
  lists : ∀ target list, m.subscribers.lookup target = some list →
    list.Nodup ∧ ∀ subscriber, subscriber ∈ list ↔ (subscriber, target) ∈ S.follows
  targets : ∀ pair ∈ S.follows, pair.2 ∈ S.registered

section Step

variable (m : PlayerStateManager) (S : Subscriptions)

section

variable (refines : m.Refines S)

include refines

theorem Refines.store (after : PlayerStateManager) (S' : Subscriptions) (target : String) (list : List String)
    (players : ∀ id, (after.players.lookup id).isSome ↔ id ∈ S'.registered) (registered : S'.registered = insert target S.registered)
    (stored : after.subscribers = m.subscribers.insert target list) (distinct : list.Nodup)
    (own : ∀ subscriber, subscriber ∈ list ↔ (subscriber, target) ∈ S'.follows)
    (others : ∀ subscriber other, other ≠ target → ((subscriber, other) ∈ S'.follows ↔ (subscriber, other) ∈ S.follows)) :
    after.Refines S' := by
  refine ⟨players, fun id => ?_, fun other found listed => ?_, fun pair member => ?_⟩
  · rw [stored, registered]
    by_cases same : id = target <;> simp [same, refines.keys]
  · rw [stored, AList.lookup_insert_eq] at listed
    by_cases same : other = target
    · rw [if_pos same] at listed
      cases listed
      exact same ▸ ⟨distinct, own⟩
    · rw [if_neg same] at listed
      obtain ⟨once, members⟩ := refines.lists other found listed
      exact ⟨once, fun subscriber => (members subscriber).trans (others subscriber other same).symm⟩
  · rw [registered]
    by_cases same : pair.2 = target
    · exact .inl same
    · exact .inr (refines.targets pair ((others pair.1 pair.2 same).mp member))

theorem Refines.register (now : Int) (playerID : String) :
    (serve m (.command (.register now playerID))).Refines (S.next (.command (.register now playerID))) := by
  have known := refines.players playerID
  simp only [serve, execute, registerPlayer]
  cases found : m.players.lookup playerID with
  | some player =>
    rw [found] at known
    have member : playerID ∈ S.registered := known.mp rfl
    simpa [Subscriptions.next, member] using refines
  | none =>
    rw [found] at known
    have absent : playerID ∉ S.registered := fun member => by simpa using known.mpr member
    refine refines.store m S _ _ playerID [] ?_ rfl rfl List.nodup_nil ?_ ?_
    · intro id
      by_cases same : id = playerID <;> simp [Subscriptions.next, same, refines.players]
    · simp [Subscriptions.next, absent]
    · intro subscriber other different
      simp [Subscriptions.next, different]

theorem Refines.unregister (playerID : String) :
    (serve m (.command (.unregister playerID))).Refines (S.next (.command (.unregister playerID))) := by
  have known := refines.players playerID
  simp only [serve, execute, unregisterPlayer]
  cases found : m.players.lookup playerID with
  | none =>
    rw [found] at known
    have absent : playerID ∉ S.registered := fun member => by simpa using known.mpr member
    simpa [Subscriptions.next, absent] using refines
  | some player =>
    rw [found] at known
    have member : playerID ∈ S.registered := known.mp rfl
    constructor
    · intro id
      by_cases same : id = playerID <;> simp [Subscriptions.next, forget, same, refines.players]
    · intro id
      by_cases same : id = playerID <;> simp [Subscriptions.next, forget, same, refines.keys]
    · intro target list listed
      simp only [forget, AList.lookup_map_values, AList.lookup_erase_eq] at listed
      by_cases same : target = playerID
      · simp [same] at listed
      · rw [if_neg same] at listed
        obtain ⟨subs, before, rfl⟩ := Option.map_eq_some_iff.mp listed
        obtain ⟨once, members⟩ := refines.lists target subs before
        refine ⟨once.filter _, fun subscriber => ?_⟩
        simp only [Subscriptions.next, List.mem_filter, decide_eq_true_eq, members, Set.mem_ofPred_eq, member, true_imp_iff, ne_eq, same,
          not_false_eq_true, and_true]
    · rintro pair ⟨follows, rest⟩
      exact ⟨refines.targets pair follows, (rest member).2⟩

theorem Refines.subscribe (subscriberID targetID : String) :
    (serve m (.subscribe subscriberID targetID)).Refines (S.next (.subscribe subscriberID targetID)) := by
  have known := refines.players targetID
  simp only [serve, subscribeToPlayer]
  cases found : m.players.lookup targetID with
  | none =>
    rw [found] at known
    have absent : targetID ∉ S.registered := fun member => by simpa using known.mpr member
    simpa [Subscriptions.next, absent] using refines
  | some player =>
    rw [found] at known
    have member : targetID ∈ S.registered := known.mp rfl
    obtain ⟨subscribers, listed⟩ := Option.isSome_iff_exists.mp ((refines.keys targetID).mpr member)
    obtain ⟨once, members⟩ := refines.lists targetID subscribers listed
    simp only [listed, Option.getD_some]
    split
    · rename_i already
      have same : S.next (.subscribe subscriberID targetID) = S := by
        have follows := (members subscriberID).mp already
        simp [Subscriptions.next, member, follows]
      rw [same]
      exact refines
    · rename_i fresh
      refine refines.store m S _ _ targetID (subscribers ++ [subscriberID]) refines.players ?_ rfl ?_ ?_ ?_
      · exact (Set.insert_eq_of_mem member).symm
      · exact List.concat_eq_append ▸ once.concat fresh
      · intro subscriber
        simp [Subscriptions.next, member, members, or_comm]
      · intro subscriber other different
        simp [Subscriptions.next, different]

theorem Refines.unsubscribe (subscriberID targetID : String) :
    (serve m (.unsubscribe subscriberID targetID)).Refines (S.next (.unsubscribe subscriberID targetID)) := by
  have known := refines.keys targetID
  simp only [serve, unsubscribeFromPlayer]
  cases listed : m.subscribers.lookup targetID with
  | none =>
    rw [listed] at known
    have same : S.next (.unsubscribe subscriberID targetID) = S := by
      have absent : (subscriberID, targetID) ∉ S.follows := fun follows => by simpa using known.mpr (refines.targets _ follows)
      simp [Subscriptions.next, absent]
    rw [same]
    exact refines
  | some subscribers =>
    rw [listed] at known
    obtain ⟨once, members⟩ := refines.lists targetID subscribers listed
    refine refines.store m S _ _ targetID _ refines.players (Set.insert_eq_of_mem (known.mp rfl)).symm rfl (once.filter _) ?_ ?_
    · intro subscriber
      simp [Subscriptions.next, members]
    · intro subscriber other different
      simp [Subscriptions.next, different]

theorem Refines.move (now : Int) (playerID : String) (position : Aoi.Position) :
    (serve m (.command (.move now playerID position))).Refines S := by
  simp only [serve, execute, updatePlayerPosition]
  cases m.getPlayer playerID with
  | error err => exact refines
  | ok player => exact ⟨refines.players, refines.keys, refines.lists, refines.targets⟩

theorem Refines.step (request : Request) : (serve m request).Refines (S.next request) := by
  cases request with
  | command command =>
    cases command with
    | register now playerID => exact refines.register m S now playerID
    | move now playerID position => exact refines.move m S now playerID position
    | unregister playerID => exact refines.unregister m S playerID
  | subscribe subscriberID targetID => exact refines.subscribe m S subscriberID targetID
  | unsubscribe subscriberID targetID => exact refines.unsubscribe m S subscriberID targetID

end

end Step

theorem refines_new : newPlayerStateManager.Refines .none := by
  constructor <;> simp [newPlayerStateManager, Subscriptions.none]

theorem subscribe_result (m : PlayerStateManager) (subscriberID targetID : String) :
    (m.players.lookup targetID = none →
        m.subscribeToPlayer subscriberID targetID = (.error ("target player not found: " ++ targetID), m)) ∧
      ((m.players.lookup targetID).isSome → (m.subscribeToPlayer subscriberID targetID).1 = .ok ()) := by
  rw [subscribeToPlayer]
  constructor
  · intro absent
    rw [absent]
  · intro present
    obtain ⟨player, found⟩ := Option.isSome_iff_exists.mp present
    rw [found]
    dsimp only
    split <;> rfl

theorem subscriptions_refine (requests : List Request) :
    (∀ id, id ∈ (requests.foldl serve newPlayerStateManager).subscribers ↔
      id ∈ (requests.foldl Subscriptions.next .none).registered) ∧
    (∀ id, id ∈ (requests.foldl serve newPlayerStateManager).players ↔
      id ∈ (requests.foldl Subscriptions.next .none).registered) ∧
    (∀ target list, (requests.foldl serve newPlayerStateManager).subscribers.lookup target = some list →
      list.Nodup ∧ ∀ subscriber, subscriber ∈ list ↔
        (subscriber, target) ∈ (requests.foldl Subscriptions.next .none).follows) ∧
    ∀ subscriberID targetID,
      (targetID ∉ (requests.foldl Subscriptions.next .none).registered →
        (requests.foldl serve newPlayerStateManager).subscribeToPlayer subscriberID targetID =
          (.error ("target player not found: " ++ targetID), requests.foldl serve newPlayerStateManager)) ∧
      (targetID ∈ (requests.foldl Subscriptions.next .none).registered →
        ((requests.foldl serve newPlayerStateManager).subscribeToPlayer subscriberID targetID).1 = .ok ()) := by
  have refines := Runs.simulates serve Subscriptions.next Refines (fun m S request refines => refines.step m S request)
    newPlayerStateManager .none requests refines_new
  refine ⟨fun id => ?_, fun id => ?_, refines.lists, fun subscriberID targetID => ⟨fun absent => ?_, fun known => ?_⟩⟩
  · rw [← refines.keys, AList.lookup_isSome]
  · rw [← refines.players, AList.lookup_isSome]
  · refine (subscribe_result _ subscriberID targetID).1 ?_
    rw [← Option.not_isSome_iff_eq_none, refines.players]
    exact absent
  · exact (subscribe_result _ subscriberID targetID).2 ((refines.players targetID).mpr known)

def followers : List Request :=
  [.command (.register 0 "a"), .command (.register 0 "b"), .subscribe "a" "b", .subscribe "c" "b", .subscribe "a" "b",
    .subscribe "b" "z", .command (.unregister "a")]

theorem followers_refined :
    (followers.foldl serve newPlayerStateManager).subscribers.lookup "b" = some ["c"] ∧
      ∀ subscriber, subscriber ∈ ["c"] ↔ (subscriber, "b") ∈ (followers.foldl Subscriptions.next .none).follows := by
  have listed : (followers.foldl serve newPlayerStateManager).subscribers.lookup "b" = some ["c"] := by decide +kernel
  exact ⟨listed, ((subscriptions_refine followers).2.2.1 "b" ["c"] listed).2⟩

end PlayerStateManager

end MmoServer.Sync
