import MmoServer.Rpc.SentLists

set_option autoImplicit false

namespace MmoServer.Rpc

open Slices

namespace Channel

def latest (ch : Channel) : Option Slice := ch.buffer.or ch.received.getLast?

theorem latest_receive (ch : Channel) : ch.receive.latest = ch.latest := by
  cases buffered : ch.buffer with
  | none => simp [receive, buffered]
  | some instances => simp [receive, latest, buffered]

theorem receive_same (ch : Channel) :
    ch.receive.service = ch.service ∧ ch.receive.closed = ch.closed ∧ ch.receive.notice = ch.notice := by
  rw [receive]
  split <;> exact ⟨rfl, rfl, rfl⟩

theorem offer_same (ch : Channel) (instances : Slice) :
    (ch.offer instances).service = ch.service ∧ (ch.offer instances).closed = ch.closed := by
  rw [offer]
  split <;> exact ⟨rfl, rfl⟩

end Channel

namespace InMemoryRegistry

section Channels

theorem notify_all_channels (serviceName : String) (instances : Slice) (chs : List Nat) (distinct : chs.Nodup) (r : InMemoryRegistry)
    (ch : Nat) : (chs.foldl (notify serviceName instances) r).channels[ch]? =
      r.channels[ch]?.map fun channel => if ch ∈ chs then channel.offer instances else channel := by
  induction chs generalizing r with
  | nil => simp
  | cons head rest ih =>
    obtain ⟨fresh, later⟩ := List.nodup_cons.mp distinct
    rw [List.foldl_cons, ih later]
    simp only [notify, List.getElem?_modify, Option.map_eq_map, Option.map_map]
    congr 1
    funext channel
    by_cases same : head = ch
    · subst same
      simp [fresh]
    · simp [same, Ne.symm same]

theorem notify_all_watches (serviceName : String) (instances : Slice) (chs : List Nat) (r : InMemoryRegistry) :
    (chs.foldl (notify serviceName instances) r).watches = r.watches := by
  induction chs generalizing r with
  | nil => rfl
  | cons ch rest ih => exact ih (notify serviceName instances r ch)

theorem open_channels_map (r after : InMemoryRegistry) (change : Nat → Channel → Channel)
    (found : ∀ ch : Nat, after.channels[ch]? = r.channels[ch]?.map (change ch))
    (same : ∀ ch channel, (change ch channel).service = channel.service ∧ (change ch channel).closed = channel.closed)
    (serviceName : String) (ch : Nat) :
    (∃ channel, r.channels[ch]? = some channel ∧ channel.service = serviceName ∧ channel.closed = false) ↔
      ∃ channel, after.channels[ch]? = some channel ∧ channel.service = serviceName ∧ channel.closed = false := by
  rw [found]
  constructor
  · rintro ⟨channel, its, own, open_⟩
    exact ⟨change ch channel, by rw [its]; rfl, (same ch channel).1.trans own, (same ch channel).2.trans open_⟩
  · rintro ⟨channel, its, own, open_⟩
    obtain ⟨before, was, rfl⟩ := Option.map_eq_some_iff.mp its
    exact ⟨before, was, (same ch before).1.symm.trans own, (same ch before).2.symm.trans open_⟩

end Channels

section Currency

def Shows (r : InMemoryRegistry) (serviceName : String) (instances : Slice) : Notice → Prop
  | .initial => contents r.arrays instances = r.getInstances serviceName
  | .delivered => contents r.arrays instances = r.listed serviceName
  | .dropped => True

theorem shows_same (r after : InMemoryRegistry) (serviceName : String) (instances : Slice) (notice : Notice)
    (same : contents after.arrays instances = contents r.arrays instances) (lists : after.listed serviceName = r.listed serviceName)
    (usables : after.getInstances serviceName = r.getInstances serviceName) (shows : r.Shows serviceName instances notice) :
    after.Shows serviceName instances notice := by
  cases notice with
  | initial => exact same.trans (shows.trans usables.symm)
  | delivered => exact same.trans (shows.trans lists.symm)
  | dropped => trivial

structure Keeps (r : InMemoryRegistry) (channel : Channel) (instances : Slice) : Prop where
  latest : channel.latest = some instances
  old : instances.array < r.arrays.length
  apart : ∀ other stored, other ≠ channel.service → r.services.lookup other = some stored → instances.array ≠ stored.array
  behind : ∀ stored, r.services.lookup channel.service = some stored → instances.array = stored.array → instances.len ≤ stored.len
  shows : r.Shows channel.service instances channel.notice

structure Current (r : InMemoryRegistry) : Prop where
  stored : r.Stored
  apart : ∀ first second one two, r.services.lookup first = some one → r.services.lookup second = some two → first ≠ second →
    one.array ≠ two.array
  named : ∀ serviceName, ∀ ref ∈ r.listed serviceName, r.heap[ref]?.map ServiceInstance.name = some serviceName
  distinct : ∀ serviceName, (r.watchers serviceName).Nodup
  watching : ∀ serviceName ch, ch ∈ r.watchers serviceName ↔
    ∃ channel, r.channels[ch]? = some channel ∧ channel.service = serviceName ∧ channel.closed = false
  channels : ∀ (ch : Nat) channel, r.channels[ch]? = some channel → channel.closed = false → ∃ instances, r.Keeps channel instances

structure Change (r middle : InMemoryRegistry) (serviceName : String) (kept passed : Slice) : Prop where
  channels : middle.channels = r.channels
  watches : middle.watches = r.watches
  others : ∀ other, other ≠ serviceName → middle.services.lookup other = r.services.lookup other
  own : middle.services.lookup serviceName = some kept
  stored : middle.Stored
  size : r.arrays.length ≤ middle.arrays.length
  keptPlace : r.arrays.length ≤ kept.array ∨
    ∃ before, r.services.lookup serviceName = some before ∧ before.array = kept.array ∧ before.len ≤ kept.len
  passedPlace : passed.array < middle.arrays.length ∧ (r.arrays.length ≤ passed.array ∨ passed = kept)
  passedShort : passed.array = kept.array → passed.len ≤ kept.len
  passes : contents middle.arrays passed = contents middle.arrays kept
  frame : ∀ slice, slice.array < r.arrays.length →
    (∀ before, r.services.lookup serviceName = some before → slice.array ≠ before.array) →
    contents middle.arrays slice = contents r.arrays slice
  names : ∀ ref : Nat, middle.heap[ref]?.map ServiceInstance.name = r.heap[ref]?.map ServiceInstance.name
  status : ∀ ref : Nat, r.heap[ref]?.map ServiceInstance.name ≠ some serviceName → (middle.Down ref ↔ r.Down ref)
  members : ∀ ref ∈ contents middle.arrays kept, r.heap[ref]?.map ServiceInstance.name = some serviceName

variable (r middle : InMemoryRegistry) (serviceName : String) (kept passed : Slice)

theorem change_kept_apart (current : r.Current) (change : Change r middle serviceName kept passed) (other : String) (slice : Slice)
    (different : other ≠ serviceName) (found : r.services.lookup other = some slice) : kept.array ≠ slice.array := by
  have bound := within_bound _ _ (current.stored other slice found)
  rcases change.keptPlace with fresh | ⟨before, its, same, -⟩
  · omega
  · rw [← same]
    exact current.apart serviceName other before slice its found (Ne.symm different)

theorem change_listed_other (current : r.Current) (change : Change r middle serviceName kept passed) (other : String)
    (different : other ≠ serviceName) : middle.listed other = r.listed other := by
  rw [listed, listed, change.others other different]
  cases found : r.services.lookup other with
  | none => rfl
  | some slice =>
    apply change.frame slice (within_bound _ _ (current.stored other slice found))
    intro before its
    exact current.apart other serviceName slice before found its different

theorem change_listed_own (change : Change r middle serviceName kept passed) : middle.listed serviceName = contents middle.arrays kept := by
  rw [listed, change.own]

section

variable (current : r.Current) (change : Change r middle serviceName kept passed)

include current change

theorem change_instances_other (other : String) (different : other ≠ serviceName) :
    middle.getInstances other = r.getInstances other := by
  rw [getInstances, getInstances, change_listed_other r middle serviceName kept passed current change other different]
  apply List.filter_congr
  intro ref member
  have name := current.named other ref member
  apply decide_eq_decide.mpr
  rw [change.status ref (by rw [name]; exact fun same => different (Option.some.inj same))]

theorem change_keeps_other (channel : Channel) (slice : Slice) (different : channel.service ≠ serviceName)
    (keeps : r.Keeps channel slice) : middle.Keeps channel slice where
  latest := keeps.latest
  old := keeps.old.trans_le change.size
  apart := by
    intro other stored away found
    by_cases own : other = serviceName
    · subst own
      rw [change.own, Option.some_inj] at found
      subst found
      rcases change.keptPlace with fresh | ⟨before, its, same, -⟩
      · have bound := keeps.old
        omega
      · rw [← same]
        exact keeps.apart other before away its
    · rw [change.others other own] at found
      exact keeps.apart other stored away found
  behind := by
    rw [change.others channel.service different]
    exact keeps.behind
  shows := by
    have same : contents middle.arrays slice = contents r.arrays slice :=
      change.frame slice keeps.old fun before its => keeps.apart serviceName before (Ne.symm different) its
    exact shows_same r middle _ slice _ same (change_listed_other r middle serviceName kept passed current change _ different)
      (change_instances_other r middle serviceName kept passed current change _ different) keeps.shows

theorem change_passed_apart (other : String) (stored : Slice) (different : other ≠ serviceName)
    (found : middle.services.lookup other = some stored) : passed.array ≠ stored.array := by
  rw [change.others other different] at found
  rcases change.passedPlace.2 with fresh | same
  · have bound := within_bound _ _ (current.stored other stored found)
    omega
  · rw [same]
    exact change_kept_apart r middle serviceName kept passed current change other stored different found

theorem change_keeps_own (channel : Channel) (slice : Slice) (own : channel.service = serviceName) (keeps : r.Keeps channel slice) :
    ∃ instances, middle.Keeps (channel.offer passed) instances := by
  subst own
  cases buffered : channel.buffer with
  | none =>
    refine ⟨passed, ?_, change.passedPlace.1, ?_, ?_, ?_⟩
    · simp [Channel.offer, Channel.latest, buffered]
    · intro other stored different found
      rw [(Channel.offer_same channel passed).1] at different
      exact change_passed_apart r middle channel.service kept passed current change other stored different found
    · intro stored found
      rw [(Channel.offer_same channel passed).1, change.own, Option.some_inj] at found
      subst found
      exact change.passedShort
    · simp only [Channel.offer, buffered, Shows]
      rw [change_listed_own r middle channel.service kept passed change]
      exact change.passes
  | some waiting =>
    refine ⟨slice, ?_, keeps.old.trans_le change.size, ?_, ?_, ?_⟩
    · have latest := keeps.latest
      simp only [Channel.latest, buffered] at latest
      simpa [Channel.offer, Channel.latest, buffered] using latest
    · intro other stored different found
      rw [(Channel.offer_same channel passed).1] at different
      rw [change.others other different] at found
      exact keeps.apart other stored different found
    · intro stored found same
      rw [(Channel.offer_same channel passed).1, change.own, Option.some_inj] at found
      subst found
      rcases change.keptPlace with fresh | ⟨before, its, place, grown⟩
      · have bound := keeps.old
        omega
      · exact (keeps.behind before its (same.trans place.symm)).trans grown
    · simp [Channel.offer, buffered, Shows]

end

theorem keeps_same (after : InMemoryRegistry) (same : SameLists r after) (channel : Channel) (slice : Slice) (keeps : r.Keeps channel slice) :
    after.Keeps channel slice where
  latest := keeps.latest
  old := by
    rw [same.arrays]
    exact keeps.old
  apart := by
    rw [same.services]
    exact keeps.apart
  behind := by
    rw [same.services]
    exact keeps.behind
  shows := shows_same r after _ slice _ (by rw [same.arrays]) (listed_same r after same _) (get_instances_same r after same _) keeps.shows

theorem change_channels (current : r.Current) (change : Change r middle serviceName kept passed) (ch : Nat) :
    (middle.notifyWatchers serviceName passed).channels[ch]? =
      r.channels[ch]?.map fun channel => if ch ∈ r.watchers serviceName then channel.offer passed else channel := by
  have list : middle.watchers serviceName = r.watchers serviceName := by rw [watchers, change.watches, watchers]
  rw [notifyWatchers, list, notify_all_channels _ _ _ (current.distinct serviceName), change.channels]

theorem current_change (current : r.Current) (change : Change r middle serviceName kept passed) :
    (middle.notifyWatchers serviceName passed).Current := by
  have same := same_lists_notify serviceName passed middle
  have tables : ∀ name, (middle.notifyWatchers serviceName passed).watchers name = r.watchers name := by
    intro name
    rw [watchers, notifyWatchers, notify_all_watches, change.watches, watchers]
  have told := change_channels r middle serviceName kept passed current change
  have unchanged : ∀ (ch : Nat) (channel : Channel), (if ch ∈ r.watchers serviceName then channel.offer passed else channel).service = channel.service ∧
      (if ch ∈ r.watchers serviceName then channel.offer passed else channel).closed = channel.closed := by
    intro ch channel
    split
    · exact Channel.offer_same channel passed
    · exact ⟨rfl, rfl⟩
  constructor
  · exact stored_same _ _ same change.stored
  · intro first second one two foundOne foundTwo different
    rw [same.services] at foundOne foundTwo
    by_cases own : first = serviceName
    · subst own
      rw [change.own, Option.some_inj] at foundOne
      subst foundOne
      rw [change.others second (Ne.symm different)] at foundTwo
      exact change_kept_apart r middle first kept passed current change second two (Ne.symm different) foundTwo
    · rw [change.others first own] at foundOne
      by_cases ownTwo : second = serviceName
      · subst ownTwo
        rw [change.own, Option.some_inj] at foundTwo
        subst foundTwo
        exact (change_kept_apart r middle second kept passed current change first one own foundOne).symm
      · rw [change.others second ownTwo] at foundTwo
        exact current.apart first second one two foundOne foundTwo different
  · intro name ref member
    rw [listed_same _ _ same] at member
    rw [same.heap, change.names]
    by_cases own : name = serviceName
    · subst own
      rw [change_listed_own r middle name kept passed change] at member
      exact change.members ref member
    · rw [change_listed_other r middle serviceName kept passed current change name own] at member
      exact current.named name ref member
  · intro name
    rw [tables]
    exact current.distinct name
  · intro name ch
    rw [tables, current.watching]
    exact open_channels_map r _ _ told unchanged name ch
  · intro ch channel found open_
    rw [told] at found
    obtain ⟨before, was, rfl⟩ := Option.map_eq_some_iff.mp found
    have opened : before.closed = false := (unchanged ch before).2.symm.trans open_
    obtain ⟨slice, keeps⟩ := current.channels ch before was opened
    by_cases own : before.service = serviceName
    · have member : ch ∈ r.watchers serviceName := (current.watching serviceName ch).mpr ⟨before, was, own, opened⟩
      obtain ⟨instances, kept_⟩ := change_keeps_own r middle serviceName kept passed current change before slice own keeps
      rw [if_pos member]
      exact ⟨instances, keeps_same middle _ same _ _ kept_⟩
    · have absent : ch ∉ r.watchers serviceName := by
        rw [current.watching]
        rintro ⟨channel, found, its, -⟩
        rw [was, Option.some_inj] at found
        subst found
        exact own its
      rw [if_neg absent]
      exact ⟨slice, keeps_same middle _ same _ _ (change_keeps_other r middle serviceName kept passed current change before slice own keeps)⟩

end Currency

end InMemoryRegistry

end MmoServer.Rpc
