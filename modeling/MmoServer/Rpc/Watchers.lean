import MmoServer.Rpc.Changes

set_option autoImplicit false

namespace MmoServer.Rpc

open Slices

namespace InMemoryRegistry

section Readers

variable (r : InMemoryRegistry)

theorem current_create (instance_ : ServiceInstance) (current : r.Current) : (r.step (.create instance_)).Current := by
  have here : ∀ serviceName, ∀ ref ∈ r.listed serviceName, (r.heap ++ [instance_])[ref]? = r.heap[ref]? := by
    intro serviceName ref member
    obtain ⟨found, its, -⟩ := Option.map_eq_some_iff.mp (current.named serviceName ref member)
    exact List.getElem?_append_left (List.getElem?_eq_some_iff.mp its).1
  have instances : ∀ serviceName, (r.step (.create instance_)).getInstances serviceName = r.getInstances serviceName := by
    intro serviceName
    apply List.filter_congr
    intro ref member
    apply decide_eq_decide.mpr
    rw [Down, step, here serviceName ref member, Down]
  constructor
  · exact current.stored
  · exact current.apart
  · intro serviceName ref member
    rw [step, here serviceName ref member]
    exact current.named serviceName ref member
  · exact current.distinct
  · exact current.watching
  · intro ch channel found open_
    obtain ⟨slice, keeps⟩ := current.channels ch channel found open_
    exact ⟨slice, keeps.latest, keeps.old, keeps.apart, keeps.behind,
      shows_same r _ _ slice _ rfl rfl (instances channel.service) keeps.shows⟩

theorem current_receive (ch : Nat) (current : r.Current) : (r.step (.receive ch)).Current := by
  have found : ∀ at_ : Nat, (r.step (.receive ch)).channels[at_]? =
      r.channels[at_]?.map fun channel => if ch = at_ then channel.receive else channel := by
    intro at_
    rw [step, List.getElem?_modify]
    rfl
  have same : ∀ (at_ : Nat) (channel : Channel), (if ch = at_ then channel.receive else channel).service = channel.service ∧
      (if ch = at_ then channel.receive else channel).closed = channel.closed := by
    intro at_ channel
    split
    · exact ⟨(Channel.receive_same channel).1, (Channel.receive_same channel).2.1⟩
    · exact ⟨rfl, rfl⟩
  constructor
  · exact current.stored
  · exact current.apart
  · exact current.named
  · exact current.distinct
  · intro serviceName at_
    exact (current.watching serviceName at_).trans (open_channels_map r _ _ found same serviceName at_)
  · intro at_ channel its open_
    rw [found] at its
    obtain ⟨before, was, rfl⟩ := Option.map_eq_some_iff.mp its
    obtain ⟨slice, keeps⟩ := current.channels at_ before was ((same at_ before).2.symm.trans open_)
    refine ⟨slice, ?_⟩
    by_cases here : ch = at_
    · obtain ⟨service, -, notice⟩ := Channel.receive_same before
      rw [if_pos here]
      refine ⟨(Channel.latest_receive before).trans keeps.latest, keeps.old, ?_, ?_, ?_⟩
      · rw [service]
        exact keeps.apart
      · rw [service]
        exact keeps.behind
      · rw [service, notice]
        exact keeps.shows
    · rw [if_neg here]
      exact ⟨keeps.latest, keeps.old, keeps.apart, keeps.behind, keeps.shows⟩

theorem cancel_watchers (ch : Nat) (channel : Channel) (found : r.channels[ch]? = some channel) (open_ : channel.closed = false)
    (serviceName : String) :
    (r.cancel ch).watchers serviceName =
      if serviceName = channel.service then (r.watchers channel.service).erase ch else r.watchers serviceName := by
  have table : (r.cancel ch).watches = if (r.watchers channel.service).erase ch = [] then r.watches.erase channel.service
      else r.watches.insert channel.service ((r.watchers channel.service).erase ch) := by
    simp only [cancel, found, open_, Bool.false_eq_true, if_false]
  rw [watchers, table]
  by_cases empty : (r.watchers channel.service).erase ch = []
  · rw [if_pos empty, AList.lookup_erase_eq, empty]
    split
    · rfl
    · rw [watchers]
  · rw [if_neg empty, AList.lookup_insert_eq]
    split
    · rfl
    · rw [watchers]

theorem current_cancel (ch : Nat) (current : r.Current) : (r.cancel ch).Current := by
  cases found : r.channels[ch]? with
  | none => simpa only [cancel, found] using current
  | some channel =>
    cases open_ : channel.closed with
    | true => simpa only [cancel, found, open_, if_true] using current
    | false =>
      have tables := cancel_watchers r ch channel found open_
      have channels : ∀ at_ : Nat, (r.cancel ch).channels[at_]? =
          r.channels[at_]?.map fun channel => if ch = at_ then { channel with closed := true } else channel := by
        intro at_
        simp only [cancel, found, open_, Bool.false_eq_true, if_false, List.getElem?_modify]
        rfl
      have lists : SameLists r (r.cancel ch) := by
        constructor <;> simp [cancel, found, open_]
      constructor
      · exact stored_same _ _ lists current.stored
      · rw [lists.services]
        exact current.apart
      · intro serviceName
        rw [listed_same _ _ lists, lists.heap]
        exact current.named serviceName
      · intro serviceName
        rw [tables]
        split
        · exact (current.distinct channel.service).erase ch
        · exact current.distinct serviceName
      · intro serviceName at_
        rw [tables, channels]
        by_cases here : ch = at_
        · subst here
          apply iff_of_false
          · split
            · exact (current.distinct channel.service).not_mem_erase
            · rename_i away
              rw [current.watching]
              rintro ⟨other, its, own, -⟩
              rw [found, Option.some_inj] at its
              subst its
              exact away own.symm
          · rw [found]
            simp
        · simp only [if_neg here, Option.map_id']
          rw [← current.watching]
          split
          · rename_i own
            rw [own, List.mem_erase_of_ne (Ne.symm here)]
          · rfl
      · intro at_ other its stillOpen
        rw [channels] at its
        obtain ⟨before, was, rfl⟩ := Option.map_eq_some_iff.mp its
        by_cases here : ch = at_
        · rw [if_pos here] at stillOpen
          cases stillOpen
        · rw [if_neg here] at stillOpen ⊢
          obtain ⟨slice, keeps⟩ := current.channels at_ before was stillOpen
          exact ⟨slice, keeps_same r _ lists before slice keeps⟩

theorem current_grow (backing : Backing InstanceRef) (current : r.Current) :
    ({ r with arrays := r.arrays ++ [backing] } : InMemoryRegistry).Current := by
  have lists := listed_grow r backing current.stored
  constructor
  · exact fun name slice found => within_old _ _ _ (current.stored name slice found)
  · exact current.apart
  · intro serviceName
    rw [lists]
    exact current.named serviceName
  · exact current.distinct
  · exact current.watching
  · intro ch channel found open_
    obtain ⟨slice, keeps⟩ := current.channels ch channel found open_
    have same : contents (r.arrays ++ [backing]) slice = contents r.arrays slice := contents_old _ _ _ keeps.old
    refine ⟨slice, keeps.latest, ?_, keeps.apart, keeps.behind, ?_⟩
    · rw [List.length_append]
      exact keeps.old.trans_le (Nat.le_add_right _ _)
    · exact shows_same r _ _ slice _ same (lists channel.service) (congrArg r.usable (lists channel.service)) keeps.shows

theorem watch_keeps (serviceName : String) (current : r.Current) :
    (r.watchService serviceName).Keeps { service := serviceName, buffer := some ⟨r.arrays.length, (r.getInstances serviceName).length⟩ }
      ⟨r.arrays.length, (r.getInstances serviceName).length⟩ where
  latest := rfl
  old := by simp [watchService, make]
  apart other stored _ found := by
    have bound := within_bound _ _ (current.stored other stored found)
    exact bound.ne'
  behind stored found same := by
    have bound := within_bound _ _ (current.stored serviceName stored found)
    exact absurd same bound.ne'
  shows := (contents_make (r.getInstances serviceName) (r.listed serviceName).length r.arrays).trans
    (watch_instances r serviceName current.stored).symm

theorem current_watch (serviceName : String) (current : r.Current) : (r.watchService serviceName).Current := by
  have grown := current_grow r ⟨r.getInstances serviceName, (r.listed serviceName).length⟩ current
  have tables : ∀ name, (r.watchService serviceName).watchers name =
      if name = serviceName then r.watchers serviceName ++ [r.channels.length] else r.watchers name := by
    intro name
    simp only [watchers, watchService, AList.lookup_insert_eq]
    split <;> rfl
  have fresh : ∀ name, r.channels.length ∉ r.watchers name := by
    intro name member
    obtain ⟨channel, found, -⟩ := (current.watching name _).mp member
    exact absurd (List.getElem?_eq_some_iff.mp found).1 (lt_irrefl _)
  have channels : ∀ ch : Nat, ch ≠ r.channels.length → (r.watchService serviceName).channels[ch]? = r.channels[ch]? := by
    intro ch other
    simp only [watchService, List.getElem?_append]
    split
    · rfl
    · rename_i outside
      rw [List.getElem?_eq_none (by simp; omega), List.getElem?_eq_none (by omega)]
  have newest : (r.watchService serviceName).channels[r.channels.length]? =
      some { service := serviceName, buffer := some ⟨r.arrays.length, (r.getInstances serviceName).length⟩ } :=
    List.getElem?_concat_length
  constructor
  · exact grown.stored
  · exact grown.apart
  · exact grown.named
  · intro name
    rw [tables]
    split
    · exact List.nodup_append.mpr ⟨current.distinct serviceName, List.nodup_singleton _, by
        intro ch member other its same
        rw [same, List.mem_singleton.mp its] at member
        exact fresh serviceName member⟩
    · exact current.distinct name
  · intro name ch
    rw [tables]
    by_cases last : ch = r.channels.length
    · subst last
      rw [newest]
      split
      · rename_i own
        simp [own]
      · rename_i own
        simp [fresh name, Ne.symm own]
    · rw [channels ch last, ← current.watching]
      split
      · rename_i own
        simp [own, last]
      · rfl
  · intro ch channel found open_
    by_cases last : ch = r.channels.length
    · rw [last, newest, Option.some_inj] at found
      subst found
      exact ⟨_, watch_keeps r serviceName current⟩
    · rw [channels ch last] at found
      obtain ⟨slice, keeps⟩ := grown.channels ch channel found open_
      let listing : Backing InstanceRef := ⟨r.getInstances serviceName, (r.listed serviceName).length⟩
      exact ⟨slice, keeps_same { r with arrays := r.arrays ++ [listing] } (r.watchService serviceName) ⟨rfl, rfl, rfl⟩ channel slice keeps⟩

theorem current_step (call : Call) (current : r.Current) : (r.step call).Current := by
  cases call with
  | create instance_ => exact current_create r instance_ current
  | register ref growth => exact current_register r ref growth current
  | deregister instanceID order => exact current_deregister r instanceID order current
  | cleanup order => exact current_cleanup r order current
  | watchService serviceName => exact current_watch r serviceName current
  | cancel ch => exact current_cancel r ch current
  | receive ch => exact current_receive r ch current

theorem current_new : ({} : InMemoryRegistry).Current := by
  constructor
  · intro serviceName instances found
    cases found
  · intro first second one two found
    cases found
  · intro serviceName ref member
    cases member
  · exact fun _ => List.nodup_nil
  · intro serviceName ch
    simp [watchers]
  · intro ch channel found
    cases found

end Readers

section Convergence

def UpToDate (r : InMemoryRegistry) (channel : Channel) : Prop :=
  ∃ last ∈ channel.received.getLast?, contents r.arrays last = r.listed channel.service

instance decidableUpToDate (r : InMemoryRegistry) (channel : Channel) : Decidable (r.UpToDate channel) :=
  inferInstanceAs (Decidable (∃ last ∈ channel.received.getLast?, contents r.arrays last = r.listed channel.service))

theorem emptied_latest (channel : Channel) (emptied : channel.buffer = none) : channel.latest = channel.received.getLast? := by
  rw [Channel.latest, emptied, Option.none_or]

theorem emptied_up_to_date (r : InMemoryRegistry) (ch : Nat) (channel : Channel) (current : r.Current)
    (found : r.channels[ch]? = some channel) (open_ : channel.closed = false) (emptied : channel.buffer = none) :
    (channel.notice = .delivered → r.UpToDate channel) ∧
      (channel.notice = .initial → (r.UpToDate channel ↔ ∀ ref ∈ r.listed channel.service, ¬ r.Down ref)) := by
  obtain ⟨last, keeps⟩ := current.channels ch channel found open_
  have received : channel.received.getLast? = some last := (emptied_latest channel emptied).symm.trans keeps.latest
  have shows := keeps.shows
  constructor
  · intro notice
    rw [notice] at shows
    exact ⟨last, received, shows⟩
  · intro notice
    rw [notice] at shows
    have first : contents r.arrays last = r.usable (r.listed channel.service) := shows
    simp only [UpToDate, received, Option.mem_some, exists_eq_left', first]
    rw [eq_comm]
    exact usable_eq_self r _

section

variable (r : InMemoryRegistry) (ref : InstanceRef) (growth : Nat) (instance_ : ServiceInstance)

theorem register_fresh_change (current : r.Current) (its : r.heap[ref]? = some instance_)
    (fresh : ∀ other ∈ r.listed instance_.name, ¬ r.HasID instance_.id other) :
    ∃ middle kept passed, Change r middle instance_.name kept passed ∧
      r.register ref growth = middle.notifyWatchers instance_.name passed ∧
      contents middle.arrays kept = r.listed instance_.name ++ [ref] ∧
      ∀ waiting, waiting.array < r.arrays.length →
        (∀ stored, r.services.lookup instance_.name = some stored → waiting.array = stored.array → waiting.len ≤ stored.len) →
        contents middle.arrays waiting = contents r.arrays waiting := by
  have name : r.heap[ref]?.map ServiceInstance.name = some instance_.name := by rw [its]; rfl
  cases known : r.services.lookup instance_.name with
  | none =>
    have change := change_new r instance_.name ref current.stored name
    have empty : r.listed instance_.name = [] := by rw [listed, known]
    refine ⟨_, _, _, change, by simp only [register, its, known], ?_, ?_⟩
    · rw [← change.passes, contents_make, empty]
      rfl
    · intro waiting old _
      apply change.frame waiting old
      intro before found
      cases known.symm.trans found
  | some instances =>
    have within := current.stored instance_.name instances known
    have listing : r.listed instance_.name = contents r.arrays instances := by rw [listed, known]
    have position : ((contents r.arrays instances).findIdx? fun other => r.HasID instance_.id other) = none := by
      rw [List.findIdx?_eq_none_iff]
      intro other member
      exact decide_eq_false (fresh other (by rwa [listing]))
    refine ⟨_, _, _, change_append r instance_.name ref instances growth current known name,
      by simp only [register, its, known, position], ?_, ?_⟩
    · rw [contents_append _ _ _ _ within, listing]
    · exact fun waiting old behind => contents_append_old _ _ _ _ _ within old (behind instances rfl)

theorem register_fresh (ch : Nat) (channel : Channel) (waiting : Slice) (current : r.Current) (found : r.channels[ch]? = some channel)
    (open_ : channel.closed = false) (full : channel.buffer = some waiting) (its : r.heap[ref]? = some instance_)
    (own : instance_.name = channel.service) (fresh : ∀ other ∈ r.listed channel.service, ¬ r.HasID instance_.id other) :
    (r.register ref growth).listed channel.service = r.listed channel.service ++ [ref] ∧
      contents (r.register ref growth).arrays waiting = contents r.arrays waiting ∧
      (r.register ref growth).channels[ch]? = some { channel with notice := .dropped } := by
  obtain ⟨slice, keeps⟩ := current.channels ch channel found open_
  have same : waiting = slice := by
    have latest := keeps.latest
    simpa only [Channel.latest, full, Option.some_or, Option.some_inj] using latest
  have member : ch ∈ r.watchers channel.service := (current.watching _ ch).mpr ⟨channel, found, rfl, open_⟩
  rw [← own] at fresh
  obtain ⟨middle, kept, passed, change, result, longer, frame⟩ := register_fresh_change r ref growth instance_ current its fresh
  rw [own] at change result longer frame
  have lists := same_lists_notify channel.service passed middle
  rw [result]
  refine ⟨?_, ?_, ?_⟩
  · rw [listed_same _ _ lists, change_listed_own _ _ _ _ _ change, longer]
  · rw [lists.arrays, same]
    exact frame slice keeps.old keeps.behind
  · rw [change_channels r middle channel.service kept passed current change ch, found, Option.map_some, if_pos member]
    simp [Channel.offer, full]

end

-- A watcher that has emptied its channel is up to date when the last notice reached it,
-- and after its first list when nothing in the list was down. It is not when a new
-- instance was registered while its channel was full.
theorem watchers_converge_unless_dropped (calls : List Call) :
    (∀ seen ∈ Runs.visited step {} calls, ∀ channel ∈ seen.channels, channel.closed = false → channel.buffer = none →
      (channel.notice = .delivered → seen.UpToDate channel) ∧
      (channel.notice = .initial → (seen.UpToDate channel ↔ ∀ ref ∈ seen.listed channel.service, ¬ seen.Down ref))) ∧
    (∀ seen ∈ Runs.visited step {} calls, ∀ (ch ref growth : Nat) channel waiting instance_, seen.channels[ch]? = some channel →
      channel.closed = false → channel.buffer = some waiting → contents seen.arrays waiting = seen.listed channel.service →
      seen.heap[ref]? = some instance_ → instance_.name = channel.service →
      (∀ other ∈ seen.listed channel.service, ¬ seen.HasID instance_.id other) →
      let after := (seen.step (.register ref growth)).step (.receive ch)
      ∃ emptied ∈ after.channels[ch]?, emptied.closed = false ∧ emptied.buffer = none ∧ ¬ after.UpToDate emptied) := by
  have reached : ∀ seen ∈ Runs.visited step {} calls, seen.Current :=
    Runs.visited_invariant step Current (fun _ _ => True) (fun r call current _ => current_step r call current) {} calls current_new
      (Runs.meets_free step {} calls)
  constructor
  · intro seen passed channel member open_ emptied
    obtain ⟨ch, found⟩ := List.mem_iff_getElem?.mp member
    exact emptied_up_to_date seen ch channel (reached seen passed) found open_ emptied
  · intro seen passed ch ref growth channel waiting instance_ found open_ full was its own fresh after
    obtain ⟨listing, kept, dropped⟩ := register_fresh seen ref growth instance_ ch channel waiting (reached seen passed) found open_
      full its own fresh
    refine ⟨{ channel with buffer := none, received := channel.received ++ [waiting], notice := .dropped }, ?_, open_, rfl, ?_⟩
    · change ((seen.register ref growth).channels.modify ch Channel.receive)[ch]? = _
      rw [List.getElem?_modify_eq, dropped]
      simp [Channel.receive, full]
    · rintro ⟨last, received, same⟩
      rw [List.getLast?_concat, Option.mem_some] at received
      subst received
      have longer : contents seen.arrays waiting = seen.listed channel.service ++ [ref] := kept.symm.trans (same.trans listing)
      rw [was] at longer
      simp at longer

def readInTime : List Call :=
  [.create ⟨"watch-1", "watch-service", .active⟩, .create ⟨"watch-2", "watch-service", .active⟩, .watchService "watch-service",
    .receive 0, .register 0 0, .receive 0, .register 1 0, .receive 0]

theorem read_in_time_up_to_date :
    ∃ channel ∈ (readInTime.foldl step {}).channels, channel.received.length = 3 ∧ (readInTime.foldl step {}).UpToDate channel := by
  have reads : ∃ channel ∈ (readInTime.foldl step {}).channels, channel.received.length = 3 ∧ channel.closed = false ∧
      channel.buffer = none ∧ channel.notice = .delivered := by
    decide +kernel
  obtain ⟨channel, member, three, open_, emptied, delivered⟩ := reads
  have seen : readInTime.foldl step {} ∈ Runs.visited step {} readInTime := by simp [readInTime, Runs.visited]
  exact ⟨channel, member, three,
    ((watchers_converge_unless_dropped readInTime).1 _ seen channel member open_ emptied).1 delivered⟩

def registeredTooSoon : List Call :=
  [.create ⟨"watch-1", "watch-service", .active⟩, .watchService "watch-service", .register 0 0, .receive 0]

theorem registered_too_soon_missed :
    (registeredTooSoon.foldl step {}).listed "watch-service" = [0] ∧
      ∃ channel ∈ (registeredTooSoon.foldl step {}).channels, channel.closed = false ∧ channel.buffer = none ∧
        channel.received.map (contents (registeredTooSoon.foldl step {}).arrays) = [[]] ∧
        ¬ (registeredTooSoon.foldl step {}).UpToDate channel := by
  decide +kernel

end Convergence

end InMemoryRegistry

end MmoServer.Rpc
