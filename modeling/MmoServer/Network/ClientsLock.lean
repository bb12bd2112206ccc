import MmoServer.Network.Server

set_option autoImplicit false

namespace MmoServer.Network

namespace Server

variable (s after : Server)

def Has (g : Nat) : Operation → Prop
  | .broadcast _ => g ∈ s.clientsLock.readers
  | .checkHeartbeats _ | .stop => s.clientsLock.writer = some g

def Lists (entries : List (String × Nat)) : Prop := ∀ entry ∈ entries, s.clients.lookup entry.1 = some entry.2

def Locked (g : Nat) : Prop := s.clientsLock.writer = some g ∨ g ∈ s.clientsLock.readers

-- What a goroutine knows by its place: whether it holds the lock, and that what it has still
-- to visit is in the table.
def Holds (g : Nat) : Phase → Prop
  | .looping op rest => s.Has g op ∧ s.Lists rest
  | .closing ref (some loop) | .relocking ref (some loop) => s.Has g loop.op ∧ s.Lists ((loop.id, ref) :: loop.rest)
  | .removing _ none => s.clientsLock.writer = some g
  | .removing _ (some _) => False
  | .starting _ | .closing _ none | .relocking _ none | .done => ¬ s.Locked g

def Open (client : Client) : Prop := client.closed = true → client.closeMutex ≠ none

structure Sound : Prop where
  exclusive : s.clientsLock.writer ≠ none → s.clientsLock.readers = []
  once : s.clientsLock.readers.Nodup
  known : ∀ id ref, s.clients.lookup id = some ref → ∃ client, s.heap[ref]? = some client ∧ client.id = id ∧ Open client

variable (g : Nat) (phase : Phase) (op : Operation) (clientsLock : RWMutex)

theorem has_locked (has : s.Has g op) : s.Locked g := by
  cases op with
  | broadcast message => exact .inr has
  | checkHeartbeats | stop => exact .inl has

theorem free_not_locked (free : s.clientsLock.writer = none ∧ s.clientsLock.readers = []) : ¬ s.Locked g := by
  rw [Locked, free.1, free.2]
  exact nofun

theorem locked_not_free (locked : s.Locked g) : s.clientsLock.lock g = none := by
  rw [RWMutex.lock]
  exact if_neg fun free => free_not_locked s g free locked

theorem writer_alone (g other : Nat) (sound : s.Sound) (writes : s.clientsLock.writer = some g) (different : other ≠ g) :
    ¬ s.Locked other := by
  rintro (also | reads)
  · exact different (Option.some_inj.mp (also.symm.trans writes))
  · rw [sound.exclusive (writes ▸ nofun)] at reads
    cases reads

theorem unlocked_free (sound : s.Sound) (writes : s.clientsLock.writer = some g)
    (unlocked : after.clientsLock = { s.clientsLock with writer := none }) (other : Nat) : ¬ after.Locked other := by
  rw [Locked, unlocked]
  rintro (also | reads)
  · cases also
  · rw [sound.exclusive (writes ▸ nofun)] at reads
    cases reads

-- A change that does not concern a goroutine: it keeps the lock it holds and gets no other,
-- and the table is kept while it holds the lock.
structure Frames (g : Nat) : Prop where
  has : ∀ op, s.Has g op → after.Has g op
  locked : after.Locked g → s.Locked g
  table : s.Locked g → ∀ entry : String × Nat, s.clients.lookup entry.1 = some entry.2 → after.clients.lookup entry.1 = some entry.2

theorem holds_frame (frames : s.Frames after g) (holds : s.Holds g phase) : after.Holds g phase := by
  have keeps : ∀ op rest, s.Has g op ∧ s.Lists rest → after.Has g op ∧ after.Lists rest := by
    rintro op rest ⟨has, lists⟩
    exact ⟨frames.has op has, fun entry member => frames.table (has_locked s g op has) entry (lists entry member)⟩
  have free : ¬ s.Locked g → ¬ after.Locked g := mt frames.locked
  cases phase with
  | starting op => exact free holds
  | looping op rest => exact keeps op rest holds
  | closing ref caller | relocking ref caller =>
    cases caller with
    | none => exact free holds
    | some loop => exact keeps loop.op _ holds
  | removing ref caller =>
    cases caller with
    | none => exact frames.has .stop holds
    | some loop => exact holds
  | done => exact free holds

theorem frames_same (lock : after.clientsLock = s.clientsLock) (table : after.clients = s.clients) : s.Frames after g := by
  constructor
  · intro op has
    cases op <;> simpa only [Has, lock] using has
  · rw [Locked, Locked, lock]
    exact id
  · rw [table]
    exact fun _ _ => id

theorem frames_free (free : ¬ s.Locked g) (still : ¬ after.Locked g) : s.Frames after g where
  has op has := absurd (has_locked s g op has) free
  locked locked := absurd locked still
  table locked := absurd locked free

theorem sound_heap (sound : s.Sound) (lock : after.clientsLock = s.clientsLock) (table : after.clients = s.clients)
    (heap : ∀ (ref : Nat) client, s.heap[ref]? = some client → Open client →
      ∃ changed, after.heap[ref]? = some changed ∧ changed.id = client.id ∧ Open changed) : after.Sound := by
  constructor
  · rw [lock]
    exact sound.exclusive
  · rw [lock]
    exact sound.once
  · intro id ref found
    rw [table] at found
    obtain ⟨client, its, own, opens⟩ := sound.known id ref found
    obtain ⟨changed, here, same, still⟩ := heap ref client its opens
    exact ⟨changed, here, same.trans own, still⟩

theorem sound_set (ref : Nat) (client changed : Client) (sound : s.Sound) (found : s.heap[ref]? = some client)
    (id : changed.id = client.id) (opens : Open client → Open changed) :
    ({ s with heap := s.heap.set ref changed } : Server).Sound := by
  apply sound_heap s _ sound (by rfl) (by rfl)
  intro at_ other its stays
  by_cases here : ref = at_
  · subst here
    cases found.symm.trans its
    exact ⟨changed, List.getElem?_set_self (List.getElem?_eq_some_iff.mp found).1, id, opens stays⟩
  · exact ⟨other, by rwa [List.getElem?_set_ne here], rfl, stays⟩

structure Keeps (g : Nat) (moved : Server × Phase) : Prop where
  sound : moved.1.Sound
  own : moved.1.Holds g moved.2
  others : ∀ other, other ≠ g → s.Frames moved.1 other

theorem keeps_unlocked (sound : after.Sound) (lock : after.clientsLock = s.clientsLock) (table : after.clients = s.clients)
    (holds : s.Holds g phase) : s.Keeps g (after, phase) where
  sound := sound
  own := holds_frame s after g phase (frames_same s after g lock table) holds
  others other _ := frames_same s after other lock table

theorem keeps_lock (sound : s.Sound) (locked : s.clientsLock.lock g = some clientsLock)
    (own : ({ s with clientsLock } : Server).Has g .stop → ({ s with clientsLock } : Server).Holds g phase) :
    s.Keeps g ({ s with clientsLock }, phase) := by
  rw [RWMutex.lock] at locked
  split at locked
  · rename_i free
    cases locked
    refine ⟨⟨fun _ => free.2, sound.once, sound.known⟩, own rfl, fun other different => ?_⟩
    apply frames_free s _ other (free_not_locked s other free)
    rintro (writes | reads)
    · exact different (Option.some_inj.mp writes).symm
    · exact free_not_locked s other free (.inr reads)
  · cases locked

theorem keeps_rlock (sound : s.Sound) (unlocked : ¬ s.Locked g) (locked : s.clientsLock.rlock g = some clientsLock)
    (own : g ∈ clientsLock.readers → ({ s with clientsLock } : Server).Holds g phase) : s.Keeps g ({ s with clientsLock }, phase) := by
  rw [RWMutex.rlock] at locked
  split at locked
  · rename_i free
    cases locked
    have once : (g :: s.clientsLock.readers).Nodup := List.nodup_cons.mpr ⟨fun reads => unlocked (.inr reads), sound.once⟩
    refine ⟨⟨fun written => absurd free written, once, sound.known⟩, own List.mem_cons_self, fun other different => ⟨?_, ?_, ?_⟩⟩
    · intro op has
      cases op with
      | broadcast message => exact List.mem_cons_of_mem _ has
      | checkHeartbeats | stop => exact has
    · rintro (writes | reads)
      · exact .inl writes
      · exact .inr (List.mem_of_ne_of_mem different reads)
    · exact fun _ _ found => found
  · cases locked

theorem keeps_acquire (order : Shuffle (String × Nat)) (clientsLock : RWMutex) (sound : s.Sound) (unlocked : ¬ s.Locked g)
    (acquired : s.acquire g op = some clientsLock) :
    s.Keeps g ({ s with clientsLock }, .looping op (order.apply s.clients.pairs)) := by
  have lists : ({ s with clientsLock } : Server).Lists (order.apply s.clients.pairs) := fun entry member =>
    (AList.mem_pairs _ _ _).mp ((order.mem_apply _ _).mp member)
  cases op with
  | broadcast message => exact keeps_rlock s g _ clientsLock sound unlocked acquired fun reads => ⟨reads, lists⟩
  | checkHeartbeats | stop => exact keeps_lock s g _ clientsLock sound acquired fun writes => ⟨writes, lists⟩

theorem keeps_release (sound : s.Sound) (has : s.Has g op) (released : s.release g op = some clientsLock) :
    s.Keeps g ({ s with clientsLock }, .done) := by
  cases op with
  | broadcast message =>
    have reads : g ∈ s.clientsLock.readers := has
    have unwritten : s.clientsLock.writer = none := by
      by_contra written
      rw [sound.exclusive written] at reads
      cases reads
    rw [release, RWMutex.runlock] at released
    split at released
    · cases released
    · cases released
      refine ⟨⟨fun written => absurd unwritten written, sound.once.erase g, sound.known⟩, ?_, fun other different => ⟨?_, ?_, ?_⟩⟩
      · rintro (writes | still)
        · cases unwritten.symm.trans writes
        · exact sound.once.not_mem_erase still
      · intro op has
        cases op with
        | broadcast message => exact (List.mem_erase_of_ne different).mpr has
        | checkHeartbeats | stop => exact has
      · exact Or.imp_right List.mem_of_mem_erase
      · exact fun _ _ found => found
  | checkHeartbeats | stop =>
    rw [release, RWMutex.unlock] at released
    split at released
    · cases released
    · cases released
      have nobody := fun after lock => unlocked_free s after g sound has lock
      refine ⟨⟨nofun, sound.once, sound.known⟩, nobody _ rfl g, fun other different => ?_⟩
      exact frames_free s _ other (writer_alone s g other sound has different) (nobody _ rfl other)

theorem keeps_visit (id : String) (ref : Nat) (rest : List (String × Nat)) (client : Client) (sound : s.Sound)
    (found : s.heap[ref]? = some client) (holds : s.Holds g (.looping op ((id, ref) :: rest))) :
    s.Keeps g (s.visit op id ref rest client) := by
  obtain ⟨has, lists⟩ := holds
  have goes_on : s.Holds g (.looping op rest) := ⟨has, fun entry member => lists entry (List.mem_cons_of_mem _ member)⟩
  have calls : s.Holds g (.closing ref (some ⟨op, id, rest⟩)) := ⟨has, lists⟩
  cases op with
  | checkHeartbeats now =>
    rw [visit]
    split
    · exact keeps_unlocked s s g _ sound rfl rfl calls
    · exact keeps_unlocked s s g _ sound rfl rfl goes_on
  | broadcast message =>
    simp only [visit]
    split
    · rename_i outbox _
      exact keeps_unlocked s _ g _ (sound_set s ref client { client with outbox } sound found rfl fun opens => opens) rfl rfl goes_on
    · exact keeps_unlocked s s g _ sound rfl rfl calls
  | stop => exact keeps_unlocked s s g _ sound rfl rfl calls

theorem close_finds_open (g ref : Nat) (loop : Loop) (client : Client) (sound : s.Sound) (found : s.heap[ref]? = some client)
    (holds : s.Holds g (.closing ref (some loop))) (free : client.closeMutex = none) : client.closed = false := by
  obtain ⟨other, its, -, opens⟩ := sound.known loop.id ref (holds.2 (loop.id, ref) List.mem_cons_self)
  cases found.symm.trans its
  apply Bool.eq_false_iff.mpr
  exact fun closed => opens closed free

theorem keeps_remove (g ref : Nat) (client : Client) (sound : s.Sound) (found : s.heap[ref]? = some client)
    (writes : s.clientsLock.writer = some g) :
    s.Keeps g ({ s with
      heap := s.heap.set ref { client with closeMutex := none }
      clients := s.clients.erase client.id
      clientsLock := { s.clientsLock with writer := none } }, .done) := by
  have nobody := fun after lock => unlocked_free s after g sound writes lock
  refine ⟨⟨nofun, sound.once, ?_⟩, nobody _ rfl g, fun other different => ?_⟩
  · intro id at_ known
    rw [AList.lookup_erase_eq] at known
    split at known
    · cases known
    · rename_i different
      obtain ⟨other, its, own, opens⟩ := sound.known id at_ known
      have elsewhere : ref ≠ at_ := by
        rintro rfl
        cases found.symm.trans its
        exact different own.symm
      exact ⟨other, by rwa [List.getElem?_set_ne elsewhere], own, opens⟩
  · exact frames_free s _ other (writer_alone s g other sound writes different) (nobody _ rfl other)

theorem keeps_act (order : Shuffle (String × Nat)) (phase : Phase) (moved : Server × Phase) (sound : s.Sound) (holds : s.Holds g phase)
    (acted : s.act g order phase = some moved) : s.Keeps g moved := by
  cases s.act_acts g order phase moved acted with
  | acquired op clientsLock acquired => exact keeps_acquire s g op order clientsLock sound holds acquired
  | released op clientsLock released => exact keeps_release s g op clientsLock sound holds.1 released
  | visited op id ref rest client found => exact keeps_visit s g op id ref rest client sound found holds
  | returned ref caller client found free closed =>
    cases caller with
    | none => exact keeps_unlocked s s g .done sound rfl rfl holds
    | some loop =>
      have opens := close_finds_open s g ref loop client sound found holds free
      cases opens.symm.trans closed
  | closed ref caller client found =>
    have sound := sound_set s ref client { client with closed := true, closeMutex := some g } sound found rfl fun _ _ => nofun
    cases caller with
    | none => exact keeps_unlocked s _ g (.relocking ref none) sound rfl rfl holds
    | some loop => exact keeps_unlocked s _ g (.relocking ref (some loop)) sound rfl rfl holds
  | locked ref caller clientsLock locked =>
    cases caller with
    | none => exact keeps_lock s g (.removing ref none) clientsLock sound locked id
    | some loop => cases (locked_not_free s g (has_locked s g loop.op holds.1)).symm.trans locked
  | removed ref caller client clientsLock found unlocked =>
    cases caller with
    | none =>
      rw [RWMutex.unlock] at unlocked
      split at unlocked <;> cases unlocked
      exact keeps_remove s g ref client sound found holds
    | some loop => cases holds

end Server

end MmoServer.Network
