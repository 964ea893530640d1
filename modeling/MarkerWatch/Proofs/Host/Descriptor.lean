import Mathlib.Data.List.Perm.Subperm
import MarkerWatch.Proofs.Host.Queue

/-!
# Descriptors and the queues behind them

On a host that feeds no descriptor, each descriptor reads from a queue of its own time: neither its
number nor the number of its queue is one that is still to be given.  `Host.Sound` says so, and
opening, closing, reading and whatever is heard of keep it.

With it, the queue behind one descriptor is not touched by what is done to another one.
-/

namespace MarkerWatch

/-! ## Numbers -/

namespace Numbering

/-- Where the search for a free number has ended at one that is taken, all it has tried were. -/
theorem firstFree_mem
    {taken : List Int} {tries : Nat} {start : Int}
    (member : firstFree taken tries start ∈ taken) :
    ∀ count ≤ tries, start + count ∈ taken := by
  induction tries generalizing start with
  | zero =>
      intro count bound
      obtain rfl := Nat.le_zero.mp bound
      simpa [firstFree] using member
  | succ tries ih =>
      rw [firstFree] at member
      split at member
      · rename_i here
        intro count bound
        cases count with
        | zero => simpa using here
        | succ count =>
            have later := ih member count (Nat.le_of_succ_le_succ bound)
            have sum : start + 1 + (count : Int) = start + (count + 1 : Nat) := by
              push_cast
              omega
            rwa [← sum]
      · rename_i free
        exact absurd member (by simpa using free)

/-- Of one number more than are taken, one is free. -/
theorem firstFree_not_mem (taken : List Int) (start : Int) :
    firstFree taken taken.length start ∉ taken := by
  intro member
  have distinct : ((List.range (taken.length + 1)).map fun count : Nat => start + count).Nodup := by
    refine List.nodup_range.map ?_
    intro first second equal
    dsimp only at equal
    omega
  have within : ((List.range (taken.length + 1)).map fun count : Nat => start + count) ⊆ taken := by
    intro number listed
    obtain ⟨count, bound, rfl⟩ := List.mem_map.mp listed
    exact firstFree_mem member count (Nat.le_of_lt_succ (List.mem_range.mp bound))
  have size := (List.subperm_of_subset distinct within).length_le
  rw [List.length_map, List.length_range] at size
  omega

end Numbering

/-! ## Hosts -/

namespace Host

/-- Descriptors read from queues, and numbers that are still to be given are free. -/
structure Sound (host : Host) : Prop where
  queues : ∀ fd descriptor, Assoc.get? host.descriptors fd = some descriptor →
    ∃ id < host.nextQueue, descriptor = .queue id
  numbered : ∀ next, host.numbering = .increasing next →
    ∀ fd ∈ Assoc.keys host.descriptors, fd < next

/-- A host without descriptors is sound. -/
theorem sound_fresh (numbering : Numbering) : (fresh numbering).Sound where
  queues := by
    intro fd descriptor found
    cases found
  numbered := by
    intro next same fd member
    cases member

namespace Sound

variable {host : Host} {fd : Int} {id : Nat}

theorem lt_nextQueue
    (sound : host.Sound) {queue : EventQueue}
    (found : host.queueAt? fd = some (id, queue)) :
    id < host.nextQueue := by
  obtain ⟨id', bound, equal⟩ := sound.queues fd _ (queueAt?_iff.mp found).1
  cases equal
  exact bound

/-- The next number is not that of a descriptor. -/
theorem next_free
    (sound : host.Sound) :
    Assoc.get? host.descriptors (host.numbering.next (Assoc.keys host.descriptors)) = none := by
  rw [Assoc.get?_eq_none_iff]
  cases same : host.numbering with
  | increasing next =>
      intro member
      exact absurd (sound.numbered next same next member) (Int.lt_irrefl next)
  | lowestFree => exact Numbering.firstFree_not_mem _ _

/-- A host is sound by its descriptors, its numbering and its next queue alone. -/
theorem of_descriptors
    {after : Host}
    (sound : host.Sound)
    (descriptors : after.descriptors = host.descriptors)
    (numbering : after.numbering = host.numbering)
    (nextQueue : after.nextQueue = host.nextQueue) :
    after.Sound where
  queues := by
    rw [descriptors, nextQueue]
    exact sound.queues
  numbered := by
    rw [descriptors, numbering]
    exact sound.numbered

theorem openQueue (sound : host.Sound) : host.openQueue.2.Sound := by
  constructor
  · intro fd descriptor found
    change Assoc.get? (Assoc.set host.descriptors _ (.queue host.nextQueue)) fd = _ at found
    change ∃ id < host.nextQueue + 1, _
    rw [Assoc.get?_set] at found
    split at found
    · obtain rfl := Option.some.inj found
      exact ⟨host.nextQueue, Nat.lt_succ_self _, rfl⟩
    · obtain ⟨id, bound, equal⟩ := sound.queues fd descriptor found
      exact ⟨id, Nat.lt_succ_of_lt bound, equal⟩
  · intro next advanced fd member
    change host.numbering.advance = _ at advanced
    change fd ∈ Assoc.keys (Assoc.set host.descriptors _ (.queue host.nextQueue)) at member
    cases same : host.numbering with
    | lowestFree =>
        rw [same] at advanced
        cases advanced
    | increasing last =>
        rw [same] at advanced member
        cases advanced
        rw [Assoc.keys_set] at member
        have old : fd ∈ Assoc.keys host.descriptors ∨ fd = last := by
          split at member
          · exact .inl member
          · rcases List.mem_append.mp member with old | new
            · exact .inl old
            · exact .inr (List.mem_singleton.mp new)
        rcases old with old | rfl
        · have bound := sound.numbered last same fd old
          omega
        · exact Int.lt_succ fd

theorem closeDescriptor (sound : host.Sound) (fd : Int) : (host.closeDescriptor fd).Sound where
  queues := by
    intro other descriptor found
    change Assoc.get? (Assoc.erase host.descriptors fd) other = _ at found
    rw [Assoc.get?_erase] at found
    split at found
    · cases found
    · exact sound.queues other descriptor found
  numbered := by
    intro next same other member
    change other ∈ Assoc.keys (Assoc.erase host.descriptors fd) at member
    rw [Assoc.keys_erase] at member
    exact sound.numbered next same other (List.mem_of_mem_filter member)

end Sound

/-! ## What calls do to a queue -/

section

variable {host : Host} {fd other : Int} {id : Nat} {queue : EventQueue}

/-- A queue that is opened leaves alone what is behind the descriptors that were there. -/
theorem queueAt?_openQueue
    (sound : host.Sound)
    (found : host.queueAt? fd = some (id, queue)) :
    host.openQueue.2.queueAt? fd = some (id, queue) := by
  have bound := sound.lt_nextQueue found
  rw [queueAt?_iff] at found ⊢
  have different : host.numbering.next (Assoc.keys host.descriptors) ≠ fd := by
    intro same
    have free := sound.next_free
    rw [same, found.1] at free
    cases free
  refine ⟨(Assoc.get?_set_of_ne _ _ different).trans found.1, ?_⟩
  exact (Assoc.get?_set_of_ne _ _ (Nat.ne_of_gt bound)).trans found.2

/-- A queue that was opened is empty. -/
theorem queueAt?_opened :
    host.openQueue.2.queueAt? host.openQueue.1 = some (host.nextQueue, .empty) :=
  queueAt?_iff.mpr ⟨Assoc.get?_set_self _ _ _, Assoc.get?_set_self _ _ _⟩

/-- Closing a descriptor leaves the queues behind others alone. -/
theorem queueAt?_closeDescriptor
    {closed : Nat}
    (behind : Assoc.get? host.descriptors other = some (.queue closed))
    (different : other ≠ fd) (differentQueue : closed ≠ id)
    (found : host.queueAt? fd = some (id, queue)) :
    (host.closeDescriptor other).queueAt? fd = some (id, queue) := by
  rw [queueAt?_iff] at found ⊢
  rw [closeDescriptor, behind]
  constructor
  · change Assoc.get? (Assoc.erase host.descriptors other) fd = _
    rw [Assoc.get?_erase, if_neg different, found.1]
  · change Assoc.get? (Assoc.erase host.queues closed) id = _
    rw [Assoc.get?_erase, if_neg differentQueue, found.2]

theorem queueAt?_setQueue_of_ne
    {changed : Nat} (differentQueue : changed ≠ id) (replaced : EventQueue)
    (found : host.queueAt? fd = some (id, queue)) :
    (host.setQueue changed replaced).queueAt? fd = some (id, queue) := by
  rw [queueAt?_iff] at found ⊢
  exact ⟨found.1, (Assoc.get?_set_of_ne _ _ differentQueue).trans found.2⟩

theorem get?_map
    (map : Assoc Nat EventQueue) (change : EventQueue → EventQueue) (id : Nat) :
    Assoc.get? (map.map fun (id, queue) => (id, change queue)) id =
      (Assoc.get? map id).map change := by
  induction map with
  | nil => rfl
  | cons pair rest ih =>
      rw [List.map_cons, Assoc.get?, Assoc.get?]
      by_cases same : pair.1 = id <;> simp [same, ih]

/-- Every queue hears of the same events. -/
theorem Hears.queueAt?
    {lasting : Nat → Prop} {after : Host}
    (hears : Hears lasting host after)
    (found : host.queueAt? fd = some (id, queue)) :
    ∃ heard, EventQueue.Hears lasting queue heard ∧ after.queueAt? fd = some (id, heard) := by
  obtain ⟨change, heard, queues⟩ := hears.queues
  refine ⟨change queue, heard queue, ?_⟩
  rw [queueAt?_iff] at found ⊢
  rw [hears.descriptors, queues, get?_map, found.2]
  exact ⟨found.1, rfl⟩

/-- A read takes events out of a queue, and nothing else. -/
theorem Sound.read_eq (sound : host.Sound) (fd : Int) (room : Nat) :
    (host.read fd room).2 = host ∨
      ∃ id queue events, host.queueAt? fd = some (id, queue) ∧
        (host.read fd room).2 = host.setQueue id { queue with events } := by
  rw [read]
  split
  · exact .inl rfl
  · rename_i feed hidden found
    obtain ⟨id, -, other⟩ := sound.queues fd _ found
    cases other
  · rename_i id found
    split
    · exact .inl rfl
    · rename_i queue behind
      split
      · exact .inl rfl
      · dsimp only
        split
        · exact .inl rfl
        · exact .inr ⟨id, queue, _, queueAt?_iff.mpr ⟨found, behind⟩, rfl⟩

/-- A read takes events off the queue that is read, and leaves every other one as it was. -/
theorem queueAt?_read
    (sound : host.Sound) (room : Nat)
    (found : host.queueAt? fd = some (id, queue)) :
    ∃ events, (host.read other room).2.queueAt? fd = some (id, { queue with events }) := by
  rcases sound.read_eq other room with unchanged | ⟨changed, old, events, behind, equal⟩
  · exact ⟨queue.events, by rw [unchanged, found]⟩
  · rw [equal]
    by_cases same : changed = id
    · subst same
      obtain rfl : old = queue := by
        have twice := (queueAt?_iff.mp behind).2
        rw [(queueAt?_iff.mp found).2] at twice
        exact (Option.some.inj twice).symm
      exact ⟨events, queueAt?_setQueue found _⟩
    · exact ⟨queue.events, queueAt?_setQueue_of_ne same _ found⟩

/-- A read of one queue leaves another one alone. -/
theorem queueAt?_read_of_ne
    (sound : host.Sound) (room : Nat)
    {taken : Nat} {emptied : EventQueue}
    (behind : host.queueAt? other = some (taken, emptied))
    (differentQueue : taken ≠ id)
    (found : host.queueAt? fd = some (id, queue)) :
    (host.read other room).2.queueAt? fd = some (id, queue) := by
  rcases sound.read_eq other room with unchanged | ⟨changed, old, events, behind', equal⟩
  · rw [unchanged, found]
  · rw [behind] at behind'
    cases behind'
    rw [equal]
    exact queueAt?_setQueue_of_ne differentQueue _ found

theorem Sound.read (sound : host.Sound) (fd : Int) (room : Nat) : (host.read fd room).2.Sound := by
  rcases sound.read_eq fd room with unchanged | ⟨id, queue, events, -, equal⟩
  · rwa [unchanged]
  · rw [equal]
    exact sound.of_descriptors rfl rfl rfl

end

end Host

end MarkerWatch
