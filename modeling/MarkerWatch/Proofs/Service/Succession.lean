import MarkerWatch.Proofs.Host.Descriptor
import MarkerWatch.Proofs.Service.Engine

/-!
# Queues over time

A queue counts the ids of its watches up, and a watch stays on the file that it was set on.  So of
two states of one queue, the later one has old watches on their old files, and every other watch has
an id beyond the counter of the earlier state.  `EventQueue.Succeeds` says so.

A host counts its queues in the same way: the queue behind a number is the one that had this number
before, or was opened since.  `Host.Succeeds` says so, and every step of a service keeps it.
-/

namespace MarkerWatch

/-! ## Queues -/

namespace EventQueue

/-- A later state of a queue. -/
structure Succeeds (before after : EventQueue) : Prop where
  lastId : before.lastId ≤ after.lastId
  watches : ∀ watch ∈ after.watches,
    (before.lastId : Int) < watch.id.value ∨
      ∃ old ∈ before.watches, old.id = watch.id ∧ old.inode = watch.inode
  wellFormed : before.book.WellFormed → after.book.WellFormed

namespace Succeeds

theorem refl (queue : EventQueue) : queue.Succeeds queue where
  lastId := Nat.le_refl queue.lastId
  watches := fun watch member => .inr ⟨watch, member, rfl, rfl⟩
  wellFormed := id

/-- What succeeds a successor is one of the first as well, as old watches that it has were there
throughout. -/
theorem trans
    {first second third : EventQueue}
    (left : first.Succeeds second)
    (right : second.Succeeds third) :
    first.Succeeds third where
  lastId := Nat.le_trans left.lastId right.lastId
  watches := by
    intro watch member
    rcases right.watches watch member with new | ⟨old, oldMember, sameId, sameInode⟩
    · have counted := left.lastId
      exact .inl (by omega)
    · rcases left.watches old oldMember with new | ⟨older, olderMember, olderId, olderInode⟩
      · exact .inl (sameId ▸ new)
      · exact .inr ⟨older, olderMember, olderId.trans sameId, olderInode.trans sameInode⟩
  wellFormed := fun before => right.wellFormed (left.wellFormed before)

/-- A queue with fewer watches and the counter of before is a later state. -/
theorem of_sublist
    {before after : EventQueue}
    (lastId : after.lastId = before.lastId)
    (fewer : after.watches.Sublist before.watches) :
    before.Succeeds after where
  lastId := Nat.le_of_eq lastId.symm
  watches := fun watch member => .inr ⟨watch, fewer.subset member, rfl, rfl⟩
  wellFormed := by
    intro wellFormed
    have keys : (Assoc.keys after.book.masks).Sublist (Assoc.keys before.book.masks) :=
      (fewer.map _).map _
    constructor
    · exact wellFormed.filesDistinct.sublist ((fewer.map _).map _)
    · simp [book, Assoc.keys]
    · exact wellFormed.watchesDistinct.sublist keys
    · intro watch member
      have counted := wellFormed.issued watch (keys.subset member)
      rwa [show after.book.lastId = before.book.lastId from lastId]

/-- A queue that hears of events gets no watches and may lose some. -/
theorem hear
    {lasting : Nat → Prop} {before after : EventQueue}
    (hears : Hears lasting before after) :
    before.Succeeds after :=
  of_sublist hears.lastId hears.fewer

/-- A queue that drops a watch is left with some that it had. -/
theorem drop (queue : EventQueue) (watch : WatchId) : queue.Succeeds (queue.drop watch) := by
  apply of_sublist (lastId_drop queue watch)
  rw [watches_drop]
  exact List.filter_sublist

/-- A queue keeps the id of a watch that is on a file already, and gives another file the next
one. -/
theorem watch (queue : EventQueue) (inode : Nat) (mask : Mask) (once : Bool) :
    queue.Succeeds (queue.watch inode mask once).2 where
  lastId := by
    rw [EventQueue.watch]
    split
    · exact Nat.le_refl _
    · exact Nat.le_succ _
  watches := by
    intro set member
    rw [EventQueue.watch] at member
    split at member
    · obtain ⟨old, oldMember, rfl⟩ := List.mem_map.mp member
      refine .inr ⟨old, oldMember, ?_⟩
      split <;> exact ⟨rfl, rfl⟩
    · rcases List.mem_append.mp member with old | new
      · exact .inr ⟨set, old, rfl, rfl⟩
      · rw [List.mem_singleton.mp new]
        exact .inl (Int.lt_succ _)
  wellFormed := by
    intro wellFormed
    rw [(book_watch wellFormed inode mask once).2]
    exact wellFormed.put inode mask

/-- A watch that has an old id is the old watch, on the file that it was on, since the id of a new
one is one that the counter had not reached. -/
theorem file_eq
    {before after : EventQueue}
    (succeeds : before.Succeeds after)
    (wellFormed : before.book.WellFormed)
    {held file : Nat} {id : WatchId}
    (old : Assoc.get? before.book.ids held = some id)
    (here : after.book.idFor file = id) :
    Assoc.get? after.book.ids file = some id ∧ file = held := by
  have issued := wellFormed.issued id (wellFormed.mem_keys_of_get? old)
  have counted : before.book.lastId ≤ after.book.lastId := succeeds.lastId
  cases found : Assoc.get? after.book.ids file with
  | none =>
      rw [WatchBook.idFor, found] at here
      have value : (after.book.lastId : Int) + 1 = id.value := by rw [← here]; rfl
      omega
  | some other =>
      rw [WatchBook.idFor, found, Option.getD_some] at here
      subst here
      refine ⟨rfl, ?_⟩
      obtain ⟨set, member, pair⟩ := List.mem_map.mp (Assoc.mem_of_get? found)
      cases pair
      rcases succeeds.watches set member with new | ⟨kept, oldMember, sameId, sameInode⟩
      · have bound : before.book.lastId = before.lastId := rfl
        omega
      · have keptFile := get?_ids_of_mem wellFormed oldMember
        rw [sameId, sameInode] at keptFile
        exact wellFormed.file_unique keptFile old

end Succeeds

end EventQueue

/-! ## Hosts -/

namespace Host

/-- A later state of a host. -/
structure Succeeds (before after : Host) : Prop where
  nextQueue : before.nextQueue ≤ after.nextQueue
  queues : ∀ id queue, Assoc.get? after.queues id = some queue →
    (∃ old, Assoc.get? before.queues id = some old ∧ old.Succeeds queue) ∨
      before.nextQueue ≤ id ∧ EventQueue.empty.Succeeds queue

namespace Succeeds

variable {before after : Host}

/-- What has the queues of before is a later state, whatever else has changed. -/
theorem of_queues
    (nextQueue : after.nextQueue = before.nextQueue)
    (queues : after.queues = before.queues) :
    before.Succeeds after where
  nextQueue := Nat.le_of_eq nextQueue.symm
  queues := by
    intro id queue found
    rw [queues] at found
    exact .inl ⟨queue, found, .refl queue⟩

theorem refl (host : Host) : host.Succeeds host :=
  of_queues rfl rfl

theorem trans
    {first second third : Host}
    (left : first.Succeeds second)
    (right : second.Succeeds third) :
    first.Succeeds third where
  nextQueue := Nat.le_trans left.nextQueue right.nextQueue
  queues := by
    intro id queue found
    rcases right.queues id queue found with ⟨old, there, succeeds⟩ | ⟨new, succeeds⟩
    · rcases left.queues id old there with ⟨older, first, before⟩ | ⟨new, before⟩
      · exact .inl ⟨older, first, before.trans succeeds⟩
      · exact .inr ⟨new, before.trans succeeds⟩
    · exact .inr ⟨Nat.le_trans left.nextQueue new, succeeds⟩

theorem hear
    {lasting : Nat → Prop}
    (hears : Hears lasting before after) :
    before.Succeeds after where
  nextQueue := Nat.le_of_eq hears.nextQueue.symm
  queues := by
    intro id queue found
    obtain ⟨change, heard, queues⟩ := hears.queues
    rw [queues, get?_map, Option.map_eq_some_iff] at found
    obtain ⟨old, there, rfl⟩ := found
    exact .inl ⟨old, there, .hear (heard old)⟩

/-- A host succeeds when one of its queues does. -/
theorem setQueue
    {host : Host} {id : Nat} {old queue : EventQueue}
    (found : Assoc.get? host.queues id = some old)
    (succeeds : old.Succeeds queue) :
    host.Succeeds (host.setQueue id queue) where
  nextQueue := Nat.le_refl _
  queues := by
    intro other queue' found'
    rw [Host.setQueue, Assoc.get?_set] at found'
    split at found'
    · rename_i same
      subst same
      cases found'
      exact .inl ⟨old, found, succeeds⟩
    · exact .inl ⟨queue', found', .refl queue'⟩

/-- A queue that is opened is none of those that were there. -/
theorem openQueue (host : Host) : host.Succeeds host.openQueue.2 where
  nextQueue := Nat.le_succ _
  queues := by
    intro id queue found
    change Assoc.get? (Assoc.set host.queues host.nextQueue .empty) id = _ at found
    rw [Assoc.get?_set] at found
    split at found
    · rename_i new
      cases found
      exact .inr ⟨Nat.le_of_eq new, .refl _⟩
    · exact .inl ⟨queue, found, .refl queue⟩

/-- Closing a descriptor takes its queue away, which leaves nothing to be said of it. -/
theorem closeDescriptor (host : Host) (fd : Int) : host.Succeeds (host.closeDescriptor fd) where
  nextQueue := Nat.le_refl _
  queues := by
    intro id queue found
    refine .inl ⟨queue, ?_, .refl queue⟩
    rw [Host.closeDescriptor] at found
    dsimp only at found
    split at found
    · rw [Assoc.get?_erase] at found
      split at found
      · cases found
      · exact found
    · exact found

/-- A read takes events off a queue, and no watches. -/
theorem read (host : Host) (fd : Int) (room : Nat) : host.Succeeds (host.read fd room).2 := by
  rw [Host.read]
  split
  · exact .refl host
  · exact of_queues rfl rfl
  · split
    · exact .refl host
    · rename_i queue found
      split
      · exact .refl host
      · dsimp only
        split
        · exact .refl host
        · exact setQueue found (.of_sublist rfl (.refl _))

theorem unfeed (host : Host) (fd : Int) : host.Succeeds (host.unfeed fd) := by
  rw [Host.unfeed]
  split <;> exact of_queues rfl rfl

/-- A watch that is added leaves a successor behind, whether or not it was refused. -/
theorem addWatch
    {host : Host} {kernel : HostQueue}
    (succeeds : host.Succeeds kernel.host) (path : Path) (mask : Mask) :
    host.Succeeds (HostQueue.addWatch kernel path mask).2.host := by
  have set : Yields (kernel.host.watch kernel.fd path mask) fun answer =>
      kernel.host.Succeeds answer.2 := by
    unfold Host.watch
    refine .guard fun _ => .ensure fun _ => .guard fun _ => ?_
    refine .bind fun place found => .bind fun file _ => .guard fun _ => .guard fun _ => ?_
    exact .pure (setQueue (queueAt?_iff.mp (queueAt?_of_queueFor found)).2 (.watch _ _ _ _))
  rw [HostQueue.addWatch]
  split
  · exact succeeds
  · split
    · rename_i watch after found
      exact succeeds.trans (set (watch, after) found)
    · exact succeeds

/-- A watch that is removed leaves a successor behind, whether or not it was refused. -/
theorem removeWatch
    {host : Host} {kernel : HostQueue}
    (succeeds : host.Succeeds kernel.host) (watch : WatchId) :
    host.Succeeds (HostQueue.removeWatch kernel watch).2.host := by
  have dropped : Yields (kernel.host.unwatch kernel.fd watch) (kernel.host.Succeeds ·) := by
    refine .bind fun place found => ?_
    dsimp only
    split
    · exact .pure (setQueue (queueAt?_iff.mp (queueAt?_of_queueFor found)).2 (.drop _ _))
    · exact .throw
  rw [HostQueue.removeWatch]
  split
  · rename_i after found
    exact succeeds.trans (dropped after found)
  · exact succeeds

end Succeeds

/-- Whatever happens to a host leaves a later state of it. -/
theorem Step.succeeds
    {host after : Host}
    (step : host.Step after) :
    host.Succeeds after := by
  cases step with
  | hear heard => exact .hear heard
  | openDescriptor descriptor => exact .of_queues rfl rfl
  | openQueue => exact .openQueue host
  | read fd room => exact .read host fd room
  | watch fd path mask => exact (Succeeds.refl host).addWatch path mask
  | unwatch fd watch => exact (Succeeds.refl host).removeWatch watch
  | feed fd feed => exact .of_queues rfl rfl
  | unfeed fd => exact .unfeed host fd

end Host

end MarkerWatch
