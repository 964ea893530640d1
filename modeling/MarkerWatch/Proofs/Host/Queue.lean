import MarkerWatch.Proofs.Host.Hearing
import MarkerWatch.Proofs.Watch.Agreement

/-!
# Event queues as books of watches

The watches of an event queue are a book in the sense of `WatchBook`, with numbers of files in place
of paths.  Setting a watch puts it into the book, and dropping one discards it; which events wait in
the queue plays no part.  So what is known of tables and books is known of engines and their queues.

On a descriptor that reads from a queue, only the lookup of the path can fail.
-/

namespace MarkerWatch

/-! ## Queues -/

namespace EventQueue

/-- The watches of a queue as a book. -/
def book (queue : EventQueue) : WatchBook Nat where
  lastId := queue.lastId
  ids := queue.watches.map fun watch => (watch.inode, watch.id)
  masks := queue.watches.map fun watch => (watch.id, watch.mask)
  failsNext := false

/-- The book of a queue has a file under the id of the watch that is on it. -/
theorem get?_ids_book (queue : EventQueue) (inode : Nat) :
    Assoc.get? queue.book.ids inode = (queue.watchOn? inode).map (·.id) := by
  rw [watchOn?, book]
  dsimp only
  induction queue.watches with
  | nil => rfl
  | cons watch watches ih =>
      rw [List.map_cons, Assoc.get?, List.find?_cons]
      by_cases same : watch.inode = inode <;> simp [same, ih]

/-- The book of a queue is about its watches, and not about its events. -/
theorem book_push (queue : EventQueue) (event : Event) :
    (queue.push event).book = queue.book := by
  rw [book, watches_push, lastId_push]
  rfl

/-- A watch that a queue drops is discarded from its book. -/
theorem book_drop (queue : EventQueue) (watch : WatchId) :
    (queue.drop watch).book = queue.book.discard watch := by
  rw [drop, book_push, WatchBook.discard, Assoc.erase_eq_filter]
  simp only [book, List.filter_map]
  rfl

theorem get?_ids_of_mem
    {queue : EventQueue}
    (wellFormed : queue.book.WellFormed)
    {watch : KernelWatch}
    (member : watch ∈ queue.watches) :
    Assoc.get? queue.book.ids watch.inode = some watch.id :=
  Assoc.get?_of_mem wellFormed.filesDistinct (List.mem_map_of_mem member)

/-- Setting a watch puts its mask into the book. -/
theorem book_watch
    {queue : EventQueue}
    (wellFormed : queue.book.WellFormed)
    (inode : Nat) (mask : Mask) (once : Bool) :
    (queue.watch inode mask once).1 = queue.book.idFor inode ∧
      (queue.watch inode mask once).2.book = queue.book.put inode mask := by
  have found := queue.get?_ids_book inode
  rw [watch]
  split
  · rename_i watch watched
    rw [watched, Option.map_some] at found
    refine ⟨by rw [WatchBook.idFor, found]; rfl, ?_⟩
    have sameFile {other : KernelWatch} (member : other ∈ queue.watches) :
        other.id = watch.id ↔ other.inode = inode := by
      have held := get?_ids_of_mem wellFormed member
      constructor
      · intro equal
        rw [equal] at held
        exact wellFormed.file_unique held found
      · intro equal
        rw [equal, found] at held
        exact (Option.some.inj held).symm
    have masks : queue.book.masks.map
          (fun pair => if pair.1 = watch.id then (watch.id, mask) else pair) =
        (queue.watches.map fun other =>
          if other.inode = inode then { other with mask, once } else other).map
            fun other => (other.id, other.mask) := by
      rw [book, List.map_map, List.map_map]
      apply List.map_congr_left
      intro other member
      by_cases same : other.inode = inode
      · simp [same, (sameFile member).mpr same]
      · have different : other.id ≠ watch.id := fun equal => same ((sameFile member).mp equal)
        simp [same, different]
    rw [WatchBook.put_of_watched found, Assoc.set_eq_map wellFormed.watchesDistinct
      (wellFormed.mem_keys_of_get? found), masks]
    simp only [book, List.map_map, WatchBook.mk.injEq, true_and, and_true]
    apply List.map_congr_left
    intro other member
    by_cases same : other.inode = inode <;> simp [same]
  · rename_i unwatched
    rw [unwatched, Option.map_none] at found
    refine ⟨by rw [WatchBook.idFor, found]; rfl, ?_⟩
    rw [wellFormed.put_of_unwatched found, WatchBook.idFor, found]
    simp [book]

/-- Watches are counted from one, and none ends with its first event. -/
def Ordinary (queue : EventQueue) : Prop :=
  ∀ watch ∈ queue.watches, watch.once = false ∧ 0 < watch.id.value

/-- A queue stays ordinary when it gets a watch that is set to last. -/
theorem Ordinary.watch
    {queue : EventQueue}
    (ordinary : queue.Ordinary) (inode : Nat) (mask : Mask) :
    (queue.watch inode mask false).2.Ordinary := by
  rw [EventQueue.watch]
  split
  · intro other member
    obtain ⟨old, oldMember, rfl⟩ := List.mem_map.mp member
    split
    · exact ⟨rfl, (ordinary old oldMember).2⟩
    · exact ordinary old oldMember
  · intro other member
    rcases List.mem_append.mp member with old | new
    · exact ordinary other old
    · rw [List.mem_singleton.mp new]
      exact ⟨rfl, Int.lt_add_one_of_le (Int.natCast_nonneg _)⟩

theorem Ordinary.drop
    {queue : EventQueue}
    (ordinary : queue.Ordinary) (watch : WatchId) :
    (queue.drop watch).Ordinary := by
  intro other member
  rw [EventQueue.drop, watches_push] at member
  exact ordinary other (List.mem_filter.mp member).1

end EventQueue

/-! ## Calls on watches -/

namespace Host

/-- The number of the file that a path leads to, for a call on watches. -/
def lookUp (host : Host) (path : Path) : Except Fault Nat :=
  if path.hasNul then .error (.invalidArgument (.nulInPath path))
  else
    match host.tree.find true path with
    | .ok (inode, _) => .ok inode
    | .error errno => .error (.io (.os errno))

@[simp]
theorem lookUp_setQueue (host : Host) (id : Nat) (queue : EventQueue) (path : Path) :
    (host.setQueue id queue).lookUp path = host.lookUp path :=
  rfl

/-- The queue at a descriptor is the one that the descriptor stands for, if it is open. -/
theorem queueAt?_iff
    {host : Host} {fd : Int} {id : Nat} {queue : EventQueue} :
    host.queueAt? fd = some (id, queue) ↔
      Assoc.get? host.descriptors fd = some (.queue id) ∧
        Assoc.get? host.queues id = some queue := by
  rw [queueAt?]
  split
  · rename_i id' found
    rw [found, Option.map_eq_some_iff]
    constructor
    · rintro ⟨queue', found', equal⟩
      cases equal
      exact ⟨rfl, found'⟩
    · rintro ⟨same, found'⟩
      cases same
      exact ⟨queue, found', rfl⟩
  · rename_i other
    constructor
    · intro equal
      cases equal
    · rintro ⟨found, -⟩
      exact absurd found (other id)

theorem queueAt?_setQueue
    {host : Host} {fd : Int} {id : Nat} {queue : EventQueue}
    (found : host.queueAt? fd = some (id, queue)) (changed : EventQueue) :
    (host.setQueue id changed).queueAt? fd = some (id, changed) := by
  rw [queueAt?_iff] at found ⊢
  exact ⟨found.1, Assoc.get?_set_self _ _ _⟩

theorem queueAt?_of_queueFor
    {host : Host} {fd : Int} {place : Nat × EventQueue}
    (found : host.queueFor fd = .ok place) :
    host.queueAt? fd = some place := by
  rw [queueFor] at found
  split at found
  · rename_i entry there
    rw [there, Except.ok.inj found]
  · cases found

/-- Only the lookup of the path can fail where a watch is set for events. -/
theorem watch_eq
    {host : Host} {fd : Int} {id : Nat} {queue : EventQueue}
    (found : host.queueAt? fd = some (id, queue))
    (path : Path) {mask : Mask}
    (subscribable : mask.subscribable = true) :
    host.watch fd path mask =
      (host.tree.find true path).map fun file =>
        ((queue.watch file.1 mask false).1,
          host.setQueue id (queue.watch file.1 mask false).2) := by
  have all : WatchFlag.all.contains mask = true :=
    Mask.contains_trans (by decide) (Mask.contains_events subscribable)
  have something : (mask ∩ WatchFlag.all).isEmpty = false := by
    rw [Mask.inter_eq_of_contains all]
    exact Mask.isEmpty_of_subscribable subscribable
  have opened : Assoc.has host.descriptors fd = true := by
    rw [Assoc.has, (queueAt?_iff.mp found).1]
    rfl
  have noFlag {flag : Mask} (outside : Mask.events.contains flag = false) :
      mask.contains flag = false :=
    Mask.contains_eq_false subscribable outside
  have kept : (∅ : Mask) ∪ mask ∩ Mask.events = mask := by
    rw [Mask.empty_union, Mask.inter_eq_of_contains (Mask.contains_events subscribable)]
  have onlyDirectory : mask.contains WatchFlag.onlyDirectory = false := noFlag (by decide)
  have mustBeNew : mask.contains WatchFlag.mustBeNew = false := noFlag (by decide)
  have addToMask : mask.contains WatchFlag.addToMask = false := noFlag (by decide)
  have once : mask.contains WatchFlag.once = false := noFlag (by decide)
  have both : mask.contains (WatchFlag.mustBeNew ∪ WatchFlag.addToMask) = false :=
    noFlag (by decide)
  have noFollow : mask.contains WatchFlag.noFollow = false := noFlag (by decide)
  simp only [watch, something, all, opened, both, queueFor, found, noFollow, onlyDirectory,
    mustBeNew, addToMask, once, kept, Bool.not_true, Bool.not_false, Bool.or_false,
    Bool.false_and, Bool.false_eq_true, if_false, if_true]
  cases host.tree.find true path <;> rfl

/-- Ending a watch that is there drops it from its queue. -/
theorem unwatch_eq
    {host : Host} {fd : Int} {id : Nat} {queue : EventQueue}
    (found : host.queueAt? fd = some (id, queue))
    {watch : KernelWatch}
    (member : watch ∈ queue.watches) :
    host.unwatch fd watch.id = .ok (host.setQueue id (queue.drop watch.id)) := by
  have watched : queue.watches.any (·.id = watch.id) = true :=
    List.any_eq_true.mpr ⟨watch, member, by simp⟩
  simp only [unwatch, queueFor, found]
  exact if_pos watched

end Host

namespace HostQueue

/-- Adding a watch through a queue looks the path up, and then watches the file that is found. -/
theorem addWatch_eq
    {host : Host} {fd : Int} {id : Nat} {queue : EventQueue}
    (found : host.queueAt? fd = some (id, queue))
    (path : Path) {mask : Mask}
    (subscribable : mask.subscribable = true) :
    WatchKernel.addWatch (⟨host, fd⟩ : HostQueue) path mask =
      match host.lookUp path with
      | .error fault => (.error fault, ⟨host, fd⟩)
      | .ok inode =>
        (.ok (queue.watch inode mask false).1,
          ⟨host.setQueue id (queue.watch inode mask false).2, fd⟩) := by
  change addWatch ⟨host, fd⟩ path mask = _
  rw [addWatch, Host.lookUp]
  split
  · rfl
  · dsimp only
    rw [Host.watch_eq found path subscribable]
    rcases host.tree.find true path with errno | ⟨inode, entry⟩ <;> rfl

/-- A watch that was set for events is on the file of its path, in the queue of the descriptor. -/
theorem exists_of_addWatch
    {host : Host} {fd : Int} {path : Path} {mask : Mask} {watch : WatchId} {kernel : HostQueue}
    (subscribable : mask.subscribable = true)
    (added : WatchKernel.addWatch (⟨host, fd⟩ : HostQueue) path mask = (.ok watch, kernel)) :
    ∃ id queue inode,
      host.queueAt? fd = some (id, queue) ∧ host.lookUp path = .ok inode ∧
        watch = (queue.watch inode mask false).1 ∧
        kernel = ⟨host.setQueue id (queue.watch inode mask false).2, fd⟩ := by
  have behind : Yields (host.watch fd path mask) fun _ =>
      ∃ place, host.queueAt? fd = some place := by
    unfold Host.watch
    refine .guard fun _ => .ensure fun _ => .guard fun _ => ?_
    refine .bind fun place found => .bind fun file _ => .guard fun _ => .guard fun _ => ?_
    exact .pure ⟨place, Host.queueAt?_of_queueFor found⟩
  have opened : ∃ place, host.queueAt? fd = some place := by
    change addWatch ⟨host, fd⟩ path mask = _ at added
    rw [addWatch] at added
    split at added
    · cases added
    · split at added
      · rename_i answer set
        exact behind _ set
      · cases added
  obtain ⟨⟨id, queue⟩, found⟩ := opened
  rw [addWatch_eq found path subscribable] at added
  split at added
  · cases added
  · rename_i inode leads
    cases added
    exact ⟨id, queue, inode, found, leads, rfl, rfl⟩

/-- Removing a watch through a queue drops it where it is there. -/
theorem removeWatch_eq
    {host : Host} {fd : Int} {id : Nat} {queue : EventQueue}
    (found : host.queueAt? fd = some (id, queue))
    {watch : WatchId}
    (watched : watch ∈ Assoc.keys queue.book.masks) :
    WatchKernel.removeWatch (⟨host, fd⟩ : HostQueue) watch =
      (.ok (), ⟨host.setQueue id (queue.drop watch), fd⟩) := by
  obtain ⟨pair, present, rfl⟩ := List.mem_map.mp watched
  obtain ⟨watch, member, rfl⟩ := List.mem_map.mp present
  change removeWatch ⟨host, fd⟩ watch.id = _
  rw [removeWatch, Host.unwatch_eq found member]

/-- After a path was probed, settling it cannot fail, and settles its file in the book. -/
theorem settle_probed
    {host : Host} {fd : Int} {id inode : Nat} {queue : EventQueue} {path : Path}
    (found : host.queueAt? fd = some (id, queue))
    (wellFormed : queue.book.WellFormed) (ordinary : queue.Ordinary)
    (leads : host.lookUp path = .ok inode)
    {mask : Mask}
    (allowed : mask.isEmpty = true ∨ mask.subscribable = true) :
    ∃ settled : EventQueue,
      WatchKernel.settle
          (⟨host.setQueue id (queue.watch inode Mask.probe false).2, fd⟩ : HostQueue) path
          (queue.book.idFor inode) mask =
        (.ok (), ⟨host.setQueue id settled, fd⟩) ∧
        settled.book = queue.book.settle inode mask ∧ settled.Ordinary := by
  have probed := Host.queueAt?_setQueue found (queue.watch inode Mask.probe false).2
  have probedBook := (EventQueue.book_watch wellFormed inode Mask.probe false).2
  have overwritten (again : EventQueue) :
      (host.setQueue id (queue.watch inode Mask.probe false).2).setQueue id again =
        host.setQueue id again := by
    simp only [Host.setQueue, Assoc.set_set]
  rcases allowed with nothing | something
  · have watched : queue.book.idFor inode ∈
        Assoc.keys (queue.watch inode Mask.probe false).2.book.masks := by
      rw [probedBook, ← Assoc.has_iff_mem_keys]
      exact WatchBook.has_masks_put queue.book inode Mask.probe
    refine ⟨(queue.watch inode Mask.probe false).2.drop (queue.book.idFor inode), ?_, ?_,
      (ordinary.watch inode Mask.probe).drop _⟩
    · rw [WatchKernel.settle, if_pos nothing, removeWatch_eq probed watched, overwritten]
    · rw [EventQueue.book_drop, probedBook, WatchBook.settle, if_pos nothing]
      exact WatchBook.discard_put queue.book inode Mask.probe mask
  · have nonempty := Mask.isEmpty_of_subscribable something
    have probedWellFormed : (queue.watch inode Mask.probe false).2.book.WellFormed := by
      rw [probedBook]
      exact wellFormed.put inode Mask.probe
    refine ⟨((queue.watch inode Mask.probe false).2.watch inode mask false).2, ?_, ?_,
      (ordinary.watch inode Mask.probe).watch inode mask⟩
    · rw [WatchKernel.settle, if_neg (by simp [nonempty]), addWatch_eq probed path something,
        Host.lookUp_setQueue, leads]
      dsimp only
      rw [overwritten]
      rfl
    · rw [(EventQueue.book_watch probedWellFormed inode mask false).2, probedBook,
        WatchBook.put_put, WatchBook.settle, if_neg (by simp [nonempty])]

end HostQueue

end MarkerWatch
