import MarkerWatch.Proofs.Host.Queue

/-!
# Watch tables on event queues

A table that keeps its watches in an event queue is in tune with the queue when it agrees with the
book of the queue, whose watches are counted up and do not end by themselves.  Behind a descriptor
of the queue every operation of the table keeps it so: nothing but the lookup of a path can fail,
and what was looked up by a probe can be settled.
-/

namespace MarkerWatch.WatchTable

variable {σ δ : Type}

/-- The union of what may be asked for may be asked for itself, unless it is empty. -/
theorem Subscribable.aggregate
    {table : WatchTable σ δ}
    (subscribable : table.Subscribable) (watch : WatchId) :
    (table.aggregate watch).isEmpty = true ∨ (table.aggregate watch).subscribable = true := by
  cases nothing : (table.aggregate watch).isEmpty with
  | true => exact .inl rfl
  | false =>
      refine .inr ?_
      rw [Mask.subscribable, nothing, Bool.not_false, Bool.true_and, Mask.contains_iff]
      intro bit set
      obtain ⟨entry, member, -, set⟩ := (getLsbD_aggregate table watch bit).mp set
      exact (Mask.contains_iff _ _).mp (Mask.contains_events (subscribable entry member)) bit set

/-- A table and the queue that its watches are kept in. -/
structure InTune (table : WatchTable σ δ) (queue : EventQueue) : Prop where
  agreement : table.Agreement queue.book
  ordinary : queue.Ordinary

theorem inTune_empty : (empty : WatchTable σ δ).InTune .empty where
  agreement := agreement_empty
  ordinary := by
    intro watch member
    cases member

namespace InTune

variable {table : WatchTable σ δ} {queue : EventQueue}

/-- Events that come and go do not matter to a table. -/
theorem of_watches
    (inTune : table.InTune queue)
    {after : EventQueue}
    (lastId : after.lastId = queue.lastId) (watches : after.watches = queue.watches) :
    table.InTune after where
  agreement := by
    have sameBook : after.book = queue.book := by rw [EventQueue.book, lastId, watches]; rfl
    rw [sameBook]
    exact inTune.agreement
  ordinary := by
    intro watch member
    rw [watches] at member
    exact inTune.ordinary watch member

section

variable {host : Host} {fd : Int} {id inode : Nat} {path : Path}

/-- Settling a probed file brings another table in tune that differs on this file only. -/
theorem settle
    (inTune : table.InTune queue)
    (found : host.queueAt? fd = some (id, queue))
    (leads : host.lookUp path = .ok inode)
    {next : WatchTable σ δ}
    (subscribable : next.Subscribable)
    (othersKept : ∀ other, queue.book.idFor inode ≠ other →
      next.aggregate other = table.aggregate other) :
    ∃ settled : EventQueue,
      WatchKernel.settle
          (⟨host.setQueue id (queue.watch inode Mask.probe false).2, fd⟩ : HostQueue) path
          (queue.book.idFor inode) (next.aggregate (queue.book.idFor inode)) =
        (.ok (), ⟨host.setQueue id settled, fd⟩) ∧
        settled.book =
          queue.book.settle inode (next.aggregate (queue.book.idFor inode)) ∧
        next.InTune settled := by
  obtain ⟨settled, equal, book, ordinary⟩ := HostQueue.settle_probed found
    inTune.agreement.wellFormed inTune.ordinary leads (subscribable.aggregate _)
  refine ⟨settled, equal, book, ?_, ordinary⟩
  rw [book]
  exact inTune.agreement.settle inode subscribable othersKept

variable [DecidableEq σ]

/-- What comes of a subscription behind a descriptor. -/
inductive Subscribes (host : Host) (fd : Int) (id : Nat) (path : Path) (table : WatchTable σ δ)
    (who : σ) (data : δ) (mask : Mask) : Except Fault WatchId × WatchTable σ δ × HostQueue → Prop
  | refused (fault : Fault) {settled : EventQueue} (inTune : table.InTune settled) :
      Subscribes host fd id path table who data mask
        (.error fault, table, ⟨host.setQueue id settled, fd⟩)
  | granted {inode : Nat} {watch : WatchId} {settled : EventQueue}
      (leads : host.lookUp path = .ok inode)
      (watched : Assoc.get? settled.book.ids inode = some watch)
      (inTune : (table.add ⟨watch, mask, who, data⟩).InTune settled) :
      Subscribes host fd id path table who data mask
        (.ok watch, table.add ⟨watch, mask, who, data⟩, ⟨host.setQueue id settled, fd⟩)

theorem subscribes
    (inTune : table.InTune queue)
    (found : host.queueAt? fd = some (id, queue))
    (path : Path) (who : σ) (data : δ) (mask : Mask) :
    Subscribes host fd id path table who data mask
      (table.subscribe (⟨host, fd⟩ : HostQueue) path who data mask) := by
  have unchanged : host.setQueue id queue = host := by
    rw [Host.setQueue, Assoc.set_eq_self (Host.queueAt?_iff.mp found).2]
  have refusedAtOnce (fault : Fault) : Subscribes host fd id path table who data mask
      (.error fault, table, ⟨host, fd⟩) := by
    have refused : Subscribes host fd id path table who data mask
      (.error fault, table, ⟨host.setQueue id queue, fd⟩) := .refused fault inTune
    rwa [unchanged] at refused
  have subscribable := inTune.agreement.subscribable
  have wellFormed := inTune.agreement.wellFormed
  cases allowed : mask.subscribable with
  | false =>
      rw [subscribe_of_not_subscribable _ _ _ _ _ allowed]
      exact refusedAtOnce _
  | true =>
      rw [subscribable.subscribe_eq _ path who data allowed,
        HostQueue.addWatch_eq found path (by decide : Mask.probe.subscribable = true)]
      cases leads : host.lookUp path with
      | error fault => exact refusedAtOnce fault
      | ok inode =>
          dsimp only
          rw [(EventQueue.book_watch wellFormed inode Mask.probe false).1]
          split
          · obtain ⟨settled, equal, -, inTune⟩ :=
              inTune.settle found leads subscribable fun _ _ => rfl
            rw [equal]
            exact .refused _ inTune
          · have othersKept (other : WatchId) (different : queue.book.idFor inode ≠ other) :
                (table.add ⟨queue.book.idFor inode, mask, who, data⟩).aggregate other =
                  table.aggregate other := by
              rw [aggregate_add, if_neg different]
            have addedSubscribable :
                (table.add ⟨queue.book.idFor inode, mask, who, data⟩).Subscribable :=
              subscribable.add allowed
            obtain ⟨settled, equal, book, inTune⟩ :=
              inTune.settle found leads addedSubscribable othersKept
            rw [equal]
            refine .granted leads ?_ inTune
            have nonempty := addedSubscribable.isEmpty_aggregate_of_mem
              (List.mem_append_right table.entries (List.mem_singleton_self _))
            rw [book, wellFormed.get?_ids_settle, if_pos rfl, if_neg (by rw [nonempty]; simp)]

/-- Ending subscriptions keeps a table in tune, and brings no new one. -/
theorem unsubscribes
    (inTune : table.InTune queue)
    (found : host.queueAt? fd = some (id, queue))
    (path : Path) (who : Option σ) :
    ∃ answer next settled,
      table.unsubscribe (⟨host, fd⟩ : HostQueue) path who =
        (answer, next, ⟨host.setQueue id settled, fd⟩) ∧
        next.InTune settled ∧ ∀ entry ∈ next.entries, entry ∈ table.entries := by
  have unchanged : host.setQueue id queue = host := by
    rw [Host.setQueue, Assoc.set_eq_self (Host.queueAt?_iff.mp found).2]
  have subscribable := inTune.agreement.subscribable
  rw [subscribable.unsubscribe_eq,
    HostQueue.addWatch_eq found path (by decide : Mask.probe.subscribable = true)]
  cases leads : host.lookUp path with
  | error fault =>
      refine ⟨.error fault, table, queue, ?_, inTune, fun _ member => member⟩
      rw [unchanged]
  | ok inode =>
      dsimp only
      rw [(EventQueue.book_watch inTune.agreement.wellFormed inode Mask.probe false).1]
      obtain ⟨settled, equal, -, inTune⟩ :=
        inTune.settle found leads (subscribable.without (queue.book.idFor inode) who)
          fun other different => aggregate_without_of_ne table who different
      rw [equal]
      dsimp only
      split
      · rename_i nothing
        rw [without_of_isEmpty nothing] at inTune
        exact ⟨_, table, settled, rfl, inTune, fun _ member => member⟩
      · exact ⟨_, _, settled, rfl, inTune, fun _ member => (List.mem_filter.mp member).1⟩

end

end InTune

end MarkerWatch.WatchTable
