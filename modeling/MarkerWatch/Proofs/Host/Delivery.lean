import MarkerWatch.Proofs.Host.Table
import MarkerWatch.Proofs.Host.Tidings

/-!
# Whom a queue of events concerns

The subscriptions that some events concern are those of each event in turn, in the order of the
table.  When a file was emptied, a subscription with the interest of a name is among them once if it
is on that file, since the mask of the watch lets the closing through and no other event is of its
interest.  A subscription that is on another file is not among them, unless it is on the directory
in which the file was found.
-/

namespace MarkerWatch

variable {σ δ : Type}

namespace WatchTable

/-- The subscriptions that an event concerns. -/
def concerned (table : WatchTable σ δ) (event : Event) : List (Subscription σ δ) :=
  table.entries.filter fun entry =>
    entry.watch = event.watch ∧ entry.mask.intersects event.mask

/-- The subscriptions that some events concern, event by event. -/
def due (table : WatchTable σ δ) (events : List Event) : List (Subscription σ δ) :=
  events.flatMap table.concerned

theorem matching_eq (table : WatchTable σ δ) (event : Event) :
    table.matching event.watch event.mask =
      (table.concerned event).map fun entry => (entry.subscriber, entry.data) :=
  rfl

theorem mem_concerned
    {table : WatchTable σ δ} {event : Event} {entry : Subscription σ δ} :
    entry ∈ table.concerned event ↔
      entry ∈ table.entries ∧ entry.watch = event.watch ∧
        entry.mask.intersects event.mask = true := by
  simp [concerned]

theorem mem_entries_of_mem_due
    {table : WatchTable σ δ} {events : List Event} {entry : Subscription σ δ}
    (member : entry ∈ table.due events) :
    entry ∈ table.entries := by
  obtain ⟨event, -, concerned⟩ := List.mem_flatMap.mp member
  exact (mem_concerned.mp concerned).1

end WatchTable

/-- Whether a subscription is on a file, with the interest of a subscription to a name. -/
def EventQueue.names (queue : EventQueue) (file : Nat) (entry : Subscription σ δ) : Bool :=
  entry.mask = Mask.defaultInterest ∧ queue.idOn? file = some entry.watch

namespace EventQueue

variable {queue : EventQueue} {file : Nat}

theorem names_iff {entry : Subscription σ δ} :
    queue.names file entry = true ↔
      entry.mask = Mask.defaultInterest ∧ queue.idOn? file = some entry.watch := by
  simp [names]

theorem idOn?_of_mem_tiding
    {name : FileName} {inode : Nat} {kind : Mask} {event : Event}
    (member : event ∈ queue.tiding name inode kind) :
    queue.idOn? inode = some event.watch := by
  obtain ⟨watch, watched, -, rfl⟩ := mem_tiding.mp member
  rw [idOn?, watched]
  rfl

/-- Every event that is heard of a file is one on the file or on the directory in which it was
found. -/
theorem idOn?_of_mem_tidings
    {entry : Option (Nat × FileName)} {kind : Mask} {event : Event}
    (member : event ∈ queue.tidings file entry kind) :
    queue.idOn? file = some event.watch ∨
      ∃ place ∈ entry, queue.idOn? place.1 = some event.watch := by
  rcases List.mem_append.mp member with inDirectory | onFile
  · cases entry with
    | none => cases inDirectory
    | some place => exact .inr ⟨place, rfl, idOn?_of_mem_tiding inDirectory⟩
  · exact .inl (idOn?_of_mem_tiding onFile)

end EventQueue

namespace WatchTable

variable {table : WatchTable σ δ} {queue : EventQueue} {file : Nat}
  {entry : Option (Nat × FileName)}

theorem due_append (table : WatchTable σ δ) (earlier later : List Event) :
    table.due (earlier ++ later) = table.due earlier ++ table.due later :=
  List.flatMap_append

/-- Events of no interest to names concern no subscription to a name. -/
theorem filter_due_of_uninteresting
    {events : List Event}
    (uninteresting : ∀ event ∈ events, Mask.defaultInterest.intersects event.mask = false) :
    (table.due events).filter (queue.names file) = [] := by
  rw [List.filter_eq_nil_iff]
  intro subscription member named
  obtain ⟨event, listed, concerned⟩ := List.mem_flatMap.mp member
  have meets := (mem_concerned.mp concerned).2.2
  rw [(EventQueue.names_iff.mp named).1, uninteresting event listed] at meets
  cases meets

/-- Events on other files concern no subscription on a file. -/
theorem filter_due_of_elsewhere
    {events : List Event}
    (elsewhere : ∀ event ∈ events, queue.idOn? file ≠ some event.watch) :
    (table.due events).filter (queue.names file) = [] := by
  rw [List.filter_eq_nil_iff]
  intro subscription member named
  obtain ⟨event, listed, concerned⟩ := List.mem_flatMap.mp member
  apply elsewhere event listed
  rw [(EventQueue.names_iff.mp named).2, (mem_concerned.mp concerned).2.1]

/-- A watch lets through what a subscription on it asks for. -/
theorem Agreement.intersects_of_watched
    (agreement : table.Agreement queue.book)
    {watch : KernelWatch} (watched : queue.watchOn? file = some watch)
    {subscription : Subscription σ δ} (member : subscription ∈ table.entries)
    (onWatch : subscription.watch = watch.id)
    {kind : Mask} (meets : subscription.mask.intersects kind = true) :
    watch.mask.intersects kind = true := by
  have found := queue.get?_ids_book file
  rw [watched, Option.map_some] at found
  have installed : watch.mask = table.aggregate watch.id := by
    have listed : (watch.id, watch.mask) ∈ queue.book.masks :=
      List.mem_map_of_mem (EventQueue.mem_of_watchOn? watched).1
    have held := Assoc.get?_of_mem agreement.wellFormed.watchesDistinct listed
    rw [(agreement.get?_masks_of_watched found).2] at held
    exact (Option.some.inj held).symm
  obtain ⟨bit, asked, reported⟩ := (Mask.intersects_iff _ _).mp meets
  rw [installed, Mask.intersects_iff]
  exact ⟨bit, (getLsbD_aggregate table watch.id bit).mpr
    ⟨subscription, member, onWatch, asked⟩, reported⟩

/-- The closing of a file concerns each subscription to a name on the file. -/
theorem Agreement.filter_due_closing
    (agreement : table.Agreement queue.book) :
    (table.due (queue.tiding [] file .closeWrite)).filter (queue.names file) =
      table.entries.filter (queue.names file) := by
  have closing : Mask.defaultInterest.intersects .closeWrite = true := by decide
  rw [EventQueue.tiding]
  cases watched : queue.watchOn? file with
  | none =>
      refine (List.filter_eq_nil_iff.mpr fun subscription member named => ?_).symm
      have onFile := (EventQueue.names_iff.mp named).2
      rw [EventQueue.idOn?, watched] at onFile
      cases onFile
  | some watch =>
      have onWatch {subscription : Subscription σ δ}
          (named : queue.names file subscription = true) : subscription.watch = watch.id := by
        have onFile := (EventQueue.names_iff.mp named).2
        rw [EventQueue.idOn?, watched] at onFile
        exact (Option.some.inj onFile).symm
      have meets {subscription : Subscription σ δ}
          (named : queue.names file subscription = true) :
          subscription.mask.intersects .closeWrite = true := by
        rw [(EventQueue.names_iff.mp named).1, closing]
      dsimp only
      split
      · rw [due, List.flatMap_cons, List.flatMap_nil, List.append_nil, concerned,
          List.filter_filter]
        refine List.filter_congr fun subscription member => ?_
        cases named : queue.names file subscription with
        | false => rfl
        | true => simp [onWatch named, meets named]
      · rename_i silent
        refine (List.filter_eq_nil_iff.mpr fun subscription member named => silent ?_).symm
        exact agreement.intersects_of_watched watched member (onWatch named) (meets named)

/-- Each subscription to a name on a file that was emptied is due once, in the order of the table.
The directory hears of the closing too, but its watch is not the one on the file. -/
theorem InTune.filter_due
    (inTune : table.InTune queue)
    (elsewhere : ∀ place ∈ entry, place.1 ≠ file) :
    (table.due (Host.emptying.flatMap (queue.tidings file entry))).filter (queue.names file) =
      table.entries.filter (queue.names file) := by
  have uninteresting {kind : Mask}
      (outside : Mask.defaultInterest.intersects kind = false) :
      (table.due (queue.tidings file entry kind)).filter (queue.names file) = [] :=
    filter_due_of_uninteresting fun event member => by
      rw [EventQueue.kind_of_mem_tidings member, outside]
  have inDirectory : (table.due
      (entry.elim [] fun place => queue.tiding place.2 place.1 .closeWrite)).filter
        (queue.names file) = [] := by
    refine filter_due_of_elsewhere fun event member onFile => ?_
    cases entry with
    | none => cases member
    | some place =>
        have inPlace := EventQueue.idOn?_of_mem_tiding member
        rw [EventQueue.idOn?, ← EventQueue.get?_ids_book] at inPlace onFile
        exact elsewhere place rfl (inTune.agreement.wellFormed.file_unique inPlace onFile)
  rw [Host.emptying, List.flatMap_cons, List.flatMap_cons, List.flatMap_cons, List.flatMap_nil,
    List.append_nil, due_append, due_append, List.filter_append, List.filter_append,
    uninteresting (by decide : Mask.defaultInterest.intersects .opened = false),
    uninteresting (by decide : Mask.defaultInterest.intersects .modify = false),
    EventQueue.tidings, due_append, List.filter_append, inDirectory,
    inTune.agreement.filter_due_closing]
  rfl

/-- Nobody is told of a file that was emptied who is neither on it nor on the directory in which it
was found. -/
theorem idOn?_of_mem_due
    {kinds : List Mask} {subscription : Subscription σ δ}
    (member : subscription ∈ table.due (kinds.flatMap (queue.tidings file entry))) :
    queue.idOn? file = some subscription.watch ∨
      ∃ place ∈ entry, queue.idOn? place.1 = some subscription.watch := by
  obtain ⟨event, listed, concerned⟩ := List.mem_flatMap.mp member
  obtain ⟨kind, -, heard⟩ := List.mem_flatMap.mp listed
  rw [(mem_concerned.mp concerned).2.1]
  exact EventQueue.idOn?_of_mem_tidings heard

end WatchTable

end MarkerWatch
