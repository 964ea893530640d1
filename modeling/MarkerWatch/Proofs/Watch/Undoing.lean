import MarkerWatch.Proofs.Watch.Recovery

/-!
# Subscriptions that are taken back

Taking a mask out of a union does not undo putting it in, since others may ask for the same kinds.
Ending a subscription undoes it all the same: the union is formed anew from those who remain, and
they are those who were there before.

A subscription that was just granted is the last entry of its table and the only one that its watch
and its subscriber select.  Ending it therefore gives back the old table, and settles the path for
that table.  Between a table and a kernel that agree such a settlement changes nothing but the
counter of ids.
-/

namespace MarkerWatch

variable {σ δ φ : Type} [DecidableEq φ]

/-! ## Files settled twice -/

namespace FileBook

variable {kernel : FileBook φ} (path : Path) {first : Mask} (nonempty : first.isEmpty = false)

include nonempty

theorem idFor_settle : (kernel.settle path first).idFor path = kernel.idFor path :=
  WatchBook.idFor_settle kernel.book (kernel.fileOf path) nonempty

theorem settle_settle (second : Mask) :
    (kernel.settle path first).settle path second = kernel.settle path second := by
  rw [settle, settle, settle, WatchBook.settle_settle kernel.book (kernel.fileOf path) nonempty]

end FileBook

namespace WatchTable

variable [DecidableEq σ]

/-! ## The entry that was added last -/

omit [DecidableEq φ] in
/-- A new subscription is all that its watch and its subscriber select. -/
theorem filter_selects_add
    {table : WatchTable σ δ} {entry : Subscription σ δ}
    (new : table.registered entry.watch entry.subscriber = false) :
    (table.add entry).entries.filter (selects entry.watch (some entry.subscriber)) = [entry] := by
  have nobody :
      table.entries.filter (selects entry.watch (some entry.subscriber)) = [] := by
    rw [List.filter_eq_nil_iff, ← List.any_eq_false, ← registered_eq_any]
    exact new
  rw [add, List.filter_append, nobody]
  simp [selects]

omit [DecidableEq φ] in
/-- Without the subscription that is new, a table is the one from before. -/
theorem without_add
    {table : WatchTable σ δ} {entry : Subscription σ δ}
    (new : table.registered entry.watch entry.subscriber = false) :
    (table.add entry).without entry.watch (some entry.subscriber) = table := by
  have kept :
      table.entries.filter (!selects entry.watch (some entry.subscriber) ·) = table.entries := by
    rw [List.filter_eq_self]
    intro other member
    rw [registered_eq_any, List.any_eq_false] at new
    simpa using new other member
  rw [without, add, List.filter_append, kept]
  simp [selects]

/-! ## Subscribing and ending the subscription -/

namespace Agreement

variable {table next : WatchTable σ δ} {kernel left : FileBook φ}
  {path : Path} {who : σ} {data : δ} {mask : Mask} {watch : WatchId}

/-- What a granted subscription tells of itself and leaves behind. -/
theorem subscribe_inv
    (agreement : table.Agreement kernel.book)
    (granted : table.subscribe kernel path who data mask = (.ok watch, next, left)) :
    mask.subscribable = true ∧
      watch = kernel.idFor path ∧
      table.registered watch who = false ∧
      next = table.add ⟨watch, mask, who, data⟩ ∧
      left = kernel.settle path (next.aggregate watch) := by
  cases allowed : mask.subscribable with
  | false =>
      rw [subscribe_of_not_subscribable table kernel path who data allowed] at granted
      cases granted
  | true =>
      have served :=
        agreement.subscribable.serve_subscribe agreement.quiet path who data allowed
      simp only [WatchTable.serve, granted] at served
      cases registered : table.registered (kernel.idFor path) who with
      | true =>
          rw [registered] at served
          cases served
      | false =>
          rw [registered] at served
          cases served
          exact ⟨rfl, rfl, registered, rfl, rfl⟩

/-- Ending the only subscription that a watch and a subscriber select. -/
theorem unsubscribe_of_sole
    (agreement : next.Agreement left.book)
    {entry : Subscription σ δ}
    (sole : next.entries.filter (selects (left.idFor path) (some who)) = [entry]) :
    next.unsubscribe left path (some who) =
      (.ok 1, next.without (left.idFor path) (some who),
        left.settle path
          ((next.without (left.idFor path) (some who)).aggregate (left.idFor path))) := by
  rw [agreement.subscribable.unsubscribe_eq, FileBook.addWatch_of_quiet agreement.quiet]
  dsimp only
  rw [FileBook.settle_put_of_quiet agreement.quiet]
  dsimp only
  rw [sole]
  rfl

/-- A subscription that was added and settled is undone by ending it.  The watch stays meanwhile,
and at the end it is settled for the old table, with which the old kernel agreed. -/
theorem unsubscribe_of_added
    (agreement : table.Agreement kernel.book)
    {entry : Subscription σ δ}
    (allowed : entry.mask.subscribable = true)
    (onPath : entry.watch = kernel.idFor path)
    (new : table.registered entry.watch entry.subscriber = false)
    (settled : left = kernel.settle path ((table.add entry).aggregate entry.watch)) :
    (table.add entry).unsubscribe left path (some entry.subscriber) =
      (.ok 1, table,
        { kernel with book := { kernel.book with lastId := left.book.lastId } }) := by
  have subscribable : (table.add entry).Subscribable := agreement.subscribable.add allowed
  have present : entry ∈ (table.add entry).entries := List.mem_append_right _ List.mem_cons_self
  have nonempty := subscribable.isEmpty_aggregate_of_mem present
  have after : (table.add entry).Agreement left.book := by
    rw [settled, onPath]
    refine agreement.settle (kernel.fileOf path) subscribable ?_
    intro other different
    exact (aggregate_add table entry other).trans (if_neg (onPath ▸ different))
  have sameId : left.idFor path = entry.watch := by
    rw [settled, FileBook.idFor_settle path nonempty, onPath]
  have sole := filter_selects_add new
  rw [← sameId] at sole
  rw [after.unsubscribe_of_sole sole, sameId, without_add new]
  obtain ⟨lastId, -, unchanged⟩ := agreement.settle_self (kernel.fileOf path)
  have counted : left.book.lastId = lastId := by
    rw [settled]
    exact (WatchBook.lastId_settle _ _ _ _).trans (congrArg WatchBook.lastId unchanged)
  have settledTwice :
      left.settle path (table.aggregate entry.watch) =
        kernel.settle path (table.aggregate entry.watch) := by
    rw [settled, FileBook.settle_settle path nonempty]
  rw [settledTwice, counted, onPath]
  simp only [FileBook.settle, FileBook.idFor, unchanged]

end Agreement

/--
From every state that runs lead to, a subscription that is granted is undone by ending it: one
subscription is ended, the entries are those from before in the same order, and every file has the
watch and the mask that it had, whatever kinds of event others ask for.  Only the counter of ids
stays where the subscription has put it.
-/
theorem unsubscribe_undoes_subscribe
    {fileOf : Path → φ} {table next : WatchTable σ δ} {kernel left : FileBook φ}
    (reached : Reached fileOf table kernel)
    {path : Path} {who : σ} {data : δ} {mask : Mask} {watch : WatchId}
    (granted : table.subscribe kernel path who data mask = (.ok watch, next, left)) :
    next.unsubscribe left path (some who) =
      (.ok 1, table,
        { kernel with book := { kernel.book with lastId := left.book.lastId } }) := by
  obtain ⟨allowed, onPath, new, rfl, settled⟩ := reached.agreement.subscribe_inv granted
  exact reached.agreement.unsubscribe_of_added allowed onPath new settled

/-- A subscriber who asks for more than another, and then leaves, takes nothing from the other. -/
theorem unsubscribe_undoes_overlapping_subscription :
    let second :=
      soleSubscriber.table.subscribe soleSubscriber.kernel ⟨[0x61]⟩ "y" .none
        (Mask.closeWrite ∪ Mask.modify)
    second.1 = .ok ⟨1⟩ ∧
      Assoc.get? second.2.2.book.masks ⟨1⟩ = some (Mask.closeWrite ∪ Mask.modify) ∧
      second.2.1.unsubscribe second.2.2 ⟨[0x61]⟩ (some "y") =
        (.ok 1, soleSubscriber.table, soleSubscriber.kernel) ∧
      Assoc.get? soleSubscriber.kernel.book.masks ⟨1⟩ = some Mask.closeWrite := by
  intro second
  have granted :
      soleSubscriber.table.subscribe soleSubscriber.kernel ⟨[0x61]⟩ "y" .none
          (Mask.closeWrite ∪ Mask.modify) =
        (.ok ⟨1⟩, second.2.1, second.2.2) := rfl
  exact ⟨rfl, rfl, unsubscribe_undoes_subscribe reached_soleSubscriber granted, rfl⟩

end WatchTable

end MarkerWatch
