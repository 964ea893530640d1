import MarkerWatch.Proofs.Mask
import MarkerWatch.Watch.Table

/-!
# Operations of a watch table in two phases

Both operations of a watch table probe a path and then settle it: the watch gets the union of the
subscriptions that the table is about to have, or is removed when there are none.  A failed
settlement is answered by settling once more for the subscriptions that the table still has.

`Subscribable.subscribe_eq` and `Subscribable.unsubscribe_eq` state this for every kernel.  They ask
that all masks of the table may be asked for, since only then does an empty union mean that nobody
is subscribed; every operation keeps it so.
-/

namespace MarkerWatch

variable {κ σ δ : Type} [WatchKernel κ]

/-- The kernel after the watch of a path was left with a mask, or removed for want of one. -/
def WatchKernel.settle (kernel : κ) (path : Path) (watch : WatchId) (mask : Mask) :
    Except Fault Unit × κ :=
  if mask.isEmpty then removeWatch kernel watch
  else
    ((addWatch kernel path mask).1.map fun _ => (), (addWatch kernel path mask).2)

namespace WatchTable

/-- The table with one further subscription. -/
def add (table : WatchTable σ δ) (entry : Subscription σ δ) : WatchTable σ δ :=
  ⟨table.entries ++ [entry]⟩

/-- Every subscription of the table asks for events that may be asked for. -/
def Subscribable (table : WatchTable σ δ) : Prop :=
  ∀ entry ∈ table.entries, entry.mask.subscribable = true

/-! ## Subscriptions on a watch -/

theorem mem_on_iff
    (table : WatchTable σ δ) (watch : WatchId) (entry : Subscription σ δ) :
    entry ∈ table.on watch ↔ entry ∈ table.entries ∧ entry.watch = watch := by
  simp [on]

/-- A watch is asked for a kind of event exactly when a subscription on it asks for that kind. -/
theorem getLsbD_aggregate
    (table : WatchTable σ δ) (watch : WatchId) (bit : Nat) :
    (table.aggregate watch).bits.getLsbD bit = true ↔
      ∃ entry ∈ table.entries,
        entry.watch = watch ∧ entry.mask.bits.getLsbD bit = true := by
  rw [aggregate, Mask.getLsbD_unionOf, List.any_map, List.any_eq_true]
  constructor
  · rintro ⟨entry, member, set⟩
    rw [mem_on_iff] at member
    exact ⟨entry, member.1, member.2, set⟩
  · rintro ⟨entry, member, onWatch, set⟩
    exact ⟨entry, (mem_on_iff table watch entry).mpr ⟨member, onWatch⟩, set⟩

/-- Where masks may be asked for, nothing is asked of a watch exactly when nobody is on it. -/
theorem Subscribable.isEmpty_aggregate_iff
    {table : WatchTable σ δ}
    (subscribable : table.Subscribable)
    (watch : WatchId) :
    (table.aggregate watch).isEmpty = true ↔ table.on watch = [] := by
  rw [aggregate, Mask.isEmpty_unionOf_iff]
  constructor
  · intro allEmpty
    rw [List.eq_nil_iff_forall_not_mem]
    intro entry member
    have nonempty :=
      Mask.isEmpty_of_subscribable
        (subscribable entry ((mem_on_iff table watch entry).mp member).1)
    rw [allEmpty entry.mask (List.mem_map_of_mem member)] at nonempty
    contradiction
  · intro nobody
    simp [nobody]

theorem Subscribable.isEmpty_aggregate_of_mem
    {table : WatchTable σ δ}
    (subscribable : table.Subscribable)
    {entry : Subscription σ δ}
    (member : entry ∈ table.entries) :
    (table.aggregate entry.watch).isEmpty = false := by
  rw [← Bool.not_eq_true, subscribable.isEmpty_aggregate_iff]
  intro nobody
  have present := (mem_on_iff table entry.watch entry).mpr ⟨member, rfl⟩
  rw [nobody] at present
  exact absurd present List.not_mem_nil

/-- A subscription that is added has its mask asked for on its own watch, and on no other one. -/
theorem aggregate_add
    (table : WatchTable σ δ) (entry : Subscription σ δ) (watch : WatchId) :
    (table.add entry).aggregate watch =
      if entry.watch = watch then table.aggregate watch ∪ entry.mask
      else table.aggregate watch := by
  simp only [aggregate, on, add, List.filter_append, List.map_append, Mask.union_append]
  by_cases same : entry.watch = watch <;> simp [same]

theorem Subscribable.add
    {table : WatchTable σ δ}
    (subscribable : table.Subscribable)
    {entry : Subscription σ δ}
    (allowed : entry.mask.subscribable = true) :
    (table.add entry).Subscribable := by
  intro other member
  rcases List.mem_append.mp member with old | new
  · exact subscribable other old
  · rw [List.mem_singleton.mp new]
    exact allowed

theorem subscribable_empty : (empty : WatchTable σ δ).Subscribable := by
  intro entry member
  exact absurd member List.not_mem_nil

/-! ## Settling -/

/-- To put a mask on a watch is to settle the watch, as long as something is asked for. -/
theorem install_eq_settle
    {kernel : κ} {path : Path} {mask : Mask}
    (nonempty : mask.isEmpty = false) (watch : WatchId) :
    (install kernel path mask : Except Fault Unit × κ) =
      WatchKernel.settle kernel path watch mask := by
  rw [install, WatchKernel.settle, nonempty]
  rcases WatchKernel.addWatch kernel path mask with ⟨answer, next⟩
  cases answer <;> rfl

/-- To restore a watch is to settle it for the table, whatever comes of that. -/
theorem restore_eq_settle
    (table : WatchTable σ δ) (kernel : κ) (path : Path) (watch : WatchId) :
    table.restore kernel path watch =
      (WatchKernel.settle kernel path watch (table.aggregate watch)).2 := by
  rw [restore, WatchKernel.settle]
  split <;> rfl

/-- To leave a watch to those who stay is to settle it for their table. -/
theorem Subscribable.leave_eq_settle
    {table : WatchTable σ δ}
    (subscribable : table.Subscribable)
    (kernel : κ) (path : Path) (watch : WatchId) :
    leave kernel path watch (table.on watch) =
      WatchKernel.settle kernel path watch (table.aggregate watch) := by
  have sameTest : (table.on watch).isEmpty = (table.aggregate watch).isEmpty := by
    rw [Bool.eq_iff_iff, List.isEmpty_iff, subscribable.isEmpty_aggregate_iff]
  rw [leave, WatchKernel.settle, sameTest, ← aggregate]
  rcases WatchKernel.addWatch kernel path (table.aggregate watch) with ⟨answer, next⟩
  cases answer <;> rfl

/-! ## Ended subscriptions -/

variable [DecidableEq σ]

/-- The table without the subscriptions that a watch and, where one is named, a subscriber mean. -/
def without (table : WatchTable σ δ) (watch : WatchId) (who : Option σ) : WatchTable σ δ :=
  ⟨table.entries.filter (!selects watch who ·)⟩

theorem registered_iff
    (table : WatchTable σ δ) (watch : WatchId) (who : σ) :
    table.registered watch who = true ↔
      ∃ entry ∈ table.entries, entry.watch = watch ∧ entry.subscriber = who := by
  simp [registered]

/-- A subscriber is registered on a watch exactly when the two select some entry. -/
theorem registered_eq_any
    (table : WatchTable σ δ) (watch : WatchId) (who : σ) :
    table.registered watch who = table.entries.any (selects watch (some who)) := by
  rw [registered]
  congr 1
  funext entry
  simp [selects, eq_comm]

theorem watch_eq_of_selects
    {watch : WatchId} {who : Option σ} {entry : Subscription σ δ}
    (selected : selects watch who entry = true) :
    entry.watch = watch := by
  rw [selects, Bool.and_eq_true] at selected
  simpa using selected.1

/-- A registered subscriber keeps its watch from being asked for nothing. -/
theorem Subscribable.isEmpty_aggregate_of_registered
    {table : WatchTable σ δ}
    (subscribable : table.Subscribable)
    {watch : WatchId} {who : σ}
    (registered : table.registered watch who = true) :
    (table.aggregate watch).isEmpty = false := by
  obtain ⟨entry, member, rfl, -⟩ := (registered_iff table watch who).mp registered
  exact subscribable.isEmpty_aggregate_of_mem member

theorem Subscribable.without
    {table : WatchTable σ δ}
    (subscribable : table.Subscribable)
    (watch : WatchId) (who : Option σ) :
    (table.without watch who).Subscribable := by
  intro entry member
  exact subscribable entry (List.mem_filter.mp member).1

/-- Subscriptions that are ended on one watch ask for nothing on another. -/
theorem aggregate_without_of_ne
    (table : WatchTable σ δ) {watch other : WatchId} (who : Option σ)
    (different : watch ≠ other) :
    (table.without watch who).aggregate other = table.aggregate other := by
  have sameEntries : (table.without watch who).on other = table.on other := by
    rw [on, without, List.filter_filter]
    apply List.filter_congr
    intro entry _
    by_cases onOther : entry.watch = other
    · have kept : selects watch who entry = false := by
        rw [← Bool.not_eq_true]
        intro selected
        exact different ((watch_eq_of_selects selected).symm.trans onOther)
      simp [onOther, kept]
    · simp [onOther]
  rw [aggregate, sameEntries, aggregate]

theorem on_without
    (table : WatchTable σ δ) (watch : WatchId) (who : Option σ) :
    (table.without watch who).on watch = (table.on watch).filter (!selects watch who ·) := by
  simp only [on, without, List.filter_filter]
  apply List.filter_congr
  intro entry _
  exact Bool.and_comm _ _

/-- Where no subscription is selected the table stays as it is. -/
theorem without_of_isEmpty
    {table : WatchTable σ δ} {watch : WatchId} {who : Option σ}
    (nothing : (table.entries.filter (selects watch who)).isEmpty = true) :
    table.without watch who = table := by
  rw [List.isEmpty_iff, List.filter_eq_nil_iff] at nothing
  have allKept : table.entries.filter (!selects watch who ·) = table.entries := by
    rw [List.filter_eq_self]
    intro entry member
    simpa using nothing entry member
  rw [without, allKept]

/-! ## The two phases -/

/-- A subscription probes its path and settles it for the table with the new entry. -/
theorem Subscribable.subscribe_eq
    {table : WatchTable σ δ}
    (subscribable : table.Subscribable)
    (kernel : κ) (path : Path) (who : σ) (data : δ)
    {mask : Mask}
    (allowed : mask.subscribable = true) :
    table.subscribe kernel path who data mask =
      match WatchKernel.addWatch kernel path Mask.probe with
      | (.error fault, probed) => (.error fault, table, probed)
      | (.ok watch, probed) =>
        if table.registered watch who then
          (.error (.alreadyExists path), table,
            (WatchKernel.settle probed path watch (table.aggregate watch)).2)
        else
          let next := table.add ⟨watch, mask, who, data⟩
          match WatchKernel.settle probed path watch (next.aggregate watch) with
          | (.error fault, failed) =>
            (.error fault, table,
              (WatchKernel.settle failed path watch (table.aggregate watch)).2)
          | (.ok (), settled) => (.ok watch, next, settled) := by
  rw [subscribe, if_pos allowed]
  rcases WatchKernel.addWatch kernel path Mask.probe with ⟨answer, probed⟩
  cases answer with
  | error fault => rfl
  | ok watch =>
      dsimp only
      split
      · rename_i registered
        rw [install_eq_settle
          (subscribable.isEmpty_aggregate_of_registered registered) watch]
      · have union :
            (table.add ⟨watch, mask, who, data⟩).aggregate watch =
              table.aggregate watch ∪ mask := by
          rw [aggregate_add, if_pos rfl]
        have nonempty : (table.aggregate watch ∪ mask).isEmpty = false :=
          Mask.isEmpty_union_of_right (Mask.isEmpty_of_subscribable allowed)
        rw [union, install_eq_settle nonempty watch]
        simp only [restore_eq_settle]
        rfl

/-- Ending subscriptions probes a path and settles it for the table without them, whose
subscriptions on the watch are those that are not ended. -/
theorem Subscribable.unsubscribe_eq
    {table : WatchTable σ δ}
    (subscribable : table.Subscribable)
    (kernel : κ) (path : Path) (who : Option σ) :
    table.unsubscribe kernel path who =
      match WatchKernel.addWatch kernel path Mask.probe with
      | (.error fault, probed) => (.error fault, table, probed)
      | (.ok watch, probed) =>
        let next := table.without watch who
        match WatchKernel.settle probed path watch (next.aggregate watch) with
        | (.error fault, failed) =>
          (.error fault, table,
            (WatchKernel.settle failed path watch (table.aggregate watch)).2)
        | (.ok (), settled) =>
          if (table.entries.filter (selects watch who)).isEmpty then
            (.error (.notFound path), table, settled)
          else
            (.ok (table.entries.filter (selects watch who)).length, next, settled) := by
  rw [unsubscribe]
  rcases WatchKernel.addWatch kernel path Mask.probe with ⟨answer, probed⟩
  cases answer with
  | error fault => rfl
  | ok watch =>
      dsimp only
      rw [← on_without, (subscribable.without watch who).leave_eq_settle]
      simp only [restore_eq_settle]
      rfl

end WatchTable

end MarkerWatch
