import MarkerWatch.Proofs.Watch.Safety
import MarkerWatch.Proofs.Watch.Undoing

/-!
# Subscriptions ended together and one by one

All subscriptions on a path may be ended by one request, or each by a request of its own, in any
order.  Every departure leaves the watch with another union, but none of these unions is left at the
end: as long as somebody remains the next departure settles the path anew, and the last one removes
the watch as the single request does.

The induction is along the order of departures.  It carries the agreement of table and kernel, which
every request keeps, and that nobody is on one watch twice, so that each departure ends exactly one
subscription.
-/

namespace MarkerWatch.WatchTable

variable {σ δ φ : Type} [DecidableEq σ]

/-! ## Who is on a watch -/

theorem filter_selects_none (table : WatchTable σ δ) (watch : WatchId) :
    table.entries.filter (selects watch none) = table.on watch := by
  apply List.filter_congr
  intro entry _
  simp [selects]

theorem filter_selects_some (table : WatchTable σ δ) (watch : WatchId) (who : σ) :
    table.entries.filter (selects watch (some who)) =
      (table.on watch).filter (·.subscriber = who) := by
  rw [on, List.filter_filter]
  apply List.filter_congr
  intro entry _
  simp [selects, Bool.and_comm, eq_comm]

/-- Where nobody is on a watch twice, a subscriber on it has one subscription there. -/
theorem Distinct.length_selected
    {table : WatchTable σ δ}
    (distinct : table.Distinct)
    {watch : WatchId} {who : σ}
    (present : who ∈ (table.on watch).map (·.subscriber)) :
    (table.entries.filter (selects watch (some who))).length = 1 := by
  have once := List.count_eq_one_of_mem (distinct.nodup_on watch) present
  rw [List.count_eq_length_filter, List.filter_map, List.length_map] at once
  rw [filter_selects_some]
  exact once

/-- Once one subscriber has left a watch, the others are there. -/
theorem subscribers_without
    (table : WatchTable σ δ) (watch : WatchId) (who : σ) :
    ((table.without watch (some who)).on watch).map (·.subscriber) =
      ((table.on watch).map (·.subscriber)).filter (· != who) := by
  rw [on_without, List.filter_map]
  congr 1
  apply List.filter_congr
  intro entry member
  have onWatch := ((mem_on_iff table watch entry).mp member).2
  rw [Bool.eq_iff_iff]
  simpa [selects, onWatch] using ne_comm

/-- Who leaves first makes no difference to what is left when all have gone. -/
theorem without_without_none
    (table : WatchTable σ δ) (watch : WatchId) (who : Option σ) :
    (table.without watch who).without watch none = table.without watch none := by
  rw [without, without, without, List.filter_filter]
  congr 1
  apply List.filter_congr
  intro entry _
  by_cases onWatch : entry.watch = watch <;> simp [selects, onWatch]

theorem aggregate_without_none (table : WatchTable σ δ) (watch : WatchId) :
    (table.without watch none).aggregate watch = ∅ := by
  have nobody : (table.without watch none).on watch = [] := by
    rw [on_without, List.filter_eq_nil_iff]
    intro entry member
    simp [selects, ((mem_on_iff table watch entry).mp member).2]
  rw [aggregate, nobody]
  rfl

/-- A table with nobody on a watch is one that all have left. -/
theorem without_none_of_on_eq_nil
    {table : WatchTable σ δ} {watch : WatchId}
    (nobody : table.on watch = []) :
    table.without watch none = table := by
  apply without_of_isEmpty
  rw [filter_selects_none, nobody]
  rfl

/-! ## One departure after another -/

variable [DecidableEq φ]

/-- Nobody is on one watch twice. -/
theorem Reached.distinct
    {fileOf : Path → φ} {table : WatchTable σ δ} {kernel : FileBook φ}
    (reached : Reached fileOf table kernel) :
    table.Distinct := by
  induction reached with
  | start => exact distinct_empty
  | serve before request ih => exact (turns_serve _ _ request).distinct ih

/-- What a single departure answers and leaves behind. -/
theorem Agreement.serve_departure
    {table : WatchTable σ δ} {kernel : FileBook φ}
    (agreement : table.Agreement kernel.book)
    (distinct : table.Distinct)
    {path : Path} {who : σ}
    (present : who ∈ (table.on (kernel.idFor path)).map (·.subscriber)) :
    table.serve kernel (.unsubscribe path (some who)) =
      let next := table.without (kernel.idFor path) (some who)
      ⟨.ok (.ended 1), next, kernel.settle path (next.aggregate (kernel.idFor path))⟩ := by
  have one := distinct.length_selected present
  have something :
      (table.entries.filter (selects (kernel.idFor path) (some who))).isEmpty = false := by
    rw [List.isEmpty_eq_false_iff, ← List.length_pos_iff, one]
    exact Nat.one_pos
  rw [agreement.subscribable.serve_unsubscribe agreement.quiet path (some who)]
  simp only [something, one]
  rfl

/-- Whoever is on a watch may leave one after another, each once, until the watch is gone.  As long
as somebody remains, the path still leads to the watch and is settled for the others. -/
theorem Agreement.outcomes_of_departures
    {table : WatchTable σ δ} {kernel : FileBook φ}
    (agreement : table.Agreement kernel.book)
    (distinct : table.Distinct)
    {path : Path} {order : List σ}
    (somebody : order ≠ [])
    (everybody : order.Perm ((table.on (kernel.idFor path)).map (·.subscriber))) :
    let departures := table.outcomes kernel (order.map fun who => .unsubscribe path (some who))
    departures.map (·.answer) = List.replicate order.length (.ok (.ended 1)) ∧
      ∃ answer,
        departures.getLast? =
          some ⟨answer, table.without (kernel.idFor path) none, kernel.settle path ∅⟩ := by
  induction order generalizing table kernel with
  | nil => exact absurd rfl somebody
  | cons who rest ih =>
      have present : who ∈ (table.on (kernel.idFor path)).map (·.subscriber) :=
        everybody.subset List.mem_cons_self
      have served := agreement.serve_departure distinct present
      have after := agreement.serve (.unsubscribe path (some who))
      have afterDistinct :=
        (turns_serve table kernel (.unsubscribe path (some who))).distinct distinct
      rw [served] at after afterDistinct
      let next := table.without (kernel.idFor path) (some who)
      let left := kernel.settle path (next.aggregate (kernel.idFor path))
      have remaining : rest.Perm ((next.on (kernel.idFor path)).map (·.subscriber)) := by
        have erased := everybody.erase who
        rw [List.erase_cons_head, (distinct.nodup_on _).erase_eq_filter] at erased
        rw [subscribers_without]
        exact erased
      simp only [List.map_cons, outcomes, served]
      cases rest with
      | nil =>
          have nobody : next.on (kernel.idFor path) = [] := by
            simpa using remaining.symm.eq_nil
          have gone : next = table.without (kernel.idFor path) none := by
            rw [← without_without_none table _ (some who)]
            exact (without_none_of_on_eq_nil nobody).symm
          have nothing : next.aggregate (kernel.idFor path) = ∅ := by
            rw [gone, aggregate_without_none]
          refine ⟨rfl, .ok (.ended 1), ?_⟩
          show some _ = some _
          rw [nothing, ← gone]
          rfl
      | cons other rest =>
          have nonempty : (next.aggregate (kernel.idFor path)).isEmpty = false := by
            rw [← Bool.not_eq_true, after.subscribable.isEmpty_aggregate_iff]
            intro nobody
            rw [nobody] at remaining
            exact List.cons_ne_nil _ _ remaining.eq_nil
          have sameId : left.idFor path = kernel.idFor path :=
            FileBook.idFor_settle path nonempty
          rw [← sameId] at remaining
          obtain ⟨answers, answer, last⟩ :=
            ih after afterDistinct (List.cons_ne_nil _ _) remaining
          refine ⟨congrArg (List.cons _) answers, answer, ?_⟩
          rw [List.getLast?_cons, last, sameId, without_without_none,
            FileBook.settle_settle path nonempty]
          rfl

/--
From every state that runs lead to, ending all subscriptions on a path at once ends as many as there
are.  Ending them by a request for each of the subscribers, in whatever order these leave, ends one
each time, and leads to the same entries and the same files: ids, masks and the counter of ids.
-/
theorem departures_eq_unsubscribe_all
    {fileOf : Path → φ} {table : WatchTable σ δ} {kernel : FileBook φ}
    (reached : Reached fileOf table kernel)
    {path : Path}
    (somebody : table.on (kernel.idFor path) ≠ [])
    {order : List σ}
    (everybody : order.Perm ((table.on (kernel.idFor path)).map (·.subscriber))) :
    let together := table.serve kernel (.unsubscribe path none)
    let departures := table.outcomes kernel (order.map fun who => .unsubscribe path (some who))
    together.answer = .ok (.ended (table.on (kernel.idFor path)).length) ∧
      departures.map (·.answer) = List.replicate order.length (.ok (.ended 1)) ∧
      ∃ last, departures.getLast? = some last ∧
        last.table = together.table ∧ last.kernel = together.kernel := by
  have agreement := reached.agreement
  have something : (table.on (kernel.idFor path)).isEmpty = false := by
    rwa [List.isEmpty_eq_false_iff]
  have served := agreement.subscribable.serve_unsubscribe agreement.quiet path none
  simp only [filter_selects_none, something, aggregate_without_none] at served
  have orderNonempty : order ≠ [] := by
    rintro rfl
    exact somebody (by simpa using everybody.symm.eq_nil)
  obtain ⟨answers, answer, last⟩ :=
    agreement.outcomes_of_departures reached.distinct orderNonempty everybody
  rw [served]
  exact ⟨rfl, answers, _, last, rfl, rfl⟩

/-- Two subscribers on one file, the first of whom is on another file as well. -/
def sharedByTwo : WatchOutcome String Payload (FileBook Path.Components) :=
  let elsewhere :=
    soleSubscriber.table.serve soleSubscriber.kernel
      (.subscribe ⟨[0x62]⟩ "x" .none Mask.delete)
  elsewhere.table.serve elsewhere.kernel (.subscribe ⟨[0x61]⟩ "y" .none Mask.modify)

/-- The one who came last may leave first. -/
theorem departures_of_two :
    let together := sharedByTwo.table.serve sharedByTwo.kernel (.unsubscribe ⟨[0x61]⟩ none)
    let departures :=
      sharedByTwo.table.outcomes sharedByTwo.kernel
        [.unsubscribe ⟨[0x61]⟩ (some "y"), .unsubscribe ⟨[0x61]⟩ (some "x")]
    together.answer = .ok (.ended 2) ∧
      departures.map (·.answer) = [.ok (.ended 1), .ok (.ended 1)] ∧
      ∃ last, departures.getLast? = some last ∧
        last.table = together.table ∧ last.kernel = together.kernel := by
  have reached : Reached Path.components sharedByTwo.table sharedByTwo.kernel :=
    (reached_soleSubscriber.serve _).serve _
  have somebody : sharedByTwo.table.on (sharedByTwo.kernel.idFor ⟨[0x61]⟩) ≠ [] :=
    List.cons_ne_nil _ _
  have everybody :
      ["y", "x"].Perm
        ((sharedByTwo.table.on (sharedByTwo.kernel.idFor ⟨[0x61]⟩)).map (·.subscriber)) :=
    .swap "x" "y" []
  exact departures_eq_unsubscribe_all reached somebody everybody

end MarkerWatch.WatchTable
