import MarkerWatch.Payload
import MarkerWatch.Proofs.Watch.Run

/-!
# Agreement of a watch table with its kernel

A table and a book of watches agree when every watch of the book carries the union of what its
subscriptions ask for, and a watch without subscriptions is not there.  Probing a path breaks this
for a moment; settling it restores it, whatever the request was and however it is answered.

The invariant `WatchTable.Agreement` holds at the start and survives every request, hence it holds
after each request of every run.  `WatchTable.InStep` spells out what it means for paths, for
subscriptions, and for the number of watches.
-/

namespace MarkerWatch.WatchTable

variable {σ δ φ : Type} [DecidableEq φ]

/-- Each watch of a well-formed, quiet book has what the table asks of it, if that is anything. -/
structure Agreement (table : WatchTable σ δ) (book : WatchBook φ) : Prop where
  wellFormed : book.WellFormed
  quiet : book.failsNext = false
  subscribable : table.Subscribable
  installed : ∀ watch,
    Assoc.get? book.masks watch =
      if (table.aggregate watch).isEmpty then none else some (table.aggregate watch)

omit [DecidableEq φ] in
theorem agreement_empty :
    (empty : WatchTable σ δ).Agreement (WatchBook.empty : WatchBook φ) where
  wellFormed := WatchBook.wellFormed_empty
  quiet := rfl
  subscribable := subscribable_empty
  installed := fun _ => rfl

namespace Agreement

variable {table : WatchTable σ δ} {book : WatchBook φ}

/-- Settling one file for another table restores the agreement with that table.  The watch of the
file may have had any mask before, such as that of a probe. -/
theorem settle
    (agreement : table.Agreement book)
    {next : WatchTable σ δ} (file : φ)
    (subscribable : next.Subscribable)
    (othersKept : ∀ other, book.idFor file ≠ other →
      next.aggregate other = table.aggregate other) :
    next.Agreement (book.settle file (next.aggregate (book.idFor file))) where
  wellFormed := agreement.wellFormed.settle file _
  quiet := (WatchBook.failsNext_settle book file _).trans agreement.quiet
  subscribable := subscribable
  installed := by
    intro watch
    rw [WatchBook.get?_masks_settle]
    by_cases same : book.idFor file = watch
    · rw [if_pos same, same]
    · rw [if_neg same, othersKept watch same]
      exact agreement.installed watch

/-- A file is watched exactly when there are subscriptions on its watch. -/
theorem get?_ids_eq_none_iff
    (agreement : table.Agreement book) (file : φ) :
    Assoc.get? book.ids file = none ↔ table.on (book.idFor file) = [] := by
  rw [← agreement.subscribable.isEmpty_aggregate_iff]
  have installed := agreement.installed (book.idFor file)
  constructor
  · intro unwatched
    have noMask := agreement.wellFormed.idFor_not_mem unwatched
    rw [← Assoc.get?_eq_none_iff, installed] at noMask
    by_contra nonempty
    rw [if_neg nonempty] at noMask
    contradiction
  · intro nothing
    cases found : Assoc.get? book.ids file with
    | none => rfl
    | some watch =>
        have watched := agreement.wellFormed.mem_keys_of_get? found
        have sameWatch : book.idFor file = watch := by simp [WatchBook.idFor, found]
        rw [if_pos nothing, Assoc.get?_eq_none_iff, sameWatch] at installed
        exact absurd watched installed

theorem get?_masks_of_watched
    (agreement : table.Agreement book)
    {file : φ} {watch : WatchId}
    (found : Assoc.get? book.ids file = some watch) :
    (table.aggregate watch).isEmpty = false ∧
      Assoc.get? book.masks watch = some (table.aggregate watch) := by
  have watched := agreement.wellFormed.mem_keys_of_get? found
  have installed := agreement.installed watch
  cases nothing : (table.aggregate watch).isEmpty with
  | true =>
      rw [if_pos nothing, Assoc.get?_eq_none_iff] at installed
      exact absurd watched installed
  | false =>
      refine ⟨rfl, ?_⟩
      rw [installed, nothing]
      rfl

omit [DecidableEq φ] in
theorem mem_keys_of_mem
    (agreement : table.Agreement book)
    {entry : Subscription σ δ}
    (member : entry ∈ table.entries) :
    entry.watch ∈ Assoc.keys book.masks := by
  by_contra absent
  rw [← Assoc.get?_eq_none_iff, agreement.installed,
    agreement.subscribable.isEmpty_aggregate_of_mem member] at absent
  contradiction

/-- Settling a file for the table as it stands uses up an id at most. -/
theorem settle_self
    (agreement : table.Agreement book) (file : φ) :
    ∃ lastId, book.lastId ≤ lastId ∧
      book.settle file (table.aggregate (book.idFor file)) = { book with lastId } := by
  cases found : Assoc.get? book.ids file with
  | none =>
      have nobody := (agreement.get?_ids_eq_none_iff file).mp found
      rw [← agreement.subscribable.isEmpty_aggregate_iff] at nobody
      exact
        ⟨book.lastId + 1, Nat.le_succ _,
          agreement.wellFormed.settle_of_unwatched found nobody⟩
  | some watch =>
      have sameWatch : book.idFor file = watch := by simp [WatchBook.idFor, found]
      obtain ⟨nonempty, installed⟩ := agreement.get?_masks_of_watched found
      rw [sameWatch, WatchBook.settle_of_watched found installed nonempty]
      exact ⟨book.lastId, Nat.le_refl _, rfl⟩

end Agreement

variable [DecidableEq σ]

omit [DecidableEq φ] in
theorem Agreement.get?_masks_of_registered
    {table : WatchTable σ δ} {book : WatchBook φ}
    (agreement : table.Agreement book)
    {watch : WatchId} {who : σ}
    (registered : table.registered watch who = true) :
    Assoc.get? book.masks watch = some (table.aggregate watch) := by
  rw [agreement.installed,
    agreement.subscribable.isEmpty_aggregate_of_registered registered]
  rfl

/-- One request preserves the agreement. -/
theorem Agreement.serve
    {table : WatchTable σ δ} {kernel : FileBook φ}
    (agreement : table.Agreement kernel.book)
    (request : WatchRequest σ δ) :
    (table.serve kernel request).table.Agreement (table.serve kernel request).kernel.book := by
  rcases agreement.subscribable.serve_cases agreement.quiet request with
    ⟨sameTable, sameKernel⟩ | ⟨path, subscribable, othersKept, settled⟩
  · rw [sameTable, sameKernel]
    exact agreement
  · rw [settled]
    exact agreement.settle (kernel.fileOf path) subscribable othersKept

theorem Reached.agreement
    {fileOf : Path → φ} {table : WatchTable σ δ} {kernel : FileBook φ}
    (reached : Reached fileOf table kernel) :
    table.Agreement kernel.book := by
  induction reached with
  | start => exact agreement_empty
  | serve before request ih => exact ih.serve request

theorem Reached.fileOf_eq
    {fileOf : Path → φ} {table : WatchTable σ δ} {kernel : FileBook φ}
    (reached : Reached fileOf table kernel) :
    kernel.fileOf = fileOf := by
  induction reached with
  | start => rfl
  | serve before request ih =>
      have agreement := before.agreement
      rw [agreement.subscribable.fileOf_serve agreement.quiet request]
      exact ih

/-! ## What agreement means -/

private theorem nodup_eraseDups (watches : List WatchId) : watches.eraseDups.Nodup := by
  cases watches with
  | nil => exact List.nodup_nil
  | cons watch rest =>
      rw [List.eraseDups_cons, List.nodup_cons]
      refine ⟨?_, nodup_eraseDups (rest.filter fun other => !other == watch)⟩
      intro member
      rw [List.mem_eraseDups, List.mem_filter] at member
      simp at member
termination_by watches.length
decreasing_by exact Nat.lt_succ_of_le (List.length_filter_le _ _)

omit [DecidableEq σ] in
theorem mem_watchIds_iff (table : WatchTable σ δ) (watch : WatchId) :
    watch ∈ table.watchIds ↔ table.on watch ≠ [] := by
  rw [watchIds, List.mem_eraseDups, List.mem_map, ne_eq, List.eq_nil_iff_forall_not_mem]
  simp [mem_on_iff]

omit [DecidableEq φ] [DecidableEq σ] in
/-- A book has as many watches as the table has watch ids.  Both are listed without duplicates, and
have the same members. -/
theorem Agreement.size_eq
    {table : WatchTable σ δ} {book : WatchBook φ}
    (agreement : table.Agreement book) :
    book.size = table.watchIds.length := by
  have sameMembers : ∀ watch, watch ∈ Assoc.keys book.masks ↔ watch ∈ table.watchIds := by
    intro watch
    rw [mem_watchIds_iff, ne_eq, ← agreement.subscribable.isEmpty_aggregate_iff,
      ← not_iff_not, ← Assoc.get?_eq_none_iff, agreement.installed]
    split <;> simp_all
  have permutation : (Assoc.keys book.masks).Perm table.watchIds :=
    (List.perm_ext_iff_of_nodup agreement.wellFormed.watchesDistinct
      (nodup_eraseDups _)).mpr sameMembers
  have sameLength := permutation.length_eq
  rw [Assoc.keys, List.length_map] at sameLength
  exact sameLength

/--
A kernel is in step with a table when it watches what the table asks for and nothing else.

The watch id of an unwatched path is the one that a probe of the path would create.
-/
structure InStep (table : WatchTable σ δ) (kernel : FileBook φ) : Prop where
  paths : ∀ path,
    (Assoc.get? kernel.book.ids (kernel.fileOf path) = none ∧
        kernel.book.maskOf? (kernel.fileOf path) = none ∧
        table.on (kernel.idFor path) = []) ∨
      ∃ watch,
        Assoc.get? kernel.book.ids (kernel.fileOf path) = some watch ∧
          table.on watch ≠ [] ∧
          kernel.book.maskOf? (kernel.fileOf path) = some (table.aggregate watch)
  union : ∀ watch mask, Assoc.get? kernel.book.masks watch = some mask →
    ∀ bit, mask.bits.getLsbD bit = true ↔
      ∃ entry ∈ table.entries, entry.watch = watch ∧ entry.mask.bits.getLsbD bit = true
  entries : ∀ entry ∈ table.entries,
    Assoc.get? kernel.book.masks entry.watch = some (table.aggregate entry.watch) ∧
      ∃ file, Assoc.get? kernel.book.ids file = some entry.watch
  count : kernel.book.size = table.watchIds.length

omit [DecidableEq σ] in
theorem Agreement.inStep
    {table : WatchTable σ δ} {kernel : FileBook φ}
    (agreement : table.Agreement kernel.book) :
    table.InStep kernel where
  paths := by
    intro path
    cases found : Assoc.get? kernel.book.ids (kernel.fileOf path) with
    | none =>
        refine Or.inl ⟨rfl, ?_, (agreement.get?_ids_eq_none_iff _).mp found⟩
        rw [WatchBook.maskOf?, found, Option.bind_none]
    | some watch =>
        obtain ⟨nonempty, installed⟩ := agreement.get?_masks_of_watched found
        refine Or.inr ⟨watch, rfl, ?_, ?_⟩
        · intro nobody
          rw [← agreement.subscribable.isEmpty_aggregate_iff, nonempty] at nobody
          contradiction
        · rw [WatchBook.maskOf?, found, Option.bind_some]
          exact installed
  union := by
    intro watch mask installed bit
    rw [agreement.installed] at installed
    split at installed
    · contradiction
    · rw [← Option.some.inj installed]
      exact getLsbD_aggregate table watch bit
  entries := by
    intro entry member
    obtain ⟨file, found⟩ :=
      agreement.wellFormed.exists_file (agreement.mem_keys_of_mem member)
    exact ⟨(agreement.get?_masks_of_watched found).2, file, found⟩
  count := agreement.size_eq

/--
After each request of a run that starts without subscriptions and without watches, however the
request was answered, the kernel is in step with the table.
-/
theorem inStep_of_mem_outcomes
    (fileOf : Path → φ) (requests : List (WatchRequest σ δ)) :
    ∀ outcome ∈
        (empty : WatchTable σ δ).outcomes
          (⟨fileOf, WatchBook.empty⟩ : FileBook φ) requests,
      outcome.kernel.fileOf = fileOf ∧ outcome.table.InStep outcome.kernel := by
  intro outcome member
  have reached : Reached fileOf outcome.table outcome.kernel :=
    outcomes_induction (Reached fileOf)
      (fun _ _ request before => before.serve request)
      .start requests outcome member
  exact ⟨reached.fileOf_eq, reached.agreement.inStep⟩

/-- Two spellings of one file, a subscriber that leaves and a request that is refused. -/
def sharedFileRequests : List (WatchRequest String Payload) :=
  [.subscribe ⟨[0x61]⟩ "x" .none Mask.closeWrite,
    .subscribe ⟨[0x61, 0x2F]⟩ "y" .none Mask.access,
    .unsubscribe ⟨[0x61]⟩ (some "x"),
    .subscribe ⟨[0x61]⟩ "z" .none Mask.ignored]

/-- The second subscriber keeps the watch of the shared file. -/
theorem inStep_of_sharedFileRequests :
    ∃ outcome ∈
        (empty : WatchTable String Payload).outcomes
          (⟨Path.components, WatchBook.empty⟩ : FileBook Path.Components) sharedFileRequests,
      outcome.table.entries = [⟨⟨1⟩, Mask.access, "y", .none⟩] ∧
        outcome.kernel.fileOf = Path.components ∧ outcome.table.InStep outcome.kernel :=
  ⟨_, List.mem_of_getElem? (i := 3) rfl, rfl,
    inStep_of_mem_outcomes Path.components sharedFileRequests _
      (List.mem_of_getElem? (i := 3) rfl)⟩

end MarkerWatch.WatchTable
