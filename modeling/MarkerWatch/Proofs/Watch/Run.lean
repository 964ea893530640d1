import MarkerWatch.Proofs.Watch.Book
import MarkerWatch.Proofs.Watch.Operation

/-!
# Runs of a watch table

A request asks a watch table to subscribe or to end subscriptions, and `WatchTable.serve` answers
it.  A run serves requests one after another and keeps every outcome: the answer, and the table and
the kernel as they stand after it.

Over a book of watches on files that fails no update, a request is either refused outright or
settles one path for the table that it leaves behind.  `Subscribable.serve_cases` states this once;
the invariants of runs are derived from it.
-/

namespace MarkerWatch

/-- What a watch table may be asked for. -/
inductive WatchRequest (σ δ : Type)
  | subscribe (path : Path) (who : σ) (data : δ) (mask : Mask)
  | unsubscribe (path : Path) (who : Option σ)
  deriving DecidableEq, Repr

/-- How a request is granted: a subscription on what is watched, or a number of them ended. -/
inductive WatchAnswer (ι : Type)
  | watching (on : ι)
  | ended (count : Nat)
  deriving DecidableEq, Repr

/-- The answer to a request, and the table and the kernel after it. -/
structure WatchOutcome (σ δ κ : Type) where
  answer : Except Fault (WatchAnswer WatchId)
  table : WatchTable σ δ
  kernel : κ

/-! ## Calls on quiet files -/

namespace FileBook

variable {φ : Type} [DecidableEq φ]

/-- The id that the file of a path has, or that it would get. -/
def idFor (kernel : FileBook φ) (path : Path) : WatchId :=
  kernel.book.idFor (kernel.fileOf path)

/-- The files with a mask put on that of a path. -/
def put (kernel : FileBook φ) (path : Path) (mask : Mask) : FileBook φ :=
  { kernel with book := kernel.book.put (kernel.fileOf path) mask }

/-- The files with that of a path settled for a mask. -/
def settle (kernel : FileBook φ) (path : Path) (mask : Mask) : FileBook φ :=
  { kernel with book := kernel.book.settle (kernel.fileOf path) mask }

theorem addWatch_of_quiet
    {kernel : FileBook φ}
    (quiet : kernel.book.failsNext = false)
    (path : Path) (mask : Mask) :
    WatchKernel.addWatch kernel path mask =
      (.ok (kernel.idFor path), kernel.put path mask) := by
  change
    ((kernel.book.add (kernel.fileOf path) mask).1,
      { kernel with book := (kernel.book.add (kernel.fileOf path) mask).2 }) = _
  rw [WatchBook.add_of_quiet quiet]
  rfl

theorem removeWatch_of_quiet
    {kernel : FileBook φ} {watch : WatchId}
    (quiet : kernel.book.failsNext = false)
    (watched : Assoc.has kernel.book.masks watch = true) :
    WatchKernel.removeWatch kernel watch =
      (.ok (), { kernel with book := kernel.book.discard watch }) := by
  change
    ((kernel.book.remove watch).1,
      { kernel with book := (kernel.book.remove watch).2 }) = _
  rw [WatchBook.remove_of_quiet quiet watched]

/-- Once a path was probed, settling it cannot fail. -/
theorem settle_put_of_quiet
    {kernel : FileBook φ}
    (quiet : kernel.book.failsNext = false)
    (path : Path) (probe mask : Mask) :
    WatchKernel.settle (kernel.put path probe) path (kernel.idFor path) mask =
      (.ok (), kernel.settle path mask) := by
  have stillQuiet : (kernel.put path probe).book.failsNext = false := quiet
  rw [WatchKernel.settle, settle, WatchBook.settle]
  split
  · have watched :
        Assoc.has (kernel.put path probe).book.masks (kernel.idFor path) = true :=
      WatchBook.has_masks_put kernel.book (kernel.fileOf path) probe
    rw [removeWatch_of_quiet stillQuiet watched]
    have sameBook :=
      WatchBook.discard_put kernel.book (kernel.fileOf path) probe mask
    simp only [put, idFor, sameBook]
  · rw [addWatch_of_quiet stillQuiet]
    simp [put, Except.map]

end FileBook

namespace WatchTable

variable {κ σ δ : Type} [DecidableEq σ] [WatchKernel κ]

/-- The outcome of a request. -/
def serve (table : WatchTable σ δ) (kernel : κ) : WatchRequest σ δ → WatchOutcome σ δ κ
  | .subscribe path who data mask =>
    let (answer, next, kernel) := table.subscribe kernel path who data mask
    ⟨answer.map .watching, next, kernel⟩
  | .unsubscribe path who =>
    let (answer, next, kernel) := table.unsubscribe kernel path who
    ⟨answer.map .ended, next, kernel⟩

/-- The outcomes of requests served one after another. -/
def outcomes (table : WatchTable σ δ) (kernel : κ) :
    List (WatchRequest σ δ) → List (WatchOutcome σ δ κ)
  | [] => []
  | request :: rest =>
    let outcome := table.serve kernel request
    outcome :: outcome.table.outcomes outcome.kernel rest

variable {φ : Type} [DecidableEq φ]

/-- The tables and files that requests lead to when both start empty and no call fails. -/
inductive Reached (fileOf : Path → φ) : WatchTable σ δ → FileBook φ → Prop
  | start : Reached fileOf empty ⟨fileOf, WatchBook.empty⟩
  | serve {table : WatchTable σ δ} {kernel : FileBook φ}
      (before : Reached fileOf table kernel) (request : WatchRequest σ δ) :
      Reached fileOf (table.serve kernel request).table (table.serve kernel request).kernel

/-- What a property of states needs in order to hold of each outcome of a run. -/
theorem outcomes_induction
    (holds : WatchTable σ δ → κ → Prop)
    (step : ∀ table kernel request, holds table kernel →
      holds (table.serve kernel request).table (table.serve kernel request).kernel)
    {table : WatchTable σ δ} {kernel : κ}
    (before : holds table kernel)
    (requests : List (WatchRequest σ δ)) :
    ∀ outcome ∈ table.outcomes kernel requests, holds outcome.table outcome.kernel := by
  induction requests generalizing table kernel with
  | nil =>
      intro outcome member
      exact absurd member List.not_mem_nil
  | cons request rest ih =>
      intro outcome member
      have after := step table kernel request before
      rcases List.mem_cons.mp member with first | later
      · rw [first]
        exact after
      · exact ih after outcome later

/-! ## One request over quiet files -/

/-- A mask that may not be asked for is refused before any call. -/
theorem serve_subscribe_of_refused
    (table : WatchTable σ δ) (kernel : κ) (path : Path) (who : σ) (data : δ)
    {mask : Mask}
    (refused : mask.subscribable = false) :
    table.serve kernel (.subscribe path who data mask) =
      ⟨.error (.invalidArgument (.interest mask)), table, kernel⟩ := by
  simp only [serve, subscribe_of_not_subscribable table kernel path who data refused]
  rfl

namespace Subscribable

variable {table : WatchTable σ δ} {kernel : FileBook φ}

theorem serve_subscribe
    (subscribable : table.Subscribable)
    (quiet : kernel.book.failsNext = false)
    (path : Path) (who : σ) (data : δ)
    {mask : Mask}
    (allowed : mask.subscribable = true) :
    table.serve kernel (.subscribe path who data mask) =
      if table.registered (kernel.idFor path) who then
        ⟨.error (.alreadyExists path), table,
          kernel.settle path (table.aggregate (kernel.idFor path))⟩
      else
        let next := table.add ⟨kernel.idFor path, mask, who, data⟩
        ⟨.ok (.watching (kernel.idFor path)), next,
          kernel.settle path (next.aggregate (kernel.idFor path))⟩ := by
  simp only [serve, subscribable.subscribe_eq kernel path who data allowed,
    FileBook.addWatch_of_quiet quiet, FileBook.settle_put_of_quiet quiet]
  split <;> rfl

theorem serve_unsubscribe
    (subscribable : table.Subscribable)
    (quiet : kernel.book.failsNext = false)
    (path : Path) (who : Option σ) :
    table.serve kernel (.unsubscribe path who) =
      let ended := table.entries.filter (selects (kernel.idFor path) who)
      let next := table.without (kernel.idFor path) who
      ⟨if ended.isEmpty then .error (.notFound path) else .ok (.ended ended.length), next,
        kernel.settle path (next.aggregate (kernel.idFor path))⟩ := by
  simp only [serve, subscribable.unsubscribe_eq kernel path who,
    FileBook.addWatch_of_quiet quiet, FileBook.settle_put_of_quiet quiet]
  split
  · rename_i nothing
    rw [without_of_isEmpty nothing]
    rfl
  · rfl

/-- A request leaves everything alone, or settles one path for the table it leaves behind. -/
theorem serve_cases
    (subscribable : table.Subscribable)
    (quiet : kernel.book.failsNext = false)
    (request : WatchRequest σ δ) :
    ((table.serve kernel request).table = table ∧
        (table.serve kernel request).kernel = kernel) ∨
      ∃ path,
        (table.serve kernel request).table.Subscribable ∧
        (∀ other, kernel.idFor path ≠ other →
          (table.serve kernel request).table.aggregate other = table.aggregate other) ∧
        (table.serve kernel request).kernel =
          kernel.settle path
            ((table.serve kernel request).table.aggregate (kernel.idFor path)) := by
  cases request with
  | subscribe path who data mask =>
      cases allowed : mask.subscribable with
      | false =>
          rw [serve_subscribe_of_refused table kernel path who data allowed]
          exact Or.inl ⟨rfl, rfl⟩
      | true =>
          refine Or.inr ⟨path, ?_⟩
          rw [subscribable.serve_subscribe quiet path who data allowed]
          split
          · exact ⟨subscribable, fun _ _ => rfl, rfl⟩
          · refine ⟨subscribable.add allowed, ?_, rfl⟩
            intro other different
            rw [aggregate_add, if_neg different]
  | unsubscribe path who =>
      refine Or.inr ⟨path, ?_⟩
      rw [subscribable.serve_unsubscribe quiet path who]
      refine ⟨subscribable.without _ _, ?_, rfl⟩
      intro other different
      exact aggregate_without_of_ne table who different

theorem fileOf_serve
    (subscribable : table.Subscribable)
    (quiet : kernel.book.failsNext = false)
    (request : WatchRequest σ δ) :
    (table.serve kernel request).kernel.fileOf = kernel.fileOf := by
  rcases subscribable.serve_cases quiet request with
    ⟨-, sameKernel⟩ | ⟨path, -, -, settled⟩
  · rw [sameKernel]
  · rw [settled]
    rfl

end Subscribable

end WatchTable

end MarkerWatch
