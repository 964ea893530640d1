import MarkerWatch.Proofs.Watch.Interim

/-!
# Repairs of watches that have drifted

Calls made behind the back of a watch table, and operations that failed twice, may leave any masks
on any watches.  An operation does not rely on what it finds.  Its probe replaces the mask of the
watch that its path leads to, and the call after that puts there what the table asks for in the end,
or takes the watch away when that is nothing.

So an operation none of whose calls fails repairs the watch of its path, however it is answered, and
leaves every other watch as it was.
-/

namespace MarkerWatch

/-- Whether a call did what was asked of the kernel. -/
def WatchCall.succeeded : WatchCall → Bool
  | .add _ _ watch => watch.isSome
  | .remove _ done => done

variable {κ σ δ φ : Type}

/-- What an operation is answered when none of its calls fails. -/
def WatchRequest.Settled (request : WatchRequest σ δ) :
    Except Fault (WatchAnswer WatchId) → Prop
  | .ok _ => True
  | .error fault => fault = .alreadyExists request.path ∨ fault = .notFound request.path

/-! ## Calls that succeed -/

/-- No call that was written down has failed. -/
def TracedKernel.Unfailing (traced : TracedKernel κ) : Prop :=
  ∀ step ∈ traced.trace, step.1.succeeded = true

namespace TracedKernel.Unfailing

variable {traced : TracedKernel κ}

theorem last
    {call : WatchCall} {kernel : κ}
    (unfailing : (traced.after call kernel).Unfailing) :
    call.succeeded = true := by
  apply unfailing (call, kernel)
  show (call, kernel) ∈ traced.trace ++ [(call, kernel)]
  exact List.mem_append_right _ (List.mem_singleton_self _)

theorem before
    {call : WatchCall} {kernel : κ}
    (unfailing : (traced.after call kernel).Unfailing) :
    traced.Unfailing := by
  intro step member
  exact unfailing step (List.mem_append_left _ member)

variable [WatchKernel κ] {path : Path} {watch : WatchId} {mask : Mask}

/-- A settlement that no call has failed of is granted, and is one call. -/
theorem of_settle
    {answer : Except Fault Unit} {next : TracedKernel κ}
    (settled : WatchKernel.settle traced path watch mask = (answer, next))
    (unfailing : next.Unfailing) :
    answer = .ok () ∧
      ∃ call left,
        WatchKernel.settle traced.kernel path watch mask = (.ok (), left) ∧
          next = traced.after call left := by
  simp only [WatchKernel.settle, TracedKernel.removeWatch_eq, TracedKernel.addWatch_eq]
    at settled ⊢
  split at settled
  · rename_i nothing
    rw [if_pos nothing]
    rcases removed : WatchKernel.removeWatch traced.kernel watch with ⟨fault | granted, left⟩
    · rw [removed] at settled
      cases settled
      exact absurd unfailing.last Bool.false_ne_true
    · rw [removed] at settled
      cases settled
      exact ⟨rfl, _, left, rfl, rfl⟩
  · rename_i something
    rw [if_neg something]
    rcases added : WatchKernel.addWatch traced.kernel path mask with ⟨fault | granted, left⟩
    · rw [added] at settled
      cases settled
      exact absurd unfailing.last Bool.false_ne_true
    · rw [added] at settled
      cases settled
      exact ⟨rfl, _, left, rfl, rfl⟩

/-- A refused settlement leaves a failed call behind, whatever is settled after it. -/
theorem not_refused
    {failed : TracedKernel κ} {fault : Fault} {other : Mask}
    (unfailing : (WatchKernel.settle failed path watch other).2.Unfailing) :
    WatchKernel.settle traced path watch mask ≠ (.error fault, failed) := by
  intro refused
  rcases settled : WatchKernel.settle failed path watch other with ⟨answer, next⟩
  rw [settled] at unfailing
  obtain ⟨-, call, left, -, rfl⟩ := of_settle settled unfailing
  obtain ⟨granted, -⟩ := of_settle refused unfailing.before
  contradiction

end TracedKernel.Unfailing

namespace WatchTable

variable [DecidableEq σ] [WatchKernel κ]

/--
An operation that probed its path, found a watch there and settled that watch for the table it left
behind, without a further call.
-/
structure Mended
    (kernel : κ) (request : WatchRequest σ δ) (outcome : WatchOutcome σ δ (TracedKernel κ)) where
  watch : WatchId
  probed : κ
  left : κ
  last : WatchCall
  found : WatchKernel.addWatch kernel request.path Mask.probe = (.ok watch, probed)
  settled :
    WatchKernel.settle probed request.path watch (outcome.table.aggregate watch) = (.ok (), left)
  kernel_eq :
    outcome.kernel =
      ⟨left, [(.add request.path Mask.probe (some watch), probed), (last, left)]⟩
  answered : request.Settled outcome.answer

/-- Over any kernel, an operation none of whose calls fails has mended its path. -/
theorem Subscribable.mended
    {table : WatchTable σ δ}
    (subscribable : table.Subscribable)
    (kernel : κ) {request : WatchRequest σ δ}
    (reaches : request.calls = true)
    (unfailing : (table.serve (TracedKernel.start kernel) request).kernel.Unfailing) :
    Nonempty (Mended kernel request (table.serve (TracedKernel.start kernel) request)) := by
  cases request with
  | subscribe path who data mask =>
      have allowed : mask.subscribable = true := reaches
      simp only [serve, subscribable.subscribe_eq _ path who data allowed,
        TracedKernel.addWatch_eq, TracedKernel.kernel_start] at unfailing ⊢
      rcases found : WatchKernel.addWatch kernel path Mask.probe with ⟨fault | watch, probed⟩
      · simp only [found] at unfailing
        exact absurd unfailing.last Bool.false_ne_true
      · simp only [found] at unfailing ⊢
        split at unfailing
        · rename_i registered
          rw [if_pos registered]
          rcases granted :
              WatchKernel.settle ((TracedKernel.start kernel).after _ probed) path watch
                (table.aggregate watch) with
            ⟨answer, next⟩
          rw [granted] at unfailing
          obtain ⟨-, last, left, settled, rfl⟩ :=
            TracedKernel.Unfailing.of_settle granted unfailing
          exact ⟨watch, probed, left, last, found, settled, rfl, Or.inl rfl⟩
        · rename_i unregistered
          rw [if_neg unregistered]
          split at unfailing
          · rename_i refused
            exact absurd refused unfailing.not_refused
          · rename_i granted
            obtain ⟨-, last, left, settled, rfl⟩ :=
              TracedKernel.Unfailing.of_settle granted unfailing
            exact ⟨watch, probed, left, last, found, settled, rfl, trivial⟩
  | unsubscribe path who =>
      simp only [serve, subscribable.unsubscribe_eq _ path who,
        TracedKernel.addWatch_eq, TracedKernel.kernel_start] at unfailing ⊢
      rcases found : WatchKernel.addWatch kernel path Mask.probe with ⟨fault | watch, probed⟩
      · simp only [found] at unfailing
        exact absurd unfailing.last Bool.false_ne_true
      · simp only [found] at unfailing ⊢
        split at unfailing
        · rename_i refused
          exact absurd refused unfailing.not_refused
        · rename_i granted
          split at unfailing
          · rename_i nothing
            obtain ⟨-, last, left, settled, rfl⟩ :=
              TracedKernel.Unfailing.of_settle granted unfailing
            rw [without_of_isEmpty nothing] at settled
            rw [if_pos nothing]
            exact ⟨watch, probed, left, last, found, settled, rfl, Or.inr rfl⟩
          · rename_i something
            obtain ⟨-, last, left, settled, rfl⟩ :=
              TracedKernel.Unfailing.of_settle granted unfailing
            rw [if_neg something]
            exact ⟨watch, probed, left, last, found, settled, rfl, trivial⟩

end WatchTable

/-! ## Watches kept in memory -/

namespace WatchBook

variable [DecidableEq φ]

theorem add_cases (book : WatchBook φ) (file : φ) (mask : Mask) :
    book.add file mask = (.error injected, { book with failsNext := false }) ∨
      book.add file mask = (.ok (book.idFor file), book.put file mask) := by
  rw [add]
  split
  · exact Or.inl rfl
  · right
    cases found : Assoc.get? book.ids file with
    | none => simp [idFor, put, Assoc.has, found]
    | some watch => simp [idFor, put, Assoc.has, found, Assoc.set_eq_self found]

omit [DecidableEq φ] in
theorem remove_cases (book : WatchBook φ) (watch : WatchId) :
    (∃ fault failsNext, book.remove watch = (.error fault, { book with failsNext })) ∨
      book.remove watch = (.ok (), book.discard watch) := by
  rw [remove]
  split
  · exact Or.inl ⟨injected, false, rfl⟩
  · split
    · exact Or.inr rfl
    · exact Or.inl ⟨_, book.failsNext, rfl⟩

end WatchBook

namespace FileBook

variable [DecidableEq φ]

/-- The files that calls lead to, whoever makes them, when any update may be told to fail. -/
inductive Drifted (fileOf : Path → φ) : FileBook φ → Prop
  | start : Drifted fileOf ⟨fileOf, WatchBook.empty⟩
  | addWatch {kernel : FileBook φ}
      (before : Drifted fileOf kernel) (path : Path) (mask : Mask) :
      Drifted fileOf (WatchKernel.addWatch kernel path mask).2
  | removeWatch {kernel : FileBook φ}
      (before : Drifted fileOf kernel) (watch : WatchId) :
      Drifted fileOf (WatchKernel.removeWatch kernel watch).2
  | failNext {kernel : FileBook φ}
      (before : Drifted fileOf kernel) :
      Drifted fileOf { kernel with book := { kernel.book with failsNext := true } }

/-- Adding a watch fails and changes no watch, or puts the mask on the watch of the file. -/
theorem addWatch_cases (kernel : FileBook φ) (path : Path) (mask : Mask) :
    WatchKernel.addWatch kernel path mask =
        (.error WatchBook.injected,
          { kernel with book := { kernel.book with failsNext := false } }) ∨
      WatchKernel.addWatch kernel path mask = (.ok (kernel.idFor path), kernel.put path mask) := by
  show
    ((kernel.book.add (kernel.fileOf path) mask).1,
        { kernel with book := (kernel.book.add (kernel.fileOf path) mask).2 }) = _ ∨
      ((kernel.book.add (kernel.fileOf path) mask).1,
        { kernel with book := (kernel.book.add (kernel.fileOf path) mask).2 }) = _
  rcases WatchBook.add_cases kernel.book (kernel.fileOf path) mask with failed | passed
  · rw [failed]
    exact Or.inl rfl
  · rw [passed]
    exact Or.inr rfl

/-- Removing a watch fails and changes no watch, or discards it. -/
theorem removeWatch_cases (kernel : FileBook φ) (watch : WatchId) :
    (∃ fault failsNext,
        WatchKernel.removeWatch kernel watch =
          (.error fault, { kernel with book := { kernel.book with failsNext } })) ∨
      WatchKernel.removeWatch kernel watch =
        (.ok (), { kernel with book := kernel.book.discard watch }) := by
  have unfolded :
      WatchKernel.removeWatch kernel watch =
        ((kernel.book.remove watch).1,
          { kernel with book := (kernel.book.remove watch).2 }) := rfl
  rw [unfolded]
  rcases WatchBook.remove_cases kernel.book watch with ⟨fault, failsNext, failed⟩ | passed
  · rw [failed]
    exact Or.inl ⟨fault, failsNext, rfl⟩
  · rw [passed]
    exact Or.inr rfl

/-- Any calls lead to books that are well formed, whether or not the next update is to fail. -/
theorem Drifted.wellFormed
    {fileOf : Path → φ} {kernel : FileBook φ}
    (drifted : Drifted fileOf kernel) :
    kernel.book.WellFormed := by
  induction drifted with
  | start => exact WatchBook.wellFormed_empty
  | @addWatch kernel before path mask ih =>
      rcases addWatch_cases kernel path mask with failed | passed
      · rw [failed]
        exact ⟨ih.filesDistinct, ih.aligned, ih.watchesDistinct, ih.issued⟩
      · rw [passed]
        exact ih.put (kernel.fileOf path) mask
  | @removeWatch kernel before watch ih =>
      rcases removeWatch_cases kernel watch with ⟨fault, failsNext, failed⟩ | passed
      · rw [failed]
        exact ⟨ih.filesDistinct, ih.aligned, ih.watchesDistinct, ih.issued⟩
      · rw [passed]
        exact ih.discard watch
  | failNext before ih =>
      exact ⟨ih.filesDistinct, ih.aligned, ih.watchesDistinct, ih.issued⟩

/-- What is granted once a path was probed, whether or not an update is to fail. -/
theorem eq_settle_of_granted
    {kernel left : FileBook φ} {path : Path} {mask : Mask}
    (granted :
      WatchKernel.settle (kernel.put path Mask.probe) path (kernel.idFor path) mask =
        (.ok (), left)) :
    left = kernel.settle path mask := by
  rw [WatchKernel.settle] at granted
  rw [settle, WatchBook.settle]
  split at granted
  · rename_i nothing
    rw [if_pos nothing]
    rcases removeWatch_cases (kernel.put path Mask.probe) (kernel.idFor path) with
      ⟨fault, failsNext, failed⟩ | passed
    · rw [failed] at granted
      cases granted
    · rw [passed] at granted
      cases granted
      have sameBook := WatchBook.discard_put kernel.book (kernel.fileOf path) Mask.probe mask
      simp only [put, idFor, sameBook]
  · rename_i something
    rw [if_neg something]
    rcases addWatch_cases (kernel.put path Mask.probe) path mask with failed | passed
    · rw [failed] at granted
      cases granted
    · rw [passed] at granted
      cases granted
      simp [put]

/-- Once a path was settled, its file is watched for the mask, and not at all for no mask. -/
theorem maskOf?_settle
    {kernel : FileBook φ}
    (wellFormed : kernel.book.WellFormed)
    (path : Path) (mask : Mask) :
    (kernel.settle path mask).book.maskOf? (kernel.fileOf path) =
      if mask.isEmpty then none else some mask := by
  have id :
      Assoc.get? (kernel.settle path mask).book.ids (kernel.fileOf path) =
        if mask.isEmpty then none else some (kernel.idFor path) := by
    rw [settle, wellFormed.get?_ids_settle, if_pos rfl]
    rfl
  rw [WatchBook.maskOf?, id]
  split
  · rfl
  · rename_i something
    show Assoc.get? (kernel.settle path mask).book.masks (kernel.idFor path) = some mask
    rw [settle, WatchBook.get?_masks_settle, if_neg something]
    exact if_pos rfl

end FileBook

namespace WatchTable

variable [DecidableEq σ] [DecidableEq φ]

/--
Let any calls have led to the watches on files, so that they need not agree with a table, and let no
call of a request fail.  The request is granted, or answered that its subscription was there already
or that there was none to end.

Whatever it is answered, it has found one watch by its path.  That watch now carries what the table
it leaves behind asks for there, and is gone when that is nothing.  No other mask has changed.
-/
theorem repaired_by_request
    {fileOf : Path → φ} {kernel : FileBook φ} {table : WatchTable σ δ}
    (drifted : kernel.Drifted fileOf)
    (subscribable : table.Subscribable)
    {request : WatchRequest σ δ}
    (reaches : request.calls = true)
    (unfailing : (table.serve (TracedKernel.start kernel) request).kernel.Unfailing) :
    let outcome := table.serve (TracedKernel.start kernel) request
    let left := outcome.kernel.kernel
    outcome.untraced = table.serve kernel request ∧
      request.Settled outcome.answer ∧
      ∃ watch probed last,
        outcome.kernel.trace =
            [(.add request.path Mask.probe (some watch), probed), (last, left)] ∧
          (let asked := outcome.table.aggregate watch
          let carried := if asked.isEmpty then none else some asked
          Assoc.get? left.book.masks watch = carried ∧
            left.book.maskOf? (kernel.fileOf request.path) = carried) ∧
          ∀ other, watch ≠ other →
            Assoc.get? left.book.masks other = Assoc.get? kernel.book.masks other := by
  intro outcome left
  obtain ⟨mended⟩ := subscribable.mended kernel reaches unfailing
  have sameKernel : left = mended.left := congrArg TracedKernel.kernel mended.kernel_eq
  have trace :
      outcome.kernel.trace =
        [(.add request.path Mask.probe (some mended.watch), mended.probed),
          (mended.last, left)] := by
    rw [sameKernel]
    exact congrArg TracedKernel.trace mended.kernel_eq
  have probe := mended.found
  rcases FileBook.addWatch_cases kernel request.path Mask.probe with failed | passed
  · rw [failed] at probe
    cases probe
  · rw [passed, Prod.mk.injEq, Except.ok.injEq] at probe
    obtain ⟨sameWatch, sameProbed⟩ := probe
    have granted := mended.settled
    rw [← sameWatch, ← sameProbed, ← sameKernel] at granted
    have settled := FileBook.eq_settle_of_granted granted
    refine
      ⟨subscribable.serve_untraced (TracedKernel.start kernel) request, mended.answered,
        mended.watch, mended.probed, mended.last, trace, ⟨?_, ?_⟩, ?_⟩
    · rw [settled, FileBook.settle, WatchBook.get?_masks_settle, ← sameWatch]
      exact if_pos rfl
    · rw [settled, ← sameWatch]
      exact FileBook.maskOf?_settle drifted.wellFormed request.path _
    · intro other different
      rw [settled, FileBook.settle, WatchBook.get?_masks_settle]
      rw [← sameWatch] at different
      exact if_neg different

/-- A table whose only subscriber is on the first watch, where a dead id was left behind as well. -/
def driftedTable : WatchTable String Payload :=
  ⟨[⟨⟨1⟩, Mask.closeWrite, "x", .none⟩, ⟨⟨7⟩, Mask.modify, "x", .none⟩]⟩

/-- The files on which somebody else has replaced the mask of the first watch and made a second. -/
def driftedFiles : FileBook Path.Components :=
  let fresh : FileBook Path.Components := ⟨Path.components, WatchBook.empty⟩
  let replaced := (WatchKernel.addWatch fresh ⟨[0x61]⟩ Mask.attrib).2
  (WatchKernel.addWatch replaced ⟨[0x62]⟩ Mask.modify).2

/-- A subscription that was there already is answered as such, and repairs the watch even so. -/
theorem repaired_by_second_subscription :
    let outcome :=
      driftedTable.serve (TracedKernel.start driftedFiles)
        (.subscribe ⟨[0x61]⟩ "x" .none Mask.modify)
    outcome.answer = .error (.alreadyExists ⟨[0x61]⟩) ∧
      Assoc.get? driftedFiles.book.masks ⟨1⟩ = some Mask.attrib ∧
      Assoc.get? outcome.kernel.kernel.book.masks ⟨1⟩ = some Mask.closeWrite ∧
      Assoc.get? outcome.kernel.kernel.book.masks ⟨2⟩ = some Mask.modify := by
  have drifted : driftedFiles.Drifted Path.components :=
    (FileBook.Drifted.start.addWatch ⟨[0x61]⟩ Mask.attrib).addWatch ⟨[0x62]⟩ Mask.modify
  have subscribable : driftedTable.Subscribable := by
    unfold Subscribable
    decide
  have unfailing :
      (driftedTable.serve (TracedKernel.start driftedFiles)
        (.subscribe ⟨[0x61]⟩ "x" .none Mask.modify)).kernel.Unfailing := by
    unfold TracedKernel.Unfailing
    decide
  have ⟨_, _, watch, _, _, trace, ⟨carried, _⟩, others⟩ :=
    repaired_by_request drifted subscribable rfl unfailing
  cases trace
  exact ⟨rfl, rfl, carried, others ⟨2⟩ (by decide)⟩

end WatchTable

end MarkerWatch
