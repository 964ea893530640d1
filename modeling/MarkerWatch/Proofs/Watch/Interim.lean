import MarkerWatch.Proofs.Watch.Recovery
import MarkerWatch.Proofs.Watch.Safety

/-!
# Watches between the calls of an operation

A publisher may write to a marker while an operation is under way, so it matters what stands on the
watch after each call and not only at the end.  A subscription is covered when its watch carries
all that it asks for, which is to say that no event is lost that it asks for.

An operation makes no call, or a probe and one call that settles the watch.  The probe replaces
whatever was on the watch, so between the two calls only those who ask for the kind of the probe
alone are covered.  After the second call everybody is who is still subscribed.
-/

namespace MarkerWatch

variable {σ δ φ : Type}

/-! ## Covered subscriptions -/

/-- A book takes note of an event when the watch of the event asks for it. -/
def WatchBook.Notes (book : WatchBook φ) (watch : WatchId) (event : Mask) : Prop :=
  ∃ mask ∈ Assoc.get? book.masks watch, mask.intersects event = true

theorem WatchBook.notes_iff_of_installed
    {book : WatchBook φ} {watch : WatchId} {mask : Mask}
    (installed : Assoc.get? book.masks watch = some mask) (event : Mask) :
    book.Notes watch event ↔ mask.intersects event = true := by
  simp [Notes, installed]

namespace Subscription

/-- The watch of a subscription carries all that the subscription asks for. -/
def Covered (entry : Subscription σ δ) (book : WatchBook φ) : Prop :=
  ∃ mask ∈ Assoc.get? book.masks entry.watch, mask.contains entry.mask = true

theorem covered_iff_of_installed
    {entry : Subscription σ δ} {book : WatchBook φ} {mask : Mask}
    (installed : Assoc.get? book.masks entry.watch = some mask) :
    entry.Covered book ↔ mask.contains entry.mask = true := by
  simp [Covered, installed]

/-- A subscription is covered exactly when no event is lost that it asks for.  It is enough to look
at events of one kind each. -/
theorem covered_iff_notes
    {entry : Subscription σ δ}
    (something : entry.mask.isEmpty = false)
    (book : WatchBook φ) :
    entry.Covered book ↔
      ∀ event, entry.mask.intersects event = true → book.Notes entry.watch event := by
  constructor
  · rintro ⟨mask, installed, contained⟩ event asked
    obtain ⟨bit, inEntry, inEvent⟩ := (Mask.intersects_iff _ _).mp asked
    have inMask := (Mask.contains_iff _ _).mp contained bit inEntry
    exact ⟨mask, installed, (Mask.intersects_iff _ _).mpr ⟨bit, inMask, inEvent⟩⟩
  · intro noted
    obtain ⟨mask, installed, -⟩ := noted entry.mask (Mask.intersects_self something)
    refine ⟨mask, installed, (Mask.contains_iff _ _).mpr ?_⟩
    intro bit asked
    have small : bit < 32 := BitVec.lt_of_getLsbD asked
    have single : (Mask.mk (BitVec.twoPow 32 bit)).bits.getLsbD bit = true := by
      simp [small]
    obtain ⟨other, sameMask, shared⟩ :=
      noted ⟨BitVec.twoPow 32 bit⟩ ((Mask.intersects_iff _ _).mpr ⟨bit, asked, single⟩)
    obtain rfl : mask = other := Option.mem_unique installed sameMask
    obtain ⟨found, inMask, isBit⟩ := (Mask.intersects_iff _ _).mp shared
    have same : bit = found := by
      simp [BitVec.getLsbD_twoPow] at isBit
      exact isBit.2
    rw [same]
    exact inMask

end Subscription

/-! ## The calls of a request -/

/-- The path that a request is about. -/
def WatchRequest.path : WatchRequest σ δ → Path
  | .subscribe path _ _ _ => path
  | .unsubscribe path _ => path

/-- A request gets as far as the kernel when it asks for nothing that may not be asked for. -/
def WatchRequest.calls : WatchRequest σ δ → Bool
  | .subscribe _ _ _ mask => mask.subscribable
  | .unsubscribe _ _ => true

namespace WatchTable

variable [DecidableEq φ]

/-- The trace of a probe of quiet files and of one further call. -/
def probedTrace (kernel : FileBook φ) (path : Path) (last : WatchCall) (left : FileBook φ) :
    List (WatchCall × FileBook φ) :=
  [(.add path Mask.probe (some (kernel.idFor path)), kernel.put path Mask.probe), (last, left)]

/-- The files and the trace after a path was probed and settled. -/
theorem exists_settle_probed
    {kernel : FileBook φ}
    (quiet : kernel.book.failsNext = false)
    (path : Path) (mask : Mask) :
    ∃ last,
      WatchKernel.settle
          ((TracedKernel.start kernel).after (.add path Mask.probe (some (kernel.idFor path)))
            (kernel.put path Mask.probe))
          path (kernel.idFor path) mask =
        (.ok (), ⟨kernel.settle path mask,
          probedTrace kernel path last (kernel.settle path mask)⟩) := by
  obtain ⟨last, settled⟩ :=
    exists_settle_eq
      ((TracedKernel.start kernel).after (.add path Mask.probe (some (kernel.idFor path)))
        (kernel.put path Mask.probe))
      path (kernel.idFor path) mask
  rw [TracedKernel.kernel_after, FileBook.settle_put_of_quiet quiet] at settled
  exact ⟨last, settled⟩

variable [DecidableEq σ]

/-- A request makes no call, or probes its path and settles it for the table it leaves behind. -/
theorem Subscribable.trace_serve
    {table : WatchTable σ δ} {kernel : FileBook φ}
    (subscribable : table.Subscribable)
    (quiet : kernel.book.failsNext = false)
    (request : WatchRequest σ δ) :
    let outcome := table.serve (TracedKernel.start kernel) request
    if request.calls then
      ∃ last,
        outcome.kernel.trace =
          probedTrace kernel request.path last
            (kernel.settle request.path (outcome.table.aggregate (kernel.idFor request.path)))
    else outcome.kernel.trace = [] := by
  have probed (path : Path) :
      WatchKernel.addWatch (TracedKernel.start kernel) path Mask.probe =
        (.ok (kernel.idFor path),
          (TracedKernel.start kernel).after (.add path Mask.probe (some (kernel.idFor path)))
            (kernel.put path Mask.probe)) := by
    rw [TracedKernel.addWatch_eq, TracedKernel.kernel_start, FileBook.addWatch_of_quiet quiet]
    rfl
  cases request with
  | subscribe path who data mask =>
      cases allowed : mask.subscribable with
      | false =>
          rw [serve_subscribe_of_refused _ _ _ _ _ allowed]
          simp [WatchRequest.calls, allowed]
      | true =>
          simp only [serve, subscribable.subscribe_eq _ path who data allowed, probed,
            WatchRequest.calls, allowed, if_true, WatchRequest.path]
          split
          · obtain ⟨last, settled⟩ :=
              exists_settle_probed quiet path (table.aggregate (kernel.idFor path))
            rw [settled]
            exact ⟨last, rfl⟩
          · obtain ⟨last, settled⟩ :=
              exists_settle_probed quiet path
                ((table.add ⟨kernel.idFor path, mask, who, data⟩).aggregate (kernel.idFor path))
            rw [settled]
            exact ⟨last, rfl⟩
  | unsubscribe path who =>
      obtain ⟨last, settled⟩ :=
        exists_settle_probed quiet path
          ((table.without (kernel.idFor path) who).aggregate (kernel.idFor path))
      simp only [serve, subscribable.unsubscribe_eq _ path who, probed, settled,
        WatchRequest.calls, if_true, WatchRequest.path]
      split
      · rename_i nothing
        rw [without_of_isEmpty nothing]
        exact ⟨last, rfl⟩
      · exact ⟨last, rfl⟩

/-! ## States that failures may have led to -/

/-- The tables and files that requests lead to when any update may be told to fail. -/
inductive ReachedDespiteFaults (fileOf : Path → φ) : WatchTable σ δ → FileBook φ → Prop
  | start : ReachedDespiteFaults fileOf empty ⟨fileOf, WatchBook.empty⟩
  | serve {table : WatchTable σ δ} {kernel : FileBook φ}
      (before : ReachedDespiteFaults fileOf table kernel) (request : WatchRequest σ δ) :
      ReachedDespiteFaults fileOf (table.serve kernel request).table
        (table.serve kernel request).kernel
  | failNext {table : WatchTable σ δ} {kernel : FileBook φ}
      (before : ReachedDespiteFaults fileOf table kernel) :
      ReachedDespiteFaults fileOf table
        { kernel with book := { kernel.book with failsNext := true } }

theorem ReachedDespiteFaults.subscribable
    {fileOf : Path → φ} {table : WatchTable σ δ} {kernel : FileBook φ}
    (reached : ReachedDespiteFaults fileOf table kernel) :
    table.Subscribable := by
  induction reached with
  | start => exact subscribable_empty
  | @serve table kernel before request ih =>
      exact (turns_serve table kernel request).subscribable ih
  | failNext before ih => exact ih

/-! ## Who is covered -/

omit [DecidableEq σ] in
/-- After a probe, those on its watch are covered who ask for the probe mask, and nobody else. -/
theorem Subscribable.covered_put_iff
    {table : WatchTable σ δ}
    (subscribable : table.Subscribable)
    {kernel : FileBook φ} {path : Path} {entry : Subscription σ δ}
    (member : entry ∈ table.entries)
    (onTouched : entry.watch = kernel.idFor path) :
    entry.Covered (kernel.put path Mask.probe).book ↔ entry.mask = Mask.probe := by
  have probed :
      Assoc.get? (kernel.put path Mask.probe).book.masks entry.watch = some Mask.probe := by
    rw [onTouched]
    exact Assoc.get?_set_self kernel.book.masks (kernel.idFor path) Mask.probe
  rw [Subscription.covered_iff_of_installed probed]
  exact Mask.probe_contains_iff (Mask.isEmpty_of_subscribable (subscribable entry member))

omit [DecidableEq σ] in
/-- After a watch was settled for a table, everybody is covered who has a subscription on it. -/
theorem Subscribable.covered_settle
    {table : WatchTable σ δ}
    (subscribable : table.Subscribable)
    {kernel : FileBook φ} {path : Path} {entry : Subscription σ δ}
    (member : entry ∈ table.entries)
    (onTouched : entry.watch = kernel.idFor path) :
    entry.Covered (kernel.settle path (table.aggregate (kernel.idFor path))).book := by
  have something := subscribable.isEmpty_aggregate_of_mem member
  have settled :
      Assoc.get? (kernel.settle path (table.aggregate (kernel.idFor path))).book.masks
          entry.watch =
        some (table.aggregate entry.watch) := by
    rw [FileBook.settle, WatchBook.get?_masks_settle, ← onTouched, something]
    exact if_pos onTouched.symm
  rw [Subscription.covered_iff_of_installed settled, Mask.contains_iff]
  intro bit set
  exact (getLsbD_aggregate table entry.watch bit).mpr ⟨entry, member, rfl, set⟩

/--
Let requests have led to a table and to files, some updates having failed on the way, and let no
call of the next request fail.  It makes two calls, or none when it asks for what may not be asked
for, and never changes another watch than that of its path.

A subscription is covered, at any time, exactly when no event is lost that it asks for.  The first
call is the probe.  After it that watch carries the probe mask, so those on it who ask for that very
mask are covered and nobody else on it is, and only events of the probe are noted for it.  After the
second call everybody on that watch is covered who is still subscribed.
-/
theorem covered_after_each_call
    {fileOf : Path → φ} {table : WatchTable σ δ} {kernel : FileBook φ}
    (reached : ReachedDespiteFaults fileOf table kernel)
    (quiet : kernel.book.failsNext = false)
    (request : WatchRequest σ δ) :
    let outcome := table.serve (TracedKernel.start kernel) request
    let touched := kernel.idFor request.path
    outcome.untraced = table.serve kernel request ∧
      outcome.kernel.trace.length = (if request.calls then 2 else 0) ∧
      (∀ entry, entry ∈ table.entries ∨ entry ∈ outcome.table.entries →
        ∀ book : WatchBook φ, entry.Covered book ↔
          ∀ event, entry.mask.intersects event = true → book.Notes entry.watch event) ∧
      ∀ index call left, outcome.kernel.trace[index]? = some (call, left) →
        (∀ other, touched ≠ other →
          Assoc.get? left.book.masks other = Assoc.get? kernel.book.masks other) ∧
        (index = 0 →
          call = .add request.path Mask.probe (some touched) ∧
            Assoc.get? left.book.masks touched = some Mask.probe ∧
            (∀ event, left.book.Notes touched event ↔ Mask.probe.intersects event = true) ∧
            ∀ entry ∈ table.entries, entry.watch = touched →
              (entry.Covered left.book ↔ entry.mask = Mask.probe)) ∧
        (0 < index →
          ∀ entry ∈ outcome.table.entries, entry.watch = touched →
            entry.Covered left.book) := by
  intro outcome touched
  have subscribable := reached.subscribable
  have stillSubscribable : outcome.table.Subscribable :=
    (turns_serve table (TracedKernel.start kernel) request).subscribable subscribable
  have asks {entry : Subscription σ δ}
      (listed : entry ∈ table.entries ∨ entry ∈ outcome.table.entries) :
      entry.mask.isEmpty = false := by
    rcases listed with before | after
    · exact Mask.isEmpty_of_subscribable (subscribable entry before)
    · exact Mask.isEmpty_of_subscribable (stillSubscribable entry after)
  have covered (entry : Subscription σ δ)
      (listed : entry ∈ table.entries ∨ entry ∈ outcome.table.entries) (book : WatchBook φ) :
      entry.Covered book ↔
        ∀ event, entry.mask.intersects event = true → book.Notes entry.watch event :=
    Subscription.covered_iff_notes (asks listed) book
  refine ⟨subscribable.serve_untraced (TracedKernel.start kernel) request, ?_⟩
  have traced := subscribable.trace_serve quiet request
  cases reaches : request.calls with
  | false =>
      have trace : outcome.kernel.trace = [] := by simpa [reaches] using traced
      rw [trace]
      refine ⟨rfl, covered, ?_⟩
      intro index call left found
      contradiction
  | true =>
      obtain ⟨last, trace⟩ :
          ∃ last,
            outcome.kernel.trace =
              probedTrace kernel request.path last
                (kernel.settle request.path (outcome.table.aggregate touched)) := by
        simpa [reaches] using traced
      rw [trace]
      refine ⟨rfl, covered, ?_⟩
      intro index call left found
      rcases index with _ | _ | index
      · obtain ⟨rfl, rfl⟩ : _ = call ∧ _ = left := by simpa [probedTrace] using found
        refine ⟨?_, ?_, ?_⟩
        · intro other different
          exact Assoc.get?_set_of_ne kernel.book.masks Mask.probe different
        · intro _
          have probed : Assoc.get? (kernel.put request.path Mask.probe).book.masks touched =
              some Mask.probe :=
            Assoc.get?_set_self kernel.book.masks touched Mask.probe
          exact
            ⟨rfl, probed, WatchBook.notes_iff_of_installed probed,
              fun entry member onTouched => subscribable.covered_put_iff member onTouched⟩
        · intro later
          contradiction
      · obtain ⟨rfl, rfl⟩ : last = call ∧ _ = left := by simpa [probedTrace] using found
        refine ⟨?_, ?_, ?_⟩
        · intro other different
          rw [FileBook.settle, WatchBook.get?_masks_settle]
          exact if_neg different
        · intro first
          contradiction
        · intro _ entry member onTouched
          exact stillSubscribable.covered_settle member onTouched
      · simp [probedTrace] at found

/-- The files of a sole subscriber after somebody else's subscription failed. -/
def afterFailedRequest : WatchOutcome String Payload (FileBook Path.Components) :=
  let told := { soleSubscriber.kernel.book with failsNext := true }
  soleSubscriber.table.serve { soleSubscriber.kernel with book := told }
    (.subscribe ⟨[0x61]⟩ "y" .none Mask.modify)

theorem reached_afterFailedRequest :
    ReachedDespiteFaults Path.components afterFailedRequest.table afterFailedRequest.kernel :=
  (ReachedDespiteFaults.start.serve
    (.subscribe ⟨[0x61]⟩ "x" Payload.none Mask.closeWrite)).failNext.serve
      (.subscribe ⟨[0x61]⟩ "y" Payload.none Mask.modify)

/-- When the one whose subscription failed tries again, the second call covers both. -/
theorem covered_after_second_attempt :
    let outcome :=
      afterFailedRequest.table.serve (TracedKernel.start afterFailedRequest.kernel)
        (.subscribe ⟨[0x61]⟩ "y" .none Mask.modify)
    afterFailedRequest.answer.toBool = false ∧
      outcome.table.entries =
        [⟨⟨1⟩, Mask.closeWrite, "x", .none⟩, ⟨⟨1⟩, Mask.modify, "y", .none⟩] ∧
      ∃ call left, outcome.kernel.trace[1]? = some (call, left) ∧
        ∀ entry ∈ outcome.table.entries, entry.watch = ⟨1⟩ → entry.Covered left.book := by
  have ⟨_, _, _, calls⟩ :=
    covered_after_each_call reached_afterFailedRequest rfl
      (.subscribe ⟨[0x61]⟩ "y" .none Mask.modify)
  exact ⟨rfl, rfl, _, _, rfl, (calls 1 _ _ rfl).2.2 Nat.one_pos⟩

/--
While a second subscriber is let in, the first call takes from the sole subscriber what it asks for,
and an event that it asks for is lost, although it is subscribed before and after.
-/
theorem uncovered_while_second_subscribes :
    let entry : Subscription String Payload := ⟨⟨1⟩, Mask.closeWrite, "x", .none⟩
    let outcome :=
      soleSubscriber.table.serve (TracedKernel.start soleSubscriber.kernel)
        (.subscribe ⟨[0x61]⟩ "y" .none Mask.modify)
    Reached Path.components soleSubscriber.table soleSubscriber.kernel ∧
      soleSubscriber.kernel.book.failsNext = false ∧
      soleSubscriber.kernel.idFor ⟨[0x61]⟩ = entry.watch ∧
      entry ∈ soleSubscriber.table.entries ∧
      entry ∈ outcome.table.entries ∧
      ∃ call left, outcome.kernel.trace[0]? = some (call, left) ∧
        ¬ entry.Covered left.book ∧ ¬ left.book.Notes entry.watch Mask.closeWrite := by
  refine ⟨reached_soleSubscriber, rfl, rfl, by decide, by decide, _, _, rfl, ?_, ?_⟩
  · rintro ⟨mask, installed, contained⟩
    cases installed
    revert contained
    decide
  · rintro ⟨mask, installed, shared⟩
    cases installed
    revert shared
    decide

end WatchTable

end MarkerWatch
