import MarkerWatch.Proofs.Watch.Agreement
import MarkerWatch.Proofs.Watch.FaultyKernel

/-!
# Requests of which a call fails

A request that ends or adds subscriptions survives one failure: it reports it, and table and files
are as before, apart from an id that may be used up.  Both kinds of request are revisions, which
probe a path, settle it for another table, and settle it for the old one if that fails.

A rejected duplicate is the exception.  It puts the probe mask on the watch, tries once to put the
union back, and reports the duplicate either way.
-/

namespace MarkerWatch.WatchTable

variable {κ σ δ : Type} [WatchKernel κ]

/--
Probes a path and settles it for another table, which depends on the watch; a failed settlement is
answered by settling for the table as it was.
-/
def revise (table : WatchTable σ δ) (kernel : κ) (path : Path)
    (plan : WatchId → WatchTable σ δ) : Except Fault WatchId × κ :=
  match WatchKernel.addWatch kernel path Mask.probe with
  | (.error fault, probed) => (.error fault, probed)
  | (.ok watch, probed) =>
    match WatchKernel.settle probed path watch ((plan watch).aggregate watch) with
    | (.error fault, failed) =>
      (.error fault, (WatchKernel.settle failed path watch (table.aggregate watch)).2)
    | (.ok (), settled) => (.ok watch, settled)

variable {φ : Type} [DecidableEq φ]

/-- A revision of which one call fails reports that failure and uses up an id at most.  A probe that
fails is the last call and has changed nothing.  A settlement that fails has left the probe mask,
which another settlement takes back; for that one to fail would be a second failure. -/
theorem Agreement.revise_of_one_failure
    {table : WatchTable σ δ} {faulty : FaultyKernel (FileBook φ)}
    (agreement : table.Agreement faulty.kernel.book)
    (path : Path) (plan : WatchId → WatchTable σ δ)
    {fault : Fault}
    (unfailed : faulty.failures = [])
    (once : (table.revise faulty path plan).2.failures = [fault]) :
    (table.revise faulty path plan).1 = .error fault ∧
      ∃ lastId, faulty.kernel.book.lastId ≤ lastId ∧
        (table.revise faulty path plan).2.kernel =
          { faulty.kernel with book := { faulty.kernel.book with lastId } } := by
  have quiet := agreement.quiet
  rw [revise] at once ⊢
  cases first : faulty.next? with
  | some probeFault =>
      rw [FaultyKernel.addWatch_of_fault first] at once ⊢
      have sameFault : probeFault = fault := by simpa [unfailed] using once
      rw [sameFault]
      exact ⟨rfl, faulty.kernel.book.lastId, Nat.le_refl _, rfl⟩
  | none =>
      rw [FaultyKernel.probe_of_pass first quiet] at once ⊢
      dsimp only at once ⊢
      cases second : (faulty.probed path).next? with
      | none =>
          rw [FaultyKernel.settle_of_pass second quiet rfl] at once
          simp [FaultyKernel.probed, unfailed] at once
      | some settleFault =>
          rw [FaultyKernel.settle_of_fault second] at once ⊢
          dsimp only at once ⊢
          cases third : ((faulty.probed path).failed settleFault).next? with
          | none =>
              rw [FaultyKernel.settle_of_pass third quiet rfl] at once ⊢
              have sameFault : settleFault = fault := by
                simpa [FaultyKernel.probed, unfailed] using once
              obtain ⟨lastId, notBelow, settled⟩ :=
                agreement.settle_self (faulty.kernel.fileOf path)
              rw [sameFault]
              refine ⟨rfl, lastId, notBelow, ?_⟩
              rw [FaultyKernel.kernel_after, FileBook.settle, FileBook.idFor, settled]
          | some restoreFault =>
              rw [FaultyKernel.settle_of_fault third] at once
              simp [FaultyKernel.probed, unfailed] at once

/-- A request served by a revision leaves its kernel and reports its failure. -/
structure ServedBy (table : WatchTable σ δ) (outcome : WatchOutcome σ δ κ)
    (revision : Except Fault WatchId × κ) : Prop where
  kernel : outcome.kernel = revision.2
  failure : ∀ fault, revision.1 = .error fault →
    outcome.answer = .error fault ∧ outcome.table = table

theorem Agreement.servedBy_of_one_failure
    {table : WatchTable σ δ} {faulty : FaultyKernel (FileBook φ)}
    (agreement : table.Agreement faulty.kernel.book)
    {outcome : WatchOutcome σ δ (FaultyKernel (FileBook φ))}
    {path : Path} {plan : WatchId → WatchTable σ δ}
    (served : table.ServedBy outcome (table.revise faulty path plan))
    {fault : Fault}
    (unfailed : faulty.failures = [])
    (once : outcome.kernel.failures = [fault]) :
    outcome.answer = .error fault ∧
      outcome.table = table ∧
      ∃ lastId, faulty.kernel.book.lastId ≤ lastId ∧
        outcome.kernel.kernel =
          { faulty.kernel with book := { faulty.kernel.book with lastId } } := by
  rw [served.kernel] at once ⊢
  have ⟨failed, kept⟩ := agreement.revise_of_one_failure path plan unfailed once
  have ⟨answer, sameTable⟩ := served.failure fault failed
  exact ⟨answer, sameTable, kept⟩

variable [DecidableEq σ]

/-- Ending subscriptions revises the table, and then counts them. -/
theorem Subscribable.unsubscribe_servedBy
    {table : WatchTable σ δ}
    (subscribable : table.Subscribable)
    (kernel : κ) (path : Path) (who : Option σ) :
    table.ServedBy (table.serve kernel (.unsubscribe path who))
      (table.revise kernel path (table.without · who)) := by
  simp only [WatchTable.serve, subscribable.unsubscribe_eq, revise]
  rcases WatchKernel.addWatch kernel path Mask.probe with ⟨answer, probed⟩
  cases answer with
  | error fault =>
      refine ⟨rfl, ?_⟩
      rintro _ ⟨rfl⟩
      exact ⟨rfl, rfl⟩
  | ok watch =>
      dsimp only
      rcases WatchKernel.settle probed path watch ((table.without watch who).aggregate watch)
        with ⟨answer, settled⟩
      cases answer with
      | error fault =>
          refine ⟨rfl, ?_⟩
          rintro _ ⟨rfl⟩
          exact ⟨rfl, rfl⟩
      | ok =>
          refine ⟨by dsimp only; split <;> rfl, ?_⟩
          intro fault failed
          contradiction

/-- A subscription that is new on every watch a probe may give revises the table. -/
theorem Subscribable.subscribe_servedBy
    {table : WatchTable σ δ}
    (subscribable : table.Subscribable)
    (kernel : κ) (path : Path) (who : σ) (data : δ)
    {mask : Mask}
    (allowed : mask.subscribable = true)
    (new : ∀ watch, (WatchKernel.addWatch kernel path Mask.probe).1 = .ok watch →
      table.registered watch who = false) :
    table.ServedBy (table.serve kernel (.subscribe path who data mask))
      (table.revise kernel path fun watch => table.add ⟨watch, mask, who, data⟩) := by
  simp only [WatchTable.serve, subscribable.subscribe_eq kernel path who data allowed, revise]
  rcases answered : WatchKernel.addWatch kernel path Mask.probe with ⟨answer, probed⟩
  cases answer with
  | error fault =>
      refine ⟨rfl, ?_⟩
      rintro _ ⟨rfl⟩
      exact ⟨rfl, rfl⟩
  | ok watch =>
      have unregistered := new watch (congrArg Prod.fst answered)
      dsimp only
      rw [unregistered, if_neg Bool.false_ne_true]
      rcases WatchKernel.settle probed path watch
          ((table.add ⟨watch, mask, who, data⟩).aggregate watch)
        with ⟨answer, settled⟩
      cases answer with
      | error fault =>
          refine ⟨rfl, ?_⟩
          rintro _ ⟨rfl⟩
          exact ⟨rfl, rfl⟩
      | ok =>
          refine ⟨rfl, ?_⟩
          intro fault failed
          contradiction

/-! ## One failure -/

/-- A request that is not for a subscription that the table has. -/
def IsNew (table : WatchTable σ δ) (kernel : FileBook φ) : WatchRequest σ δ → Prop
  | .subscribe path who _ _ => table.registered (kernel.idFor path) who = false
  | .unsubscribe _ _ => True

theorem registered_of_probe
    {table : WatchTable σ δ} {faulty : FaultyKernel (FileBook φ)} {path : Path} {who : σ}
    (quiet : faulty.kernel.book.failsNext = false)
    (new : table.registered (faulty.kernel.idFor path) who = false)
    {watch : WatchId}
    (answered : (WatchKernel.addWatch faulty path Mask.probe).1 = .ok watch) :
    table.registered watch who = false := by
  cases first : faulty.next? with
  | some fault =>
      rw [FaultyKernel.addWatch_of_fault first] at answered
      contradiction
  | none =>
      rw [FaultyKernel.probe_of_pass first quiet] at answered
      rw [← Except.ok.inj answered]
      exact new

theorem Agreement.serve_of_one_failure
    {table : WatchTable σ δ} {faulty : FaultyKernel (FileBook φ)}
    (agreement : table.Agreement faulty.kernel.book)
    {request : WatchRequest σ δ} {fault : Fault}
    (new : table.IsNew faulty.kernel request)
    (unfailed : faulty.failures = [])
    (once : (table.serve faulty request).kernel.failures = [fault]) :
    (table.serve faulty request).answer = .error fault ∧
      (table.serve faulty request).table = table ∧
      ∃ lastId, faulty.kernel.book.lastId ≤ lastId ∧
        (table.serve faulty request).kernel.kernel =
          { faulty.kernel with book := { faulty.kernel.book with lastId } } := by
  have subscribable := agreement.subscribable
  cases request with
  | subscribe path who data mask =>
      cases allowed : mask.subscribable with
      | false =>
          rw [serve_subscribe_of_refused table faulty path who data allowed, unfailed] at once
          contradiction
      | true =>
          have served :=
            subscribable.subscribe_servedBy faulty path who data allowed
              fun _ answered => registered_of_probe agreement.quiet new answered
          exact agreement.servedBy_of_one_failure served unfailed once
  | unsubscribe path who =>
      have served := subscribable.unsubscribe_servedBy faulty path who
      exact agreement.servedBy_of_one_failure served unfailed once

/--
From every state that runs lead to, a request of which exactly one kernel call fails reports that
failure.  The table is as before, and so are the files with their watches and masks; only the
counter of ids may have gone up.  Duplicates are left out.
-/
theorem serve_of_one_failed_call
    {fileOf : Path → φ} {table : WatchTable σ δ} {kernel : FileBook φ}
    (reached : Reached fileOf table kernel)
    (request : WatchRequest σ δ)
    (new : table.IsNew kernel request)
    (upcoming : List (Option Fault)) (fault : Fault)
    (once :
      (table.serve (⟨kernel, upcoming, []⟩ : FaultyKernel (FileBook φ)) request).kernel.failures =
        [fault]) :
    let outcome := table.serve (⟨kernel, upcoming, []⟩ : FaultyKernel (FileBook φ)) request
    outcome.answer = .error fault ∧
      outcome.table = table ∧
      ∃ lastId, kernel.book.lastId ≤ lastId ∧
        outcome.kernel.kernel = { kernel with book := { kernel.book with lastId } } :=
  reached.agreement.serve_of_one_failure new rfl once

/-- One subscriber on one file, who waits for it to be written and closed. -/
def soleSubscriber : WatchOutcome String Payload (FileBook Path.Components) :=
  empty.serve ⟨Path.components, WatchBook.empty⟩
    (.subscribe ⟨[0x61]⟩ "x" .none Mask.closeWrite)

theorem reached_soleSubscriber :
    Reached Path.components soleSubscriber.table soleSubscriber.kernel :=
  Reached.start.serve _

/-- The fault of a call for which the system has no space. -/
def noSpace : Fault :=
  .io (.os ⟨28⟩)

/-- A sole subscriber whose watch cannot be removed stays subscribed. -/
theorem serve_of_failed_removal :
    let faulty : FaultyKernel (FileBook Path.Components) :=
      ⟨soleSubscriber.kernel, [none, some noSpace], []⟩
    let outcome := soleSubscriber.table.serve faulty (.unsubscribe ⟨[0x61]⟩ none)
    outcome.kernel.failures = [noSpace] ∧
      outcome.answer = .error noSpace ∧
      outcome.table = soleSubscriber.table ∧
      ∃ lastId, soleSubscriber.kernel.book.lastId ≤ lastId ∧
        outcome.kernel.kernel =
          { soleSubscriber.kernel with book := { soleSubscriber.kernel.book with lastId } } := by
  intro faulty outcome
  have once : outcome.kernel.failures = [noSpace] := rfl
  exact
    ⟨once,
      serve_of_one_failed_call reached_soleSubscriber (.unsubscribe ⟨[0x61]⟩ none) trivial
        [none, some noSpace] noSpace once⟩

/-! ## Rejected duplicates -/

/--
How a rejected duplicate ends: it fails at the probe, which changes nothing; or at the one attempt
to put the union back, which leaves the probe mask; or not at all.
-/
inductive DuplicateEnd (table : WatchTable σ δ) (path : Path) (watch : WatchId)
    (outcome : WatchOutcome σ δ (FaultyKernel (FileBook φ))) : Prop
  | probeFailed (fault : Fault)
      (logged : outcome.kernel.log = [some fault])
      (kept : Assoc.get? outcome.kernel.kernel.book.masks watch = some (table.aggregate watch))
  | unionFailed (fault : Fault)
      (logged : outcome.kernel.log = [none, some fault])
      (answer : outcome.answer = .error (.alreadyExists path))
      (probed : Assoc.get? outcome.kernel.kernel.book.masks watch = some Mask.probe)
  | unionPut
      (logged : outcome.kernel.log = [none, none])
      (kept : Assoc.get? outcome.kernel.kernel.book.masks watch = some (table.aggregate watch))

/-- A subscription that is there already fails in any case.  Its watch is settled for the table as
it was, and keeps the probe mask if that call fails. -/
theorem Agreement.serve_duplicate
    {table : WatchTable σ δ} {faulty : FaultyKernel (FileBook φ)}
    (agreement : table.Agreement faulty.kernel.book)
    (unlogged : faulty.log = [])
    {path : Path} {who : σ} (data : δ) {mask : Mask}
    (allowed : mask.subscribable = true)
    (registered : table.registered (faulty.kernel.idFor path) who = true) :
    (table.serve faulty (.subscribe path who data mask)).table = table ∧
      table.DuplicateEnd path (faulty.kernel.idFor path)
        (table.serve faulty (.subscribe path who data mask)) := by
  simp only [WatchTable.serve, agreement.subscribable.subscribe_eq faulty path who data allowed]
  cases first : faulty.next? with
  | some fault =>
      rw [FaultyKernel.addWatch_of_fault first]
      refine ⟨rfl, .probeFailed fault ?_ (agreement.get?_masks_of_registered registered)⟩
      rw [FaultyKernel.log_failed, unlogged]
      rfl
  | none =>
      rw [FaultyKernel.probe_of_pass first agreement.quiet]
      dsimp only
      rw [if_pos registered]
      cases second : (faulty.probed path).next? with
      | some fault =>
          rw [FaultyKernel.settle_of_fault second]
          refine ⟨rfl, .unionFailed fault ?_ rfl ?_⟩
          · rw [FaultyKernel.log_failed, FaultyKernel.probed, FaultyKernel.log_after, unlogged]
            rfl
          · exact Assoc.get?_set_self faulty.kernel.book.masks _ Mask.probe
      | none =>
          have nonempty :=
            agreement.subscribable.isEmpty_aggregate_of_registered registered
          rw [FaultyKernel.settle_of_pass second agreement.quiet rfl]
          refine ⟨rfl, .unionPut ?_ ?_⟩
          · rw [FaultyKernel.log_after, FaultyKernel.probed, FaultyKernel.log_after, unlogged]
            rfl
          · rw [FaultyKernel.kernel_after, FileBook.settle, WatchBook.get?_masks_settle,
              nonempty, FileBook.idFor, if_pos rfl]
            rfl

/--
From every state that runs lead to, a rejected duplicate makes at most one failing call and keeps
the table.  Its watch keeps the union of its subscriptions exactly when the call that puts the union
back does not fail, or when the union is the probe mask anyway; otherwise the probe mask stays, and
the answer tells only of the duplicate.
-/
theorem duplicate_keeps_union_iff
    {fileOf : Path → φ} {table : WatchTable σ δ} {kernel : FileBook φ}
    (reached : Reached fileOf table kernel)
    (path : Path) (who : σ) (data : δ) (mask : Mask)
    (allowed : mask.subscribable = true)
    (registered : table.registered (kernel.idFor path) who = true)
    (upcoming : List (Option Fault)) :
    let watch := kernel.idFor path
    let outcome :=
      table.serve (⟨kernel, upcoming, []⟩ : FaultyKernel (FileBook φ))
        (.subscribe path who data mask)
    let installed := Assoc.get? outcome.kernel.kernel.book.masks watch
    outcome.table = table ∧
      outcome.kernel.failures.length ≤ 1 ∧
      (installed = some (outcome.table.aggregate watch) ↔
        (∀ fault, outcome.kernel.log ≠ [none, some fault]) ∨
          outcome.table.aggregate watch = Mask.probe) ∧
      (∀ fault, outcome.kernel.log = [none, some fault] →
        outcome.answer = .error (.alreadyExists path) ∧ installed = some Mask.probe) := by
  intro watch outcome installed
  let faulty : FaultyKernel (FileBook φ) := ⟨kernel, upcoming, []⟩
  have agreement : table.Agreement faulty.kernel.book := reached.agreement
  obtain ⟨sameTable, ending⟩ : outcome.table = table ∧ table.DuplicateEnd path watch outcome :=
    agreement.serve_duplicate rfl data allowed registered
  refine ⟨sameTable, ?_⟩
  rw [sameTable, FaultyKernel.failures]
  cases ending with
  | probeFailed fault logged kept =>
      have installedEq : installed = some (table.aggregate watch) := kept
      rw [logged]
      exact
        ⟨Nat.le_refl 1, iff_of_true installedEq (Or.inl fun _ differs => by simp at differs),
          fun _ same => by simp at same⟩
  | unionFailed fault logged answer probed =>
      have installedEq : installed = some Mask.probe := probed
      refine ⟨by simp [logged], ?_, fun _ _ => ⟨answer, installedEq⟩⟩
      simp [logged, installedEq, eq_comm]
  | unionPut logged kept =>
      have installedEq : installed = some (table.aggregate watch) := kept
      rw [logged]
      exact
        ⟨Nat.zero_le 1, iff_of_true installedEq (Or.inl fun _ differs => by simp at differs),
          fun _ same => by simp at same⟩

/-- A sole subscriber who subscribes again keeps the mask when no call fails. -/
theorem duplicate_keeps_union_of_soleSubscriber :
    let faulty : FaultyKernel (FileBook Path.Components) := ⟨soleSubscriber.kernel, [], []⟩
    let outcome :=
      soleSubscriber.table.serve faulty (.subscribe ⟨[0x61]⟩ "x" .none Mask.modify)
    outcome.table = soleSubscriber.table ∧
      Assoc.get? outcome.kernel.kernel.book.masks ⟨1⟩ =
        some (soleSubscriber.table.aggregate ⟨1⟩) := by
  intro faulty outcome
  have ⟨sameTable, _, keeps, _⟩ :=
    duplicate_keeps_union_iff reached_soleSubscriber ⟨[0x61]⟩ "x" .none Mask.modify rfl rfl []
  have logged : outcome.kernel.log = [none, none] := rfl
  refine ⟨sameTable, keeps.mpr (Or.inl ?_)⟩
  intro fault differs
  rw [logged] at differs
  simp at differs

/--
When the call that puts the union back fails, the sole subscriber's watch is left with the probe
mask, although the answer tells only of the duplicate and one call failed.
-/
theorem duplicate_loses_union :
    let faulty : FaultyKernel (FileBook Path.Components) :=
      ⟨soleSubscriber.kernel, [none, some noSpace], []⟩
    let outcome :=
      soleSubscriber.table.serve faulty (.subscribe ⟨[0x61]⟩ "x" .none Mask.modify)
    Reached Path.components soleSubscriber.table soleSubscriber.kernel ∧
      soleSubscriber.table.registered (soleSubscriber.kernel.idFor ⟨[0x61]⟩) "x" = true ∧
      outcome.kernel.failures = [noSpace] ∧
      outcome.answer = .error (.alreadyExists ⟨[0x61]⟩) ∧
      outcome.table.aggregate ⟨1⟩ = Mask.closeWrite ∧
      Assoc.get? outcome.kernel.kernel.book.masks ⟨1⟩ = some Mask.probe ∧
      Assoc.get? outcome.kernel.kernel.book.masks ⟨1⟩ ≠
        some (outcome.table.aggregate ⟨1⟩) :=
  ⟨reached_soleSubscriber, rfl, rfl, rfl, rfl, rfl, by decide⟩

end MarkerWatch.WatchTable
