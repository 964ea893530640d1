import MarkerWatch.Proofs.Watch.Run

/-!
# Kernels of which some calls fail

A faulty kernel fails some of the calls that reach it and passes the others on.  A failing call
changes nothing behind it.  Which calls fail is a list given beforehand, so every pattern of
failures is a list, and the log of the calls says which of them were made and failed.

Over quiet files a call that is passed on succeeds, except for the removal of a watch that is not
there; after a probe there is none such.
-/

namespace MarkerWatch

/-- A kernel of which some calls fail. -/
structure FaultyKernel (κ : Type) where
  kernel : κ
  /-- For each call to come, the fault that it fails with, if it is to fail. -/
  upcoming : List (Option Fault)
  /-- For each call made, the fault that it failed with, if it failed. -/
  log : List (Option Fault)

namespace FaultyKernel

variable {κ : Type}

/-- The fault of an answer, if it is one. -/
def faultOf? {α : Type} : Except Fault α → Option Fault
  | .error fault => some fault
  | .ok _ => none

/-- The fault that the next call is to fail with, if it is to fail. -/
def next? (faulty : FaultyKernel κ) : Option Fault :=
  faulty.upcoming.head?.join

/-- The faulty kernel after a call that left a kernel and failed or not. -/
def after (faulty : FaultyKernel κ) (kernel : κ) (fault? : Option Fault) : FaultyKernel κ :=
  ⟨kernel, faulty.upcoming.tail, faulty.log ++ [fault?]⟩

/-- The faulty kernel after a call that failed and was not passed on. -/
def failed (faulty : FaultyKernel κ) (fault : Fault) : FaultyKernel κ :=
  faulty.after faulty.kernel (some fault)

/-- A call fails when it is to fail, and is passed on otherwise. -/
def call {α : Type} (faulty : FaultyKernel κ) (inner : κ → Except Fault α × κ) :
    Except Fault α × FaultyKernel κ :=
  match faulty.next? with
  | some fault => (.error fault, faulty.failed fault)
  | none =>
    ((inner faulty.kernel).1,
      faulty.after (inner faulty.kernel).2 (faultOf? (inner faulty.kernel).1))

instance [WatchKernel κ] : WatchKernel (FaultyKernel κ) where
  addWatch faulty path mask := faulty.call (WatchKernel.addWatch · path mask)
  removeWatch faulty watch := faulty.call (WatchKernel.removeWatch · watch)

/-- The faults of the calls that failed, in order. -/
def failures (faulty : FaultyKernel κ) : List Fault :=
  faulty.log.filterMap id

@[simp]
theorem kernel_after (faulty : FaultyKernel κ) (kernel : κ) (fault? : Option Fault) :
    (faulty.after kernel fault?).kernel = kernel :=
  rfl

@[simp]
theorem kernel_failed (faulty : FaultyKernel κ) (fault : Fault) :
    (faulty.failed fault).kernel = faulty.kernel :=
  rfl

theorem log_after (faulty : FaultyKernel κ) (kernel : κ) (fault? : Option Fault) :
    (faulty.after kernel fault?).log = faulty.log ++ [fault?] :=
  rfl

theorem log_failed (faulty : FaultyKernel κ) (fault : Fault) :
    (faulty.failed fault).log = faulty.log ++ [some fault] :=
  rfl

@[simp]
theorem failures_after (faulty : FaultyKernel κ) (kernel : κ) :
    (faulty.after kernel none).failures = faulty.failures := by
  simp [failures, after]

@[simp]
theorem failures_failed (faulty : FaultyKernel κ) (fault : Fault) :
    (faulty.failed fault).failures = faulty.failures ++ [fault] := by
  simp [failures, failed, after]

/-! ## Failing and passing calls -/

theorem addWatch_of_fault [WatchKernel κ]
    {faulty : FaultyKernel κ} {fault : Fault}
    (fails : faulty.next? = some fault)
    (path : Path) (mask : Mask) :
    WatchKernel.addWatch faulty path mask =
      (.error fault, faulty.failed fault) := by
  change faulty.call _ = _
  rw [call, fails]

/-- Either way of settling is one call, which fails when it is to fail. -/
theorem settle_of_fault [WatchKernel κ]
    {faulty : FaultyKernel κ} {fault : Fault}
    (fails : faulty.next? = some fault)
    (path : Path) (watch : WatchId) (mask : Mask) :
    WatchKernel.settle faulty path watch mask =
      (.error fault, faulty.failed fault) := by
  rw [WatchKernel.settle, addWatch_of_fault fails]
  split
  · change faulty.call _ = _
    rw [call, fails]
  · rfl

variable {φ : Type} [DecidableEq φ] {faulty : FaultyKernel (FileBook φ)}

theorem addWatch_of_pass
    (passes : faulty.next? = none)
    (quiet : faulty.kernel.book.failsNext = false)
    (path : Path) (mask : Mask) :
    WatchKernel.addWatch faulty path mask =
      (.ok (faulty.kernel.idFor path), faulty.after (faulty.kernel.put path mask) none) := by
  change faulty.call _ = _
  rw [call, passes]
  simp only [FileBook.addWatch_of_quiet quiet]
  rfl

/-- The faulty kernel after a probe that was passed on. -/
def probed (faulty : FaultyKernel (FileBook φ)) (path : Path) : FaultyKernel (FileBook φ) :=
  faulty.after (faulty.kernel.put path Mask.probe) none

theorem probe_of_pass
    (passes : faulty.next? = none)
    (quiet : faulty.kernel.book.failsNext = false)
    (path : Path) :
    WatchKernel.addWatch faulty path Mask.probe =
      (.ok (faulty.kernel.idFor path), faulty.probed path) :=
  addWatch_of_pass passes quiet path Mask.probe

/-- After a probe, settling succeeds unless it is to fail. -/
theorem settle_of_pass
    (passes : faulty.next? = none)
    {kernel : FileBook φ} {path : Path} {probe : Mask}
    (quiet : kernel.book.failsNext = false)
    (probed : faulty.kernel = kernel.put path probe)
    (mask : Mask) :
    WatchKernel.settle faulty path (kernel.idFor path) mask =
      (.ok (), faulty.after (kernel.settle path mask) none) := by
  have settled := FileBook.settle_put_of_quiet quiet path probe mask
  rw [← probed] at settled
  rw [WatchKernel.settle] at settled ⊢
  split at settled
  · rename_i nothing
    rw [if_pos nothing]
    change faulty.call _ = _
    rw [call, passes]
    simp only [settled]
    rfl
  · rename_i something
    rw [if_neg something]
    have stillQuiet : faulty.kernel.book.failsNext = false := by
      rw [probed]
      exact quiet
    have settledKernel := congrArg Prod.snd settled
    rw [addWatch_of_pass passes stillQuiet]
    rw [FileBook.addWatch_of_quiet stillQuiet] at settledKernel
    simp only at settledKernel
    rw [settledKernel]
    rfl

end FaultyKernel

end MarkerWatch
