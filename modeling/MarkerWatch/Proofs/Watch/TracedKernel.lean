import MarkerWatch.Proofs.Watch.Run
import MarkerWatch.Watch.Rehearsal

/-!
# Kernels whose calls are written down

A traced kernel passes every call on and writes it down, together with the kernel that the call
left.  So the trace shows what stood between the calls of one operation, which the outcome of the
operation does not show.

Writing calls down changes nothing else.  A request that is served over a traced kernel has the
outcome that it has without the trace, so what is known of traced runs is known of all runs.
-/

namespace MarkerWatch

/-- A kernel with the calls made of it, each with the kernel that it left. -/
structure TracedKernel (κ : Type) where
  kernel : κ
  trace : List (WatchCall × κ)

namespace TracedKernel

variable {κ : Type}

/-- A kernel of which no call was made yet. -/
def start (kernel : κ) : TracedKernel κ :=
  ⟨kernel, []⟩

/-- The traced kernel after a call that left a kernel. -/
def after (traced : TracedKernel κ) (call : WatchCall) (kernel : κ) : TracedKernel κ :=
  ⟨kernel, traced.trace ++ [(call, kernel)]⟩

instance [WatchKernel κ] : WatchKernel (TracedKernel κ) where
  addWatch traced path mask :=
    let (answer, kernel) := WatchKernel.addWatch traced.kernel path mask
    (answer, traced.after (.add path mask answer.toOption) kernel)
  removeWatch traced watch :=
    let (answer, kernel) := WatchKernel.removeWatch traced.kernel watch
    (answer, traced.after (.remove watch answer.toOption.isSome) kernel)

@[simp]
theorem kernel_start (kernel : κ) : (start kernel).kernel = kernel :=
  rfl

@[simp]
theorem trace_start (kernel : κ) : (start kernel).trace = [] :=
  rfl

@[simp]
theorem kernel_after (traced : TracedKernel κ) (call : WatchCall) (kernel : κ) :
    (traced.after call kernel).kernel = kernel :=
  rfl

@[simp]
theorem trace_after (traced : TracedKernel κ) (call : WatchCall) (kernel : κ) :
    (traced.after call kernel).trace = traced.trace ++ [(call, kernel)] :=
  rfl

variable [WatchKernel κ] (traced : TracedKernel κ)

theorem addWatch_eq (path : Path) (mask : Mask) :
    WatchKernel.addWatch traced path mask =
      ((WatchKernel.addWatch traced.kernel path mask).1,
        traced.after
          (.add path mask (WatchKernel.addWatch traced.kernel path mask).1.toOption)
          (WatchKernel.addWatch traced.kernel path mask).2) :=
  rfl

theorem removeWatch_eq (watch : WatchId) :
    WatchKernel.removeWatch traced watch =
      ((WatchKernel.removeWatch traced.kernel watch).1,
        traced.after
          (.remove watch (WatchKernel.removeWatch traced.kernel watch).1.toOption.isSome)
          (WatchKernel.removeWatch traced.kernel watch).2) :=
  rfl

end TracedKernel

/-- An outcome over a traced kernel, without the trace. -/
def WatchOutcome.untraced {σ δ κ : Type} (outcome : WatchOutcome σ δ (TracedKernel κ)) :
    WatchOutcome σ δ κ :=
  ⟨outcome.answer, outcome.table, outcome.kernel.kernel⟩

namespace WatchTable

variable {κ σ δ : Type} [WatchKernel κ]

/-- Settling a path is one call, whichever call it is. -/
theorem exists_settle_eq
    (traced : TracedKernel κ) (path : Path) (watch : WatchId) (mask : Mask) :
    ∃ call,
      WatchKernel.settle traced path watch mask =
        ((WatchKernel.settle traced.kernel path watch mask).1,
          traced.after call (WatchKernel.settle traced.kernel path watch mask).2) := by
  rw [WatchKernel.settle, WatchKernel.settle]
  cases mask.isEmpty with
  | true => exact ⟨_, rfl⟩
  | false => exact ⟨_, rfl⟩

/-- Settling a path over a traced kernel settles it over the kernel behind the trace. -/
theorem settle_untraced (traced : TracedKernel κ) (path : Path) (watch : WatchId) (mask : Mask) :
    ((WatchKernel.settle traced path watch mask).1,
        (WatchKernel.settle traced path watch mask).2.kernel) =
      WatchKernel.settle traced.kernel path watch mask := by
  obtain ⟨call, settled⟩ := exists_settle_eq traced path watch mask
  rw [settled]
  rfl

variable [DecidableEq σ]

namespace Subscribable

variable {table : WatchTable σ δ}

/-- What is written down of a request has no influence on its outcome. -/
theorem serve_untraced
    (subscribable : table.Subscribable)
    (traced : TracedKernel κ) (request : WatchRequest σ δ) :
    (table.serve traced request).untraced = table.serve traced.kernel request := by
  cases request with
  | subscribe path who data mask =>
      cases allowed : mask.subscribable with
      | false =>
          rw [serve_subscribe_of_refused _ _ _ _ _ allowed,
            serve_subscribe_of_refused _ _ _ _ _ allowed]
          rfl
      | true =>
          simp only [serve, subscribable.subscribe_eq _ path who data allowed,
            TracedKernel.addWatch_eq]
          rcases WatchKernel.addWatch traced.kernel path Mask.probe with ⟨fault | watch, left⟩
          · rfl
          · dsimp only
            generalize reached : traced.after _ left = probed
            obtain rfl : probed.kernel = left := by rw [← reached]; rfl
            split
            · rw [← settle_untraced probed]
              rfl
            · rw [← settle_untraced probed]
              rcases WatchKernel.settle probed path watch _ with ⟨fault | settled, failed⟩
              · dsimp only
                rw [← settle_untraced failed]
                rfl
              · rfl
  | unsubscribe path who =>
      simp only [serve, subscribable.unsubscribe_eq _ path who, TracedKernel.addWatch_eq]
      rcases WatchKernel.addWatch traced.kernel path Mask.probe with ⟨fault | watch, left⟩
      · rfl
      · dsimp only
        generalize reached : traced.after _ left = probed
        obtain rfl : probed.kernel = left := by rw [← reached]; rfl
        rw [← settle_untraced probed]
        rcases WatchKernel.settle probed path watch _ with ⟨fault | settled, failed⟩
        · dsimp only
          rw [← settle_untraced failed]
          rfl
        · dsimp only
          split <;> rfl

end Subscribable

end WatchTable

end MarkerWatch
