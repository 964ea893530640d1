import MarkerWatch.Fault

/-!
# What a watch table asks of a kernel

A kernel keeps watches on files.  Adding a watch to a file replaces the mask of a watch that is
already there and gives its id.  Either call may fail, and either changes the kernel.
-/

namespace MarkerWatch

/-- A kernel that keeps watches on files. -/
class WatchKernel (κ : Type) where
  /-- Sets the mask of the watch on a path, which is created if need be, and gives its id. -/
  addWatch : κ → Path → Mask → Except Fault WatchId × κ
  /-- Removes a watch. -/
  removeWatch : κ → WatchId → Except Fault Unit × κ

end MarkerWatch
