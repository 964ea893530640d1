import MarkerWatch.Assoc
import MarkerWatch.Watch.Kernel

/-!
# Watches kept in memory

A book of watches follows the rules that a watch table relies on: one watch for each file, ids that
are counted up and never given again, and masks that are replaced.  Different spellings of a path
may stand for one file.

A book can be told to fail the next update, which is a call of either kind other than a probe.
-/

namespace MarkerWatch

/-- Watches on files, with the mask of each.  Ids are counted up without a bound, where a watch has
an id of 32 bits with a sign, so a book stands for fewer than `2 ^ 31` watches over its lifetime. -/
structure WatchBook (φ : Type) where
  lastId : Nat
  ids : Assoc φ WatchId
  masks : Assoc WatchId Mask
  failsNext : Bool
  deriving DecidableEq, Repr

namespace WatchBook

variable {φ : Type} [DecidableEq φ]

/-- The book without watches. -/
def empty : WatchBook φ :=
  ⟨0, [], [], false⟩

instance : Inhabited (WatchBook φ) := ⟨empty⟩

/-- The fault of an update that was told to fail. -/
def injected : Fault :=
  .io (.stated "injected kernel failure")

/-- The mask of the watch on a file. -/
def maskOf? (b : WatchBook φ) (file : φ) : Option Mask :=
  (Assoc.get? b.ids file).bind (Assoc.get? b.masks)

/-- The number of watches. -/
def size (b : WatchBook φ) : Nat :=
  b.masks.length

/-- The book after a mask was put on the watch of a file. -/
def add (b : WatchBook φ) (file : φ) (m : Mask) : Except Fault WatchId × WatchBook φ :=
  if m ≠ Mask.probe ∧ b.failsNext then (.error injected, { b with failsNext := false })
  else
    match Assoc.get? b.ids file with
    | some w => (.ok w, { b with masks := Assoc.set b.masks w m })
    | none =>
      let w : WatchId := ⟨b.lastId + 1⟩
      (.ok w,
        { b with
          lastId := b.lastId + 1
          ids := Assoc.set b.ids file w
          masks := Assoc.set b.masks w m })

/-- The book after a watch was removed. -/
def remove (b : WatchBook φ) (w : WatchId) : Except Fault Unit × WatchBook φ :=
  if b.failsNext then (.error injected, { b with failsNext := false })
  else if Assoc.has b.masks w then
    (.ok (), { b with masks := Assoc.erase b.masks w, ids := b.ids.filter (·.2 ≠ w) })
  else
    (.error (.io (.stated ("no such watch " ++ w.text))), b)

end WatchBook

/-- A book of watches in which paths stand for files. -/
structure FileBook (φ : Type) where
  fileOf : Path → φ
  book : WatchBook φ

instance {φ : Type} [DecidableEq φ] : WatchKernel (FileBook φ) where
  addWatch k path m :=
    let (r, book) := k.book.add (k.fileOf path) m
    (r, { k with book })
  removeWatch k w :=
    let (r, book) := k.book.remove w
    (r, { k with book })

end MarkerWatch
