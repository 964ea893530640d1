import MarkerWatch.Watch.Book
import MarkerWatch.Watch.Table

/-!
# Rehearsals

A rehearsal is a book of watches that writes down every call, lets some paths stand for others, and
fails the calls that it was told to fail.  A failing call is written down but does not reach the
book.
-/

namespace MarkerWatch

/-- A call as it is written down. -/
inductive WatchCall
  | add (path : Path) (mask : Mask) (watch : Option WatchId)
  | remove (watch : WatchId) (done : Bool)
  deriving DecidableEq, Repr

/-- A book of watches with a log of calls, other names for paths, and calls that are to fail. -/
structure Rehearsal where
  book : WatchBook Path.Components
  calls : List WatchCall
  aliases : Assoc Path Path
  /-- For each call that is to fail, how many calls away it is, and its error code. -/
  failures : List (Nat × Errno)

namespace Rehearsal

/-- A rehearsal before its first call. -/
def start : Rehearsal :=
  ⟨WatchBook.empty, [], [], []⟩

/-- The path that another path stands for. -/
def target (r : Rehearsal) (path : Path) : Path :=
  (Assoc.get? r.aliases path).getD path

/-- The rehearsal one call later, with the error code when that call fails. -/
def countDown (r : Rehearsal) : Option Errno × Rehearsal :=
  let next := r.failures.map fun (n, e) => (n - 1, e)
  ((next.find? (·.1 = 0)).map (·.2), { r with failures := next.filter (·.1 ≠ 0) })

/-- The book behind a rehearsal, in which a path stands for its components. -/
def files (r : Rehearsal) : FileBook Path.Components :=
  ⟨fun path => (r.target path).components, r.book⟩

/-- The rehearsal after a watch was added. -/
def addWatch (r : Rehearsal) (path : Path) (m : Mask) : Except Fault WatchId × Rehearsal :=
  match r.countDown with
  | (some e, r) => (.error (.io (.os e)), { r with calls := r.calls ++ [.add path m none] })
  | (none, r) =>
    let (answer, files) := WatchKernel.addWatch r.files path m
    (answer, { r with
      book := files.book
      calls := r.calls ++ [.add path m answer.toOption] })

/-- The rehearsal after a watch was removed. -/
def removeWatch (r : Rehearsal) (w : WatchId) : Except Fault Unit × Rehearsal :=
  match r.countDown with
  | (some e, r) => (.error (.io (.os e)), { r with calls := r.calls ++ [.remove w false] })
  | (none, r) =>
    let (answer, files) := WatchKernel.removeWatch r.files w
    (answer, { r with
      book := files.book
      calls := r.calls ++ [.remove w answer.toOption.isSome] })

instance : WatchKernel Rehearsal where
  addWatch := addWatch
  removeWatch := removeWatch

end Rehearsal

end MarkerWatch
