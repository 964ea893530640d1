import MarkerWatch.Host.Basic
import MarkerWatch.Host.Placing

/-!
# Calls on files and the events they cause

An event on a file is heard of by the directory of the entry by which the file was found, together
with the name of the entry, and then by the file itself.  Events that change a directory are heard
of only there.  Files and directories that cease to exist take their watches with them.

A call that fails changes nothing, but for a read of a directory, which opens and closes it.
-/

namespace MarkerWatch

namespace Host

/-- What events on a file carry when it is a directory. -/
def directoryMark (h : Host) (i : Nat) : Mask :=
  if h.tree.isDirectory i then Mask.isDir else ∅

/-- The host with each queue changed. -/
def tell (h : Host) (change : EventQueue → EventQueue) : Host :=
  { h with queues := h.queues.map fun (id, q) => (id, change q) }

/-- The host after events of some kinds on a file, heard of through an entry and by the file. -/
def used (h : Host) (i : Nat) (entry : Option (Nat × FileName)) (kinds : List Mask) : Host :=
  h.tell fun q => kinds.foldl
    (fun q kind =>
      let q := match entry with
        | some (d, name) => q.report d kind (h.directoryMark i) 0 name
        | none => q
      q.report i kind (h.directoryMark i) 0 [])
    q

/-- The host after a change to a directory at a name. -/
def changed (h : Host) (d : Nat) (name : FileName) (kind extra : Mask) (cookie : Nat) : Host :=
  h.tell (·.report d kind extra cookie name)

/-- The host after an event on a file that only the file itself hears of. -/
def touched (h : Host) (i : Nat) (kind extra : Mask) : Host :=
  h.tell (·.report i kind extra 0 [])

/-- The host with an entry taken from a file, which is gone with its last one. -/
def released (h : Host) (i : Nat) : Host :=
  let gone := h.tree.isDirectory i || h.tree.links i ≤ 1
  let h := { h with tree := h.tree.release i }
  if gone then h.tell (·.forget i) else h

/-- The event of a write, if there is anything to write. -/
def writing (bytes : List UInt8) : List Mask :=
  if bytes.isEmpty then [] else [Mask.modify]

/-- The host after an existing file was opened to be emptied, and closed again. -/
def truncate (h : Host) (path : Path) : Except Errno Host := do
  let (i, entry) ← h.tree.findFile path
  let h := { h with tree := h.tree.setContent i (.file []) }
  return h.used i entry [.opened, .modify, .closeWrite]

/-- The host after a file, created if need be, was opened and closed again. -/
def touchFile (h : Host) (path : Path) (mode : Nat) : Except Errno Host := do
  match ← h.tree.placeFor path with
  | .present i entry =>
    if h.tree.isDirectory i then throw .isDirectory
    return h.used i entry [.opened, .closeWrite]
  | .absent d name =>
    let (i, tree) := h.tree.create d name (.file []) mode
    let h := { h with tree }.changed d name .create ∅ 0
    return h.used i (some (d, name)) [.opened, .closeWrite]

/-- The host after bytes were written to a file, which is created or emptied before. -/
def writeFile (h : Host) (path : Path) (bytes : List UInt8) : Except Errno Host := do
  match ← h.tree.placeFor path with
  | .present i entry =>
    if h.tree.isDirectory i then throw .isDirectory
    let h := { h with tree := h.tree.setContent i (.file bytes) }
    return h.used i entry ([.opened, .modify] ++ writing bytes ++ [.closeWrite])
  | .absent d name =>
    let (i, tree) := h.tree.create d name (.file bytes) 0o644
    let h := { h with tree }.changed d name .create ∅ 0
    return h.used i (some (d, name)) ([.opened] ++ writing bytes ++ [.closeWrite])

/-- The host after bytes were written to the end of an existing file. -/
def appendFile (h : Host) (path : Path) (bytes : List UInt8) : Except Errno Host := do
  let (i, entry) ← h.tree.findFile path
  let old := (h.tree.file? i).getD []
  let h := { h with tree := h.tree.setContent i (.file (old ++ bytes)) }
  return h.used i entry ([.opened] ++ writing bytes ++ [.closeWrite])

/-- The bytes of a file, with the host after it was opened, read to its end and closed. -/
def readFile (h : Host) (path : Path) : Except Errno (List UInt8) × Host :=
  match h.tree.find true path with
  | .error e => (.error e, h)
  | .ok (i, entry) =>
    match h.tree.file? i with
    | none => (.error .isDirectory, h.used i entry [.opened, .closeNoWrite])
    | some bytes =>
      let reading := if bytes.isEmpty then [] else [Mask.access]
      (.ok bytes, h.used i entry ([.opened] ++ reading ++ [.closeNoWrite]))

/-- The host after something was opened to be read, and closed again. -/
def openToRead (h : Host) (path : Path) : Except Errno Host := do
  let (i, entry) ← h.tree.find true path
  return h.used i entry [.opened, .closeNoWrite]

/-- The host with a new directory.  It keeps the group mark of the directory that it lies in. -/
def makeDirectory (h : Host) (path : Path) : Except Errno Host := do
  let (d, name) ← h.tree.vacancy path true
  let (_, tree) := h.tree.create d name (.directory d []) (0o755 ||| h.tree.mode d &&& 0o2000)
  return { h with tree }.changed d name .create .isDir 0

/-- The host with a new symbolic link to a target. -/
def linkSymbolically (h : Host) (target path : Path) : Except Errno Host := do
  FileTree.walkable target
  let (d, name) ← h.tree.vacancy path false
  let (_, tree) := h.tree.create d name (.link target) 0o777
  return { h with tree }.changed d name .create ∅ 0

/-- The host with one more entry for a file. -/
def linkFile (h : Host) (source path : Path) : Except Errno Host := do
  let (i, _) ← h.tree.find false source
  let (d, name) ← h.tree.vacancy path false
  if h.tree.isDirectory i then throw .notPermitted
  let tree := (h.tree.setEntries d fun entries => Assoc.set entries name i).countLinks i (· + 1)
  return ({ h with tree }.touched i .attrib ∅).changed d name .create ∅ 0

/-- The host without an entry for a file. -/
def removeFile (h : Host) (path : Path) : Except Errno Host := do
  match ← h.tree.findLast path with
  | (d, .name name, slash) =>
    match ← h.tree.entry? d name with
    | none => throw .noEntry
    | some i =>
      if h.tree.isDirectory i then throw .isDirectory
      if slash then throw .notDirectory
      let h := h.touched i .attrib ∅
      let h := { h with tree := h.tree.setEntries d fun entries => Assoc.erase entries name }
      return (h.released i).changed d name .delete ∅ 0
  | _ => throw .isDirectory

/-- The host without an empty directory. -/
def removeDirectory (h : Host) (path : Path) : Except Errno Host := do
  match ← h.tree.findLast path with
  | (_, .top, _) => throw .busy
  | (_, .here, _) => throw .invalid
  | (_, .above, _) => throw .notEmpty
  | (d, .name name, _) =>
    match ← h.tree.entry? d name with
    | none => throw .noEntry
    | some i =>
      if !h.tree.isDirectory i then throw .notDirectory
      if h.tree.isOccupied i then throw .notEmpty
      let h := { h with tree := h.tree.setEntries d fun entries => Assoc.erase entries name }
      return (h.released i).changed d name .delete .isDir 0

/-- The host after an entry was moved to another place, where it replaces what may be there. -/
def moveEntry (h : Host) (i : Nat) (source target : Nat × FileName) (replaced : Option Nat) :
    Host :=
  let extra := h.directoryMark i
  let tree := h.tree.setEntries source.1 fun entries => Assoc.erase entries source.2
  let tree := tree.setEntries target.1 fun entries => Assoc.set entries target.2 i
  let h := { h with tree := tree.setParent i target.1, nextCookie := h.nextCookie + 1 }
  let cookie := h.nextCookie - 1
  let h := h.changed source.1 source.2 .movedFrom extra cookie
  let h := h.changed target.1 target.2 .movedTo extra cookie
  match replaced with
  | none => h.touched i .moveSelf ∅
  | some j => ((h.touched j .attrib (h.directoryMark j)).touched i .moveSelf ∅).released j

/-- The host after a renaming. -/
def rename (h : Host) (source target : Path) : Except Errno Host := do
  match ← h.tree.findLast source, ← h.tree.findLast target with
  | (d, .name name, slash), (d', .name name', slash') =>
    match ← h.tree.entry? d name with
    | none => throw .noEntry
    | some i =>
      let replaced ← h.tree.entry? d' name'
      let isDirectory := h.tree.isDirectory i
      if !isDirectory && (slash || slash') then throw .notDirectory
      if isDirectory && h.tree.encloses i d' then throw .invalid
      match replaced with
      | none => return h.moveEntry i (d, name) (d', name') none
      | some j =>
        if h.tree.encloses j d then throw .notEmpty
        if i = j then return h
        if isDirectory && !h.tree.isDirectory j then throw .notDirectory
        if !isDirectory && h.tree.isDirectory j then throw .isDirectory
        if h.tree.isOccupied j then throw .notEmpty
        return h.moveEntry i (d, name) (d', name') (some j)
  | _, _ => throw .busy

/-- The host with the mode of a file changed. -/
def setMode (h : Host) (path : Path) (mode : Nat) : Except Errno Host := do
  let (i, entry) ← h.tree.find true path
  return { h with tree := h.tree.setMode i mode }.used i entry [.attrib]

/-- Whether a path leads to something. -/
def has (h : Host) (path : Path) : Bool :=
  !path.hasNul && (h.tree.find true path).toOption.isSome

/-- Whether a path leads to a directory. -/
def isDirectory (h : Host) (path : Path) : Bool :=
  !path.hasNul && ((h.tree.find true path).toOption.map fun f => h.tree.isDirectory f.1).getD false

/-- What is known of a file without opening it. -/
inductive FileStatus
  | directory (mode : Nat)
  | file (mode size : Nat)
  deriving DecidableEq, Repr

/-- What is known of the file that a path leads to. -/
def status? (h : Host) (path : Path) : Option FileStatus := do
  if path.hasNul then none
  let (i, _) ← (h.tree.find true path).toOption
  let inode ← h.tree.inode? i
  match inode.content with
  | .directory _ _ => some (.directory inode.mode)
  | .file bytes => some (.file inode.mode bytes.length)
  | .link target => some (.file inode.mode target.bytes.length)

/-- A call on a path.  No call takes a path with a zero byte. -/
def onPath {α : Type} (path : Path) (call : Except Errno α) : Except IoFailure α :=
  if path.hasNul then .error (.stated "file name contained an unexpected NUL byte")
  else call.mapError .os

end Host

end MarkerWatch
