import MarkerWatch.Host.FileTree

/-!
# Places for files

What calls on files look for before they change a tree: a file that is there, a place for a new one,
and whether a directory may be moved or replaced.
-/

namespace MarkerWatch

namespace FileTree

/-- Where a path leads, from a directory, for a call that creates a file when there is none.  Links
at its end are followed up to a bound, and none of them may ask for a directory. -/
def placeFrom (t : FileTree) : Nat → Nat → Path → Except Errno Place
  | 0, _, _ => .error .tooManyLinks
  | n + 1, directory, path => do
    match ← t.findLastFrom directory path with
    | (d, .name name, false) =>
      match ← t.entry? d name with
      | none => return .absent d name
      | some i =>
        match t.link? i with
        | some target => placeFrom t n d target
        | none => return .present i (some (d, name))
    | _ => throw .isDirectory

/-- Where a path leads for a call that creates a file when there is none. -/
def placeFor (t : FileTree) (path : Path) : Except Errno Place :=
  t.placeFrom (mostLinks + 1) t.current path

/-- The directory and the name for something new, which must not be there yet.  Only a new directory
may be asked for with a final slash. -/
def vacancy (t : FileTree) (path : Path) (forDirectory : Bool) : Except Errno (Nat × FileName) := do
  match ← t.findLast path with
  | (d, .name name, slash) =>
    if (← t.entry? d name).isSome then throw .alreadyExists
    if slash && !forDirectory then throw .noEntry
    return (d, name)
  | _ => throw .alreadyExists

/-- What a path leads to, unless that is a directory. -/
def findFile (t : FileTree) (path : Path) : Except Errno (Nat × Option (Nat × FileName)) := do
  let (i, entry) ← t.find true path
  if t.isDirectory i then throw .isDirectory
  return (i, entry)

/-- Whether one directory is another or stands above it. -/
def encloses (t : FileTree) (upper lower : Nat) : Bool :=
  t.isAbove upper (t.inodes.length + 1) lower

/-- Whether a directory has entries. -/
def isOccupied (t : FileTree) (i : Nat) : Bool :=
  match t.directory? i with
  | some (_, entries) => !entries.isEmpty
  | none => false

/-- The tree in which a directory lies in another one. -/
def setParent (t : FileTree) (i parent : Nat) : FileTree :=
  match t.directory? i with
  | some (_, entries) => t.setContent i (.directory parent entries)
  | none => t

/-- The tree with one entry fewer that leads to a number, which ends with its last entry. -/
def release (t : FileTree) (i : Nat) : FileTree :=
  if t.isDirectory i || t.links i ≤ 1 then t.discard i else t.countLinks i (· - 1)

end FileTree

end MarkerWatch
