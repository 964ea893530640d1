import MarkerWatch.Assoc
import MarkerWatch.Errno
import MarkerWatch.Path

/-!
# File trees

Files, directories and symbolic links, each kept under a number.  A directory knows the directory
above it and the numbers of its entries; a file or a link counts the entries that lead to it.

A path is walked name by name.  The walk follows symbolic links, except one at its end when it is
told not to, and ends at an entry or at the place where one is missing.
-/

namespace MarkerWatch

/-- The name of an entry of a directory. -/
abbrev FileName :=
  List UInt8

/-- What is kept under a number of the tree. -/
inductive Content
  | file (bytes : List UInt8)
  | directory (parent : Nat) (entries : Assoc FileName Nat)
  | link (target : Path)
  deriving DecidableEq, Repr

/-- A file, directory or link with its mode and the number of entries that lead to it. -/
structure Inode where
  content : Content
  mode : Nat
  links : Nat
  deriving DecidableEq, Repr

/-- The files of a host, its top directory and the directory in which relative paths start. -/
structure FileTree where
  inodes : Assoc Nat Inode
  next : Nat
  top : Nat
  current : Nat
  deriving DecidableEq, Repr

/-- Where a path leads: to something, found as an entry of a directory where that is known, or to a
name that a directory lacks. -/
inductive Place
  | present (inode : Nat) (entry : Option (Nat × FileName))
  | absent (directory : Nat) (name : FileName)
  deriving DecidableEq, Repr

/-- How far a walk gets before it meets a symbolic link that it has to follow. -/
inductive Stride
  | arrived (place : Place)
  | detour (directory : Nat) (names : List FileName)
  | failed (errno : Errno)
  deriving DecidableEq, Repr

/-- The last name of a path, as what it is to the directory before it. -/
inductive LastName
  | top
  | here
  | above
  | name (name : FileName)
  deriving DecidableEq, Repr

/-- The names of a path for a walk.  A final slash asks for a directory, as a name `.` does. -/
def Path.steps (p : Path) : List FileName :=
  if p.endsInSlash then p.names ++ [Path.here] else p.names

namespace FileTree

/-- The longest name of an entry. -/
def longestName : Nat := 255

/-- The longest path that a system call takes. -/
def longestPath : Nat := 4095

/-- How many symbolic links a walk may follow. -/
def mostLinks : Nat := 40

/-- The tree with nothing in it but an empty current directory. -/
def fresh : FileTree :=
  { inodes :=
      [(1, ⟨.directory 1 [([0x74, 0x6D, 0x70], 2)], 0o755, 1⟩),
       (2, ⟨.directory 1 [([0x77], 3)], 0o1777, 1⟩),
       (3, ⟨.directory 2 [], 0o755, 1⟩)]
    next := 4
    top := 1
    current := 3 }

/-- What is kept under a number. -/
def inode? (t : FileTree) (i : Nat) : Option Inode :=
  Assoc.get? t.inodes i

/-- The directory above and the entries, if a number is that of a directory. -/
def directory? (t : FileTree) (i : Nat) : Option (Nat × Assoc FileName Nat) :=
  match t.inode? i with
  | some ⟨.directory parent entries, _, _⟩ => some (parent, entries)
  | _ => none

/-- Whether a number is that of a directory. -/
def isDirectory (t : FileTree) (i : Nat) : Bool :=
  (t.directory? i).isSome

/-- The target, if a number is that of a symbolic link. -/
def link? (t : FileTree) (i : Nat) : Option Path :=
  match t.inode? i with
  | some ⟨.link target, _, _⟩ => some target
  | _ => none

/-- The bytes, if a number is that of a file. -/
def file? (t : FileTree) (i : Nat) : Option (List UInt8) :=
  match t.inode? i with
  | some ⟨.file bytes, _, _⟩ => some bytes
  | _ => none

/-- The entry of a directory in the directory above it. -/
def entryOf? (t : FileTree) (i : Nat) : Option (Nat × FileName) :=
  match t.directory? i with
  | none => none
  | some (parent, _) =>
    match t.directory? parent with
    | none => none
    | some (_, entries) =>
      (entries.find? fun entry => entry.2 = i ∧ parent ≠ i).map fun entry => (parent, entry.1)

/-- The walk along names from a number that was found as an entry, up to the first symbolic link
that has to be followed. -/
def stride (t : FileTree) (follow : Bool) :
    Nat → Option (Nat × FileName) → List FileName → Stride
  | at_, entry, [] => .arrived (.present at_ entry)
  | at_, entry, name :: rest =>
    match t.directory? at_ with
    | none => .failed .notDirectory
    | some (parent, entries) =>
      if name = Path.here then stride t follow at_ entry rest
      else if name = Path.above then stride t follow parent none rest
      else if longestName < name.length then .failed .nameTooLong
      else
        match Assoc.get? entries name with
        | none => if rest.isEmpty then .arrived (.absent at_ name) else .failed .noEntry
        | some i =>
          match t.link? i with
          | none => stride t follow i (some (at_, name)) rest
          | some target =>
            if rest.isEmpty && !follow then .arrived (.present i (some (at_, name)))
            else
              .detour (if target.isAbsolute then t.top else at_) (target.steps ++ rest)

/-- The walk along names with a bound on the symbolic links on the way. -/
def roam (t : FileTree) (follow : Bool) : Nat → Nat → List FileName → Except Errno Place
  | 0, _, _ => .error .tooManyLinks
  | n + 1, directory, names =>
    match t.stride follow directory none names with
    | .arrived place => .ok place
    | .failed e => .error e
    | .detour directory names => roam t follow n directory names

/-- The directory in which the walk of a path starts; relative paths start in the given one. -/
def start (t : FileTree) (directory : Nat) (path : Path) : Nat :=
  if path.isAbsolute then t.top else directory

/-- Whether a path is one that system calls walk at all. -/
def walkable (path : Path) : Except Errno Unit :=
  if path.isEmpty then .error .noEntry
  else if longestPath < path.bytes.length then .error .nameTooLong
  else .ok ()

/-- Where a path leads. -/
def walk (t : FileTree) (follow : Bool) (path : Path) : Except Errno Place := do
  walkable path
  t.roam follow (mostLinks + 1) (t.start t.current path) path.steps

/-- What a path leads to, with the entry by which it is found. -/
def find (t : FileTree) (follow : Bool) (path : Path) :
    Except Errno (Nat × Option (Nat × FileName)) := do
  match ← t.walk follow path with
  | .present i entry => .ok (i, entry <|> t.entryOf? i)
  | .absent _ _ => .error .noEntry

/-- The directory in which the last name of a path is looked for, with that name and whether a
slash follows it.  A relative path starts in the given directory. -/
def findLastFrom (t : FileTree) (directory : Nat) (path : Path) :
    Except Errno (Nat × LastName × Bool) := do
  walkable path
  match path.names.reverse with
  | [] => .ok (t.top, .top, false)
  | last :: before =>
    match ← t.roam true (mostLinks + 1) (t.start directory path) before.reverse with
    | .absent _ _ => .error .noEntry
    | .present i _ =>
      if t.isDirectory i then
        let last :=
          if last = Path.here then .here
          else if last = Path.above then .above
          else .name last
        .ok (i, last, path.endsInSlash)
      else
        .error .notDirectory

/-- The directory in which the last name of a path is looked for, with that name and whether a
slash follows it. -/
def findLast (t : FileTree) (path : Path) : Except Errno (Nat × LastName × Bool) :=
  t.findLastFrom t.current path

/-- The number of an entry of a directory, if there is one. -/
def entry? (t : FileTree) (directory : Nat) (name : FileName) : Except Errno (Option Nat) :=
  if longestName < name.length then .error .nameTooLong
  else .ok ((t.directory? directory).bind fun d => Assoc.get? d.2 name)

/-- The tree with the content of a number changed. -/
def setContent (t : FileTree) (i : Nat) (content : Content) : FileTree :=
  { t with inodes := Assoc.adjust t.inodes i fun inode => { inode with content } }

/-- The tree with the mode of a number changed. -/
def setMode (t : FileTree) (i : Nat) (mode : Nat) : FileTree :=
  { t with inodes := Assoc.adjust t.inodes i fun inode => { inode with mode := mode % 0o10000 } }

/-- The tree with the entries of a directory changed. -/
def setEntries (t : FileTree) (i : Nat) (change : Assoc FileName Nat → Assoc FileName Nat) :
    FileTree :=
  match t.directory? i with
  | some (parent, entries) => t.setContent i (.directory parent (change entries))
  | none => t

/-- The tree with the count of entries that lead to a number changed. -/
def countLinks (t : FileTree) (i : Nat) (change : Nat → Nat) : FileTree :=
  { t with inodes := Assoc.adjust t.inodes i fun inode =>
      { inode with links := change inode.links } }

/-- The mode of a number. -/
def mode (t : FileTree) (i : Nat) : Nat :=
  ((t.inode? i).map (·.mode)).getD 0

/-- The count of entries that lead to a number. -/
def links (t : FileTree) (i : Nat) : Nat :=
  ((t.inode? i).map (·.links)).getD 0

/-- The tree with something new as an entry of a directory, and its number. -/
def create (t : FileTree) (directory : Nat) (name : FileName) (content : Content) (mode : Nat) :
    Nat × FileTree :=
  let i := t.next
  let t := { t with inodes := Assoc.set t.inodes i ⟨content, mode, 1⟩, next := i + 1 }
  (i, t.setEntries directory fun entries => Assoc.set entries name i)

/-- The tree without what is kept under a number. -/
def discard (t : FileTree) (i : Nat) : FileTree :=
  { t with inodes := Assoc.erase t.inodes i }

/-- Whether one directory is another or stands above it; the number bounds the levels. -/
def isAbove (t : FileTree) (upper : Nat) : Nat → Nat → Bool
  | 0, _ => false
  | n + 1, lower =>
    lower == upper ||
      match t.directory? lower with
      | some (parent, _) => parent != lower && isAbove t upper n parent
      | none => false

end FileTree

end MarkerWatch
