import MarkerWatch.Text.Quoted

/-!
# Paths

A path is a byte string in which slashes separate names.  Two spellings denote the same path when
their components agree: repeated slashes, names `.` after the first and a final slash do not count.
-/

namespace MarkerWatch

/-- A path as its bytes. -/
structure Path where
  bytes : List UInt8
  deriving DecidableEq, Repr, Inhabited

namespace Path

/-- The byte that separates names. -/
def slash : UInt8 := 0x2F

/-- The name of the directory itself. -/
def here : List UInt8 := [0x2E]

/-- The name of the directory above. -/
def above : List UInt8 := [0x2E, 0x2E]

/-- The path that a text spells. -/
def ofString (s : String) : Path :=
  ⟨Text.encode s⟩

/-- The text that a path spells, if its bytes are text. -/
def text? (p : Path) : Option String :=
  Text.decode? p.bytes

/-- How messages show a path. -/
def quoted (p : Path) : String :=
  Text.quoteBytes p.bytes

/-- Whether a path has no bytes. -/
def isEmpty (p : Path) : Bool :=
  p.bytes.isEmpty

/-- Whether a path starts at the root of the file tree. -/
def isAbsolute (p : Path) : Bool :=
  p.bytes.head? == some slash

/-- Whether a path ends in a slash. -/
def endsInSlash (p : Path) : Bool :=
  p.bytes.getLast? == some slash

/-- Whether a path holds a zero byte, which no system call takes. -/
def hasNul (p : Path) : Bool :=
  p.bytes.contains 0

/-- A path under a directory.  An absolute path stands for itself, and nothing is put before a path
under the empty directory. -/
def join (dir name : Path) : Path :=
  if name.isAbsolute then name
  else if dir.isEmpty || dir.endsInSlash then ⟨dir.bytes ++ name.bytes⟩
  else ⟨dir.bytes ++ slash :: name.bytes⟩

/-- The parts of a byte string between slashes. -/
def splitBytes : List UInt8 → List (List UInt8)
  | [] => [[]]
  | b :: rest =>
    if b = slash then [] :: splitBytes rest
    else
      match splitBytes rest with
      | [] => [[b]]
      | part :: parts => (b :: part) :: parts

/-- The names of a path in order, empty parts left out. -/
def names (p : Path) : List (List UInt8) :=
  (splitBytes p.bytes).filter (!·.isEmpty)

/-- What a path denotes, whatever its spelling: whether it is absolute, and its names.  A name `.`
counts only at the start of a relative path. -/
structure Components where
  absolute : Bool
  names : List (List UInt8)
  deriving DecidableEq, Repr

/-- The components of a path. -/
def components (p : Path) : Components :=
  match p.isAbsolute, p.names with
  | true, names => ⟨true, names.filter (· != here)⟩
  | false, [] => ⟨false, []⟩
  | false, first :: names => ⟨false, first :: names.filter (· != here)⟩

/-- Names written with one slash between each two. -/
def spell : List (List UInt8) → List UInt8
  | [] => []
  | [name] => name
  | name :: rest => name ++ slash :: spell rest

/-- The plainest spelling of some components. -/
def Components.path (c : Components) : Path :=
  ⟨if c.absolute then slash :: spell c.names else spell c.names⟩

/-- A path and the paths above it, from the path itself up to the one with a single name. -/
def ancestors (p : Path) : List Path :=
  let c := p.components
  (List.range c.names.length).map fun n =>
    Components.path ⟨c.absolute, c.names.take (c.names.length - n)⟩

@[simp]
theorem bytes_ofString (s : String) : (ofString s).bytes = Text.encode s :=
  rfl

/-- Texts that spell the same path are equal. -/
theorem ofString_injective {s t : String} (h : ofString s = ofString t) : s = t :=
  Text.encode_injective (congrArg Path.bytes h)

end Path

end MarkerWatch
