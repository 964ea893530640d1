import MarkerWatch.Fault

/-!
# Notification names

A name without a slash is a marker file under the root directory; a name with one is a path of its
own.  Scoped names start with a dot and the name of their scope, so that names of different scopes
never meet.
-/

namespace MarkerWatch.Name

/-- The root directory when nothing else is configured. -/
def defaultRoot : String := "/opt/share/noti"

/-- The scope of names that belong to the whole system. -/
def systemScope : String := "SYS"

/-- Whether a name is a path of its own. -/
def isPath (name : String) : Bool :=
  name.toList.contains '/'

/-- The path of the marker file of a name. -/
def resolve (root : Path) (name : String) : Path :=
  if isPath name then Path.ofString name else root.join (Path.ofString name)

/-- A name is accepted when it is neither empty nor holds a zero character. -/
def check (name : String) : Except Fault Unit :=
  if name.toList.isEmpty then
    .error (.invalidArgument .emptyName)
  else if name.toList.contains (Char.ofNat 0) then
    .error (.invalidArgument (.nulInName name))
  else
    .ok ()

/-- A name within a scope. -/
def inScope (scope name : String) : String :=
  "." ++ scope ++ "_" ++ name

/-- An accepted name within the scope of a process. -/
def ofProcess (pid : Nat) (name : String) : Except Fault String :=
  (check name).map fun _ => inScope (toString pid) name

/-- An accepted name within the scope of the system. -/
def ofSystem (name : String) : Except Fault String :=
  (check name).map fun _ => inScope systemScope name

end MarkerWatch.Name
