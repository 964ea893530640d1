import MarkerWatch.Host.Files

/-!
# The root directory

An engine is opened only when its root directory is there and can be opened.  The directory and
those above it are created if need be, from the lowest one that can be created down to the root.
-/

namespace MarkerWatch

namespace Host

/-- The host with a new directory at a path. -/
def addDirectory (h : Host) (path : Path) : Except IoFailure Host :=
  onPath path (h.makeDirectory path)

/-- Whether a directory that could not be created is there already. -/
def alreadyThere (h : Host) (path : Path) (failure : IoFailure) : Bool :=
  failure == .os .alreadyExists && h.isDirectory path

/-- The host with the lowest directory that could be created, and the paths below it that are still
missing, uppermost first.  The paths are given lowest first. -/
def climb (h : Host) (missing : List Path) : List Path → Except IoFailure (List Path) × Host
  | [] => (.ok missing, h)
  | path :: above =>
    match h.addDirectory path with
    | .ok h => (.ok missing, h)
    | .error failure =>
      if failure = .os .noEntry then climb h (path :: missing) above
      else if h.alreadyThere path failure then (.ok missing, h)
      else (.error failure, h)

/-- The host with directories at some paths, each created after those before it. -/
def descend (h : Host) : List Path → Except IoFailure Unit × Host
  | [] => (.ok (), h)
  | path :: below =>
    match h.addDirectory path with
    | .ok h => descend h below
    | .error failure =>
      if h.alreadyThere path failure then descend h below else (.error failure, h)

/-- The host with a directory at a path and at every path above it. -/
def addDirectories (h : Host) (path : Path) : Except IoFailure Unit × Host :=
  match h.climb [] (if path.isEmpty then [] else path :: path.ancestors.drop 1) with
  | (.error failure, h) => (.error failure, h)
  | (.ok missing, h) => h.descend missing

/-- The host with a root directory that can be opened. -/
def prepareRoot (h : Host) (root : Path) : Except Fault Unit × Host :=
  match h.addDirectories root with
  | (.error failure, h) => (.error (.rootUnavailable root failure), h)
  | (.ok (), h) =>
    match onPath root (h.openToRead root) with
    | .error failure => (.error (.rootUnavailable root failure), h)
    | .ok h => (.ok (), h)

end Host

end MarkerWatch
