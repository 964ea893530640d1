import MarkerWatch.Host.Files
import MarkerWatch.Settings.Basic
import MarkerWatch.Command.Line

/-!
# Marker files and commands on them

A name can be published only when its marker file is there.  A command, other than the one that
listens, comes down to one step on a marker file, which `Command.plan` gives.
-/

namespace MarkerWatch

namespace Marker

/-- The mode with which a marker is created, before it is set to the one that was asked for. -/
def firstMode : Nat := 0o644

/-- The failure to create a marker. -/
def creationFailed (path : Path) (failure : IoFailure) : Failure :=
  ⟨["creating marker " ++ path.quoted], .io failure⟩

/-- The failure to set the mode of a marker. -/
def modeFailed (path : Path) (mode : Nat) (failure : IoFailure) : Failure :=
  ⟨["setting mode " ++ Text.octal mode ++ " on " ++ path.quoted], .io failure⟩

/-- The failure to remove a marker. -/
def removalFailed (path : Path) (failure : IoFailure) : Failure :=
  ⟨["removing marker " ++ path.quoted], .io failure⟩

/-- The host with a marker of some mode, which is created if need be. -/
def create (h : Host) (path : Path) (mode : Nat) : Except Failure Unit × Host :=
  match if h.has path then .ok h else Host.onPath path (h.touchFile path firstMode) with
  | .error failure => (.error (creationFailed path failure), h)
  | .ok h =>
    match Host.onPath path (h.setMode path mode) with
    | .error failure => (.error (modeFailed path mode failure), h)
    | .ok h => (.ok (), h)

/-- The host without a marker. -/
def remove (h : Host) (path : Path) : Except Failure Host :=
  (Host.onPath path (h.removeFile path)).mapError (removalFailed path)

end Marker

/-- What a command comes down to under some settings. -/
inductive Plan
  | createMarker (path : Path) (mode : Nat)
  | removeMarker (path : Path)
  | publish (root : Path) (name : String)
  | listen (root : Path) (names : List String) (poll : Bool)
  deriving DecidableEq, Repr

/-- What a command comes down to.  Only the superuser may create markers. -/
def Command.plan (settings : Settings) (superuser : Bool) : Command → Except Failure Plan
  | .set name application => do
    unless superuser do
      throw ⟨[], .refusal "only the root user can create notification markers"⟩
    let access := if application then Access.shared else Access.user
    let path ← settings.markerPath name
    return .createMarker path (access.mode settings)
  | .unset name => do
    let path ← settings.markerPath name
    return .removeMarker path
  | .publish name => .ok (.publish settings.root name)
  | .listen names poll => .ok (.listen settings.root names poll)

/-- What was being done when a name could not be published. -/
def publishing (name : String) : String :=
  "publishing " ++ Text.quote name

/-- What was being done when a name could not be subscribed to. -/
def subscribingTo (name : String) : String :=
  "subscribing to " ++ Text.quote name

end MarkerWatch
