import MarkerWatch.Marker
import MarkerWatch.Settings.Document

/-!
# The program

The command line on the files of the real host.  What is to be done is decided by `Command.plan`;
here it is only carried out.  The runtime offers no queue of file events, so a command that listens
is refused.
-/

namespace MarkerWatch.Program

/-- The code of a failed system call, which the runtime may give negated. -/
def errnoOf (code : UInt32) : Errno :=
  ⟨if code < 0x80000000 then code.toNat else (0 - code).toNat⟩

/-- The failure that an error of the runtime stands for. -/
def failureOf : IO.Error → IoFailure
  | .alreadyExists _ code _ | .otherError code _ | .resourceBusy code _
  | .resourceVanished code _ | .unsupportedOperation code _ | .hardwareFault code _
  | .unsatisfiedConstraints code _ | .illegalOperation code _ | .protocolError code _
  | .timeExpired code _ | .interrupted _ code _ | .noFileOrDirectory _ code _
  | .invalidArgument _ code _ | .permissionDenied _ code _ | .resourceExhausted _ code _
  | .inappropriateType _ code _ | .noSuchThing _ code _ => .os (errnoOf code)
  | .unexpectedEof => .stated "failed to fill whole buffer"
  | .userError reason => .stated reason

/-- The outcome of a step on files. -/
def attempt {α : Type} (step : IO α) : IO (Except IoFailure α) := do
  try
    return .ok (← step)
  catch e =>
    return .error (failureOf e)

/-- The text of a path.  A path that is no text is not found. -/
def spelled (path : Path) : String :=
  path.text?.getD ""

/-- Whether the program runs for the superuser. -/
def superuser : IO Bool := do
  match ← attempt (IO.FS.lines "/proc/self/status") with
  | .ok lines => return lines.any (·.startsWith "Uid:\t0\t")
  | .error _ => return false

/-- Opens a file to be emptied, and closes it again. -/
def empty (path : Path) : IO Unit := do
  let handle ← IO.FS.Handle.mk (spelled path) .readWrite
  handle.truncate

/-- Creates a file if there is none. -/
def ensure (path : Path) : IO Unit := do
  match ← attempt (IO.FS.Handle.mk (spelled path) .read) with
  | .ok _ => return ()
  | .error _ => let _ ← IO.FS.Handle.mk (spelled path) .append

/-- Carries out what a command comes down to. -/
def carryOut : Plan → IO (Except Failure Unit)
  | .createMarker path mode => do
    match ← attempt (ensure path) with
    | .error failure => return .error (Marker.creationFailed path failure)
    | .ok () =>
      let outcome ← attempt (IO.Prim.setAccessRights (spelled path) mode.toUInt32)
      return outcome.mapError (Marker.modeFailed path mode)
  | .removeMarker path => do
    let outcome ← attempt (IO.FS.removeFile (spelled path))
    return outcome.mapError (Marker.removalFailed path)
  | .publish root name => do
    let outcome ← match Name.check name with
      | .error fault => pure (.error fault)
      | .ok () => do
        let outcome ← attempt (empty (Name.resolve root name))
        pure (outcome.mapError Fault.io)
    return outcome.mapError fun fault => (Failure.ofFault fault).within (publishing name)
  | .listen _ _ _ => return .error ⟨[], .refusal "no queue of file events to listen on"⟩

/-- Runs a command. -/
def run (arguments : Arguments) : IO (Except Failure Unit) := do
  let file ← match arguments.config with
    | none => pure none
    | some path => do
      let outcome ← attempt (IO.FS.readBinFile path)
      pure (some (outcome.map (·.toList)))
  match Settings.load file (← IO.getEnv rootVariable) with
  | .error fault => return .error (.ofFault fault)
  | .ok settings =>
    match arguments.command.plan settings (← superuser) with
    | .error failure => return .error failure
    | .ok plan => carryOut plan

end MarkerWatch.Program

open MarkerWatch in
def main (args : List String) : IO UInt32 := do
  match CommandLine.parse args with
  | .error fault =>
    if fault.isError then
      IO.eprintln "usage: notiwatch [--config PATH] [--log-level LEVEL] set|unset|publish|listen"
      return 1
    else
      IO.println "usage: notiwatch [--config PATH] [--log-level LEVEL] set|unset|publish|listen"
      return 0
  | .ok arguments =>
    match ← Program.run arguments with
    | .ok () => return 0
    | .error failure =>
      IO.eprintln (failure.announcement Handle.text)
      return 1
