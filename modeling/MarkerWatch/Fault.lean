import MarkerWatch.Errno
import MarkerWatch.Path
import MarkerWatch.Record
import MarkerWatch.Release

/-!
# Faults

Every way in which an operation of the service can fail, as a cause.  The wording of a cause is
`Fault.message` and the code that stands for it is `Fault.errno`; nothing else in the library words
a fault.
-/

namespace MarkerWatch

/-- What is wrong with an argument. -/
inductive ArgumentFault
  | emptyName
  | nulInName (name : String)
  | emptyPath
  | nulInPath (path : Path)
  | negativeHandle (handle : Handle)
  | interest (mask : Mask)
  | stated (reason : String)
  deriving DecidableEq, Repr

/-- What is wrong with a setting. -/
inductive SettingFault
  | emptyRoot
  | emptyOverride
  | notOctal (field value : String)
  | modeTooLarge (field value : String)
  | stated (reason : String)
  deriving DecidableEq, Repr

/-- Why an operation failed. -/
inductive Fault
  | invalidArgument (cause : ArgumentFault)
  | badHandle (handle : Handle)
  | alreadyExists (path : Path)
  | notFound (path : Path)
  | alreadyInProgress (handle : Handle)
  | unsupported (found : String)
  | rootUnavailable (path : Path) (cause : IoFailure)
  | io (cause : IoFailure)
  | overflow (cause : RecordFault)
  | config (cause : SettingFault)
  | document
  deriving DecidableEq, Repr

/-- The variable that overrides the root directory. -/
def rootVariable : String := "NOTIWATCH_ROOT"

/-- How a fault in an argument is written. -/
def ArgumentFault.text (shown : Handle → String) : ArgumentFault → String
  | .emptyName => "notification name must not be empty"
  | .nulInName name => "notification name " ++ Text.quote name ++ " contains a NUL byte"
  | .emptyPath => "notification path must not be empty"
  | .nulInPath path => "path " ++ path.quoted ++ " contains a NUL byte"
  | .negativeHandle handle => "negative handle " ++ shown handle
  | .interest mask =>
    "interest mask " ++ mask.text ++ " must be a non-empty set of event kinds"
  | .stated reason => reason

/-- How a fault in a setting is written. -/
def SettingFault.text : SettingFault → String
  | .emptyRoot => "[notify].root must not be empty"
  | .emptyOverride => rootVariable ++ " is set but empty"
  | .notOctal field value =>
    field ++ " must be an octal mode (got " ++ Text.quote value ++ ")"
  | .modeTooLarge field value =>
    field ++ " is out of range (got " ++ Text.quote value ++ ", max 07777)"
  | .stated reason => reason

namespace Fault

/-- The code that stands for a fault. A failed system call keeps its own. -/
def errno : Fault → Errno
  | .invalidArgument _ | .config _ | .document => .invalid
  | .badHandle _ => .badDescriptor
  | .alreadyExists _ | .alreadyInProgress _ => ⟨114⟩
  | .notFound _ => .noEntry
  | .unsupported _ => .notPermitted
  | .rootUnavailable _ cause => cause.errno?.getD .accessDenied
  | .io cause => cause.errno?.getD ⟨5⟩
  | .overflow _ => ⟨75⟩

/-- How a fault is written, given how handles are shown. -/
def message (shown : Handle → String) : Fault → String
  | .invalidArgument cause => "Invalid argument: " ++ cause.text shown
  | .badHandle handle => "Non-registered notification handle: " ++ shown handle
  | .alreadyExists path => "Subscriber already registered for " ++ path.quoted
  | .notFound path => "No matching subscriber for " ++ path.quoted
  | .alreadyInProgress handle =>
    "Another handler already in progress for handle " ++ shown handle
  | .unsupported found =>
    "inotify requires kernel version >= " ++ Release.Version.oldest.text ++ " (host reports " ++
      Text.quote found ++ ")"
  | .rootUnavailable path cause =>
    "Notification root " ++ path.quoted ++ " unavailable: " ++ cause.text
  | .io cause => "IO error: " ++ cause.text
  | .overflow cause => "Malformed inotify record: " ++ cause.text
  | .config cause => "Configuration error: " ++ cause.text
  | .document => "TOML parsing error: the document does not describe settings"

/-- The failure that a fault stands for, if it stands for one. -/
def source? : Fault → Option IoFailure
  | .rootUnavailable _ cause | .io cause => some cause
  | _ => none

end Fault

/-- What a command failed of: a fault, a failed file operation, or a plain refusal. -/
inductive Cause
  | fault (fault : Fault)
  | io (failure : IoFailure)
  | refusal (reason : String)
  deriving DecidableEq, Repr

/-- Why a command failed: the cause and what was being done, outermost first. -/
structure Failure where
  context : List String
  cause : Cause
  deriving DecidableEq, Repr

namespace Failure

/-- A fault as the failure of a command. -/
def ofFault (fault : Fault) : Failure :=
  ⟨[], .fault fault⟩

/-- A failure seen from further outside. -/
def within (f : Failure) (doing : String) : Failure :=
  { f with context := doing :: f.context }

/-- The fault that a command failed of, if it was one. -/
def fault? (f : Failure) : Option Fault :=
  match f.cause with
  | .fault fault => some fault
  | _ => none

/-- The texts of a failure from the outermost to the innermost. -/
def chain (shown : Handle → String) (f : Failure) : List String :=
  f.context ++
    match f.cause with
    | .fault fault => fault.message shown :: (fault.source?.map (·.text)).toList
    | .io failure => [failure.text]
    | .refusal reason => [reason]

/-- The lines of a list of causes: one alone is only indented, several are numbered. -/
def causeLines : List String → List String
  | [] => []
  | [cause] => ["    " ++ cause]
  | causes => causes.mapIdx fun i cause => "    " ++ toString i ++ ": " ++ cause

/-- A failure as a report of several lines. -/
def report (shown : Handle → String) (f : Failure) : String :=
  match f.chain shown with
  | [] => ""
  | [first] => first
  | first :: causes => first ++ "\n\nCaused by:\n" ++ "\n".intercalate (causeLines causes)

/-- How the program ends with a failure. -/
def announcement (shown : Handle → String) (f : Failure) : String :=
  "notiwatch error: " ++ f.report shown

end Failure

end MarkerWatch
