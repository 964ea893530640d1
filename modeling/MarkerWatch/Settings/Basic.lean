import MarkerWatch.Name
import MarkerWatch.Settings.Mode

/-!
# Settings

Raw settings are three texts.  They become settings when the root is not blank and both modes are
octal; the root is then trimmed.  A variable of the environment may replace the root, but not a root
that was refused.
-/

namespace MarkerWatch

/-- Settings as they are written. -/
structure RawSettings where
  root : String
  userMode : String
  sharedMode : String
  deriving DecidableEq, Repr

/-- Settings in force. -/
structure Settings where
  root : Path
  userMode : Nat
  sharedMode : Nat
  deriving DecidableEq, Repr

/-- The settings of an empty document. -/
def RawSettings.default : RawSettings :=
  ⟨Name.defaultRoot, "0644", "0666"⟩

namespace Settings

/-- The settings when nothing is configured. -/
def default : Settings :=
  ⟨Path.ofString Name.defaultRoot, 0o644, 0o666⟩

/-- The root directory that a text gives, or the fault when it is blank. -/
def rootOf (fault : SettingFault) (text : String) : Except Fault Path :=
  if (Text.trimChars text.toList).isEmpty then .error (.config fault)
  else .ok (Path.ofString (Text.trim text))

/-- The settings that raw settings give.  The first fault in the order root, user mode, shared mode
is reported. -/
def ofRaw (raw : RawSettings) : Except Fault Settings := do
  let root ← rootOf .emptyRoot raw.root
  let userMode ← Mode.parse "marker.user_mode" raw.userMode
  let sharedMode ← Mode.parse "marker.shared_mode" raw.sharedMode
  return ⟨root, userMode, sharedMode⟩

/-- Settings with the root that the environment gives, if it gives one. -/
def overrideRoot (settings : Settings) : Option String → Except Fault Settings
  | none => .ok settings
  | some text => do
    let root ← rootOf .emptyOverride text
    return { settings with root }

/-- The settings in force for raw settings and the environment. -/
def effective (raw : RawSettings) (override : Option String) : Except Fault Settings := do
  let settings ← ofRaw raw
  settings.overrideRoot override

end Settings

/-- Who may publish a marker. -/
inductive Access
  | user
  | shared
  deriving DecidableEq, Repr

/-- The mode of a marker with some access. -/
def Access.mode (settings : Settings) : Access → Nat
  | .user => settings.userMode
  | .shared => settings.sharedMode

/-- The path of the marker of a key: the key, which is not empty and holds no slash, under the
root. -/
def Settings.markerPath (settings : Settings) (key : String) : Except Failure Path :=
  if key.toList.isEmpty || Name.isPath key then
    .error ⟨[], .refusal ("bad key string: " ++ Text.quote key)⟩
  else
    .ok (settings.root.join (Path.ofString key))

end MarkerWatch
