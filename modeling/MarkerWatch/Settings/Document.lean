import MarkerWatch.Settings.Basic
import MarkerWatch.Toml.Parser

/-!
# Settings in a document

The document has at most the sections `notify` and `marker`, and these have at most the keys of the
settings.  A section may also be written as an array that gives its keys in order.  What is left out
has its default.
-/

namespace MarkerWatch.Settings

/-- The texts of a section with some keys: the given text or the default, key by key.  An array
gives the first keys in order, and what it holds beyond them does not count. -/
def section? (fields : List (String × String)) : Toml.Value → Option (List String)
  | .table entries =>
    if entries.all fun entry => (fields.lookup entry.1).isSome then
      fields.mapM fun (key, text) =>
        match entries.lookup key with
        | some value => value.text?
        | none => some text
    else
      none
  | .array items =>
    fields.mapIdx (fun i (_, text) => (items[i]?).elim (some text) Toml.Value.text?)
      |>.mapM id
  | _ => none

/-- The keys of the section `notify` with their defaults. -/
def notifyFields : List (String × String) :=
  [("root", RawSettings.default.root)]

/-- The keys of the section `marker` with their defaults. -/
def markerFields : List (String × String) :=
  [("user_mode", RawSettings.default.userMode), ("shared_mode", RawSettings.default.sharedMode)]

/-- The raw settings that a table of sections gives. -/
def rawOfTable? (table : List (String × Toml.Value)) : Option RawSettings :=
  if table.all fun entry => entry.1 == "notify" || entry.1 == "marker" then do
    let notify ← section? notifyFields ((table.lookup "notify").getD (.table []))
    let marker ← section? markerFields ((table.lookup "marker").getD (.table []))
    match notify, marker with
    | [root], [userMode, sharedMode] => some ⟨root, userMode, sharedMode⟩
    | _, _ => none
  else
    none

/-- The raw settings that a document gives. -/
def rawOfDocument (text : String) : Except Fault RawSettings :=
  match (Toml.parse? text).bind rawOfTable? with
  | some raw => .ok raw
  | none => .error .document

/-- The raw settings that the bytes of a file give; a file that is not text cannot be read. -/
def rawOfBytes (bytes : List UInt8) : Except Fault RawSettings :=
  match Text.decode? bytes with
  | some text => rawOfDocument text
  | none => .error (.io (.stated "stream did not contain valid UTF-8"))

/-- The raw settings that a configuration file gives, or the fault of reading it. -/
def rawOfFile : Except IoFailure (List UInt8) → Except Fault RawSettings
  | .ok bytes => rawOfBytes bytes
  | .error failure => .error (.io failure)

/-- The settings in force for a configuration file, if one is named, and the environment. -/
def load (file : Option (Except IoFailure (List UInt8))) (override : Option String) :
    Except Fault Settings := do
  let raw ← file.elim (.ok .default) rawOfFile
  effective raw override

end MarkerWatch.Settings
