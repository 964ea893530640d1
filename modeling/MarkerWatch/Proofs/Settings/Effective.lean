import MarkerWatch.Proofs.Settings.Mode
import MarkerWatch.Settings.Document

/-!
# Settings in force

Raw settings and the variable of the environment are looked at in a fixed order: the root, the mode
of users, the shared mode, and last the variable.  The first fault that is found is reported, so a
variable does not help where the root that it would replace is blank.  Without faults, the root comes
from the variable if it is set, and the modes come from the raw settings.

Whatever is in force was looked at, wherever it came from.
-/

namespace MarkerWatch.Settings

variable {raw : RawSettings} {override : Option String} {settings : Settings}

/-- The fault of a text that may not be blank. -/
def blankFault? (cause : SettingFault) (text : String) : Option Fault :=
  if Text.blank text then some (.config cause) else none

/-- The fault of a text that has to be a mode. -/
def modeFault? (field value : String) : Option Fault :=
  match Mode.parse field value with
  | .ok _ => none
  | .error fault => some fault

/-- Everything that is wrong, in the order in which it is looked for. -/
def faults (raw : RawSettings) (override : Option String) : List Fault :=
  (blankFault? .emptyRoot raw.root).toList ++
    (modeFault? "marker.user_mode" raw.userMode).toList ++
    (modeFault? "marker.shared_mode" raw.sharedMode).toList ++
    (override.bind (blankFault? .emptyOverride)).toList

/-- A root spelled by a text that is not empty and has no white space at its ends. -/
def ProperRoot (root : Path) : Prop :=
  ∃ text : String, root = Path.ofString text ∧ text ≠ "" ∧
    (∀ c, text.toList.head? = some c → Text.isBlank c = false) ∧
    ∀ c, text.toList.getLast? = some c → Text.isBlank c = false

/-! ## Roots -/

theorem trimChars_ne_nil_iff {text : String} :
    Text.trimChars text.toList ≠ [] ↔ Text.blank text = false := by
  rw [ne_eq, Text.trimChars_eq_nil_iff, ← List.all_eq_true, ← Text.blank, Bool.not_eq_true]

theorem rootOf_of_blank
    {text : String} (cause : SettingFault)
    (blank : Text.blank text = true) :
    rootOf cause text = .error (.config cause) := by
  have nothing : Text.trimChars text.toList = [] :=
    Text.trimChars_eq_nil_iff.mpr (List.all_eq_true.mp blank)
  rw [rootOf, nothing]
  rfl

theorem rootOf_of_visible
    {text : String} (cause : SettingFault)
    (visible : Text.blank text = false) :
    rootOf cause text = .ok (Path.ofString (Text.trim text)) := by
  have something := trimChars_ne_nil_iff.mpr visible
  rw [rootOf, if_neg (by simpa using something)]

theorem overrideRoot_of_blank
    {text : String}
    (blank : Text.blank text = true) :
    settings.overrideRoot (some text) = .error (.config .emptyOverride) := by
  rw [overrideRoot, rootOf_of_blank _ blank]
  rfl

theorem overrideRoot_of_visible
    {text : String}
    (visible : Text.blank text = false) :
    settings.overrideRoot (some text) =
      .ok { settings with root := Path.ofString (Text.trim text) } := by
  rw [overrideRoot, rootOf_of_visible _ visible]
  rfl

theorem properRoot_trim
    {text : String}
    (visible : Text.blank text = false) :
    ProperRoot (Path.ofString (Text.trim text)) := by
  refine ⟨_, rfl, ?_, ?_, ?_⟩
  · intro nothing
    apply trimChars_ne_nil_iff.mpr visible
    rw [← Text.toList_trim, nothing]
    rfl
  · rw [Text.toList_trim]
    exact Text.head?_trimChars _
  · rw [Text.toList_trim]
    exact Text.getLast?_trimChars _

/-! ## The order of the checks -/

theorem faults_eq_nil_iff :
    faults raw override = [] ↔
      Text.blank raw.root = false ∧
        (∃ m, Mode.parse "marker.user_mode" raw.userMode = .ok m) ∧
        (∃ m, Mode.parse "marker.shared_mode" raw.sharedMode = .ok m) ∧
        ∀ text ∈ override, Text.blank text = false := by
  have blank (cause : SettingFault) (text : String) :
      blankFault? cause text = none ↔ Text.blank text = false := by
    rw [blankFault?]
    cases Text.blank text <;> simp
  have mode (field value : String) :
      modeFault? field value = none ↔ ∃ m, Mode.parse field value = .ok m := by
    rw [modeFault?]
    cases Mode.parse field value <;> simp
  have variableFault :
      override.bind (blankFault? .emptyOverride) = none ↔
        ∀ text ∈ override, Text.blank text = false := by
    cases override <;> simp [blank]
  simp only [faults, List.append_eq_nil_iff, Option.toList_eq_nil_iff, blank, mode, variableFault,
    and_assoc]

/-- The first fault is the answer, and without faults the settings are in force. -/
theorem effective_cases (raw : RawSettings) (override : Option String) :
    (∃ fault others, faults raw override = fault :: others ∧
        effective raw override = .error fault) ∨
      faults raw override = [] ∧
        ∃ userMode sharedMode,
          Mode.parse "marker.user_mode" raw.userMode = .ok userMode ∧
            Mode.parse "marker.shared_mode" raw.sharedMode = .ok sharedMode ∧
            effective raw override =
              .ok ⟨Path.ofString (Text.trim (override.getD raw.root)), userMode, sharedMode⟩ := by
  rw [effective, ofRaw, faults, modeFault?, modeFault?]
  cases blank : Text.blank raw.root with
  | true =>
      rw [rootOf_of_blank _ blank, blankFault?, if_pos blank]
      exact .inl ⟨_, _, rfl, rfl⟩
  | false =>
      rw [rootOf_of_visible _ blank, blankFault?, if_neg (by simp [blank])]
      cases Mode.parse "marker.user_mode" raw.userMode with
      | error fault => exact .inl ⟨_, _, rfl, rfl⟩
      | ok userMode =>
          cases Mode.parse "marker.shared_mode" raw.sharedMode with
          | error fault => exact .inl ⟨_, _, rfl, rfl⟩
          | ok sharedMode =>
              cases override with
              | none => exact .inr ⟨rfl, _, _, rfl, rfl, rfl⟩
              | some text =>
                  rw [Option.bind_some, blankFault?]
                  cases blank : Text.blank text with
                  | true => exact .inl ⟨_, [], rfl, overrideRoot_of_blank blank⟩
                  | false => exact .inr ⟨rfl, _, _, rfl, rfl, overrideRoot_of_visible blank⟩

/-- Settings are in force exactly without faults. -/
theorem effective_eq_ok_iff :
    effective raw override = .ok settings ↔
      faults raw override = [] ∧
        settings.root = Path.ofString (Text.trim (override.getD raw.root)) ∧
        Mode.parse "marker.user_mode" raw.userMode = .ok settings.userMode ∧
        Mode.parse "marker.shared_mode" raw.sharedMode = .ok settings.sharedMode := by
  rcases effective_cases raw override with ⟨fault, others, found, refused⟩ | ⟨none, accepted⟩
  · rw [refused, found]
    exact ⟨nofun, fun all => nomatch all.1⟩
  · obtain ⟨userMode, sharedMode, user, shared, inForce⟩ := accepted
    rw [inForce, user, shared, none]
    constructor
    · rintro ⟨⟩
      exact ⟨rfl, rfl, rfl, rfl⟩
    · rintro ⟨-, root, sameUser, sameShared⟩
      cases sameUser
      cases sameShared
      rw [← root]

theorem effective_eq_error_iff {fault : Fault} :
    effective raw override = .error fault ↔ (faults raw override).head? = some fault := by
  rcases effective_cases raw override with ⟨first, others, found, refused⟩ | ⟨none, accepted⟩
  · rw [refused, found, Except.error.injEq, List.head?_cons, Option.some.injEq]
  · obtain ⟨userMode, sharedMode, -, -, inForce⟩ := accepted
    rw [inForce, none]
    exact ⟨nofun, nofun⟩

/-- Whichever root is in force has been looked at. -/
theorem properRoot_of_effective
    (inForce : effective raw override = .ok settings) :
    ProperRoot settings.root := by
  obtain ⟨none, root, -, -⟩ := effective_eq_ok_iff.mp inForce
  obtain ⟨written, -, -, given⟩ := faults_eq_nil_iff.mp none
  rw [root]
  apply properRoot_trim
  cases override with
  | none => exact written
  | some text => exact given text rfl

/-- What is loaded is in force for some raw settings. -/
theorem exists_effective_of_load
    {file : Option (Except IoFailure (List UInt8))}
    (loaded : load file override = .ok settings) :
    ∃ raw, effective raw override = .ok settings := by
  rw [load] at loaded
  cases read : file.elim (.ok .default) rawOfFile with
  | error fault =>
      rw [read] at loaded
      cases loaded
  | ok raw =>
      rw [read] at loaded
      exact ⟨raw, loaded⟩

/--
Settings are in force exactly when the root that is written is not blank, both modes are read, and
the variable is not set to a blank text.  The root is then the variable where it is set, and the
written one otherwise, in either case without white space around it.  The modes are those that are
written, whatever the variable says.  Otherwise the first fault is reported, in the order of root,
mode of users, shared mode and variable.

So whatever file and variable settings are loaded from, their root is spelled by a text that is not
empty and has no white space at its ends, and their modes have at most twelve bits.
-/
theorem effective_by_source :
    (∀ (raw : RawSettings) (override : Option String),
      ((∃ settings, effective raw override = .ok settings) ↔
        Text.blank raw.root = false ∧
          (∃ m, Mode.parse "marker.user_mode" raw.userMode = .ok m) ∧
          (∃ m, Mode.parse "marker.shared_mode" raw.sharedMode = .ok m) ∧
          ∀ text ∈ override, Text.blank text = false) ∧
        (∀ settings, effective raw override = .ok settings →
          (∃ root, Text.Trims (override.getD raw.root).toList root ∧
              settings.root = Path.ofString (String.ofList root)) ∧
            Mode.parse "marker.user_mode" raw.userMode = .ok settings.userMode ∧
            Mode.parse "marker.shared_mode" raw.sharedMode = .ok settings.sharedMode) ∧
        ∀ fault, effective raw override = .error fault ↔
          (faults raw override).head? = some fault) ∧
      ∀ file override settings, load file override = .ok settings →
        ProperRoot settings.root ∧ settings.userMode ≤ 0o7777 ∧
          settings.sharedMode ≤ 0o7777 := by
  refine ⟨fun raw override => ⟨?_, ?_, fun fault => effective_eq_error_iff⟩, ?_⟩
  · rw [← faults_eq_nil_iff]
    constructor
    · rintro ⟨settings, inForce⟩
      exact (effective_eq_ok_iff.mp inForce).1
    · intro none
      rcases effective_cases raw override with ⟨fault, others, found, -⟩ | ⟨-, accepted⟩
      · rw [none] at found
        cases found
      · obtain ⟨userMode, sharedMode, -, -, inForce⟩ := accepted
        exact ⟨_, inForce⟩
  · intro settings inForce
    obtain ⟨-, root, user, shared⟩ := effective_eq_ok_iff.mp inForce
    exact ⟨⟨_, Text.trims_trimChars _, root⟩, user, shared⟩
  · intro file override settings loaded
    obtain ⟨raw, inForce⟩ := exists_effective_of_load loaded
    obtain ⟨-, -, user, shared⟩ := effective_eq_ok_iff.mp inForce
    exact ⟨properRoot_of_effective inForce, (Mode.parse_eq_ok_iff.mp user).2,
      (Mode.parse_eq_ok_iff.mp shared).2⟩

/-- Both sources have white space around their roots, and a blank root is not replaced. -/
theorem effective_of_padded_variable :
    let raw : RawSettings := ⟨"\t/srv/noti ", "0o+0600", " 00000666"⟩
    let settings : Settings := ⟨Path.ofString "/home/my noti", 0o600, 0o666⟩
    effective raw (some "\u3000/home/my noti\n") = .ok settings ∧
      (∃ root, Text.Trims "\u3000/home/my noti\n".toList root ∧
        settings.root = Path.ofString (String.ofList root)) ∧
      effective { raw with root := " " } (some "/home") = .error (.config .emptyRoot) ∧
      load none (some " /home") = .ok ⟨Path.ofString "/home", 0o644, 0o666⟩ ∧
      ProperRoot (Path.ofString "/home") := by
  intro raw settings
  have inForce : effective raw (some "\u3000/home/my noti\n") = .ok settings := by
    have written : Text.blank "\t/srv/noti " = false := rfl
    have user : Mode.parse "marker.user_mode" "0o+0600" = .ok 0o600 := rfl
    have shared : Mode.parse "marker.shared_mode" " 00000666" = .ok 0o666 := rfl
    have given : ∀ text ∈ some "\u3000/home/my noti\n", Text.blank text = false := by
      rintro text ⟨⟩
      rfl
    have none : faults raw (some "\u3000/home/my noti\n") = [] :=
      faults_eq_nil_iff.mpr ⟨written, ⟨_, user⟩, ⟨_, shared⟩, given⟩
    have trimmed : Text.trim "\u3000/home/my noti\n" = "/home/my noti" := rfl
    exact effective_eq_ok_iff.mpr ⟨none, congrArg Path.ofString trimmed.symm, user, shared⟩
  have loaded : load none (some " /home") = .ok ⟨Path.ofString "/home", 0o644, 0o666⟩ := rfl
  have blank : blankFault? .emptyRoot " " = some (.config .emptyRoot) := rfl
  have ⟨ofSource, ofLoaded⟩ := effective_by_source
  refine ⟨inForce, ((ofSource _ _).2.1 settings inForce).1, ((ofSource _ _).2.2 _).mpr ?_, loaded,
    (ofLoaded _ _ _ loaded).1⟩
  rw [faults, blank]
  rfl

end MarkerWatch.Settings
