import MarkerWatch.Host.Root
import MarkerWatch.Marker
import MarkerWatch.Proofs.Path

/-!
# Where keys lead

A key is refused when it is empty or holds a slash, since a marker is to lie in the root directory
under the key itself.  That keeps a key from naming more than one entry, but not from naming an
entry that every directory has.  The keys `.` and `..` pass: they lead to the root directory and to
the one above it, and with them the commands that set and unset markers reach what is no marker.

Every other key that passes leads to the entry of that name, right below the root directory.
-/

namespace MarkerWatch

/-- The key whose marker a command creates or removes. -/
def Command.key? : Command → Option String
  | .set key _ => some key
  | .unset key => some key
  | .publish _ | .listen _ _ => none

/-- What a plan creates, sets the mode of, or removes. -/
def Plan.marker? : Plan → Option Path
  | .createMarker path _ => some path
  | .removeMarker path => some path
  | .publish _ _ | .listen _ _ _ => none

namespace Settings

variable {settings : Settings} {key : String} {path : Path}

/-- A key passes when it has characters, none of which is a slash. -/
theorem markerPath_eq_ok_iff :
    settings.markerPath key = .ok path ↔
      key ≠ "" ∧ '/' ∉ key.toList ∧ path = settings.root.join (Path.ofString key) := by
  rw [markerPath]
  split
  · rename_i refused
    rw [Bool.or_eq_true, List.isEmpty_iff, String.toList_eq_nil_iff, Name.isPath,
      List.contains_iff_mem] at refused
    constructor
    · rintro ⟨⟩
    · rintro ⟨something, noSlash, -⟩
      exact (refused.elim something noSlash).elim
  · rename_i passed
    rw [Bool.or_eq_true, not_or, List.isEmpty_iff, String.toList_eq_nil_iff, Name.isPath,
      List.contains_iff_mem] at passed
    rw [Except.ok.injEq, eq_comm]
    exact ⟨fun same => ⟨passed.1, passed.2, same⟩, fun all => all.2.2⟩

/-- A key that passes is entered from where the root leads. -/
theorem normal_of_markerPath
    (passes : settings.markerPath key = .ok path) :
    path.normal = settings.root.normal.enter (Text.encode key) := by
  obtain ⟨something, noSlash, rfl⟩ := markerPath_eq_ok_iff.mp passes
  apply Path.normal_join
  · exact fun nothing => something (Text.encode_injective (nothing.trans rfl))
  · exact fun member => noSlash (Text.mem_of_mem_encode (by decide) rfl member)

theorem encode_eq_here_iff : Text.encode key = Path.here ↔ key = "." :=
  ⟨fun same => Text.encode_injective (same.trans rfl), fun same => same ▸ rfl⟩

theorem encode_eq_above_iff : Text.encode key = Path.above ↔ key = ".." :=
  ⟨fun same => Text.encode_injective (same.trans rfl), fun same => same ▸ rfl⟩

/-- A command on a key plans to reach the marker of that key and nothing else. -/
theorem marker?_of_plan
    (passes : settings.markerPath key = .ok path)
    {superuser : Bool} {command : Command} {plan : Plan}
    (about : command.key? = some key)
    (planned : command.plan settings superuser = .ok plan) :
    plan.marker? = some path := by
  cases command with
  | set name application =>
      cases about
      rw [Command.plan, passes] at planned
      cases superuser with
      | false => cases planned
      | true =>
          cases planned
          rfl
  | unset name =>
      cases about
      rw [Command.plan, passes] at planned
      cases planned
      rfl
  | publish name => cases about
  | listen names poll => cases about

/--
A key that passes leads below the root directory, whatever that is, exactly when it is neither `.`
nor `..`.  It then leads to the entry of the root directory that has the key for its name.  The key
`.` leads to the root directory itself, and the key `..` to where one gets from there by going up.

What a command on the key creates, sets the mode of, or removes, is at this path.
-/
theorem markerPath_below_root_iff (passes : settings.markerPath key = .ok path) :
    let root := settings.root.normal
    (path.normal.Below root ↔ key ≠ "." ∧ key ≠ "..") ∧
      (path.normal =
        if key = "." then root
        else if key = ".." then root.up
        else ⟨root.absolute, root.names ++ [Text.encode key]⟩) ∧
      ∀ (superuser : Bool) (command : Command) (plan : Plan),
        command.key? = some key → command.plan settings superuser = .ok plan →
          plan.marker? = some path := by
  intro root
  have leads := normal_of_markerPath passes
  refine ⟨?_, ?_, fun superuser command plan => marker?_of_plan passes⟩
  · rw [leads, Path.Components.enter_below_iff, ne_eq, ne_eq, encode_eq_here_iff,
      encode_eq_above_iff]
  · rw [leads, Path.Components.enter]
    simp only [encode_eq_here_iff, encode_eq_above_iff]
    rfl

/-- A name in a root directory that is spelled with a way up and a final slash. -/
theorem markerPath_below_winding_root :
    let settings : Settings := { Settings.default with root := Path.ofString "/srv/./x/../noti/" }
    settings.markerPath "power" = .ok (Path.ofString "/srv/./x/../noti/power") ∧
      (Path.ofString "/srv/./x/../noti/power").normal =
        (Path.ofString "/srv/noti/power").components ∧
      (Path.ofString "/srv/./x/../noti/power").normal.Below settings.root.normal := by
  intro settings
  have passes : settings.markerPath "power" = .ok (Path.ofString "/srv/./x/../noti/power") := rfl
  have ⟨below, leads, _⟩ := markerPath_below_root_iff passes
  exact ⟨passes, leads, below.mpr (by decide)⟩

/-- The host on which nothing is there but the root directory and those above it. -/
def rootOnly : Host :=
  ((Host.fresh .lowestFree).prepareRoot Settings.default.root).2

/--
The key `..` passes, though it leads out of the root directory.  To set it changes the mode of the
directory above to that of a marker.
-/
theorem markerPath_leaves_root :
    let path := Path.ofString "/opt/share/noti/.."
    let above := Path.ofString "/opt/share"
    Settings.default.markerPath ".." = .ok path ∧
      path.normal = above.normal ∧
      ¬ path.normal.Below Settings.default.root.normal ∧
      (Command.set ".." false).plan Settings.default true = .ok (.createMarker path 0o644) ∧
      rootOnly.status? above = some (.directory 0o755) ∧
      (Marker.create rootOnly path 0o644).2.status? above = some (.directory 0o644) := by
  intro path above
  have leads : path.normal = Settings.default.root.normal.up := rfl
  refine ⟨rfl, rfl, ?_, rfl, rfl, rfl⟩
  rw [leads]
  exact Path.Components.not_up_below _

end Settings

end MarkerWatch
