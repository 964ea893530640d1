import MarkerWatch.Proofs.Release
import MarkerWatch.Proofs.Service.Ownership

/-!
# Admission by release

An engine is opened only where the release that its registry finds names a version with queues of
file events.  Nothing else is reported as unsupported, and where it is, nothing has happened.
-/

namespace MarkerWatch

namespace Release

variable {release : Option String}

/-- A release is there and names version 2.6.13 or a later one. -/
def Admissible (release : Option String) : Prop :=
  ∃ text v, release = some text ∧ parse? text = some v ∧ Version.key ⟨2, 6, 13⟩ ≤ v.key

/-- How a release that is not admissible is reported. -/
def reported (release : Option String) : String :=
  (release.map Text.trim).getD "unknown"

theorem check_of_admissible (admissible : Admissible release) : check release = .ok () := by
  obtain ⟨text, v, rfl, named, late⟩ := admissible
  rw [check, named]
  exact if_pos (Version.isSupported_iff.mpr late)

theorem check_of_not_admissible (fails : ¬ Admissible release) :
    check release = .error (reported release) := by
  cases release with
  | none => rfl
  | some text =>
      rw [check]
      cases named : parse? text with
      | none => rfl
      | some v =>
          refine if_neg fun supported => fails ⟨text, v, rfl, named, ?_⟩
          exact Version.isSupported_iff.mp supported

end Release

namespace Service

open Release

variable {s : Service} {r : Nat} {registry : Registry} {exhausted : Bool}

/-- Where the release is not admissible, a request to open an engine changes nothing. -/
theorem init_of_not_admissible
    (present : s.registries[r]? = some registry)
    (fails : ¬ Admissible (s.releaseFor registry.probe)) :
    s.init r exhausted =
      (.error (.unsupported (reported (s.releaseFor registry.probe))), s) := by
  rw [init, present]
  dsimp only
  rw [check_of_not_admissible fails]

/-- Where the release is admissible, a request is refused for other reasons only. -/
theorem init_of_admissible
    (present : s.registries[r]? = some registry)
    (admissible : Admissible (s.releaseFor registry.probe)) (found : String) :
    (s.init r exhausted).1 ≠ .error (.unsupported found) := by
  rw [init, present]
  dsimp only
  rw [check_of_admissible admissible]
  dsimp only
  intro refused
  split at refused
  · cases refused
  · split at refused
    · rename_i prepared
      obtain ⟨failure, rfl⟩ := Host.exists_failure_of_prepareRoot prepared
      cases refused
    · cases refused

/--
A release names the version at the least position of its text at which a whole run of digits is
followed by a dot and another digit.  It is read when each of its runs is ASCII and fits into
thirty-two bits, and no later version is tried.  So a version is read back from what it was written
into.  An engine is refused as unsupported exactly when the release is missing, names no version
that is read, or names one before 2.6.13.
-/
theorem admission_by_first_version :
    (∀ text : String,
      ((∀ i, ¬ StartsAt text.toList i) → parse? text = none) ∧
        ∀ i, IsLeast {i | StartsAt text.toList i} i →
          ∃ d : Digits,
            (∀ other : Digits, other.StandsAt text.toList i ↔ other = d) ∧
              (parse? text = none ↔ ¬ d.Readable) ∧
              ∀ v, parse? text = some v ↔ d.Readable ∧ d.Denotes v) ∧
      (∀ (v : Version) (before after : String),
        (∀ c ∈ before.toList, Text.isDecimalDigit c = false) → ¬ DigitAt after.toList 0 →
          parse? (before ++ v.text ++ after) = some v) ∧
      ∀ (s : Service) (r : Nat) (registry : Registry) (exhausted : Bool),
        s.registries[r]? = some registry →
          let release := s.releaseFor registry.probe
          ((∃ found, (s.init r exhausted).1 = .error (.unsupported found)) ↔
              ¬ Admissible release) ∧
            (¬ Admissible release →
              s.init r exhausted = (.error (.unsupported (reported release)), s)) := by
  refine ⟨fun text => ⟨parse?_of_nowhere, fun i => parse?_of_least⟩,
    fun v before after => parse?_text, fun s r registry exhausted present => ⟨⟨?_, ?_⟩, ?_⟩⟩
  · intro ⟨found, refused⟩ admissible
    exact init_of_admissible present admissible found refused
  · intro fails
    exact ⟨_, congrArg Prod.fst (init_of_not_admissible present fails)⟩
  · exact init_of_not_admissible present

/-- A release whose first digit is followed by two dots, and one that is a patch too early. -/
theorem admission_of_winding_release :
    let text := "linux-1..2.6.13-4.x"
    let s (release : String) : Service :=
      (fresh .lowestFree []).addRegistry (Path.ofString "/srv") (.fixed release)
    parse? "linux" = none ∧
      parse? text = some ⟨2, 6, 13⟩ ∧
      parse? "4294967296.1 2.7" = none ∧
      parse? ("v" ++ Version.text ⟨2, 6, 12⟩ ++ ".9") = some ⟨2, 6, 12⟩ ∧
      (∀ found, ((s text).init 0 false).1 ≠ .error (.unsupported found)) ∧
      (s "v2.6.12.9 ").init 0 false = (.error (.unsupported "v2.6.12.9"), s "v2.6.12.9 ") := by
  intro text s
  have ⟨names, reads, admits⟩ := admission_by_first_version
  have nowhere (i : Nat) : ¬ StartsAt "linux".toList i := by
    intro start
    obtain ⟨d, stands⟩ := startsAt_iff.mp start
    have found := (Digits.standsAt_iff.mp stands).2
    rw [firstDigits?_eq_none_iff.mp (by decide) i] at found
    cases found
  have named : parse? text = some ⟨2, 6, 13⟩ := by
    have here : digitsHere? (text.toList.drop 9) = some ⟨['2'], ['6'], some ['1', '3']⟩ := by decide
    have ⟨stands, least⟩ := standsAt_of_first here (by decide)
    obtain ⟨d, only, _, read⟩ := (names text).2 9 least
    cases (only _).mp stands
    exact (read _).mpr ⟨by decide, rfl, rfl, rfl⟩
  have tooLarge : parse? "4294967296.1 2.7" = none := by
    have here : digitsHere? ("4294967296.1 2.7".toList.drop 0) =
        some ⟨"4294967296".toList, ['1'], none⟩ := by decide
    have ⟨stands, least⟩ := standsAt_of_first here nofun
    obtain ⟨d, only, unread, _⟩ := (names _).2 0 least
    cases (only _).mp stands
    exact unread.mpr (by decide)
  have plain : ∀ c ∈ "v".toList, Text.isDecimalDigit c = false := by
    intro c member
    cases List.mem_singleton.mp member
    rfl
  have written := reads ⟨2, 6, 12⟩ "v" ".9" plain (not_digitAt_of_dot rfl)
  refine ⟨(names _).1 nowhere, named, tooLarge, written, ?_, ?_⟩
  · intro found refused
    refine (admits (s text) 0 _ false rfl).1.mp ⟨found, refused⟩ ⟨text, _, rfl, named, ?_⟩
    exact le_refl _
  · refine (admits (s "v2.6.12.9 ") 0 _ false rfl).2 ?_
    rintro ⟨_, v, ⟨⟩, early, late⟩
    cases early.symm.trans (reads ⟨2, 6, 12⟩ "v" ".9 " plain (not_digitAt_of_dot rfl))
    exact absurd late (by decide)

end Service

end MarkerWatch
