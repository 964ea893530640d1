import Mathlib.Data.List.TakeWhile
import Mathlib.Data.Prod.Lex
import Mathlib.Order.Bounds.Basic
import MarkerWatch.Release
import MarkerWatch.Proofs.Text.Digit

/-!
# The version that a release names

A version stands at a position of a text when a run of digits starts there that cannot be made
longer on either side, a dot follows, and another run of digits.  Where a further dot has a digit
after it, the run of that digit belongs to the version.  A text has at most one version at a
position.

The search tries one suffix after the other and takes no notice of what was passed over.  The first
suffix with a version in front starts at a whole run nevertheless: were the run longer to the left,
the suffix before would have had a version in front too.
-/

namespace MarkerWatch.Release

open Text

variable {cs rest digits : List Char} {i j : Nat} {c : Char} {d : Digits} {v w : Version}

/-! ## Runs in a text -/

/-- A decimal digit stands at a position of a text. -/
def DigitAt (cs : List Char) (i : Nat) : Prop :=
  ∃ c, cs[i]? = some c ∧ isDecimalDigit c = true

/-- A dot stands at a position of a text, and a digit after it. -/
def DotAt (cs : List Char) (i : Nat) : Prop :=
  cs[i]? = some '.' ∧ DigitAt cs (i + 1)

/-- A run of digits that starts at a position of a text and cannot be made longer. -/
structure RunAt (cs : List Char) (i : Nat) (digits : List Char) : Prop where
  nonempty : digits ≠ []
  digit : ∀ c ∈ digits, isDecimalDigit c = true
  here : digits <+: cs.drop i
  before : ∀ j, j + 1 = i → ¬ DigitAt cs j
  after : ¬ DigitAt cs (i + digits.length)

theorem digitAt_drop : DigitAt (cs.drop i) j ↔ DigitAt cs (i + j) := by
  rw [DigitAt, DigitAt, List.getElem?_drop]

theorem not_digitAt_nil : ¬ DigitAt [] i := by
  simp [DigitAt]

theorem digitAt_zero_cons : DigitAt (c :: cs) 0 ↔ isDecimalDigit c = true := by
  simp [DigitAt]

theorem drop_eq_cons_iff : cs.drop i = c :: rest ↔ cs[i]? = some c ∧ cs.drop (i + 1) = rest := by
  constructor
  · intro suffix
    rw [← List.head?_drop, ← List.tail_drop, suffix]
    exact ⟨rfl, rfl⟩
  · rintro ⟨first, rfl⟩
    obtain ⟨inside, rfl⟩ := List.getElem?_eq_some_iff.mp first
    exact List.drop_eq_getElem_cons inside

/-- No digit stands where a dot does. -/
theorem not_digitAt_of_dot (dot : cs[i]? = some '.') : ¬ DigitAt cs i := by
  rintro ⟨c, found, digit⟩
  cases dot.symm.trans found
  exact absurd digit (by decide)

theorem run_cons (digit : isDecimalDigit c = true) : run (c :: cs) = c :: run cs :=
  List.takeWhile_cons_of_pos digit

theorem afterRun_cons (digit : isDecimalDigit c = true) : afterRun (c :: cs) = afterRun cs :=
  List.dropWhile_cons_of_pos digit

theorem run_append_afterRun (cs : List Char) : run cs ++ afterRun cs = cs :=
  List.takeWhile_append_dropWhile

theorem run_eq_nil_iff : run cs = [] ↔ ¬ DigitAt cs 0 := by
  cases cs with
  | nil => exact ⟨fun _ => not_digitAt_nil, fun _ => rfl⟩
  | cons c cs =>
      rw [digitAt_zero_cons, run, List.takeWhile_cons]
      split
      · rename_i digit
        exact ⟨nofun, fun other => (other digit).elim⟩
      · rename_i other
        exact ⟨fun _ => other, fun _ => rfl⟩

theorem not_digitAt_afterRun : ¬ DigitAt (afterRun cs) 0 := by
  induction cs with
  | nil => exact not_digitAt_nil
  | cons c cs ih =>
      rw [afterRun, List.dropWhile_cons]
      split
      · exact ih
      · rename_i other
        rwa [digitAt_zero_cons]

/-- Digits are the run in front of a text that goes on without one. -/
theorem run_append (digit : ∀ c ∈ digits, isDecimalDigit c = true) (after : ¬ DigitAt rest 0) :
    run (digits ++ rest) = digits := by
  have nothing : run rest = [] := run_eq_nil_iff.mpr after
  rw [run] at nothing ⊢
  rw [List.takeWhile_append_of_pos digit, nothing, List.append_nil]

theorem afterRun_append (digit : ∀ c ∈ digits, isDecimalDigit c = true) (after : ¬ DigitAt rest 0) :
    afterRun (digits ++ rest) = rest := by
  have whole := run_append_afterRun (digits ++ rest)
  rwa [run_append digit after, List.append_cancel_left_eq] at whole

theorem afterRun_drop : afterRun (cs.drop i) = cs.drop (i + (run (cs.drop i)).length) := by
  have whole := run_append_afterRun (cs.drop i)
  rw [← List.drop_drop]
  exact (List.drop_left' rfl).symm.trans (congrArg (List.drop _) whole)

/-- The run at a position, if one starts there, is the one in front of what follows. -/
theorem runAt_iff :
    RunAt cs i digits ↔
      (∀ j, j + 1 = i → ¬ DigitAt cs j) ∧ DigitAt cs i ∧ run (cs.drop i) = digits := by
  have start : run (cs.drop i) ≠ [] ↔ DigitAt cs i := by
    rw [ne_eq, run_eq_nil_iff, not_not, digitAt_drop, Nat.add_zero]
  constructor
  · intro ⟨nonempty, digit, ⟨rest, suffix⟩, before, after⟩
    have same : run (cs.drop i) = digits := by
      rw [← suffix]
      apply run_append digit
      rwa [← digitAt_drop, ← suffix, ← Nat.add_zero digits.length, ← digitAt_drop,
        List.drop_left' rfl] at after
    exact ⟨before, start.mp (same ▸ nonempty), same⟩
  · rintro ⟨before, digit, rfl⟩
    refine ⟨start.mpr digit, fun c => List.mem_takeWhile_imp, List.takeWhile_prefix _, before, ?_⟩
    rw [← Nat.add_zero (i + _), ← digitAt_drop, ← afterRun_drop]
    exact not_digitAt_afterRun

/-- The dot before a run keeps it from being longer to the left. -/
theorem runAt_succ_iff (dot : cs[i]? = some '.') :
    RunAt cs (i + 1) digits ↔ DigitAt cs (i + 1) ∧ run (cs.drop (i + 1)) = digits := by
  rw [runAt_iff, and_iff_right]
  rintro j ⟨⟩
  exact not_digitAt_of_dot dot

/-! ## Versions in a text -/

/-- The digits after a further dot, if a dot stands at a position and a digit after it. -/
def PatchAt (cs : List Char) (i : Nat) : Option (List Char) → Prop
  | some digits => cs[i]? = some '.' ∧ RunAt cs (i + 1) digits
  | none => ¬ DotAt cs i

/-- The digits of a version that stands at a position of a text. -/
structure Digits.StandsAt (d : Digits) (cs : List Char) (i : Nat) : Prop where
  major : RunAt cs i d.major
  dot : cs[i + d.major.length]? = some '.'
  minor : RunAt cs (i + d.major.length + 1) d.minor
  patch : PatchAt cs (i + d.major.length + 1 + d.minor.length) d.patch

/-- A run of digits that starts at a position is followed by a dot and another digit. -/
def StartsAt (cs : List Char) (i : Nat) : Prop :=
  ∃ digits, RunAt cs i digits ∧ DotAt cs (i + digits.length)

theorem dotted?_drop_eq_some_iff :
    dotted? (cs.drop i) = some (digits, rest) ↔
      cs[i]? = some '.' ∧ RunAt cs (i + 1) digits ∧ cs.drop (i + 1 + digits.length) = rest := by
  rw [dotted?.eq_def]
  split
  · rename_i tail suffix
    obtain ⟨dot, rfl⟩ := drop_eq_cons_iff.mp suffix
    rw [runAt_succ_iff dot, and_iff_right dot]
    split
    · rename_i missing
      rw [List.isEmpty_iff, run_eq_nil_iff, digitAt_drop] at missing
      exact ⟨nofun, fun all => (missing all.1.1).elim⟩
    · rename_i digit
      rw [List.isEmpty_iff, run_eq_nil_iff, digitAt_drop, not_not] at digit
      rw [Option.some.injEq, Prod.mk.injEq, and_iff_right digit, afterRun_drop]
      constructor
      · rintro ⟨rfl, rfl⟩
        exact ⟨rfl, rfl⟩
      · rintro ⟨rfl, rfl⟩
        exact ⟨rfl, rfl⟩
  · rename_i other
    exact ⟨nofun, fun all => (other _ (drop_eq_cons_iff.mpr ⟨all.1, rfl⟩)).elim⟩

theorem dotAt_iff : DotAt cs i ↔ ∃ found, dotted? (cs.drop i) = some found := by
  constructor
  · intro ⟨dot, digit⟩
    have run := (runAt_succ_iff dot).mpr ⟨digit, rfl⟩
    exact ⟨_, dotted?_drop_eq_some_iff.mpr ⟨dot, run, rfl⟩⟩
  · intro ⟨⟨digits, rest⟩, found⟩
    have ⟨dot, run, _⟩ := dotted?_drop_eq_some_iff.mp found
    exact ⟨dot, (runAt_iff.mp run).2.1⟩

theorem patchAt_iff {patch : Option (List Char)} :
    PatchAt cs i patch ↔ (dotted? (cs.drop i)).map (·.1) = patch := by
  cases patch with
  | none =>
      rw [PatchAt, dotAt_iff, Option.map_eq_none_iff, not_exists, Option.eq_none_iff_forall_ne_some]
  | some digits =>
      rw [PatchAt, Option.map_eq_some_iff]
      constructor
      · intro ⟨dot, run⟩
        exact ⟨_, dotted?_drop_eq_some_iff.mpr ⟨dot, run, rfl⟩, rfl⟩
      · rintro ⟨⟨_, rest⟩, found, rfl⟩
        have ⟨dot, run, _⟩ := dotted?_drop_eq_some_iff.mp found
        exact ⟨dot, run⟩

theorem digitsHere?_eq_some_iff :
    digitsHere? cs = some d ↔
      run cs ≠ [] ∧ run cs = d.major ∧
        ∃ rest, dotted? (afterRun cs) = some (d.minor, rest) ∧
          (dotted? rest).map (·.1) = d.patch := by
  rw [digitsHere?]
  split
  · rename_i nothing
    rw [List.isEmpty_iff] at nothing
    exact ⟨nofun, fun all => (all.1 nothing).elim⟩
  · rename_i start
    rw [List.isEmpty_iff] at start
    rw [and_iff_right start]
    cases found : dotted? (afterRun cs) with
    | none => exact ⟨nofun, fun ⟨_, _, missing, _⟩ => nomatch missing⟩
    | some answer =>
        obtain ⟨minor, rest⟩ := answer
        simp only [Option.some.injEq]
        constructor
        · rintro rfl
          exact ⟨rfl, rest, rfl, rfl⟩
        · rintro ⟨major, _, ⟨⟩, patch⟩
          cases d
          cases major
          cases patch
          rfl

/-- A version stands at a position if it is in front of what follows and its first run is whole. -/
theorem Digits.standsAt_iff :
    d.StandsAt cs i ↔
      (∀ j, j + 1 = i → ¬ DigitAt cs j) ∧ digitsHere? (cs.drop i) = some d := by
  rw [digitsHere?_eq_some_iff, afterRun_drop]
  constructor
  · intro ⟨major, dot, minor, patch⟩
    have ⟨before, _, same⟩ := runAt_iff.mp major
    refine ⟨before, same ▸ major.nonempty, same, _, ?_, patchAt_iff.mp patch⟩
    rw [same]
    exact dotted?_drop_eq_some_iff.mpr ⟨dot, minor, rfl⟩
  · intro ⟨before, start, same, rest, found, patch⟩
    rw [ne_eq, run_eq_nil_iff, not_not, digitAt_drop] at start
    rw [same] at found
    obtain ⟨dot, minor, rfl⟩ := dotted?_drop_eq_some_iff.mp found
    exact ⟨runAt_iff.mpr ⟨before, start, same⟩, dot, minor, patchAt_iff.mpr patch⟩

theorem Digits.StandsAt.unique {other : Digits} (here : d.StandsAt cs i)
    (there : other.StandsAt cs i) : other = d :=
  Option.some.inj ((standsAt_iff.mp there).2.symm.trans (standsAt_iff.mp here).2)

/-- Where a run is followed by a dot and another digit, there is a version, and conversely.  That
digit starts a run of its own, and what follows this run settles the patch. -/
theorem startsAt_iff : StartsAt cs i ↔ ∃ d : Digits, d.StandsAt cs i := by
  constructor
  · intro ⟨digits, major, dot⟩
    obtain ⟨⟨minor, rest⟩, found⟩ := dotAt_iff.mp dot
    have ⟨dot, run, _⟩ := dotted?_drop_eq_some_iff.mp found
    let patch := dotted? (cs.drop (i + digits.length + 1 + minor.length))
    exact ⟨⟨digits, minor, patch.map (·.1)⟩, major, dot, run, patchAt_iff.mpr rfl⟩
  · intro ⟨d, major, dot, minor, _⟩
    exact ⟨d.major, major, dot, (runAt_iff.mp minor).2.1⟩

/-! ## The first version -/

theorem digitsHere?_of_no_digit (other : ¬ DigitAt cs 0) : digitsHere? cs = none := by
  rw [digitsHere?, run_eq_nil_iff.mpr other]
  rfl

/-- One more digit in front makes the major number longer. -/
theorem digitsHere?_cons (digit : isDecimalDigit c = true) (here : digitsHere? cs = some d) :
    digitsHere? (c :: cs) = some { d with major := c :: d.major } := by
  obtain ⟨_, major, found⟩ := digitsHere?_eq_some_iff.mp here
  rw [digitsHere?_eq_some_iff, run_cons digit, afterRun_cons digit, major]
  exact ⟨List.cons_ne_nil _ _, rfl, found⟩

/-- The search stops at the first suffix that has a version in front. -/
theorem firstDigits?_eq_some_iff :
    firstDigits? cs = some d ↔
      ∃ i, digitsHere? (cs.drop i) = some d ∧ ∀ j < i, digitsHere? (cs.drop j) = none := by
  induction cs with
  | nil =>
      simp only [List.drop_nil, digitsHere?_of_no_digit not_digitAt_nil, firstDigits?]
      exact ⟨nofun, fun ⟨_, found, _⟩ => nomatch found⟩
  | cons c cs ih =>
      rw [firstDigits?]
      cases here : digitsHere? (c :: cs) with
      | some digits =>
          constructor
          · rintro ⟨⟩
            exact ⟨0, here, nofun⟩
          · rintro ⟨_ | i, found, passed⟩
            · exact here.symm.trans found
            · cases here.symm.trans (passed 0 i.succ_pos)
      | none =>
          simp only [ih]
          constructor
          · intro ⟨i, found, passed⟩
            refine ⟨i + 1, found, ?_⟩
            rintro (_ | j) earlier
            · exact here
            · exact passed j (Nat.lt_of_succ_lt_succ earlier)
          · rintro ⟨_ | i, found, passed⟩
            · cases here.symm.trans found
            · exact ⟨i, found, fun j earlier => passed (j + 1) (Nat.succ_lt_succ earlier)⟩

theorem firstDigits?_eq_none_iff :
    firstDigits? cs = none ↔ ∀ i, digitsHere? (cs.drop i) = none := by
  induction cs with
  | nil => simp [firstDigits?, digitsHere?_of_no_digit not_digitAt_nil]
  | cons c cs ih =>
      rw [firstDigits?]
      cases here : digitsHere? (c :: cs) with
      | some digits => exact ⟨nofun, fun nowhere => nomatch here.symm.trans (nowhere 0)⟩
      | none =>
          simp only [ih]
          constructor
          · rintro nowhere (_ | i)
            · exact here
            · exact nowhere i
          · exact fun nowhere i => nowhere (i + 1)

/-- In the first suffix with a version in front, that version stands where the suffix starts, and no
version starts before.  With a digit before it, the suffix from that digit on would have a version
in front as well. -/
theorem standsAt_of_first
    (here : digitsHere? (cs.drop i) = some d)
    (passed : ∀ j < i, digitsHere? (cs.drop j) = none) :
    d.StandsAt cs i ∧ IsLeast {i | StartsAt cs i} i := by
  have stands : d.StandsAt cs i := by
    refine Digits.standsAt_iff.mpr ⟨?_, here⟩
    rintro j rfl ⟨c, first, digit⟩
    have longer := digitsHere?_cons digit here
    rw [← drop_eq_cons_iff.mpr ⟨first, rfl⟩, passed j j.lt_succ_self] at longer
    cases longer
  refine ⟨stands, startsAt_iff.mpr ⟨d, stands⟩, fun j start => Nat.not_lt.mp fun earlier => ?_⟩
  obtain ⟨other, stands⟩ := startsAt_iff.mp start
  cases (passed j earlier).symm.trans (Digits.standsAt_iff.mp stands).2

theorem firstDigits?_of_nowhere (nowhere : ∀ i, ¬ StartsAt cs i) : firstDigits? cs = none := by
  rw [Option.eq_none_iff_forall_ne_some]
  intro d found
  obtain ⟨i, here, passed⟩ := firstDigits?_eq_some_iff.mp found
  exact nowhere i (standsAt_of_first here passed).2.1

/-- What is found is the version at the least position at which one starts. -/
theorem firstDigits?_of_least (least : IsLeast {i | StartsAt cs i} i) :
    ∃ d : Digits, firstDigits? cs = some d ∧ d.StandsAt cs i := by
  cases found : firstDigits? cs with
  | none =>
      obtain ⟨d, stands⟩ := startsAt_iff.mp least.1
      cases (firstDigits?_eq_none_iff.mp found i).symm.trans (Digits.standsAt_iff.mp stands).2
  | some d =>
      obtain ⟨first, here, passed⟩ := firstDigits?_eq_some_iff.mp found
      have ⟨stands, leastToo⟩ := standsAt_of_first here passed
      exact ⟨d, rfl, leastToo.unique least ▸ stands⟩

theorem firstDigits?_append (other : ∀ c ∈ digits, isDecimalDigit c = false) :
    firstDigits? (digits ++ cs) = firstDigits? cs := by
  induction digits with
  | nil => rfl
  | cons c digits ih =>
      obtain ⟨first, others⟩ := List.forall_mem_cons.mp other
      have nothing : ¬ DigitAt (c :: (digits ++ cs)) 0 := by
        rw [digitAt_zero_cons, first]
        exact Bool.false_ne_true
      rw [List.cons_append, firstDigits?, digitsHere?_of_no_digit nothing]
      exact ih others

/-! ## Numbers -/

/-- The value of digits in base ten. -/
def value (digits : List Char) : Nat :=
  Nat.ofDigitChars 10 digits 0

/-- Digits that are read as a number: they are ASCII, and their value fits into thirty-two bits. -/
def Legible (digits : List Char) : Prop :=
  (∀ c ∈ digits, c.isDigit = true) ∧ value digits < 0x100000000

instance (digits : List Char) : Decidable (Legible digits) :=
  have : Decidable (∀ c ∈ digits, c.isDigit = true) := List.decidableBAll _ digits
  inferInstanceAs (Decidable (_ ∧ _))

namespace Digits

/-- The runs of digits of a version. -/
def runs (d : Digits) : List (List Char) :=
  d.major :: d.minor :: d.patch.toList

/-- Every run of a version is read as a number. -/
def Readable (d : Digits) : Prop :=
  ∀ digits ∈ d.runs, Legible digits

instance (d : Digits) : Decidable d.Readable :=
  List.decidableBAll Legible d.runs

/-- The numbers of a version are the values of its runs.  A patch that is missing counts as zero. -/
structure Denotes (d : Digits) (v : Version) : Prop where
  major : value d.major = v.major.toNat
  minor : value d.minor = v.minor.toNat
  patch : (d.patch.map value).getD 0 = v.patch.toNat

end Digits

theorem number?_eq_some_iff {n : UInt32} (nonempty : digits ≠ []) :
    number? digits = some n ↔ Legible digits ∧ value digits = n.toNat := by
  have natural_iff (m : Nat) :
      natural? 10 digits = some m ↔ (∀ c ∈ digits, c.isDigit = true) ∧ value digits = m := by
    simp only [natural?_eq_some_iff, isDigitOf_ten_iff, and_iff_right nonempty, value]
  rw [number?]
  cases found : natural? 10 digits with
  | none =>
      refine ⟨nofun, fun ⟨legible, _⟩ => ?_⟩
      cases found.symm.trans ((natural_iff _).mpr ⟨legible.1, rfl⟩)
  | some m =>
      obtain ⟨ascii, rfl⟩ := (natural_iff m).mp found
      rw [Legible, and_iff_right ascii]
      simp only
      split
      · rename_i small
        rw [and_iff_right small, Option.some.injEq]
        constructor
        · rintro rfl
          exact (UInt32.toNat_ofNat_of_lt' small).symm
        · exact fun same => same ▸ UInt32.ofNat_toNat
      · rename_i large
        exact ⟨nofun, fun all => (large all.1).elim⟩

namespace Digits

theorem readable_iff :
    d.Readable ↔ Legible d.major ∧ Legible d.minor ∧ ∀ digits ∈ d.patch, Legible digits := by
  simp [Readable, runs]

theorem version?_eq_numbers :
    d.version? = some v ↔
      number? d.major = some v.major ∧ number? d.minor = some v.minor ∧
        d.patch.elim (some 0) number? = some v.patch := by
  obtain ⟨major, minor, patch⟩ := d
  obtain ⟨vmajor, vminor, vpatch⟩ := v
  cases patch <;> simp [version?, Option.bind_eq_some_iff]

/-- Runs that can be read fit into a version. -/
theorem Readable.denotes (readable : d.Readable) : ∃ v, d.Denotes v := by
  have ⟨major, minor, patch⟩ := readable_iff.mp readable
  have last : (d.patch.map value).getD 0 < 0x100000000 := by
    cases here : d.patch with
    | none => decide
    | some digits => exact (patch digits here).2
  refine ⟨⟨UInt32.ofNat (value d.major), UInt32.ofNat (value d.minor),
    UInt32.ofNat ((d.patch.map value).getD 0)⟩, ?_, ?_, ?_⟩
  · exact (UInt32.toNat_ofNat_of_lt' major.2).symm
  · exact (UInt32.toNat_ofNat_of_lt' minor.2).symm
  · exact (UInt32.toNat_ofNat_of_lt' last).symm

namespace StandsAt

variable (stands : d.StandsAt cs i)

include stands

theorem patch_nonempty : ∀ digits ∈ d.patch, digits ≠ [] := by
  intro digits here
  have patch := stands.patch
  rw [Option.mem_def.mp here] at patch
  exact patch.2.nonempty

/-- The patch number is read as those before it are, and is zero where it is missing. -/
theorem patch_eq_some_iff {n : UInt32} :
    d.patch.elim (some 0) number? = some n ↔
      (∀ digits ∈ d.patch, Legible digits) ∧ (d.patch.map value).getD 0 = n.toNat := by
  have nonempty := stands.patch_nonempty
  cases patch : d.patch with
  | none => simp [← UInt32.toNat_inj]
  | some digits =>
      rw [Option.elim_some, number?_eq_some_iff (nonempty digits patch)]
      simp

/-- A version is read when each of its runs is, and then has their values for its numbers. -/
theorem version?_eq_some_iff : d.version? = some v ↔ d.Readable ∧ d.Denotes v := by
  rw [version?_eq_numbers, number?_eq_some_iff stands.major.nonempty,
    number?_eq_some_iff stands.minor.nonempty, stands.patch_eq_some_iff, readable_iff]
  constructor
  · intro ⟨⟨major, first⟩, ⟨minor, second⟩, patch, third⟩
    exact ⟨⟨major, minor, patch⟩, first, second, third⟩
  · intro ⟨⟨major, minor, patch⟩, first, second, third⟩
    exact ⟨⟨major, first⟩, ⟨minor, second⟩, patch, third⟩

theorem version?_eq_none_iff : d.version? = none ↔ ¬ d.Readable := by
  rw [Option.eq_none_iff_forall_ne_some]
  constructor
  · intro unread readable
    obtain ⟨v, denotes⟩ := readable.denotes
    exact unread v (stands.version?_eq_some_iff.mpr ⟨readable, denotes⟩)
  · exact fun unreadable v read => unreadable (stands.version?_eq_some_iff.mp read).1

end StandsAt

end Digits

/-! ## What is read from a text -/

theorem parse?_of_nowhere {text : String} (nowhere : ∀ i, ¬ StartsAt text.toList i) :
    parse? text = none := by
  rw [parse?, firstDigits?_of_nowhere nowhere]
  rfl

/-- The version at the least position at which one starts is read, or else none. -/
theorem parse?_of_least {text : String} (least : IsLeast {i | StartsAt text.toList i} i) :
    ∃ d : Digits,
      (∀ other : Digits, other.StandsAt text.toList i ↔ other = d) ∧
        (parse? text = none ↔ ¬ d.Readable) ∧
        ∀ v, parse? text = some v ↔ d.Readable ∧ d.Denotes v := by
  obtain ⟨d, found, stands⟩ := firstDigits?_of_least least
  rw [parse?, found, Option.bind_some]
  refine ⟨d, fun other => ⟨stands.unique, fun same => same ▸ stands⟩, ?_, fun v => ?_⟩
  · exact stands.version?_eq_none_iff
  · exact stands.version?_eq_some_iff

/-! ## Versions that are written out -/

/-- The digits with which a version is written. -/
def Version.written (v : Version) : Digits where
  major := Nat.toDigits 10 v.major.toNat
  minor := Nat.toDigits 10 v.minor.toNat
  patch := some (Nat.toDigits 10 v.patch.toNat)

theorem isDecimalDigit_of_mem_toDigits {n : Nat} :
    ∀ c ∈ Nat.toDigits 10 n, isDecimalDigit c = true :=
  fun _ member =>
    isDecimalDigit_of_isDigit (Nat.isDigit_of_mem_toDigits (by decide) (by decide) member)

theorem number?_toDigits (n : UInt32) : number? (Nat.toDigits 10 n.toNat) = some n := by
  refine (number?_eq_some_iff Nat.toDigits_ne_nil).mpr ⟨⟨?_, ?_⟩, Nat.ofDigitChars_ten_toDigits⟩
  · exact fun c member => Nat.isDigit_of_mem_toDigits (by decide) (by decide) member
  · rw [value, Nat.ofDigitChars_ten_toDigits]
    exact n.toNat_lt_size

theorem dotted?_append (nonempty : digits ≠ []) (digit : ∀ c ∈ digits, isDecimalDigit c = true)
    (after : ¬ DigitAt rest 0) : dotted? ('.' :: (digits ++ rest)) = some (digits, rest) := by
  rw [dotted?, run_append digit after, afterRun_append digit after, if_neg]
  rwa [List.isEmpty_iff]

namespace Version

theorem version?_written : v.written.version? = some v :=
  Digits.version?_eq_numbers.mpr
    ⟨number?_toDigits v.major, number?_toDigits v.minor, number?_toDigits v.patch⟩

theorem toList_text :
    v.text.toList =
      v.written.major ++ '.' :: (v.written.minor ++ '.' :: Nat.toDigits 10 v.patch.toNat) := by
  simp [text, written, Nat.toString_eq_repr, Nat.toList_repr]

/-- A version that is written out is found where it starts, if no digit follows it. -/
theorem digitsHere?_text (after : ¬ DigitAt rest 0) :
    digitsHere? (v.text.toList ++ rest) = some v.written := by
  have noDigit (tail : List Char) : ¬ DigitAt ('.' :: tail) 0 := not_digitAt_of_dot rfl
  have major : ∀ c ∈ v.written.major, isDecimalDigit c = true := isDecimalDigit_of_mem_toDigits
  rw [toList_text, List.append_assoc, List.cons_append, List.append_assoc, List.cons_append,
    digitsHere?_eq_some_iff, run_append major (noDigit _), afterRun_append major (noDigit _)]
  refine ⟨Nat.toDigits_ne_nil, rfl, '.' :: (Nat.toDigits 10 v.patch.toNat ++ rest), ?_, ?_⟩
  · exact dotted?_append Nat.toDigits_ne_nil isDecimalDigit_of_mem_toDigits (noDigit _)
  · rw [dotted?_append Nat.toDigits_ne_nil isDecimalDigit_of_mem_toDigits after]
    rfl

end Version

/-- A version is read back from what it was written into. -/
theorem parse?_text {before after : String}
    (plain : ∀ c ∈ before.toList, isDecimalDigit c = false) (ends : ¬ DigitAt after.toList 0) :
    parse? (before ++ v.text ++ after) = some v := by
  have found : firstDigits? (v.text.toList ++ after.toList) = some v.written :=
    firstDigits?_eq_some_iff.mpr ⟨0, Version.digitsHere?_text ends, nofun⟩
  rw [parse?, String.toList_append, String.toList_append, List.append_assoc,
    firstDigits?_append plain, found]
  exact Version.version?_written

/-! ## Versions in order -/

namespace Version

/-- What versions are ordered by: the major number, then the minor number, then the patch. -/
def key (v : Version) : Nat ×ₗ Nat ×ₗ Nat :=
  toLex (v.major.toNat, toLex (v.minor.toNat, v.patch.toNat))

theorem compare_eq_lt_iff : v.compare w = .lt ↔ v.key < w.key := by
  rw [compare, key, key, Ordering.then_eq_lt, Ordering.then_eq_lt, Nat.compare_eq_lt,
    Nat.compare_eq_lt, Nat.compare_eq_lt, Nat.compare_eq_eq, Nat.compare_eq_eq,
    Prod.Lex.toLex_lt_toLex, Prod.Lex.toLex_lt_toLex]

theorem isSupported_iff : v.isSupported = true ↔ oldest.key ≤ v.key := by
  rw [isSupported, bne_iff_ne, ne_eq, compare_eq_lt_iff, not_lt]

end Version

end MarkerWatch.Release
