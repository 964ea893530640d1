import MarkerWatch.Proofs.Text.Blank
import MarkerWatch.Proofs.Text.Digit
import MarkerWatch.Settings.Mode

/-!
# What is read as a mode

White space around a mode and a mark `0o` before it are taken away, in this order and each once, and
what is left is read as a numeral.  A numeral may have any number of digits, so it may write a
number that has no room in a word.  Such a number is refused like a numeral that is none, and a
number that has room, but more than twelve bits, is refused as too large.
-/

namespace MarkerWatch.Mode

variable {field value : String} {numeral : List Char} {m n : Nat}

/-- A numeral writes a number by octal digits, one at least, after an optional plus sign. -/
def Writes (numeral : List Char) (n : Nat) : Prop :=
  ∃ digits, (numeral = digits ∨ numeral = '+' :: digits) ∧ digits ≠ [] ∧
    (∀ c ∈ digits, '0' ≤ c ∧ c ≤ '7') ∧ Nat.ofDigitChars 8 digits 0 = n

/-- The numeral of a text: its body, without the mark where the body starts with one. -/
def NumeralOf (value : String) (numeral : List Char) : Prop :=
  ∃ body, Text.Trims value.toList body ∧
    (body = '0' :: 'o' :: numeral ∨ body = numeral ∧ ¬ ['0', 'o'] <+: body)

/-! ## Numerals -/

theorem withoutMark_cases (body : List Char) :
    body = '0' :: 'o' :: withoutMark body ∨ body = withoutMark body ∧ ¬ ['0', 'o'] <+: body := by
  rw [withoutMark.eq_def]
  split
  · exact .inl rfl
  · rename_i unmarked
    refine .inr ⟨rfl, ?_⟩
    rintro ⟨rest, rfl⟩
    exact unmarked rest rfl

/-- A text has one numeral. -/
theorem numeralOf_iff :
    NumeralOf value numeral ↔ numeral = withoutMark (Text.trimChars value.toList) := by
  constructor
  · rintro ⟨body, trimmed, marked⟩
    rw [← Text.trims_iff.mp trimmed]
    rcases marked with rfl | ⟨rfl, unmarked⟩
    · rfl
    · rcases withoutMark_cases body with marked | ⟨same, -⟩
      · exact absurd ⟨_, marked.symm⟩ unmarked
      · exact same
  · rintro rfl
    exact ⟨_, Text.trims_trimChars _, withoutMark_cases _⟩

theorem isDigitOf_eight_iff {c : Char} : Text.IsDigitOf 8 c ↔ '0' ≤ c ∧ c ≤ '7' := by
  have order (a b : Char) : a ≤ b ↔ a.toNat ≤ b.toNat := Iff.rfl
  have zero : '0'.toNat = 48 := rfl
  have seven : '7'.toNat = 55 := rfl
  have nine : '9'.toNat = 57 := rfl
  rw [Text.IsDigitOf, Char.isDigit_iff_toNat, order, order]
  omega

theorem withoutPlus_cases (numeral : List Char) :
    numeral = withoutPlus numeral ∨ numeral = '+' :: withoutPlus numeral := by
  rw [withoutPlus.eq_def]
  split
  · exact .inr rfl
  · exact .inl rfl

/-- A plus sign is no digit, so what starts with a digit is read from there. -/
theorem withoutPlus_of_digits
    {digits : List Char}
    (octal : ∀ c ∈ digits, '0' ≤ c ∧ c ≤ '7') :
    withoutPlus digits = digits := by
  rcases withoutPlus_cases digits with same | signed
  · exact same.symm
  · have plus := octal '+' (by rw [signed]; exact List.mem_cons_self)
    exact absurd plus (by decide)

theorem writes_iff : Writes numeral n ↔ Text.natural? 8 (withoutPlus numeral) = some n := by
  simp only [Text.natural?_eq_some_iff, isDigitOf_eight_iff]
  constructor
  · rintro ⟨digits, rfl | rfl, written⟩
    · rw [withoutPlus_of_digits written.2.1]
      exact written
    · exact written
  · intro written
    exact ⟨_, withoutPlus_cases numeral, written⟩

/-- A numeral writes one number. -/
theorem Writes.unique (first : Writes numeral m) (second : Writes numeral n) : m = n :=
  Option.some.inj ((writes_iff.mp first).symm.trans (writes_iff.mp second))

theorem octal32?_eq_some_iff {w : UInt32} :
    octal32? numeral = some w ↔ Writes numeral w.toNat := by
  rw [octal32?, Text.word?_eq_some_iff, writes_iff]
  rfl

/-- No word is read exactly when the number, if one is written, has no room in a word. -/
theorem octal32?_eq_none_iff :
    octal32? numeral = none ↔ ∀ n, Writes numeral n → UInt32.size ≤ n := by
  rw [Option.eq_none_iff_forall_ne_some]
  constructor
  · intro nothing n written
    refine Nat.le_of_not_lt fun room => ?_
    have same : (UInt32.ofNat n).toNat = n := UInt32.toNat_ofNat_of_lt' room
    exact nothing _ (octal32?_eq_some_iff.mpr (same.symm ▸ written))
  · intro large w read
    exact absurd (large _ (octal32?_eq_some_iff.mp read)) (Nat.not_le_of_lt w.toNat_lt_size)

/-! ## Modes -/

/-- A mode is read where the number that is written has at most twelve bits. -/
theorem parse_eq_ok_iff :
    parse field value = .ok m ↔
      Writes (withoutMark (Text.trimChars value.toList)) m ∧ m ≤ 0o7777 := by
  rw [parse]
  generalize withoutMark (Text.trimChars value.toList) = numeral
  cases read : octal32? numeral with
  | none =>
      refine ⟨nofun, fun ⟨written, small⟩ => ?_⟩
      have large := octal32?_eq_none_iff.mp read m written
      exact absurd (Nat.le_trans large small) (by decide)
  | some w =>
      have written := octal32?_eq_some_iff.mp read
      dsimp only
      split
      · rename_i above
        refine ⟨nofun, fun ⟨other, small⟩ => ?_⟩
        rw [other.unique written] at small
        exact absurd small (Nat.not_le_of_lt above)
      · rename_i small
        rw [Except.ok.injEq]
        constructor
        · rintro rfl
          exact ⟨written, Nat.le_of_not_lt small⟩
        · exact fun ⟨other, _⟩ => written.unique other

/-- A text is refused as a setting, for one of two reasons that exclude each other. -/
theorem parse_eq_error_iff {fault : Fault} :
    parse field value = .error fault ↔
      let numeral := withoutMark (Text.trimChars value.toList)
      (fault = .config (.modeTooLarge field value) ∧
          ∃ n, Writes numeral n ∧ 0o7777 < n ∧ n < UInt32.size) ∨
        (fault = .config (.notOctal field value) ∧ ∀ n, Writes numeral n → UInt32.size ≤ n) := by
  rw [parse]
  generalize withoutMark (Text.trimChars value.toList) = numeral
  cases read : octal32? numeral with
  | none =>
      have large := octal32?_eq_none_iff.mp read
      constructor
      · rintro ⟨⟩
        exact .inr ⟨rfl, large⟩
      · rintro (⟨-, n, written, -, room⟩ | ⟨rfl, -⟩)
        · exact absurd (large n written) (Nat.not_le_of_lt room)
        · rfl
  | some w =>
      have written := octal32?_eq_some_iff.mp read
      dsimp only
      split
      · rename_i above
        constructor
        · rintro ⟨⟩
          exact .inl ⟨rfl, _, written, above, w.toNat_lt_size⟩
        · rintro (⟨rfl, -⟩ | ⟨-, large⟩)
          · rfl
          · exact absurd (large _ written) (Nat.not_le_of_lt w.toNat_lt_size)
      · rename_i small
        refine ⟨nofun, ?_⟩
        rintro (⟨-, n, other, above, -⟩ | ⟨-, large⟩)
        · rw [other.unique written] at above
          exact absurd above small
        · exact absurd (large _ written) (Nat.not_le_of_lt w.toNat_lt_size)

/--
A text is read as a mode exactly when its numeral writes a number of at most twelve bits, and the
mode is that number.  Every other text is refused as a setting: as too large when the number has
room in a word, and as no octal mode when it has none or when nothing is written.
-/
theorem parse_reads_octal (field value : String) :
    ∃ numeral, (∀ other, NumeralOf value other ↔ other = numeral) ∧
      (∀ m, parse field value = .ok m ↔ Writes numeral m ∧ m ≤ 0o7777) ∧
      ∀ fault, parse field value = .error fault ↔
        (fault = .config (.modeTooLarge field value) ∧
            ∃ n, Writes numeral n ∧ 0o7777 < n ∧ n < UInt32.size) ∨
          (fault = .config (.notOctal field value) ∧ ∀ n, Writes numeral n → UInt32.size ≤ n) :=
  ⟨_, fun _ => numeralOf_iff, fun _ => parse_eq_ok_iff, fun _ => parse_eq_error_iff⟩

/-- The word that overflow would leave is a mode. -/
example :
    parse "mode" "40000000644" = .error (.config (.notOctal "mode" "40000000644")) :=
  rfl

end MarkerWatch.Mode
