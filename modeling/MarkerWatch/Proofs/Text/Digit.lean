import MarkerWatch.Text.Digit

/-!
# What digits write

Digits are read one after the other, each added to what those before it have written, and the first
character that is no digit of the base ends the reading without a number.  What is read is the value
that the digits have in the base, whatever their number: none is lost, and leading zeros count for
nothing.

A word is read in the same way, with a check after each product and each sum.  Since what was read
never shrinks, the checks give up on exactly those digits whose value has no room in a word.
-/

namespace MarkerWatch.Text

variable {base acc n : Nat} {c : Char} {cs : List Char}

/-- An ASCII digit of a base of at most ten. -/
def IsDigitOf (base : Nat) (c : Char) : Prop :=
  c.isDigit = true ∧ c.toNat - '0'.toNat < base

theorem asciiDigit?_eq_some_iff :
    asciiDigit? c = some n ↔ c.isDigit = true ∧ c.toNat - '0'.toNat = n := by
  rw [asciiDigit?, Char.isDigit_iff_toNat]
  split
  · rename_i inside
    rw [Option.some.injEq]
    exact ⟨fun same => ⟨inside, same⟩, fun all => all.2⟩
  · rename_i outside
    exact ⟨nofun, fun all => (outside all.1).elim⟩

/-- One more digit multiplies what was read by the base and adds its own value. -/
theorem digitsValue?_cons :
    digitsValue? base acc (c :: cs) = some n ↔
      IsDigitOf base c ∧
        digitsValue? base (base * acc + (c.toNat - '0'.toNat)) cs = some n := by
  rw [digitsValue?, IsDigitOf]
  cases found : asciiDigit? c with
  | none =>
      refine ⟨nofun, fun ⟨⟨digit, _⟩, _⟩ => ?_⟩
      rw [asciiDigit?_eq_some_iff.mpr ⟨digit, rfl⟩] at found
      cases found
  | some value =>
      obtain ⟨digit, rfl⟩ := asciiDigit?_eq_some_iff.mp found
      simp only [digit, true_and, Nat.mul_comm acc base]
      split
      · rename_i below
        simp only [below, true_and]
      · rename_i large
        exact ⟨nofun, fun all => (large all.1).elim⟩

theorem digitsValue?_eq_some_iff :
    digitsValue? base acc cs = some n ↔
      (∀ c ∈ cs, IsDigitOf base c) ∧ Nat.ofDigitChars base cs acc = n := by
  induction cs generalizing acc with
  | nil => simp [digitsValue?]
  | cons c cs ih =>
      rw [digitsValue?_cons, ih, Nat.ofDigitChars_cons, List.forall_mem_cons, and_assoc]

/-- A number is read from one or more digits of the base, and it is their value. -/
theorem natural?_eq_some_iff :
    natural? base cs = some n ↔
      cs ≠ [] ∧ (∀ c ∈ cs, IsDigitOf base c) ∧ Nat.ofDigitChars base cs 0 = n := by
  cases cs with
  | nil => simp [natural?]
  | cons c cs =>
      rw [natural?.eq_2 _ _ (List.cons_ne_nil c cs), digitsValue?_eq_some_iff]
      simp only [ne_eq, reduceCtorEq, not_false_eq_true, true_and]

/-! ## Words -/

theorem product?_eq_some_iff {a b w : UInt32} :
    product? a b = some w ↔ a.toNat * b.toNat = w.toNat := by
  rw [product?]
  split
  · rename_i room
    rw [Option.some.injEq, ← UInt32.toNat_inj, UInt32.toNat_mul, Nat.mod_eq_of_lt room]
  · rename_i large
    exact ⟨nofun, fun same => (large (same ▸ w.toNat_lt_size)).elim⟩

theorem sum?_eq_some_iff {a b w : UInt32} :
    sum? a b = some w ↔ a.toNat + b.toNat = w.toNat := by
  rw [sum?]
  split
  · rename_i room
    rw [Option.some.injEq, ← UInt32.toNat_inj, UInt32.toNat_add, Nat.mod_eq_of_lt room]
  · rename_i large
    exact ⟨nofun, fun same => (large (same ▸ w.toNat_lt_size)).elim⟩

/-- What was read never shrinks. -/
theorem le_of_digitsValue? (read : digitsValue? base acc cs = some n) : acc ≤ n := by
  induction cs generalizing acc with
  | nil => exact Nat.le_of_eq (Option.some.inj read)
  | cons c cs ih =>
      obtain ⟨⟨-, below⟩, rest⟩ := digitsValue?_cons.mp read
      calc
        acc ≤ base * acc := Nat.le_mul_of_pos_left acc (by omega)
        _ ≤ base * acc + (c.toNat - '0'.toNat) := Nat.le_add_right _ _
        _ ≤ n := ih rest

/-- One more digit makes room for itself, or there is no word. -/
theorem digitsWord?_cons {radix word w : UInt32} :
    digitsWord? radix word (c :: cs) = some w ↔
      IsDigitOf radix.toNat c ∧
        ∃ next : UInt32, radix.toNat * word.toNat + (c.toNat - '0'.toNat) = next.toNat ∧
          digitsWord? radix next cs = some w := by
  rw [digitsWord?, IsDigitOf]
  cases found : asciiDigit? c with
  | none =>
      refine ⟨nofun, fun ⟨⟨digit, _⟩, _⟩ => ?_⟩
      rw [asciiDigit?_eq_some_iff.mpr ⟨digit, rfl⟩] at found
      cases found
  | some value =>
      obtain ⟨digit, rfl⟩ := asciiDigit?_eq_some_iff.mp found
      simp only [digit, true_and]
      split
      · rename_i below
        have small : (UInt32.ofNat (c.toNat - '0'.toNat)).toNat = c.toNat - '0'.toNat :=
          UInt32.toNat_ofNat_of_lt' (Nat.lt_trans below radix.toNat_lt_size)
        simp only [below, true_and, Option.bind_eq_bind, Option.bind_eq_some_iff,
          product?_eq_some_iff, sum?_eq_some_iff, small]
        constructor
        · rintro ⟨shifted, times, next, plus, rest⟩
          exact ⟨next, by rw [← plus, ← times, Nat.mul_comm], rest⟩
        · rintro ⟨next, whole, rest⟩
          have room : word.toNat * radix.toNat < UInt32.size := by
            rw [Nat.mul_comm]
            exact Nat.lt_of_le_of_lt (Nat.le_add_right _ _) (whole ▸ next.toNat_lt_size)
          have times := UInt32.toNat_ofNat_of_lt' room
          exact ⟨UInt32.ofNat _, times.symm, next, by rw [times, Nat.mul_comm, whole], rest⟩
      · rename_i large
        exact ⟨nofun, fun all => (large all.1).elim⟩

/-- The checked reading gives a word exactly when the value of the digits has room in one. -/
theorem digitsWord?_eq_some_iff {radix word w : UInt32} :
    digitsWord? radix word cs = some w ↔
      digitsValue? radix.toNat word.toNat cs = some w.toNat := by
  induction cs generalizing word with
  | nil => rw [digitsWord?, digitsValue?, Option.some.injEq, Option.some.injEq, UInt32.toNat_inj]
  | cons c cs ih =>
      rw [digitsWord?_cons, digitsValue?_cons]
      refine and_congr_right fun _ => ⟨?_, fun read => ?_⟩
      · rintro ⟨next, whole, rest⟩
        rw [whole]
        exact ih.mp rest
      · have room := Nat.lt_of_le_of_lt (le_of_digitsValue? read) w.toNat_lt_size
        have whole := UInt32.toNat_ofNat_of_lt' room
        exact ⟨UInt32.ofNat _, whole.symm, ih.mpr (by rw [whole, read])⟩

theorem word?_eq_some_iff {radix w : UInt32} :
    word? radix cs = some w ↔ natural? radix.toNat cs = some w.toNat := by
  cases cs with
  | nil => exact ⟨nofun, nofun⟩
  | cons c cs =>
      rw [word?.eq_2 _ _ (List.cons_ne_nil c cs), natural?.eq_2 _ _ (List.cons_ne_nil c cs)]
      exact digitsWord?_eq_some_iff

/-! ## Bases -/

/-- In base ten, every ASCII digit is one of the base. -/
theorem isDigitOf_ten_iff : IsDigitOf 10 c ↔ c.isDigit = true := by
  refine ⟨And.left, fun digit => ⟨digit, ?_⟩⟩
  have ⟨_, last⟩ := Char.isDigit_iff_toNat.mp digit
  have nine : '9'.toNat = 57 := rfl
  have zero : '0'.toNat = 48 := rfl
  omega

/-- An ASCII digit is a decimal digit. -/
theorem isDecimalDigit_of_isDigit (digit : c.isDigit = true) : isDecimalDigit c = true :=
  isDecimalDigit_of_asciiDigit? (asciiDigit?_eq_some_iff.mpr ⟨digit, rfl⟩)

end MarkerWatch.Text
