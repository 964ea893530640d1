import MarkerWatch.Fault
import MarkerWatch.Text.Blank

/-!
# Octal modes

The permission modes in settings are texts: octal digits, after an optional `0o` and an optional
plus sign, with white space around them.  A mode has at most twelve bits.
-/

namespace MarkerWatch.Mode

/-- The largest mode. -/
def largest : Nat := 0o7777

/-- The characters without one leading `0o`. -/
def withoutMark : List Char → List Char
  | '0' :: 'o' :: rest => rest
  | cs => cs

/-- The characters without one leading plus sign. -/
def withoutPlus : List Char → List Char
  | '+' :: rest => rest
  | cs => cs

/-- The word that octal digits write after an optional plus sign. -/
def octal32? (cs : List Char) : Option UInt32 :=
  Text.word? 8 (withoutPlus cs)

/-- The mode that a field of the settings gives. -/
def parse (field value : String) : Except Fault Nat :=
  match octal32? (withoutMark (Text.trimChars value.toList)) with
  | none => .error (.config (.notOctal field value))
  | some mode =>
    if largest < mode.toNat then .error (.config (.modeTooLarge field value)) else .ok mode.toNat

end MarkerWatch.Mode
