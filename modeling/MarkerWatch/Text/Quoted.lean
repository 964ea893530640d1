import MarkerWatch.Text.Digit
import MarkerWatch.Text.Shown
import MarkerWatch.Text.Utf8

/-!
# Quoted text

How messages show texts and paths: in double quotes, with escapes for the quote, the backslash, the
usual controls and every hidden character.  A byte that belongs to no character is shown by its
two hexadecimal digits.
-/

namespace MarkerWatch.Text

/-- A character as it stands inside quotes. -/
def quoteChar (c : Char) : List Char :=
  if c = '"' then ['\\', '"']
  else if c = '\\' then ['\\', '\\']
  else if c = '\n' then ['\\', 'n']
  else if c = '\r' then ['\\', 'r']
  else if c = '\t' then ['\\', 't']
  else if c = Char.ofNat 0 then ['\\', '0']
  else if isHidden c then ['\\', 'u', '\x7b'] ++ Nat.toDigits 16 c.toNat ++ ['\x7d']
  else [c]

/-- An upper-case hexadecimal digit. -/
def upperHexDigit (n : Nat) : Char :=
  if n < 10 then Char.ofNat ('0'.toNat + n) else Char.ofNat ('A'.toNat + (n - 10))

/-- A stray byte as it stands inside quotes. -/
def quoteByte (byte : UInt8) : List Char :=
  ['\\', 'x', upperHexDigit (byte.toNat / 16), upperHexDigit (byte.toNat % 16)]

/-- A text in quotes. -/
def quote (s : String) : String :=
  String.ofList ('"' :: s.toList.flatMap quoteChar ++ ['"'])

/-- A piece of a byte string as it stands inside quotes. -/
def quoteUnit : Unit8 → List Char
  | .char c => quoteChar c
  | .stray byte => quoteByte byte

/-- A byte string in quotes. -/
def quoteBytes (bytes : List UInt8) : String :=
  String.ofList ('"' :: (units bytes).flatMap quoteUnit ++ ['"'])

end MarkerWatch.Text
