/-!
# UTF-8

Byte strings read as text.  A byte string is cut into characters and into bytes that belong to no
character; a text is its own encoding, so the bytes of a text always come back as that text.
-/

namespace MarkerWatch.Text

/-- One piece of a byte string: a character, or a byte that is part of none. -/
inductive Unit8
  | char (c : Char)
  | stray (byte : UInt8)
  deriving DecidableEq, Repr

/-- Whether a byte can follow the first byte of a longer character. -/
def isTail (byte : UInt8) : Bool :=
  0x80 ≤ byte && byte ≤ 0xBF

/-- The six bits that a following byte carries. -/
def tailBits (byte : UInt8) : Nat :=
  byte.toNat % 0x40

/-- The character at the front of a byte string and the number of bytes it takes.  Overlong forms,
surrogates and code points past the last plane are no characters. -/
def firstChar? : List UInt8 → Option (Char × Nat)
  | [] => none
  | a :: rest =>
    if a < 0x80 then
      some (Char.ofNat a.toNat, 1)
    else
      match rest with
      | [] => none
      | b :: rest =>
        if 0xC2 ≤ a && a ≤ 0xDF && isTail b then
          some (Char.ofNat (a.toNat % 0x20 * 0x40 + tailBits b), 2)
        else
          match rest with
          | [] => none
          | c :: rest =>
            if isTail b && isTail c &&
                ((a == 0xE0 && 0xA0 ≤ b) || (0xE1 ≤ a && a ≤ 0xEC) || (a == 0xED && b ≤ 0x9F) ||
                  a == 0xEE || a == 0xEF) then
              some (Char.ofNat ((a.toNat % 0x10 * 0x40 + tailBits b) * 0x40 + tailBits c), 3)
            else
              match rest with
              | [] => none
              | d :: _ =>
                if isTail b && isTail c && isTail d &&
                    ((a == 0xF0 && 0x90 ≤ b) || (0xF1 ≤ a && a ≤ 0xF3) ||
                      (a == 0xF4 && b ≤ 0x8F)) then
                  some
                    (Char.ofNat
                      (((a.toNat % 0x08 * 0x40 + tailBits b) * 0x40 + tailBits c) * 0x40 +
                        tailBits d),
                      4)
                else
                  none

/-- The pieces of a byte string, with the number of bytes still to be skipped because they belong
to the character before. -/
def unitsFrom : Nat → List UInt8 → List Unit8
  | _, [] => []
  | skip + 1, _ :: rest => unitsFrom skip rest
  | 0, byte :: rest =>
    match firstChar? (byte :: rest) with
    | some (c, taken) => .char c :: unitsFrom (taken - 1) rest
    | none => .stray byte :: unitsFrom 0 rest

/-- The pieces of a byte string. -/
def units (bytes : List UInt8) : List Unit8 :=
  unitsFrom 0 bytes

/-- The text of a list of pieces, when all of them are characters. -/
def chars? : List Unit8 → Option (List Char)
  | [] => some []
  | .char c :: rest => (chars? rest).map (c :: ·)
  | .stray _ :: _ => none

/-- The text that a byte string encodes, if it encodes one. -/
def decode? (bytes : List UInt8) : Option String :=
  (chars? (units bytes)).map String.ofList

/-- The bytes of a text. -/
def encode (s : String) : List UInt8 :=
  s.toByteArray.data.toList

@[simp]
theorem encode_append (s t : String) : encode (s ++ t) = encode s ++ encode t := by
  simp [encode]

theorem encode_injective {s t : String} (h : encode s = encode t) : s = t := by
  apply String.toByteArray_inj.1
  exact ByteArray.ext (Array.toList_inj.1 h)

end MarkerWatch.Text
