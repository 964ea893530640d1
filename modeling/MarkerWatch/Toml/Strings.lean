import MarkerWatch.Toml.Value

/-!
# Strings and scalars of a document

The readers here take the characters that follow an opening quote, or a whole scalar, and give what
was read with the characters that follow it.  A reader gives nothing where the format forbids the
text.
-/

namespace MarkerWatch.Toml

/-- What a reader read, and the rest. -/
abbrev Read (α : Type) :=
  Option (α × List Char)

/-- A character before what a reader reads from the rest. -/
def Read.cons (c : Char) (r : Read (List Char)) : Read (List Char) :=
  r.map fun (cs, rest) => (c :: cs, rest)

/-- Blanks within a line. -/
def isSpace (c : Char) : Bool :=
  c == ' ' || c == '\t'

/-- The characters that may stand for themselves within a line. -/
def isPlain (c : Char) : Bool :=
  c == '\t' || (0x20 ≤ c.toNat && c.toNat != 0x7F)

/-- The character that a one-letter escape stands for. -/
def escape? : Char → Option Char
  | 'b' => some (Char.ofNat 0x08)
  | 't' => some '\t'
  | 'n' => some '\n'
  | 'f' => some (Char.ofNat 0x0C)
  | 'r' => some '\r'
  | '"' => some '"'
  | '\\' => some '\\'
  | _ => none

/-- The value of a hexadecimal digit. -/
def hexDigit? (c : Char) : Option Nat :=
  if '0' ≤ c ∧ c ≤ '9' then some (c.toNat - '0'.toNat)
  else if 'a' ≤ c ∧ c ≤ 'f' then some (c.toNat - 'a'.toNat + 10)
  else if 'A' ≤ c ∧ c ≤ 'F' then some (c.toNat - 'A'.toNat + 10)
  else none

/-- The character whose code point some hexadecimal digits write. -/
def codePoint? (digits : List Char) : Option Char :=
  let value := digits.foldl
    (fun acc c => acc.bind fun n => (hexDigit? c).map fun d => n * 16 + d) (some 0)
  value.bind fun n => if h : n.isValidChar then some (Char.ofNatAux n h) else none

/-- The rest of a string on one line, after its opening quote. -/
def basic : List Char → Read (List Char)
  | [] => none
  | '"' :: rest => some ([], rest)
  | '\\' :: 'u' :: a :: b :: c :: d :: rest =>
    (codePoint? [a, b, c, d]).bind fun x => (basic rest).cons x
  | '\\' :: 'U' :: a :: b :: c :: d :: e :: f :: g :: h :: rest =>
    (codePoint? [a, b, c, d, e, f, g, h]).bind fun x => (basic rest).cons x
  | '\\' :: c :: rest => (escape? c).bind fun x => (basic rest).cons x
  | c :: rest => if isPlain c then (basic rest).cons c else none

/-- The rest of a string on one line without escapes, after its opening quote. -/
def literal : List Char → Read (List Char)
  | [] => none
  | '\'' :: rest => some ([], rest)
  | c :: rest => if isPlain c then (literal rest).cons c else none

/-- Whether only blanks stand before the end of the line. -/
def endsLine (cs : List Char) : Bool :=
  match cs.dropWhile isSpace with
  | '\n' :: _ | '\r' :: '\n' :: _ => true
  | _ => false

/-- The rest of a string over several lines.  While `skipping`, blanks and line ends are left
out. -/
def multiBasic (skipping : Bool) : List Char → Read (List Char)
  | [] => none
  | '"' :: '"' :: '"' :: '"' :: '"' :: rest => some (['"', '"'], rest)
  | '"' :: '"' :: '"' :: '"' :: rest => some (['"'], rest)
  | '"' :: '"' :: '"' :: rest => some ([], rest)
  | '\\' :: 'u' :: a :: b :: c :: d :: rest =>
    (codePoint? [a, b, c, d]).bind fun x => (multiBasic false rest).cons x
  | '\\' :: 'U' :: a :: b :: c :: d :: e :: f :: g :: h :: rest =>
    (codePoint? [a, b, c, d, e, f, g, h]).bind fun x => (multiBasic false rest).cons x
  | '\\' :: c :: rest =>
    if endsLine (c :: rest) then multiBasic true (c :: rest)
    else (escape? c).bind fun x => (multiBasic false rest).cons x
  | '\r' :: '\n' :: rest =>
    if skipping then multiBasic true rest else ((multiBasic false rest).cons '\n').cons '\r'
  | c :: rest =>
    if skipping && (isSpace c || c == '\n') then multiBasic true rest
    else if isPlain c || c == '\n' then (multiBasic false rest).cons c
    else none

/-- The rest of a string over several lines without escapes. -/
def multiLiteral : List Char → Read (List Char)
  | [] => none
  | '\'' :: '\'' :: '\'' :: '\'' :: '\'' :: rest => some (['\'', '\''], rest)
  | '\'' :: '\'' :: '\'' :: '\'' :: rest => some (['\''], rest)
  | '\'' :: '\'' :: '\'' :: rest => some ([], rest)
  | '\r' :: '\n' :: rest => ((multiLiteral rest).cons '\n').cons '\r'
  | c :: rest => if isPlain c || c == '\n' then (multiLiteral rest).cons c else none

/-- The characters after the line end that may follow an opening triple quote. -/
def afterOpening : List Char → List Char
  | '\n' :: rest => rest
  | '\r' :: '\n' :: rest => rest
  | cs => cs

/-- A string of any of the four forms, with its opening quote. -/
def string? : List Char → Read (List Char)
  | '"' :: '"' :: '"' :: rest => multiBasic false (afterOpening rest)
  | '"' :: rest => basic rest
  | '\'' :: '\'' :: '\'' :: rest => multiLiteral (afterOpening rest)
  | '\'' :: rest => literal rest
  | _ => none

/-- Whether digits of some kind stand in groups with single underscores between them. -/
def grouped (isDigit : Char → Bool) : List Char → Bool
  | [] => false
  | [c] => isDigit c
  | c :: '_' :: rest => isDigit c && grouped isDigit rest
  | c :: rest => isDigit c && grouped isDigit rest

/-- A whole number without sign: no leading zero unless it is zero. -/
def isWhole (cs : List Char) : Bool :=
  grouped Char.isDigit cs && (cs.length == 1 || cs.head? != some '0')

/-- The characters without a leading sign. -/
def unsigned : List Char → List Char
  | '+' :: rest => rest
  | '-' :: rest => rest
  | cs => cs

/-- The parts of a text before and after the first character of some kind. -/
def cut (p : Char → Bool) (cs : List Char) : List Char × Option (List Char) :=
  (cs.takeWhile (!p ·), (cs.dropWhile (!p ·)).tail?)

/-- Whether a text is a number with a fraction, an exponent or both. -/
def isFloat (cs : List Char) : Bool :=
  let (mantissa, exponent) := cut (fun c => c == 'e' || c == 'E') cs
  let (whole, fraction) := cut (· == '.') mantissa
  isWhole whole && (fraction.all (grouped Char.isDigit)) &&
    (exponent.all fun e => grouped Char.isDigit (unsigned e)) &&
    (fraction.isSome || exponent.isSome)

/-- Whether a text has the shape of a date, a time or both. -/
def isMoment (cs : List Char) : Bool :=
  let shape := cs.map fun c => if c.isDigit then 'd' else c
  let date := "dddd-dd-dd".toList
  let time := "dd:dd:dd".toList
  let zone (rest : List Char) :=
    rest == [] || rest == ['Z'] || rest == ['z'] || rest == "+dd:dd".toList ||
      rest == "-dd:dd".toList
  let clock (rest : List Char) (zoned : Bool) :=
    rest.take 8 == time &&
      let after := match rest.drop 8 with
        | '.' :: 'd' :: more => more.dropWhile (· == 'd')
        | more => more
      if zoned then zone after else after == []
  shape == date || clock shape false ||
    (shape.take 10 == date &&
      match shape.drop 10 with
      | sep :: rest => (sep == 'T' || sep == 't' || sep == ' ') && clock rest true
      | [] => false)

/-- Whether a text is a number, a truth value or a date. -/
def isScalar (cs : List Char) : Bool :=
  let hexadecimal (c : Char) := (hexDigit? c).isSome
  match cs with
  | '0' :: 'x' :: rest => grouped hexadecimal rest
  | '0' :: 'o' :: rest => grouped (fun c => '0' ≤ c && c ≤ '7') rest
  | '0' :: 'b' :: rest => grouped (fun c => c == '0' || c == '1') rest
  | _ =>
    cs == "true".toList || cs == "false".toList || unsigned cs == "inf".toList ||
      unsigned cs == "nan".toList || isWhole (unsigned cs) || isFloat (unsigned cs) || isMoment cs

/-- Whether a character can be part of a scalar. -/
def isScalarChar (c : Char) : Bool :=
  c.isAlphanum || c == '+' || c == '-' || c == '_' || c == '.' || c == ':'

/-- A scalar: a date may be followed by a blank and a time. -/
def scalar? (cs : List Char) : Read Value :=
  let first := cs.takeWhile isScalarChar
  let rest := cs.dropWhile isScalarChar
  let more := match rest with
    | ' ' :: c :: tail =>
      if c.isDigit then ' ' :: (c :: tail).takeWhile isScalarChar else []
    | _ => []
  if isMoment (first ++ more) then some (.scalar, rest.drop more.length)
  else if isScalar first then some (.scalar, rest)
  else none

end MarkerWatch.Toml
