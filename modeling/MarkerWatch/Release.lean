import MarkerWatch.Text.Blank
import MarkerWatch.Text.Digit

/-!
# Kernel releases

A release string names a version by the first place in it where digits, a dot and digits follow
each other; a third number may follow after a further dot.  Queues of file events need version
2.6.13.
-/

namespace MarkerWatch.Release

/-- A kernel version. -/
structure Version where
  major : UInt32
  minor : UInt32
  patch : UInt32
  deriving DecidableEq, Repr

/-- The digits of the numbers of a version: major, minor and, if present, patch. -/
structure Digits where
  major : List Char
  minor : List Char
  patch : Option (List Char)
  deriving DecidableEq, Repr

/-- The run of decimal digits at the front of a text. -/
def run (cs : List Char) : List Char :=
  cs.takeWhile Text.isDecimalDigit

/-- What follows the run of decimal digits at the front of a text. -/
def afterRun (cs : List Char) : List Char :=
  cs.dropWhile Text.isDecimalDigit

/-- A dot and a run of digits at the front of a text, with what follows them. -/
def dotted? : List Char → Option (List Char × List Char)
  | '.' :: cs => if (run cs).isEmpty then none else some (run cs, afterRun cs)
  | _ => none

/-- The digits of a version that stands at the front of a text. -/
def digitsHere? (cs : List Char) : Option Digits :=
  if (run cs).isEmpty then none
  else
    match dotted? (afterRun cs) with
    | none => none
    | some (minor, rest) => some ⟨run cs, minor, (dotted? rest).map (·.1)⟩

/-- The digits of the first version in a text. -/
def firstDigits? : List Char → Option Digits
  | [] => none
  | c :: cs =>
    match digitsHere? (c :: cs) with
    | some digits => some digits
    | none => firstDigits? cs

/-- The number of a run of digits, if they are ASCII and it fits into thirty-two bits. -/
def number? (digits : List Char) : Option UInt32 :=
  match Text.natural? 10 digits with
  | some n => if n < 0x100000000 then some (UInt32.ofNat n) else none
  | none => none

/-- The version of some digits; a missing patch number is zero. -/
def Digits.version? (d : Digits) : Option Version := do
  let major ← number? d.major
  let minor ← number? d.minor
  let patch ← match d.patch with
    | some digits => number? digits
    | none => some 0
  return ⟨major, minor, patch⟩

/-- The version that a release string names.  Only its first candidate counts. -/
def parse? (s : String) : Option Version :=
  (firstDigits? s.toList).bind Digits.version?

namespace Version

/-- How a version is written. -/
def text (v : Version) : String :=
  toString v.major.toNat ++ "." ++ toString v.minor.toNat ++ "." ++ toString v.patch.toNat

/-- Versions are ordered by major number, then minor number, then patch number. -/
def compare (v w : Version) : Ordering :=
  (Ord.compare v.major.toNat w.major.toNat).then
    ((Ord.compare v.minor.toNat w.minor.toNat).then (Ord.compare v.patch.toNat w.patch.toNat))

/-- The oldest version with queues of file events. -/
def oldest : Version :=
  ⟨2, 6, 13⟩

/-- Whether a version has queues of file events. -/
def isSupported (v : Version) : Bool :=
  v.compare oldest != .lt

end Version

/-- Where the release string of the host comes from. -/
inductive Probe
  | host
  | fixed (release : String)
  | broken
  deriving DecidableEq, Repr

/-- A release string that is refused is reported trimmed, and as unknown when there is none. -/
def check (release : Option String) : Except String Unit :=
  match release with
  | none => .error "unknown"
  | some s =>
    match parse? s with
    | some v => if v.isSupported then .ok () else .error (Text.trim s)
    | none => .error (Text.trim s)

end MarkerWatch.Release
