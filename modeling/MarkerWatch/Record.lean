import MarkerWatch.Identifier
import MarkerWatch.Mask

/-!
# Records in a buffer

A read from a queue yields records one after the other.  Each is a header of four little-endian
words (watch id, mask, cookie, length of the name) followed by the name, padded with zeros.  The
name is skipped, since a watch id already says which file is meant.

`Record.decode` yields the records of a buffer in order.  It stops at the first fault, which it
yields last.
-/

namespace MarkerWatch

/-- One event as the kernel reports it, without the bytes of its name. -/
structure Record where
  watch : WatchId
  mask : Mask
  cookie : BitVec 32
  nameLength : Nat
  deriving DecidableEq, Repr

/-- Why the bytes at some place of a buffer are no record. -/
inductive RecordFault
  | truncatedHeader (found : Nat)
  | oversizedName (length : Nat)
  | truncatedName (found length : Nat)
  | stated (reason : String)
  deriving DecidableEq, Repr

namespace Record

/-- The bytes of a header. -/
def headerLength : Nat := 16

/-- The longest name of a record. -/
def longestName : Nat := 4096

/-- The bytes asked for in one read: enough for several of the longest records. -/
def bufferLength : Nat := 4 * (headerLength + longestName)

/-- The bytes that a record takes. -/
def length (r : Record) : Nat :=
  headerLength + r.nameLength

/-- The number in four bytes, lowest first. -/
def word : List UInt8 → Nat
  | a :: b :: c :: d :: _ => a.toNat + 0x100 * (b.toNat + 0x100 * (c.toNat + 0x100 * d.toNat))
  | _ => 0

/-- The four bytes of a number, lowest first. -/
def wordBytes (n : Nat) : List UInt8 :=
  [UInt8.ofNat n, UInt8.ofNat (n / 0x100), UInt8.ofNat (n / 0x10000), UInt8.ofNat (n / 0x1000000)]

/-- The record at the front of a buffer, or the reason why there is none. -/
def front (bytes : List UInt8) : Except RecordFault Record :=
  if bytes.length < headerLength then
    .error (.truncatedHeader bytes.length)
  else
    let nameLength := word (bytes.drop 12)
    if longestName < nameLength then
      .error (.oversizedName nameLength)
    else if bytes.length < headerLength + nameLength then
      .error (.truncatedName (bytes.length - headerLength) nameLength)
    else
      .ok
        { watch := ⟨(BitVec.ofNat 32 (word bytes)).toInt⟩
          mask := Mask.ofNat (word (bytes.drop 4))
          cookie := BitVec.ofNat 32 (word (bytes.drop 8))
          nameLength }

/-- The records of a buffer, the first bytes of which belong to a record already read. -/
def decodeFrom : Nat → List UInt8 → List (Except RecordFault Record)
  | _, [] => []
  | skip + 1, _ :: rest => decodeFrom skip rest
  | 0, byte :: rest =>
    match front (byte :: rest) with
    | .ok r => .ok r :: decodeFrom (r.length - 1) rest
    | .error fault => [.error fault]

/-- The records of a buffer, ended by the first fault if there is one. -/
def decode (bytes : List UInt8) : List (Except RecordFault Record) :=
  decodeFrom 0 bytes

/-- The bytes of a record with the given padded name. -/
def encode (r : Record) (name : List UInt8) : List UInt8 :=
  wordBytes (BitVec.ofInt 32 r.watch.value).toNat ++ wordBytes r.mask.toNat ++
    wordBytes r.cookie.toNat ++ wordBytes r.nameLength ++ name

/-- Skipping bytes is dropping them. -/
theorem decodeFrom_eq (skip : Nat) (bytes : List UInt8) :
    decodeFrom skip bytes = decode (bytes.drop skip) := by
  induction bytes generalizing skip with
  | nil => cases skip <;> simp [decode, decodeFrom]
  | cons byte rest ih =>
    cases skip with
    | zero => rfl
    | succ skip => simp [decodeFrom, ih]

@[simp]
theorem decode_nil : decode [] = [] :=
  rfl

end Record

namespace RecordFault

/-- How a fault is written. -/
def text : RecordFault → String
  | .truncatedHeader n =>
    "truncated header: " ++ toString n ++ " of " ++ toString Record.headerLength ++ " bytes"
  | .oversizedName n =>
    "name length " ++ toString n ++ " exceeds " ++ toString Record.longestName
  | .truncatedName n length =>
    "truncated name: " ++ toString n ++ " of " ++ toString length ++ " bytes"
  | .stated reason => reason

end RecordFault

end MarkerWatch
