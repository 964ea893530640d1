import MarkerWatch.Record

/-!
# Decoders

A decoder yields the records of a buffer one at a time, each from the place where the one before it
ended.  A fault is yielded as the last item, since the decoder is then at the end of its buffer.

Every access to the buffer is checked, and `none` stands for an access outside of it.
-/

namespace MarkerWatch

/-- A buffer of records and the place where the next record starts. -/
structure RecordDecoder where
  buffer : List UInt8
  offset : Nat
  deriving DecidableEq, Repr

namespace RecordDecoder

/-- The decoder at the start of a buffer. -/
def start (buffer : List UInt8) : RecordDecoder :=
  ⟨buffer, 0⟩

/-- The bytes from a place on, if the place lies within the buffer or at its end. -/
def rest? (d : RecordDecoder) : Option (List UInt8) :=
  if d.offset ≤ d.buffer.length then some (d.buffer.drop d.offset) else none

/-- The number in the four bytes at a place, lowest first. -/
def word? (bytes : List UInt8) (place : Nat) : Option Nat := do
  let a ← bytes[place]?
  let b ← bytes[place + 1]?
  let c ← bytes[place + 2]?
  let d ← bytes[place + 3]?
  return Record.word [a, b, c, d]

/-- The record at the place of a decoder or the reason why there is none, with the decoder after
it. -/
def decodeNext? (d : RecordDecoder) : Option (Except RecordFault Record × RecordDecoder) := do
  let rest ← d.rest?
  if rest.length < Record.headerLength then
    return (.error (.truncatedHeader rest.length), d)
  let watch ← word? rest 0
  let mask ← word? rest 4
  let cookie ← word? rest 8
  let nameLength ← word? rest 12
  if Record.longestName < nameLength then
    return (.error (.oversizedName nameLength), d)
  if rest.length < Record.headerLength + nameLength then
    return (.error (.truncatedName (rest.length - Record.headerLength) nameLength), d)
  let record : Record :=
    { watch := ⟨(BitVec.ofNat 32 watch).toInt⟩
      mask := Mask.ofNat mask
      cookie := BitVec.ofNat 32 cookie
      nameLength }
  return (.ok record, { d with offset := d.offset + record.length })

/-- The next item of a decoder, if there is one, with the decoder after it. -/
def next? (d : RecordDecoder) : Option (Option (Except RecordFault Record) × RecordDecoder) :=
  if d.buffer.length ≤ d.offset then some (none, d)
  else
    match d.decodeNext? with
    | none => none
    | some (.ok record, d) => some (some (.ok record), d)
    | some (.error fault, d) => some (some (.error fault), { d with offset := d.buffer.length })

/-- What a decoder answers when it is asked a number of times for its next item. -/
def answers? : Nat → RecordDecoder → Option (List (Option (Except RecordFault Record)))
  | 0, _ => some []
  | count + 1, d =>
    match d.next? with
    | none => none
    | some (answer, d) => (answers? count d).map (answer :: ·)

end RecordDecoder

end MarkerWatch
