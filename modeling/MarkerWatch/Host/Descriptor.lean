import MarkerWatch.Assoc
import MarkerWatch.Errno

/-!
# Descriptors

A descriptor reads from a queue of file events.  It may instead be fed, and then its reads give what
the feed holds, one piece for each read, whatever waits in the queue.
-/

namespace MarkerWatch

/-- What one read of a descriptor gives: bytes, or the code of its failure. -/
abbrev ReadOutcome :=
  Except Errno (List UInt8)

/-- What reads find when nothing is pending: more may come, the end was reached, or there was never
anything to read. -/
inductive FeedEnd
  | waiting
  | ended
  | directory
  deriving DecidableEq, Repr

namespace FeedEnd

/-- The outcome of a read when nothing is pending. -/
def outcome : FeedEnd → ReadOutcome
  | .waiting => .error .tryAgain
  | .ended => .ok []
  | .directory => .error .isDirectory

end FeedEnd

/-- Outcomes of the reads to come. -/
structure Feed where
  pending : List ReadOutcome
  /-- Whether what a read leaves of a piece is there for the next one. -/
  stream : Bool
  atEnd : FeedEnd

namespace Feed

/-- Whether a read would not be told to try again. -/
def readable (f : Feed) : Bool :=
  !f.pending.isEmpty || f.atEnd != .waiting

/-- The outcome of a read of so many bytes, with the feed after it. -/
def read (f : Feed) (room : Nat) : ReadOutcome × Feed :=
  match f.pending with
  | [] => (f.atEnd.outcome, f)
  | .error e :: rest => (.error e, { f with pending := rest })
  | .ok bytes :: rest =>
    let left := bytes.drop room
    let rest := if f.stream && !left.isEmpty then .ok left :: rest else rest
    (.ok (bytes.take room), { f with pending := rest })

end Feed

/-- What a descriptor reads from: a queue, or a feed with the queue that it hides, if any. -/
inductive Descriptor
  | queue (id : Nat)
  | fed (feed : Feed) (hidden : Option Nat)

namespace Descriptor

/-- The queue of a descriptor. -/
def queue? : Descriptor → Option Nat
  | .queue id => some id
  | .fed _ hidden => hidden

end Descriptor

/-- Which number a new descriptor gets: one above all numbers given before, or the lowest that is
free. -/
inductive Numbering
  | increasing (next : Int)
  | lowestFree
  deriving DecidableEq, Repr

namespace Numbering

/-- The lowest number that a descriptor for a queue can have. -/
def lowest : Int := 3

/-- The lowest number from the given one on that is not taken; the first argument bounds how many
are tried. -/
def firstFree (taken : List Int) : Nat → Int → Int
  | 0, n => n
  | tries + 1, n => if taken.contains n then firstFree taken tries (n + 1) else n

/-- The number of the next descriptor. -/
def next (numbering : Numbering) (taken : List Int) : Int :=
  match numbering with
  | .increasing n => n
  | .lowestFree => firstFree taken taken.length lowest

/-- The numbering after a number was given. -/
def advance : Numbering → Numbering
  | .increasing n => .increasing (n + 1)
  | .lowestFree => .lowestFree

end Numbering

end MarkerWatch
