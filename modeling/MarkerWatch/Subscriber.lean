import MarkerWatch.Payload

/-!
# Subscribers

Two subscribers are the same when they were made as one; what they do when they are told of an event
plays no part in that.
-/

namespace MarkerWatch

/-- Who is told of events: a subscriber known by a label, or one that prints a line and is known by
its position among those of one command. -/
inductive Subscriber
  | labelled (label : String)
  | printer (position : Nat) (line : String)
  deriving DecidableEq, Repr

end MarkerWatch
