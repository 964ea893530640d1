/-!
# Payloads

What a subscriber gives along with a subscription and is handed back on every notification.
-/

namespace MarkerWatch

/-- What a subscriber is handed back when it is told of an event. -/
inductive Payload
  | none
  | number (n : Nat)
  | text (s : String)
  deriving DecidableEq, Repr, Inhabited

end MarkerWatch
