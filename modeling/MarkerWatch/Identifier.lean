/-!
# Identifiers that the kernel hands out

A watch id names one watched file within one notification queue.  A handle is the number of the
descriptor of such a queue; it names the engine that owns the queue.
-/

namespace MarkerWatch

/-- The identifier of one watched file. -/
structure WatchId where
  value : Int
  deriving DecidableEq, Repr, Inhabited

/-- How a watch id is written. -/
def WatchId.text (w : WatchId) : String :=
  "wd:" ++ toString w.value

/-- A handle to an engine: the number of its descriptor. -/
structure Handle where
  fd : Int
  deriving DecidableEq, Repr, Inhabited

/-- How a handle is written. -/
def Handle.text (h : Handle) : String :=
  toString h.fd

end MarkerWatch
