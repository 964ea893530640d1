import MarkerWatch.Marker
import MarkerWatch.Service.Attachment

/-!
# Actions of a session

A session is a run of actions on a service.  Most actions are calls, which run no subscriber.  The
others may run subscribers, and a subscriber may perform actions in turn: those of its script, on
its first few notifications.

A session may hold several views of one registry.  Engines and queues are spoken of in the order in
which they were opened, since their numbers are not known beforehand.
-/

namespace MarkerWatch

/-- A handle as an action speaks of it. -/
inductive HandleRef
  /-- The handle of an engine, by the order of opening. -/
  | engine (n : Nat)
  /-- The descriptor of a queue without an engine, by the order of opening. -/
  | queue (n : Nat)
  /-- Any number. -/
  | number (fd : Int)
  deriving DecidableEq, Repr

/-- A call on a registry. -/
inductive RegistryCall
  | init (exhausted : Bool)
  | close (h : HandleRef)
  | subscribe (h : HandleRef) (name who : String) (data : Payload)
  | subscribeFile (h : HandleRef) (path : Path) (who : String) (data : Payload) (mask : Mask)
  | unsubscribe (h : HandleRef) (name : String) (who : Option String)
  | unsubscribeFile (h : HandleRef) (path : Path) (who : Option String)
  | publish (name : String)
  | detach (h : HandleRef)
  | driving (h : HandleRef)
  | subscriptions (h : HandleRef)
  | watchMask (h : HandleRef) (watch : WatchId)
  | contains (h : HandleRef)
  | summary
  | text
  deriving DecidableEq, Repr

/-- A call on a queue without an engine. -/
inductive QueueCall
  | openQueue
  | watch (h : HandleRef) (path : Path) (mask : Mask)
  | unwatch (h : HandleRef) (watch : WatchId)
  | read (h : HandleRef) (room : Nat)
  | readiness (h : HandleRef)
  deriving DecidableEq, Repr

/-- A call on files. -/
inductive FileCall
  | write (path : Path) (text : String)
  | append (path : Path) (text : String)
  | read (path : Path)
  | makeDirectory (path : Path)
  | remove (path : Path)
  | removeDirectory (path : Path)
  | rename (path target : Path)
  | link (path target : Path)
  | symlink (content path : Path)
  | setMode (path : Path) (mode : Nat)
  | status (path : Path)
  | createMarker (path : Path) (mode : Nat)
  | removeMarker (path : Path)
  deriving DecidableEq, Repr

/-- A call, which runs no subscriber. -/
inductive Call
  | addRegistry (root : Path) (probe : Release.Probe)
  | addView (view : Nat)
  | registry (view : Nat) (call : RegistryCall)
  | publishAt (root : Path) (name : String)
  | registrations (loop : Nat)
  | queue (call : QueueCall)
  | file (call : FileCall)
  deriving DecidableEq, Repr

/-- By which action a descriptor is read while it is fed. -/
inductive FeedReader
  | dispatch
  | poll
  | fire (loop : Nat)
  deriving DecidableEq, Repr

/-- What a session performs. -/
inductive Action
  | call (c : Call)
  | dispatch (view : Nat) (h : HandleRef)
  | poll (view : Nat) (h : HandleRef)
  | attach (view : Nat) (h : HandleRef) (loop : Nat)
  | fire (h : HandleRef) (loop : Nat)
  /-- The descriptor of a handle, or one of its own, is fed while it is read once. -/
  | feed (view : Nat) (h : Option HandleRef) (feed : Feed) (reader : FeedReader)
  /-- A background poller is started and then stopped by publishing a name; if that fails, another
  name may be published to end it. -/
  | pollInBackground (view : Nat) (h : HandleRef) (wake : String) (recover : Option String)
  /-- The command line is run with a value for the root variable.  A command that listens is ended
  after the actions that are given. -/
  | run (arguments : List String) (root : Option String) (script : List Action)
  /-- The command line is run as a program of its own. -/
  | execute (arguments : List String) (root : Option String)

/-- What an action answers. -/
inductive Answer
  | done
  | fault (fault : Fault)
  | failure (failure : Failure)
  | engine (n : Nat)
  | queue (n : Nat)
  | count (n : Nat)
  /-- A poll would wait for ever. -/
  | wouldBlock
  | driving (driving : Driving)
  | subscriptions (entries : List (WatchId × Mask))
  | mask (mask : Mask)
  | flag (b : Bool)
  | summary (engines : Nat) (root : Path)
  | text (s : String)
  | watch (w : WatchId)
  | bytes (bytes : List UInt8)
  | readiness (readiness : Host.Readiness)
  | status (status : Option Host.FileStatus)
  | usage (fault : UsageFault)
  | ran (failure : Option Failure) (printed : List String)
  | exited (failure : Option Failure) (printed : List String)
  | exitedEarly (fault : UsageFault)

namespace Answer

/-- The answer of a call that may fail. -/
def ofExcept {α : Type} (answer : α → Answer) : Except Fault α → Answer
  | .ok a => answer a
  | .error cause => .fault cause

/-- The answer of a call that gives nothing but may fail. -/
def ofUnit : Except Fault Unit → Answer :=
  ofExcept fun _ => .done

end Answer

/-- What a subscriber known by a label does when it is told of an event: so many more times it
performs the actions of its script. -/
structure Behaviour where
  script : List Action
  times : Nat

/-- What a session writes down: that a subscriber was told of an event, with which data, and what
the actions of its script answered. -/
inductive LogEntry
  | told (label : String) (data : Payload)
  | answered (label : String) (answer : Answer)

end MarkerWatch
