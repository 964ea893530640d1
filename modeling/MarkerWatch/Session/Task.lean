import MarkerWatch.Session.Basic

/-!
# Tasks of a session

A session runs in steps.  The tasks still to be done are kept in a list, the next one first, and a
task may put others before the rest.  So a dispatch that tells a subscriber of an event waits in the
list while the script of that subscriber runs, whatever the script does, a further dispatch
included.
-/

namespace MarkerWatch

/-- A dispatch under way. -/
structure Dispatch where
  registry : Nat
  handle : Handle
  /-- Whether the handle had an engine when the dispatch began. -/
  registered : Bool
  /-- The number of records taken up so far. -/
  count : Nat
  deriving DecidableEq, Repr

/-- A command that listens: its engine, its names, how it waits and how it ends. -/
structure Listener where
  registry : Nat
  handle : Handle
  names : List String
  /-- The loop that drives the engine, unless a background poller does. -/
  loop : Option Nat
  deriving DecidableEq, Repr

/-- Something that is still to be done. -/
inductive Task
  | perform (action : Action)
  /-- What the action of a subscriber answered is written down. -/
  | note (label : String)
  /-- Subscribers are told of an event. -/
  | tell (targets : List (Subscriber × Payload))
  /-- The descriptor of a dispatch is read. -/
  | read (d : Dispatch)
  /-- The records of a buffer are taken up. -/
  | records (d : Dispatch) (rest : List (Except RecordFault Record))
  /-- A loop takes the callback of an engine. -/
  | join (registry : Nat) (handle : Handle) (loop : Nat)
  /-- The callbacks of some registrations are run. -/
  | fire (loop : Nat) (ids : List Nat) (ran : Nat)
  /-- A callback has run. -/
  | finish (loop id : Nat) (callback : Ready)
  /-- The callbacks of some registrations are run where their descriptors are readable, and all
  over again if one of them found records. -/
  | sweep (loop : Nat) (ids : List Nat) (found : Bool)
  /-- One of these callbacks has run. -/
  | swept (loop : Nat) (ids : List Nat) (found : Bool)
  /-- Something is answered, whatever was answered before. -/
  | reply (answer : Answer)
  | unfeed (fd : Int)
  /-- A background poller is stopped by publishing a name. -/
  | wake (registry : Nat) (handle : Handle) (name : String) (recover : Option String)
  /-- A command that listens gets its turn. -/
  | turn (listener : Listener)
  /-- A command that listens is interrupted. -/
  | interrupt (listener : Listener)
  | hangUp (listener : Listener)

/-- A session with the tasks still to be done and the last answer. -/
structure Machine where
  session : Session
  tasks : List Task
  answer : Answer

namespace Machine

/-- The machine after an answer. -/
def answering (m : Machine) (answer : Answer) : Machine :=
  { m with answer }

/-- The machine after an answer, with another session. -/
def answeringIn (m : Machine) (outcome : Answer × Session) : Machine :=
  { m with answer := outcome.1, session := outcome.2 }

/-- The machine with tasks before the others. -/
def before (m : Machine) (tasks : List Task) : Machine :=
  { m with tasks := tasks ++ m.tasks }

/-- The machine with another service. -/
def withService (m : Machine) (service : Service) : Machine :=
  { m with session := { m.session with service } }

/-- The machine with another host. -/
def withHost (m : Machine) (host : Host) : Machine :=
  { m with session := m.session.withHost host }

/-- The task of a dispatch on a handle. -/
def dispatching (m : Machine) (registry : Nat) (handle : Handle) : Task :=
  .read ⟨registry, handle, m.session.service.contains registry handle, 0⟩

/-- The task of a dispatch on a handle, where it has an engine. -/
def dispatchingIfOpen (m : Machine) (registry : Nat) (handle : Handle) : List Task :=
  if m.session.service.contains registry handle then [m.dispatching registry handle] else []

end Machine

end MarkerWatch
