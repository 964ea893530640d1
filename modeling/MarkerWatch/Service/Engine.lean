import MarkerWatch.Service.Basic

/-!
# Engines and their subscriptions

Opening and closing engines, subscriptions, publishing, and what can be asked of a registry.  None
of these calls runs a subscriber.
-/

namespace MarkerWatch.Service

/-- The release string that a registry finds. -/
def releaseFor (s : Service) : Release.Probe → Option String
  | .host => some s.release
  | .fixed release => some release
  | .broken => none

/-- The service with a new engine, and its handle.  The release of the host must be recent enough, a
descriptor must be left, and the root directory must be there or be created. -/
def init (s : Service) (r : Nat) (exhausted : Bool) : Except Fault Handle × Service :=
  match s.registries[r]? with
  | none => (.error (.io (.os .invalid)), s)
  | some registry =>
    match Release.check (s.releaseFor registry.probe) with
    | .error found => (.error (.unsupported found), s)
    | .ok () =>
      if exhausted then (.error (.io (.os .tooManyDescriptors)), s)
      else
        let (fd, host) := s.host.openQueue
        match host.prepareRoot registry.root with
        | (.error fault, host) => (.error fault, { s with host := host.closeDescriptor fd })
        | (.ok (), host) =>
          (.ok ⟨fd⟩, { s with host }.setEngine r ⟨fd⟩ (.fresh s.host.nextQueue))

/-- The service without the engine of a handle.  A handle without an engine changes nothing. -/
def close (s : Service) (r : Nat) (h : Handle) : Service :=
  match s.engine? r h with
  | none => s
  | some e =>
    let s := (s.mapEngines r (Assoc.erase · h)).cancel e.source
    { s with host := s.host.closeDescriptor h.fd }

/-- The service after a subscription to a path. -/
def subscribeFile (s : Service) (r : Nat) (h : Handle) (path : Path) (who : Subscriber)
    (data : Payload) (m : Mask) : Except Fault Unit × Service :=
  if path.isEmpty then (.error (.invalidArgument .emptyPath), s)
  else
    match s.engine? r h with
    | none => (.error (.badHandle h), s)
    | some e =>
      let (answer, table, queue) :=
        e.table.subscribe (⟨s.host, h.fd⟩ : HostQueue) path who data m
      (answer.map fun _ => (), { s with host := queue.host }.setEngine r h { e with table })

/-- The service after subscriptions to a path were ended, all of them or those of one subscriber. -/
def unsubscribeFile (s : Service) (r : Nat) (h : Handle) (path : Path) (who : Option Subscriber) :
    Except Fault Unit × Service :=
  if h.fd < 0 then (.error (.invalidArgument (.negativeHandle h)), s)
  else if path.isEmpty then (.error (.invalidArgument .emptyPath), s)
  else
    match s.engine? r h with
    | none => (.error (.badHandle h), s)
    | some e =>
      let (answer, table, queue) := e.table.unsubscribe (⟨s.host, h.fd⟩ : HostQueue) path who
      (answer.map fun _ => (), { s with host := queue.host }.setEngine r h { e with table })

/-- The root directory of a registry. -/
def root (s : Service) (r : Nat) : Path :=
  (s.registries[r]?.map (·.root)).getD (Path.ofString "")

/-- The service after a subscription to a name. -/
def subscribe (s : Service) (r : Nat) (h : Handle) (name : String) (who : Subscriber)
    (data : Payload) : Except Fault Unit × Service :=
  match Name.check name with
  | .error fault => (.error fault, s)
  | .ok () =>
    s.subscribeFile r h (Name.resolve (s.root r) name) who data Mask.defaultInterest

/-- The service after subscriptions to a name were ended. -/
def unsubscribe (s : Service) (r : Nat) (h : Handle) (name : String) (who : Option Subscriber) :
    Except Fault Unit × Service :=
  match Name.check name with
  | .error fault => (.error fault, s)
  | .ok () => s.unsubscribeFile r h (Name.resolve (s.root r) name) who

/-- The service after a name under a root directory was published: its marker file, which must be
there, was opened to be emptied and closed again. -/
def publishAt (s : Service) (root : Path) (name : String) : Except Fault Service := do
  Name.check name
  let path := Name.resolve root name
  match Host.onPath path (s.host.truncate path) with
  | .ok host => return { s with host }
  | .error failure => throw (.io failure)

/-- The service after a name was published through a registry. -/
def publish (s : Service) (r : Nat) (name : String) : Except Fault Service :=
  s.publishAt (s.root r) name

/-- What the engine of a handle is asked. -/
def ask {α : Type} (s : Service) (r : Nat) (h : Handle) (question : Engine → α) : Except Fault α :=
  match s.engine? r h with
  | some e => .ok (question e)
  | none => .error (.badHandle h)

/-- How the engine of a handle is driven. -/
def driving (s : Service) (r : Nat) (h : Handle) : Except Fault Driving :=
  s.ask r h (·.driving)

/-- The watch and the mask of each subscription of an engine, the oldest first. -/
def subscriptions (s : Service) (r : Nat) (h : Handle) : Except Fault (List (WatchId × Mask)) :=
  s.ask r h fun e => e.table.entries.map fun entry => (entry.watch, entry.mask)

/-- What the subscriptions of an engine on a watch ask for together. -/
def watchMask (s : Service) (r : Nat) (h : Handle) (w : WatchId) : Except Fault Mask :=
  s.ask r h (·.table.aggregate w)

end MarkerWatch.Service
