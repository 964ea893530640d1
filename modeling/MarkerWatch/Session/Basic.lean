import MarkerWatch.Session.Action

/-!
# Sessions

The state of a session, and its calls.  A call changes the service and gives an answer; what it
opens is remembered, so that later actions can speak of it.
-/

namespace MarkerWatch

/-- The state of a session. -/
structure Session where
  service : Service
  /-- The registry that each view shows. -/
  views : List Nat
  /-- The engines opened so far, each with the registry that opened it. -/
  engines : List (Nat × Handle)
  /-- The descriptors of the queues opened so far without an engine. -/
  queues : List Handle
  behaviours : Assoc String Behaviour
  log : List LogEntry
  /-- The lines printed by a command that listens. -/
  printed : List String

namespace Session

/-- The session on a fresh host, with loops of some kinds and subscribers with scripts. -/
def fresh (numbering : Numbering) (loops : List LoopKind) (behaviours : Assoc String Behaviour) :
    Session :=
  ⟨.fresh numbering loops, [], [], [], behaviours, [], []⟩

/-- The handle that an action speaks of.  What was never opened has no handle, for which the number
minus one stands. -/
def handle (s : Session) : HandleRef → Handle
  | .engine n => (s.engines[n]?.map (·.2)).getD ⟨-1⟩
  | .queue n => s.queues[n]?.getD ⟨-1⟩
  | .number fd => ⟨fd⟩

/-- The registry of a view. -/
def registryOf (s : Session) (view : Nat) : Nat :=
  s.views[view]?.getD s.service.registries.length

/-- The session with another host. -/
def withHost (s : Session) (host : Host) : Session :=
  { s with service := { s.service with host } }

/-- The session after a call on its service that may fail. -/
def afterUnit (s : Session) (outcome : Except Fault Unit × Service) : Answer × Session :=
  (.ofUnit outcome.1, { s with service := outcome.2 })

/-- The session after a call on its service that changes nothing when it fails. -/
def afterService (s : Session) : Except Fault Service → Answer × Session
  | .ok service => (.done, { s with service })
  | .error fault => (.fault fault, s)

/-- The session after a call on a registry. -/
def callRegistry (s : Session) (r : Nat) : RegistryCall → Answer × Session
  | .init exhausted =>
    match s.service.init r exhausted with
    | (.ok h, service) =>
      (.engine s.engines.length, { s with service, engines := s.engines ++ [(r, h)] })
    | (.error fault, service) => (.fault fault, { s with service })
  | .close h => (.done, { s with service := s.service.close r (s.handle h) })
  | .subscribe h name who data =>
    s.afterUnit (s.service.subscribe r (s.handle h) name (.labelled who) data)
  | .subscribeFile h path who data mask =>
    s.afterUnit (s.service.subscribeFile r (s.handle h) path (.labelled who) data mask)
  | .unsubscribe h name who =>
    s.afterUnit (s.service.unsubscribe r (s.handle h) name (who.map .labelled))
  | .unsubscribeFile h path who =>
    s.afterUnit (s.service.unsubscribeFile r (s.handle h) path (who.map .labelled))
  | .publish name => s.afterService (s.service.publish r name)
  | .detach h => s.afterUnit (s.service.detach r (s.handle h))
  | .driving h => (.ofExcept .driving (s.service.driving r (s.handle h)), s)
  | .subscriptions h => (.ofExcept .subscriptions (s.service.subscriptions r (s.handle h)), s)
  | .watchMask h w => (.ofExcept .mask (s.service.watchMask r (s.handle h) w), s)
  | .contains h => (.flag (s.service.contains r (s.handle h)), s)
  | .summary =>
    let engines := s.service.registries[r]?.elim 0 (·.engines.length)
    (.summary engines (s.service.root r), s)
  | .text => (.text (s.service.registries[r]?.elim "" Registry.text), s)

/-- The session after a call on a queue without an engine. -/
def callQueue (s : Session) : QueueCall → Answer × Session
  | .openQueue =>
    let (fd, host) := s.service.host.openQueue
    (.queue s.queues.length, { s.withHost host with queues := s.queues ++ [⟨fd⟩] })
  | .watch h path mask =>
    let (answer, queue) := HostQueue.addWatch ⟨s.service.host, (s.handle h).fd⟩ path mask
    (.ofExcept .watch answer, s.withHost queue.host)
  | .unwatch h w =>
    let (answer, queue) := HostQueue.removeWatch ⟨s.service.host, (s.handle h).fd⟩ w
    (.ofUnit answer, s.withHost queue.host)
  | .read h room =>
    match s.service.host.read (s.handle h).fd room with
    | (.ok bytes, host) => (.bytes bytes, s.withHost host)
    | (.error e, host) => (.fault (.io (.os e)), s.withHost host)
  | .readiness h => (.readiness (s.service.host.readiness (s.handle h).fd), s)

/-- The session after a call on files that changes nothing when it fails. -/
def afterHost (s : Session) : Except IoFailure Host → Answer × Session
  | .ok host => (.done, s.withHost host)
  | .error failure => (.fault (.io failure), s)

/-- The bytes of a file, with the session after it was read. -/
def readFile (s : Session) (path : Path) : Except IoFailure (List UInt8) × Session :=
  match Host.onPath path (.ok ()) with
  | .error failure => (.error failure, s)
  | .ok () =>
    let (outcome, host) := s.service.host.readFile path
    (outcome.mapError .os, s.withHost host)

/-- The session after a call on files. -/
def callFile (s : Session) : FileCall → Answer × Session
  | .write path text =>
    s.afterHost (Host.onPath path (s.service.host.writeFile path (Text.encode text)))
  | .append path text =>
    s.afterHost (Host.onPath path (s.service.host.appendFile path (Text.encode text)))
  | .read path =>
    match s.readFile path with
    | (.error failure, s) => (.fault (.io failure), s)
    | (.ok bytes, s) =>
      match Text.decode? bytes with
      | some text => (.text text, s)
      | none => (.fault (.io (.stated "stream did not contain valid UTF-8")), s)
  | .makeDirectory path => s.afterHost (s.service.host.addDirectory path)
  | .remove path => s.afterHost (Host.onPath path (s.service.host.removeFile path))
  | .removeDirectory path => s.afterHost (Host.onPath path (s.service.host.removeDirectory path))
  | .rename path target =>
    s.afterHost <| Host.onPath path (.ok ()) >>= fun _ =>
      Host.onPath target (s.service.host.rename path target)
  | .link path target =>
    s.afterHost <| Host.onPath path (.ok ()) >>= fun _ =>
      Host.onPath target (s.service.host.linkFile path target)
  | .symlink content path =>
    s.afterHost <| Host.onPath content (.ok ()) >>= fun _ =>
      Host.onPath path (s.service.host.linkSymbolically content path)
  | .setMode path mode => s.afterHost (Host.onPath path (s.service.host.setMode path mode))
  | .status path => (.status (s.service.host.status? path), s)
  | .createMarker path mode =>
    match Marker.create s.service.host path mode with
    | (.ok (), host) => (.done, s.withHost host)
    | (.error failure, host) => (.failure failure, s.withHost host)
  | .removeMarker path =>
    match Marker.remove s.service.host path with
    | .ok host => (.done, s.withHost host)
    | .error failure => (.failure failure, s)

/-- The session after a call. -/
def call (s : Session) : Call → Answer × Session
  | .addRegistry root probe =>
    (.done,
      { s with
        service := s.service.addRegistry root probe
        views := s.views ++ [s.service.registries.length] })
  | .addView view => (.done, { s with views := s.views ++ [s.registryOf view] })
  | .registry view c => s.callRegistry (s.registryOf view) c
  | .publishAt root name => s.afterService (s.service.publishAt root name)
  | .registrations loop => (.count (s.service.loops[loop]?.elim 0 (·.registrations)), s)
  | .queue c => s.callQueue c
  | .file c => s.callFile c

end Session

end MarkerWatch
