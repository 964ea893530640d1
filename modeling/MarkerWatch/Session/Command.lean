import MarkerWatch.Session.Driving
import MarkerWatch.Settings.Document

/-!
# Commands in a session

A command loads its settings first, and a fault in them is all that it reports.  A command that
listens has a registry of its own and tells each name in a line; it gets its turn after each action
that is performed meanwhile, and is then interrupted.
-/

namespace MarkerWatch.Machine

/-- The answer of a command, with the lines that it printed. -/
def result (m : Machine) (outcome : Except Failure Unit) : Answer :=
  .ran (match outcome with | .ok () => none | .error failure => some failure) m.session.printed

/-- The machine after subscriptions to the names of a command that listens, and the failure of the
first that was refused. -/
def subscribeAll (m : Machine) (registry : Nat) (handle : Handle) :
    Nat → List String → Except Failure Unit × Machine
  | _, [] => (.ok (), m)
  | position, name :: names =>
    let (answer, service) :=
      m.session.service.subscribe registry handle name (.printer position name) .none
    let m := m.withService service
    match answer with
    | .error fault => (.error ((Failure.ofFault fault).within (subscribingTo name)), m)
    | .ok () => subscribeAll m registry handle (position + 1) names

/-- The machine in which a command listens until it was given its turn after each of some actions.
-/
def listen (m : Machine) (root : Path) (names : List String) (poll : Bool) (script : List Action) :
    Machine :=
  let registry := m.session.service.registries.length
  let m := m.withService (m.session.service.addRegistry root .host)
  match m.session.service.init registry false with
  | (.error fault, service) =>
    let m := m.withService service
    m.answering (m.result (.error (.ofFault fault)))
  | (.ok handle, service) =>
    match (m.withService service).subscribeAll registry handle 0 names with
    | (.error failure, m) =>
      let m := m.withService (m.session.service.close registry handle)
      m.answering (m.result (.error failure))
    | (.ok (), m) =>
      let turns (l : Listener) :=
        script.flatMap (fun action => [.perform action, .turn l]) ++ [.interrupt l]
      if poll then m.before (turns ⟨registry, handle, names, none⟩)
      else
        let loop := m.session.service.loops.length
        let service := m.session.service
        let m := m.withService { service with loops := service.loops ++ [.empty .reactor] }
        m.before (.join registry handle loop :: turns ⟨registry, handle, names, some loop⟩)

/-- The tasks of a turn of a command that listens. -/
def turn (m : Machine) (l : Listener) : List Task :=
  match l.loop with
  | some loop => [.sweep loop (m.registered loop) false]
  | none => m.dispatchingIfOpen l.registry l.handle

/-- The machine after a command that listens was interrupted.  A background poller is woken by the
first name; if that cannot be published, the poller is left alone. -/
def interrupt (m : Machine) (l : Listener) : Machine :=
  match l.loop with
  | some _ => (m.withService (m.session.service.detach l.registry l.handle).2).before [.hangUp l]
  | none =>
    match m.session.service.publish l.registry (l.names.headD "") with
    | .error _ => m.answering (m.result (.ok ()))
    | .ok service =>
      let m := m.withService service
      m.before (m.dispatchingIfOpen l.registry l.handle ++ [.hangUp l])

/-- The machine after a command that listens has closed its engine. -/
def hangUp (m : Machine) (l : Listener) : Machine :=
  let m := m.withService (m.session.service.close l.registry l.handle)
  m.answering (m.result (.ok ()))

/-- The machine in which the plan of a command is carried out. -/
def carryOut (m : Machine) (script : List Action) : Plan → Machine
  | .createMarker path mode =>
    let (outcome, host) := Marker.create m.session.service.host path mode
    let m := m.withHost host
    m.answering (m.result outcome)
  | .removeMarker path =>
    match Marker.remove m.session.service.host path with
    | .ok host =>
      let m := m.withHost host
      m.answering (m.result (.ok ()))
    | .error failure => m.answering (m.result (.error failure))
  | .publish root name =>
    match m.session.service.publishAt root name with
    | .ok service =>
      let m := m.withService service
      m.answering (m.result (.ok ()))
    | .error fault =>
      m.answering (m.result (.error ((Failure.ofFault fault).within (publishing name))))
  | .listen root names poll => m.listen root names poll script

/-- The settings in force for some arguments, with the machine after the configuration file was
read. -/
def loadSettings (m : Machine) (arguments : Arguments) (root : Option String) :
    Except Fault Settings × Machine :=
  match arguments.config with
  | none => (Settings.load none root, m)
  | some path =>
    let (file, session) := m.session.readFile (Path.ofString path)
    (Settings.load (some file) root, { m with session })

/-- The machine in which a command is run. -/
def runCommand (m : Machine) (arguments : Arguments) (root : Option String)
    (script : List Action) : Machine :=
  let m := { m with session := { m.session with printed := [] } }
  match m.loadSettings arguments root with
  | (.error fault, m) => m.answering (m.result (.error (.ofFault fault)))
  | (.ok settings, m) =>
    match arguments.command.plan settings true with
    | .error failure => m.answering (m.result (.error failure))
    | .ok plan => m.carryOut script plan

/-- The machine in which a program of its own has ended as a command did. -/
def exit (m : Machine) : Machine :=
  match m.answer with
  | .ran failure printed => m.answering (.exited failure printed)
  | _ => m

end MarkerWatch.Machine
