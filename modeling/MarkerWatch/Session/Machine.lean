import MarkerWatch.Session.Command

/-!
# How a session runs

A step takes the next task and carries it out.  A run takes steps until no task is left; how many it
may take is bounded.
-/

namespace MarkerWatch

namespace Machine

/-- The machine in which an action is performed. -/
def perform (m : Machine) : Action → Machine
  | .call c => m.answeringIn (m.session.call c)
  | .dispatch view h => m.before [m.dispatching (m.session.registryOf view) (m.session.handle h)]
  | .poll view h => m.poll (m.session.registryOf view) (m.session.handle h)
  | .attach view h loop => m.attach (m.session.registryOf view) (m.session.handle h) loop
  | .fire h loop => m.fireLoop loop (m.session.handle h).fd
  | .feed view h f reader =>
    m.feed (m.session.registryOf view) (h.map m.session.handle) f reader
  | .pollInBackground view h name recover =>
    let registry := m.session.registryOf view
    let handle := m.session.handle h
    m.before (m.dispatchingIfOpen registry handle ++ [.wake registry handle name recover])
  | .run arguments root script =>
    match CommandLine.parse arguments with
    | .error fault => m.answering (.usage fault)
    | .ok arguments => m.runCommand arguments root script
  | .execute arguments root =>
    match CommandLine.parse arguments with
    | .error fault => m.answering (.exitedEarly fault)
    | .ok arguments => (m.runCommand arguments root []).exit

/-- The machine after a task, which is no longer among its tasks. -/
def execute (m : Machine) : Task → Machine
  | .perform action => m.perform action
  | .note label =>
    { m with session := { m.session with log := m.session.log ++ [.answered label m.answer] } }
  | .tell [] => m
  | .tell ((who, data) :: rest) => (m.before [.tell rest]).notify who data
  | .read d => m.read d
  | .records d rest => m.takeUp d rest
  | .join registry handle loop =>
    let (answer, service) := m.session.service.join registry handle loop
    (m.withService service).answering (.ofUnit answer)
  | .fire _ [] ran => m.answering (.count ran)
  | .fire loop (id :: ids) ran =>
    m.runCallback loop id fun started => .fire loop ids (if started then ran + 1 else ran)
  | .finish loop id callback => m.finish loop id callback
  | .sweep loop ids found => m.sweep loop ids found
  | .swept loop ids found => m.before [.sweep loop ids (found || m.foundRecords)]
  | .reply answer => m.answering answer
  | .unfeed fd => m.withHost (m.session.service.host.unfeed fd)
  | .wake registry handle name recover => m.wake registry handle name recover
  | .turn l => m.before (m.turn l)
  | .interrupt l => m.interrupt l
  | .hangUp l => m.hangUp l

/-- The machine one step later, unless nothing is left to be done. -/
def step (m : Machine) : Option Machine :=
  match m.tasks with
  | [] => none
  | task :: rest => some ({ m with tasks := rest }.execute task)

/-- The machine that has nothing left to be done, if it gets there within a number of steps. -/
def run : Nat → Machine → Option Machine
  | 0, m => if m.tasks.isEmpty then some m else none
  | n + 1, m =>
    match m.step with
    | none => some m
    | some next => run n next

/-- The machine that is to perform an action. -/
def start (s : Session) (action : Action) : Machine :=
  ⟨s, [.perform action], .done⟩

end Machine

namespace Session

/-- The answer of an action and the session after it, if it ends within a number of steps. -/
def perform (s : Session) (steps : Nat) (action : Action) : Option (Answer × Session) :=
  ((Machine.start s action).run steps).map fun m => (m.answer, m.session)

/-- The session with nothing written down. -/
def withoutLog (s : Session) : Session :=
  { s with log := [] }

end Session

end MarkerWatch
