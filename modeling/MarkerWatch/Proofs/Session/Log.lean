import MarkerWatch.Proofs.Session.Attachment
import MarkerWatch.Proofs.Session.Unheard

/-!
# What a session writes down

A session writes down that a subscriber was told of an event, and what the actions of a subscriber
have answered.  Each step writes down one such line at most, which is read off the task that is
carried out.  Nothing else is ever written, whichever call, dispatch or command a step belongs to.

So the log of a session is the record of whom its steps have told, in their order.
-/

namespace MarkerWatch

/-! ## Calls -/

namespace Session

variable (s : Session)

theorem log_afterService (outcome : Except Fault Service) :
    (s.afterService outcome).2.log = s.log := by
  cases outcome <;> rfl

/-- A call on a registry is answered and not written down. -/
theorem log_callRegistry (r : Nat) (call : RegistryCall) :
    (s.callRegistry r call).2.log = s.log := by
  cases call with
  | init exhausted =>
      rw [callRegistry]
      split <;> rfl
  | publish name => exact s.log_afterService _
  | _ => rfl

theorem log_callQueue (call : QueueCall) : (s.callQueue call).2.log = s.log := by
  cases call with
  | read h room =>
      rw [callQueue]
      split <;> rfl
  | _ => rfl

/-- A call on files moves the host only. -/
theorem log_callFile (call : FileCall) : (s.callFile call).2.log = s.log := by
  obtain ⟨host, equal, -⟩ := s.heard_callFile call
  rw [equal]
  rfl

/-- No call writes anything down. -/
theorem log_call (call : Call) : (s.call call).2.log = s.log := by
  cases call with
  | registry view call => exact s.log_callRegistry _ call
  | publishAt root name => exact s.log_afterService _
  | queue call => exact s.log_callQueue call
  | file call => exact s.log_callFile call
  | addRegistry | addView | registrations => rfl

end Session

namespace Machine

variable (m : Machine)

/-! ## Dispatches and what drives them -/

/-- A read hands records on, and tells nobody yet. -/
theorem log_read (d : Dispatch) : (m.read d).session.log = m.session.log := by
  rw [read]
  split
  · rfl
  · split
    · rfl
    · rfl
    · split
      · rfl
      · split <;> rfl

/-- A record that is taken up becomes a list of those who are to be told. -/
theorem log_takeUp (d : Dispatch) (rest : List (Except RecordFault Record)) :
    (m.takeUp d rest).session.log = m.session.log := by
  rcases rest with _ | ⟨_ | _, _⟩ <;> rfl

/-- The callback of an engine is a dispatch, which is still to be carried out. -/
theorem log_runCallback (loop id : Nat) (follow : Bool → Task) :
    (m.runCallback loop id follow).session.log = m.session.log := by
  rw [runCallback]
  split <;> rfl

theorem log_sweep (loop : Nat) (ids : List Nat) (found : Bool) :
    (m.sweep loop ids found).session.log = m.session.log := by
  cases ids with
  | nil =>
      rw [sweep]
      split <;> rfl
  | cons id ids =>
      rw [sweep]
      split
      · exact m.log_runCallback loop id _
      · rfl

theorem log_fireLoop (loop : Nat) (fd : Int) :
    (m.fireLoop loop fd).session.log = m.session.log := by
  rw [fireLoop]
  split
  · rfl
  · split <;> rfl

theorem log_poll (registry : Nat) (handle : Handle) :
    (m.poll registry handle).session.log = m.session.log := by
  rw [poll]
  split
  · rfl
  · dsimp only
    split <;> rfl

/-- Whoever reads what was fed reads it in tasks of its own. -/
theorem log_feed
    (registry : Nat) (handle : Option Handle) (feed : Feed) (reader : FeedReader) :
    (m.feed registry handle feed reader).session.log = m.session.log := by
  cases handle with
  | none => rfl
  | some handle =>
      cases reader with
      | dispatch => rfl
      | poll => exact log_poll _ _ _
      | fire loop => exact log_fireLoop _ _ _

theorem log_wake
    (registry : Nat) (handle : Handle) (name : String) (recover : Option String) :
    (m.wake registry handle name recover).session.log = m.session.log := by
  unfold wake
  split
  · rfl
  · rfl
  · dsimp only
    split <;> rfl

/-! ## Commands -/

/-- A command subscribes as a printer does, whose lines are printed and not written down. -/
theorem log_subscribeAll
    (registry : Nat) (handle : Handle) (position : Nat) (names : List String) :
    (m.subscribeAll registry handle position names).2.session.log = m.session.log := by
  induction names generalizing m position with
  | nil => rfl
  | cons name names ih =>
      rw [subscribeAll]
      dsimp only
      split
      · rfl
      · exact ih _ _

/-- A command that listens leaves its notifications to the tasks that wait. -/
theorem log_listen (root : Path) (names : List String) (poll : Bool) (script : List Action) :
    (m.listen root names poll script).session.log = m.session.log := by
  rw [listen]
  dsimp only
  split
  · rfl
  · rename_i handle service _
    have subscribed := log_subscribeAll
      ((m.withService (m.session.service.addRegistry root .host)).withService service)
      m.session.service.registries.length handle 0 names
    split
    · rename_i found
      rw [found] at subscribed
      exact subscribed
    · rename_i found
      rw [found] at subscribed
      split <;> exact subscribed

theorem log_interrupt (l : Listener) : (m.interrupt l).session.log = m.session.log := by
  rw [interrupt]
  split
  · rfl
  · split <;> rfl

theorem log_carryOut (script : List Action) (plan : Plan) :
    (m.carryOut script plan).session.log = m.session.log := by
  cases plan with
  | createMarker path mode => rfl
  | removeMarker path =>
      rw [carryOut]
      split <;> rfl
  | publish root name =>
      rw [carryOut]
      split <;> rfl
  | listen root names poll => exact m.log_listen root names poll script

theorem log_loadSettings (arguments : Arguments) (root : Option String) :
    (m.loadSettings arguments root).2.session.log = m.session.log := by
  rw [loadSettings]
  split
  · rfl
  · rename_i path _
    obtain ⟨host, equal, -⟩ := m.session.heard_readFile (Path.ofString path)
    change (m.session.readFile (Path.ofString path)).2.log = m.session.log
    rw [equal]
    rfl

/-- A command prints what it has to say. -/
theorem log_runCommand
    (arguments : Arguments) (root : Option String) (script : List Action) :
    (m.runCommand arguments root script).session.log = m.session.log := by
  have loaded := log_loadSettings
    { m with session := { m.session with printed := [] } } arguments root
  rw [runCommand]
  split
  · rename_i found
    rw [found] at loaded
    exact loaded
  · rename_i found
    rw [found] at loaded
    split
    · exact loaded
    · exact (log_carryOut _ _ _).trans loaded

theorem log_exit : m.exit.session.log = m.session.log := by
  rw [exit]
  split <;> rfl

/-! ## Steps -/

/-- An action is written down after it was answered, by the note that follows it. -/
theorem log_perform (action : Action) : (m.perform action).session.log = m.session.log := by
  cases action with
  | call c => exact m.session.log_call c
  | poll view h => exact m.log_poll _ _
  | attach view h loop => exact congrArg Session.log (m.session_attach _ _ loop)
  | fire h loop => exact m.log_fireLoop loop _
  | feed view h feed reader => exact m.log_feed _ _ feed reader
  | dispatch | pollInBackground => rfl
  | run arguments root script =>
      rw [perform]
      split
      · rfl
      · exact m.log_runCommand _ root script
  | execute arguments root =>
      rw [perform]
      split
      · rfl
      · exact (log_exit _).trans (m.log_runCommand _ root [])

/-- Who is told of an event by the next step. -/
def told (m : Machine) : List (Subscriber × Payload) :=
  match m.tasks with
  | .tell (target :: _) :: _ => [target]
  | _ => []

/-- What the next step writes down. -/
def noted (m : Machine) : List LogEntry :=
  match m.tasks with
  | .tell ((who, data) :: _) :: _ => who.note data
  | .note label :: _ => [.answered label m.answer]
  | _ => []

/-- A subscriber that is told of an event is written down, with the data of its subscription. -/
theorem log_notify (who : Subscriber) (data : Payload) :
    (m.notify who data).session.log = m.session.log ++ who.note data := by
  cases who with
  | printer position line => exact (List.append_nil _).symm
  | labelled label =>
      rw [notify]
      split <;> rfl

/-- A task writes down that somebody is told, or what an action has answered, or nothing. -/
theorem log_execute
    {task : Task} {below : List Task}
    (tasks : m.tasks = task :: below) :
    ({ m with tasks := below }.execute task).session.log = m.session.log ++ m.noted := by
  have silent {after : Machine} (kept : after.session.log = m.session.log) :
      after.session.log = m.session.log ++ [] := by
    rw [kept, List.append_nil]
  rw [noted, tasks]
  cases task with
  | tell targets =>
      cases targets with
      | nil => exact silent rfl
      | cons target rest => exact log_notify _ target.1 target.2
  | note label => rfl
  | perform action => exact silent (log_perform _ action)
  | read d => exact silent (log_read _ d)
  | records d rest => exact silent (log_takeUp _ d rest)
  | fire loop ids ran =>
      cases ids with
      | nil => exact silent rfl
      | cons id ids => exact silent (log_runCallback _ loop id _)
  | sweep loop ids found => exact silent (log_sweep _ loop ids found)
  | wake registry handle name recover => exact silent (log_wake _ registry handle name recover)
  | interrupt l => exact silent (log_interrupt _ l)
  | join | finish | swept | reply | unfeed | turn | hangUp => exact silent rfl

variable {m}

/-- A step writes down what is read off its task, and nothing else. -/
theorem Step.log
    {next : Machine}
    (step : Step m next) :
    next.session.log = m.session.log ++ m.noted := by
  cases step with
  | scripted stepped =>
      obtain ⟨task, below, tasks⟩ := List.exists_cons_of_ne_nil (Step.scripted stepped).ne_nil
      rw [step_of_tasks tasks stepped]
      exact m.log_execute tasks
  | chosen told actions =>
      rw [noted, told]
      rfl

/-- Of what the next step writes down, the notifications are those of whom it tells. -/
theorem filter_isTold_noted (m : Machine) :
    m.noted.filter (·.isTold) = m.told.flatMap fun target => target.1.note target.2 := by
  rw [noted, told]
  split
  · rename_i who data rest below tasks
    rw [tasks]
    cases who <;> rfl
  · rename_i label below tasks
    rw [tasks]
    rfl
  · rename_i nobody _
    split
    · rename_i target rest below tasks
      exact absurd tasks (nobody target.1 target.2 rest below)
    · rfl

/-- Whom a step tells is written down by it. -/
theorem Step.tellings
    {next : Machine}
    (step : Step m next) :
    next.session.tellings =
      m.session.tellings ++ m.told.flatMap fun target => target.1.note target.2 := by
  rw [Session.tellings, step.log, List.filter_append, filter_isTold_noted]
  rfl

/-- Whom the steps between two machines tell is written down in their order. -/
theorem tellings_of_steps
    {states : Nat → Machine} {count : Nat}
    (steps : ∀ n < count, Step (states n) (states (n + 1))) :
    (states count).session.tellings =
      (states 0).session.tellings ++
        ((List.range count).flatMap fun n => (states n).told).flatMap fun target =>
          target.1.note target.2 := by
  induction count with
  | zero => exact (List.append_nil _).symm
  | succ count ih =>
      have earlier := ih fun n less => steps n (Nat.lt_succ_of_lt less)
      rw [(steps count (Nat.lt_succ_self count)).tellings, earlier, List.range_succ,
        List.flatMap_append, List.flatMap_append, List.append_assoc, List.flatMap_singleton]

end Machine

end MarkerWatch
