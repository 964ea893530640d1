import MarkerWatch.Proofs.Service.Step
import MarkerWatch.Session.Machine

/-!
# What a task of a session can do

Carrying a task out puts other tasks before those that wait, and never looks at the ones that wait.
Its effect on the session comes down to shifts: the service moves, or an engine or a queue is opened
and remembered.  `Machine.Advances` says both, and `Machine.advances_execute` shows it for every
task.
-/

namespace MarkerWatch

open Service (Moves Steps)

/-! ## Calls -/

namespace Session

/-- One session after another: the service has moved, and views were added at most, or an engine or
a queue without an engine was opened. -/
inductive Shift : Session → Session → Prop
  | move {s after : Session} (moves : Moves s.service after.service)
      (views : s.views <+: after.views) (engines : after.engines = s.engines)
      (queues : after.queues = s.queues) : Shift s after
  | init (s : Session) (r : Nat) (exhausted : Bool) :
      Shift s (s.callRegistry r (.init exhausted)).2
  | openQueue (s : Session) : Shift s (s.callQueue .openQueue).2

/-- Shifts of a session one after another. -/
abbrev Shifts : Session → Session → Prop :=
  Relation.ReflTransGen Shift

variable (s : Session)

/-- A service that has moved may take the place of the one that a session has. -/
theorem shifts_withService
    {service : Service}
    (moves : Moves s.service service) :
    Shifts s { s with service } :=
  .single (.move moves (List.prefix_refl _) rfl rfl)

theorem shifts_withHost
    {host : Host}
    (move : s.service.host.Move host) :
    Shifts s (s.withHost host) :=
  s.shifts_withService (.single (.host s.service move))

/-- Each shift of a session is a sequence of steps of its service. -/
theorem Shift.service
    {s after : Session}
    (shift : Shift s after) :
    Steps s.service after.service := by
  cases shift with
  | move moves => exact moves.steps
  | init r exhausted =>
      have step : Steps s.service (s.service.init r exhausted).2 :=
        .single (.init s.service r exhausted)
      rw [callRegistry]
      split <;> rename_i found <;> rwa [found] at step
  | openQueue => exact .single (.host s.service (.openQueue _))

/-- The service of a session takes steps only. -/
theorem Shifts.service
    {s after : Session}
    (shifts : Shifts s after) :
    Steps s.service after.service := by
  induction shifts with
  | refl => exact .refl
  | tail earlier last ih => exact ih.trans last.service

/-- Where a call is refused nothing is heard, and else what the call says. -/
theorem heard_afterHost
    {outcome : Except IoFailure Host}
    (heard : Yields outcome fun after => Host.Hears after.Has s.service.host after) :
    ∃ host, (s.afterHost outcome).2 = s.withHost host ∧
      Host.Hears host.Has s.service.host host := by
  cases outcome with
  | error failure => exact ⟨s.service.host, rfl, .refl _⟩
  | ok host => exact ⟨host, rfl, heard host rfl⟩

/-- A call that gives a service or refuses shifts the session either way. -/
theorem shifts_afterService
    {outcome : Except Fault Service}
    (moved : Yields outcome (Moves s.service)) :
    Shifts s (s.afterService outcome).2 := by
  cases outcome with
  | error fault => exact .refl
  | ok service => exact s.shifts_withService (moved service rfl)

/-- Every call on a registry is a step of the service or a sequence of some, and reading from one is
none at all. -/
theorem shifts_callRegistry (r : Nat) (call : RegistryCall) :
    Shifts s (s.callRegistry r call).2 := by
  cases call with
  | init exhausted => exact .single (.init s r exhausted)
  | close h => exact s.shifts_withService (.single (.close s.service r _))
  | subscribe h name who data =>
      exact s.shifts_withService (s.service.moves_subscribe r _ name _ data)
  | subscribeFile h path who data mask =>
      exact s.shifts_withService (.single (.subscribe s.service r _ path _ data mask))
  | unsubscribe h name who => exact s.shifts_withService (s.service.moves_unsubscribe r _ name _)
  | unsubscribeFile h path who =>
      exact s.shifts_withService (.single (.unsubscribe s.service r _ path _))
  | publish name => exact s.shifts_afterService (s.service.moves_publishAt _ name)
  | detach h => exact s.shifts_withService (.single (.detach s.service r _))
  | driving | subscriptions | watchMask | contains | summary | text => exact .refl

/-- Every call on a queue is one step of the host. -/
theorem shifts_callQueue (call : QueueCall) :
    Shifts s (s.callQueue call).2 := by
  cases call with
  | openQueue => exact .single (.openQueue s)
  | watch h path mask => exact s.shifts_withHost (.watch _ _ path mask)
  | unwatch h watch => exact s.shifts_withHost (.unwatch _ _ watch)
  | read h room =>
      have move : s.service.host.Move (s.service.host.read (s.handle h).fd room).2 :=
        .read _ _ room
      rw [callQueue]
      split <;> rename_i found <;> rw [found] at move <;> exact s.shifts_withHost move
  | readiness h => exact .refl

/-- Reading a file is a call on files as well, of which a path with a zero byte makes nothing. -/
theorem heard_readFile (path : Path) :
    ∃ host, (s.readFile path).2 = s.withHost host ∧ Host.Hears host.Has s.service.host host := by
  rw [readFile]
  split
  · exact ⟨s.service.host, rfl, .refl _⟩
  · exact ⟨_, rfl, s.service.host.readFile_hears path⟩

/-- A call on files changes nothing but the host, whose queues may hear of it. -/
theorem heard_callFile (call : FileCall) :
    ∃ host, (s.callFile call).2 = s.withHost host ∧ Host.Hears host.Has s.service.host host := by
  cases call with
  | write path text =>
      exact s.heard_afterHost <| Host.yields_onPath fun after written =>
        s.service.host.writeFile_hears path _ after written
  | append path text =>
      exact s.heard_afterHost <| Host.yields_onPath fun after written =>
        s.service.host.appendFile_hears path _ after written
  | read path =>
      obtain ⟨host, equal, heard⟩ := s.heard_readFile path
      refine ⟨host, ?_, heard⟩
      rw [callFile]
      split
      · rename_i failure next found
        rwa [found] at equal
      · rename_i bytes next found
        rw [found] at equal
        split <;> exact equal
  | makeDirectory path =>
      exact s.heard_afterHost fun after made =>
        s.service.host.addDirectory_hears path after made
  | remove path =>
      exact s.heard_afterHost (Host.yields_onPath (s.service.host.removeFile_hears path))
  | removeDirectory path =>
      exact s.heard_afterHost (Host.yields_onPath (s.service.host.removeDirectory_hears path))
  | rename path target =>
      exact s.heard_afterHost <| .bind fun _ _ =>
        Host.yields_onPath (s.service.host.rename_hears path target)
  | link path target =>
      exact s.heard_afterHost <| .bind fun _ _ =>
        Host.yields_onPath fun after linked =>
          s.service.host.linkFile_hears path target after linked
  | symlink content path =>
      exact s.heard_afterHost <| .bind fun _ _ =>
        Host.yields_onPath fun after linked =>
          s.service.host.linkSymbolically_hears content path after linked
  | setMode path mode =>
      exact s.heard_afterHost <| Host.yields_onPath fun after changed =>
        s.service.host.setMode_hears path mode after changed
  | status path => exact ⟨s.service.host, rfl, .refl _⟩
  | createMarker path mode =>
      refine ⟨(Marker.create s.service.host path mode).2, ?_, Marker.create_hears _ path mode⟩
      rw [callFile]
      split <;> rename_i found <;> rw [found]
  | removeMarker path =>
      rw [callFile]
      split
      · rename_i host removed
        exact ⟨host, rfl, Marker.remove_hears s.service.host path host removed⟩
      · exact ⟨s.service.host, rfl, .refl _⟩

/-- What queues hear of files is a step of the host. -/
theorem shifts_of_heard
    {after : Session}
    (heard : ∃ host, after = s.withHost host ∧ Host.Hears host.Has s.service.host host) :
    Shifts s after := by
  obtain ⟨host, rfl, heard⟩ := heard
  exact s.shifts_withHost (.hear heard)

/-- Whatever a call does to a session comes down to shifts. -/
theorem shifts_call (call : Call) :
    Shifts s (s.call call).2 := by
  cases call with
  | addRegistry root probe =>
      exact .single (.move (.single (.addRegistry s.service root probe)) ⟨_, rfl⟩ rfl rfl)
  | addView view => exact .single (.move .refl ⟨_, rfl⟩ rfl rfl)
  | registry view call => exact s.shifts_callRegistry _ call
  | publishAt root name => exact s.shifts_afterService (s.service.moves_publishAt root name)
  | registrations loop => exact .refl
  | queue call => exact s.shifts_callQueue call
  | file call => exact s.shifts_of_heard (s.heard_callFile call)

theorem steps_call (call : Call) :
    Steps s.service (s.call call).2.service :=
  (s.shifts_call call).service

end Session

namespace Machine

open Session (Shifts)

/-- One machine after another: tasks were put before those that wait, and the session has shifted.
-/
structure Advances (before after : Machine) : Prop where
  tasks : ∃ added, after.tasks = added ++ before.tasks
  session : Shifts before.session after.session

theorem Advances.refl (m : Machine) : Advances m m where
  tasks := ⟨[], rfl⟩
  session := .refl

theorem Advances.trans
    {first second third : Machine}
    (left : Advances first second)
    (right : Advances second third) :
    Advances first third where
  tasks := by
    obtain ⟨added, equal⟩ := left.tasks
    obtain ⟨added', equal'⟩ := right.tasks
    exact ⟨added' ++ added, by rw [equal', equal, List.append_assoc]⟩
  session := left.session.trans right.session

variable (m : Machine)

/-- Any change that keeps the tasks, and the session up to shifts, is an advance. -/
theorem advances_of_shifts
    {after : Machine}
    (tasks : after.tasks = m.tasks)
    (session : Shifts m.session after.session) :
    Advances m after where
  tasks := ⟨[], tasks⟩
  session := session

/-- Something is written down or printed, and the service is left alone. -/
theorem advances_of_noted
    {after : Machine}
    (tasks : after.tasks = m.tasks)
    (service : after.session.service = m.session.service)
    (views : after.session.views = m.session.views)
    (engines : after.session.engines = m.session.engines)
    (queues : after.session.queues = m.session.queues) :
    Advances m after := by
  refine m.advances_of_shifts tasks (.single (.move ?_ ?_ engines queues))
  · rw [service]
  · exact views ▸ List.prefix_refl _

theorem advances_answering (answer : Answer) : Advances m (m.answering answer) :=
  m.advances_of_shifts rfl .refl

theorem advances_before (tasks : List Task) : Advances m (m.before tasks) where
  tasks := ⟨tasks, rfl⟩
  session := .refl

theorem advances_withService
    {service : Service}
    (moves : Moves m.session.service service) :
    Advances m (m.withService service) :=
  m.advances_of_shifts rfl (m.session.shifts_withService moves)

theorem advances_withHost
    {host : Host}
    (move : m.session.service.host.Move host) :
    Advances m (m.withHost host) :=
  m.advances_of_shifts rfl (m.session.shifts_withHost move)

/-! ## Dispatches -/

/-- A read moves the host, and the dispatch goes on, starts over or is answered. -/
theorem advances_read (d : Dispatch) : Advances m (m.read d) := by
  rw [read]
  split
  · exact m.advances_answering _
  · have move : m.session.service.host.Move
        (m.session.service.host.read d.handle.fd Record.bufferLength).2 := .read _ _ _
    split <;> rename_i found <;> rw [found] at move
    · exact (m.advances_withHost move).trans (advances_answering _ _)
    · exact (m.advances_withHost move).trans (advances_before _ _)
    · split
      · exact (m.advances_withHost move).trans (advances_answering _ _)
      · split
        · exact (m.advances_withHost move).trans (advances_before _ _)
        · exact (m.advances_withHost move).trans (advances_answering _ _)

/-- A record that is taken up is looked up in the table, and the dispatch goes on unless it was
malformed. -/
theorem advances_takeUp (d : Dispatch) (rest : List (Except RecordFault Record)) :
    Advances m (m.takeUp d rest) := by
  cases rest with
  | nil => exact m.advances_before _
  | cons item rest =>
      cases item with
      | error fault => exact m.advances_answering _
      | ok record => exact m.advances_before _

/-- A subscriber that is told puts its script before what waits, and moves nothing itself. -/
theorem advances_notify (who : Subscriber) (data : Payload) :
    Advances m (m.notify who data) := by
  cases who with
  | printer position line => exact m.advances_of_noted rfl rfl rfl rfl rfl
  | labelled label =>
      rw [notify]
      split
      · refine .trans ?_ (advances_before _ _)
        exact m.advances_of_noted rfl rfl rfl rfl rfl
      · exact m.advances_of_noted rfl rfl rfl rfl rfl

/-! ## Loops -/

/-- A callback is taken from its loop to be run, or nothing is there to run. -/
theorem advances_runCallback (loop id : Nat) (follow : Bool → Task) :
    Advances m (m.runCallback loop id follow) := by
  rw [runCallback]
  split
  · exact m.advances_before _
  · rename_i callback taken found
    refine .trans (m.advances_withService ?_) (advances_before _ _)
    exact .single (.take m.session.service found)

theorem advances_finish (loop id : Nat) (callback : Ready) :
    Advances m (m.finish loop id callback) :=
  m.advances_withService (.single (.finish m.session.service loop id callback))

/-- A sweep looks at one registration after another, and starts over as long as something was
found. -/
theorem advances_sweep (loop : Nat) (ids : List Nat) (found : Bool) :
    Advances m (m.sweep loop ids found) := by
  cases ids with
  | nil =>
      rw [sweep]
      split
      · exact m.advances_before _
      · exact m.advances_answering _
  | cons id ids =>
      rw [sweep]
      split
      · exact m.advances_runCallback loop id _
      · exact m.advances_before _

theorem advances_fireLoop (loop : Nat) (fd : Int) : Advances m (m.fireLoop loop fd) := by
  rw [fireLoop]
  split
  · exact m.advances_answering _
  · split <;> exact m.advances_before _

/-- An engine is attached to an eager loop after a dispatch, and to any other one at once. -/
theorem advances_attach (registry : Nat) (handle : Handle) (loop : Nat) :
    Advances m (m.attach registry handle loop) := by
  rw [attach]
  split
  · exact m.advances_answering _
  · split
    · exact m.advances_answering _
    · exact m.advances_before _
    · exact m.advances_before _

theorem advances_poll (registry : Nat) (handle : Handle) :
    Advances m (m.poll registry handle) := by
  rw [poll]
  split
  · exact m.advances_answering _
  · dsimp only
    split
    · exact m.advances_answering _
    · exact m.advances_before _

/-- What is fed to a descriptor is there until the reader is through with it. -/
theorem advances_feed
    (registry : Nat) (handle : Option Handle) (feed : Feed) (reader : FeedReader) :
    Advances m (m.feed registry handle feed reader) := by
  cases handle with
  | none =>
      exact (m.advances_withHost (.openFed _ _)).trans (advances_before _ _)
  | some handle =>
      have fed := (m.advances_withHost (.feed _ handle.fd feed)).trans
        (advances_before _ [.unfeed handle.fd])
      cases reader with
      | dispatch => exact fed.trans (advances_before _ _)
      | poll => exact fed.trans (advances_poll _ _ _)
      | fire loop => exact fed.trans (advances_fireLoop _ _ _)

/-- A marker is published to wake whoever waits, and another one where this was refused. -/
theorem advances_wake
    (registry : Nat) (handle : Handle) (name : String) (recover : Option String) :
    Advances m (m.wake registry handle name recover) := by
  unfold wake
  split
  · rename_i service found
    exact (m.advances_withService (m.session.service.moves_publishAt _ name service found)).trans
      (advances_before _ _)
  · exact m.advances_before _
  · rename_i fault other refused
    refine .trans ?_ (advances_before _ _)
    split
    · rename_i service found
      exact m.advances_withService (m.session.service.moves_publishAt _ other service found)
    · exact .refl m

/-! ## Commands -/

/-- Names are subscribed to one after another until one is refused. -/
theorem advances_subscribeAll (registry : Nat) (handle : Handle) (position : Nat)
    (names : List String) :
    Advances m (m.subscribeAll registry handle position names).2 := by
  induction names generalizing m position with
  | nil => exact .refl m
  | cons name names ih =>
      have subscribed := m.advances_withService
        (m.session.service.moves_subscribe registry handle name (.printer position name) .none)
      rw [subscribeAll]
      dsimp only
      split
      · exact subscribed
      · exact subscribed.trans (ih _ _)

/-- A command that listens opens an engine, subscribes to its names and then waits, or gives up and
closes the engine. -/
theorem advances_listen
    (root : Path) (names : List String) (poll : Bool) (script : List Action) :
    Advances m (m.listen root names poll script) := by
  let added := m.withService (m.session.service.addRegistry root .host)
  have opened : Advances m (added.withService
      (added.session.service.init m.session.service.registries.length false).2) :=
    m.advances_withService (.single (.initNew m.session.service root .host false))
  rw [listen]
  dsimp only
  split
  · rename_i fault service found
    rw [found] at opened
    exact opened.trans (advances_answering _ _)
  · rename_i handle service found
    rw [found] at opened
    have subscribed := advances_subscribeAll (added.withService service)
      m.session.service.registries.length handle 0 names
    split
    · rename_i failure next refused
      rw [refused] at subscribed
      refine (opened.trans subscribed).trans ?_
      exact (advances_withService _ (.single (.close _ _ _))).trans (advances_answering _ _)
    · rename_i next granted
      rw [granted] at subscribed
      refine (opened.trans subscribed).trans ?_
      split
      · exact advances_before _ _
      · exact (advances_withService _ (.single (.addLoop _ .reactor))).trans (advances_before _ _)

/-- An interrupted command detaches its engine from the loop, or publishes its first name to wake
its poller. -/
theorem advances_interrupt (l : Listener) : Advances m (m.interrupt l) := by
  rw [interrupt]
  split
  · exact (m.advances_withService (.single (.detach _ _ _))).trans (advances_before _ _)
  · split
    · exact m.advances_answering _
    · rename_i service found
      exact (m.advances_withService (m.session.service.moves_publishAt _ _ service found)).trans
        (advances_before _ _)

theorem advances_hangUp (l : Listener) : Advances m (m.hangUp l) :=
  (m.advances_withService (.single (.close _ _ _))).trans (advances_answering _ _)

/-- What a command comes down to is a call on files, a publication or a session of listening. -/
theorem advances_carryOut (script : List Action) (plan : Plan) :
    Advances m (m.carryOut script plan) := by
  cases plan with
  | createMarker path mode =>
      exact (m.advances_withHost (.hear (Marker.create_hears _ path mode))).trans
        (advances_answering _ _)
  | removeMarker path =>
      rw [carryOut]
      split
      · rename_i host removed
        exact (m.advances_withHost (.hear (Marker.remove_hears _ path host removed))).trans
          (advances_answering _ _)
      · exact m.advances_answering _
  | publish root name =>
      rw [carryOut]
      split
      · rename_i service found
        exact (m.advances_withService (m.session.service.moves_publishAt _ _ service found)).trans
          (advances_answering _ _)
      · exact m.advances_answering _
  | listen root names poll => exact m.advances_listen root names poll script

theorem advances_loadSettings (arguments : Arguments) (root : Option String) :
    Advances m (m.loadSettings arguments root).2 := by
  rw [loadSettings]
  split
  · exact .refl m
  · exact m.advances_of_shifts rfl (m.session.shifts_of_heard (m.session.heard_readFile _))

/-- A command reads its settings first, and is then refused or carried out. -/
theorem advances_runCommand
    (arguments : Arguments) (root : Option String) (script : List Action) :
    Advances m (m.runCommand arguments root script) := by
  have quiet : Advances m { m with session := { m.session with printed := [] } } :=
    m.advances_of_noted rfl rfl rfl rfl rfl
  have loaded := advances_loadSettings
    { m with session := { m.session with printed := [] } } arguments root
  rw [runCommand]
  split
  · rename_i fault next found
    rw [found] at loaded
    exact (quiet.trans loaded).trans (advances_answering _ _)
  · rename_i settings next found
    rw [found] at loaded
    refine (quiet.trans loaded).trans ?_
    split
    · exact advances_answering _ _
    · exact advances_carryOut _ _ _

theorem advances_exit : Advances m m.exit := by
  rw [exit]
  split
  · exact m.advances_answering _
  · exact .refl m

/-! ## Tasks -/

/-- Whatever a subscriber or a session may do is an advance. -/
theorem advances_perform (action : Action) : Advances m (m.perform action) := by
  cases action with
  | call c => exact m.advances_of_shifts rfl (m.session.shifts_call c)
  | dispatch view h => exact m.advances_before _
  | poll view h => exact m.advances_poll _ _
  | attach view h loop => exact m.advances_attach _ _ loop
  | fire h loop => exact m.advances_fireLoop loop _
  | feed view h feed reader => exact m.advances_feed _ _ feed reader
  | pollInBackground view h wake recover => exact m.advances_before _
  | run arguments root script =>
      rw [perform]
      split
      · exact m.advances_answering _
      · exact m.advances_runCommand _ root script
  | execute arguments root =>
      rw [perform]
      split
      · exact m.advances_answering _
      · exact (m.advances_runCommand _ root []).trans (advances_exit _)

/-- Carrying out a task is an advance of the machine without it. -/
theorem advances_execute (task : Task) : Advances m (m.execute task) := by
  cases task with
  | perform action => exact m.advances_perform action
  | note label => exact m.advances_of_noted rfl rfl rfl rfl rfl
  | tell targets =>
      cases targets with
      | nil => exact .refl m
      | cons target rest => exact (m.advances_before _).trans (advances_notify _ _ _)
  | read d => exact m.advances_read d
  | records d rest => exact m.advances_takeUp d rest
  | join registry handle loop =>
      exact (m.advances_withService (.single (.join _ registry handle loop))).trans
        (advances_answering _ _)
  | fire loop ids ran =>
      cases ids with
      | nil => exact m.advances_answering _
      | cons id ids =>
          rw [execute]
          exact m.advances_runCallback loop id _
  | finish loop id callback => exact m.advances_finish loop id callback
  | sweep loop ids found => exact m.advances_sweep loop ids found
  | swept loop ids found => exact m.advances_before _
  | reply answer => exact m.advances_answering _
  | unfeed fd => exact m.advances_withHost (.unfeed _ fd)
  | wake registry handle name recover => exact m.advances_wake registry handle name recover
  | turn l => exact m.advances_before _
  | interrupt l => exact m.advances_interrupt l
  | hangUp l => exact m.advances_hangUp l

end Machine

end MarkerWatch
