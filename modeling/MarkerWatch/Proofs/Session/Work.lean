import MarkerWatch.Proofs.Assoc
import MarkerWatch.Proofs.Session.Undisturbed

/-!
# Work left to subscribers

The work of a machine bounds the actions that are still to be performed: those that wait among its
tasks, and those of the scripts that its subscribers are still to run.  A command that listens
performs a script of its own, so the work of such an action is that of the script and a little more.

Nothing but a subscriber that is told of an event changes what subscribers do, and whatever a task
puts before the others is less work than the task itself.
-/

namespace MarkerWatch

/-! ## Work of actions and tasks -/

namespace Action

mutual

/-- The work that comes of an action. -/
def work : Action → Nat
  | .run _ _ script => workOfAll script + 4
  | _ => 4

/-- The work that comes of the actions of a script, each followed by a turn. -/
def workOfAll : List Action → Nat
  | [] => 0
  | action :: rest => action.work + 1 + workOfAll rest

end

/-- No action is for free: there is room below each for what it leads to. -/
theorem four_le_work (action : Action) : 4 ≤ action.work := by
  cases action <;> simp [work]

end Action

/-- The work of a task, leaving aside what it reads and looks at. -/
def Task.work : Task → Nat
  | .perform action => action.work
  | .join .. | .wake .. | .turn _ | .hangUp _ => 1
  | .interrupt _ => 2
  | _ => 0

/-- The work of the scripts that a subscriber is still to run. -/
def Behaviour.work (behaviour : Behaviour) : Nat :=
  behaviour.times * (Action.workOfAll behaviour.script + 1)

def Task.workOfAll (tasks : List Task) : Nat :=
  (tasks.map Task.work).sum

/-- The work of all waiting tasks and of all subscribers. -/
def Machine.work (m : Machine) : Nat :=
  Assoc.total Behaviour.work m.session.behaviours + Task.workOfAll m.tasks

/-- Tasks in a row are as much work as their parts. -/
theorem Task.workOfAll_append (left right : List Task) :
    Task.workOfAll (left ++ right) = Task.workOfAll left + Task.workOfAll right := by
  simp [workOfAll]

theorem Task.workOfAll_singleton (task : Task) : Task.workOfAll [task] = task.work :=
  rfl

/-- The actions of a script, each followed by a task, are at most the work of the script. -/
theorem Task.workOfAll_script_le
    (script : List Action) (follow : Task)
    (little : follow.work ≤ 1) :
    Task.workOfAll (script.flatMap fun action => [.perform action, follow]) ≤
      Action.workOfAll script := by
  induction script with
  | nil => exact Nat.le_refl _
  | cons action rest ih =>
      rw [List.flatMap_cons, workOfAll_append, Action.workOfAll]
      simp only [workOfAll, List.map_cons, List.map_nil, List.sum_cons, List.sum_nil] at ih ⊢
      have performed : (Task.perform action).work = action.work := rfl
      omega

namespace Machine

variable (m : Machine)

@[simp]
theorem work_answering (answer : Answer) : (m.answering answer).work = m.work :=
  rfl

@[simp]
theorem work_withService (service : Service) : (m.withService service).work = m.work :=
  rfl

@[simp]
theorem work_withHost (host : Host) : (m.withHost host).work = m.work :=
  rfl

/-- What is put before the tasks that wait adds its own work. -/
@[simp]
theorem work_before (tasks : List Task) :
    (m.before tasks).work = Task.workOfAll tasks + m.work := by
  show Assoc.total _ m.session.behaviours + Task.workOfAll (tasks ++ m.tasks) = _
  rw [Task.workOfAll_append, work]
  omega

@[simp]
theorem workOfAll_dispatchingIfOpen (registry : Nat) (handle : Handle) :
    Task.workOfAll (m.dispatchingIfOpen registry handle) = 0 := by
  rw [dispatchingIfOpen]
  split <;> rfl

/-- Changes that leave tasks and subscribers alone leave the work alone. -/
theorem work_eq
    {m next : Machine}
    (behaviours : next.session.behaviours = m.session.behaviours)
    (tasks : next.tasks = m.tasks) :
    next.work = m.work := by
  rw [work, behaviours, tasks, work]

/-! ## Actions -/

/-- No call changes what subscribers do. -/
theorem behaviours_call (c : Call) :
    (m.session.call c).2.behaviours = m.session.behaviours := by
  by_cases queue : ∃ q, c = .queue q
  · obtain ⟨q, rfl⟩ := queue
    cases q with
    | read h room =>
        show (m.session.callQueue (.read h room)).2.behaviours = _
        rw [Session.callQueue]
        split <;> rfl
    | _ => rfl
  · exact Session.behaviours_call fun q equal => queue ⟨q, equal⟩

/-- An engine that is to be attached may leave its join to be done. -/
theorem work_attach_le (registry : Nat) (handle : Handle) (loop : Nat) :
    (m.attach registry handle loop).work ≤ 1 + m.work := by
  rw [attach]
  split
  · exact Nat.le_add_left _ _
  · split
    · exact Nat.le_add_left _ _
    · rw [work_before]
      exact Nat.le_refl _
    · rw [work_before]
      exact Nat.le_refl _

/-- A poll leads to reads at most, which are no work. -/
theorem work_poll (registry : Nat) (handle : Handle) :
    (m.poll registry handle).work = m.work := by
  rw [poll]
  split
  · rfl
  · dsimp only
    split
    · rfl
    · rw [work_before, Task.workOfAll_append]
      split <;> exact Nat.zero_add _

/-- A loop that is fired has callbacks to run, which are no work before they dispatch. -/
theorem work_fireLoop (loop : Nat) (fd : Int) :
    (m.fireLoop loop fd).work = m.work := by
  rw [fireLoop]
  split
  · rfl
  · split
    · rw [work_before]
      exact Nat.zero_add _
    · rw [work_before]
      exact Nat.zero_add _

/-- Neither what is fed nor the reader that it is for adds any work. -/
theorem work_feed
    (registry : Nat) (handle : Option Handle) (feed : Feed) (reader : FeedReader) :
    (m.feed registry handle feed reader).work = m.work := by
  cases handle with
  | none =>
      show ((m.withHost _).before _).work = m.work
      rw [work_before, work_withHost]
      exact Nat.zero_add _
  | some handle =>
      have fed :
          ((m.withHost (m.session.service.host.feed handle.fd feed)).before
            [.unfeed handle.fd]).work = m.work := by
        rw [work_before, work_withHost]
        exact Nat.zero_add _
      cases reader with
      | dispatch =>
          rw [Machine.feed, work_before, fed]
          exact Nat.zero_add _
      | poll => exact (work_poll _ _ _).trans fed
      | fire loop => exact (work_fireLoop _ _ _).trans fed

/-- A marker that is published to wake somebody leads to a dispatch, which is no work. -/
theorem work_wake
    (registry : Nat) (handle : Handle) (name : String) (recover : Option String) :
    (m.wake registry handle name recover).work = m.work := by
  have dispatched (next : Machine) (answer : Answer) :
      (next.before (next.dispatchingIfOpen registry handle ++ [.reply answer])).work =
        next.work := by
    rw [work_before, Task.workOfAll_append, workOfAll_dispatchingIfOpen]
    exact Nat.zero_add _
  unfold wake
  split
  · exact dispatched _ _
  · exact dispatched _ _
  · dsimp only
    split <;> exact dispatched _ _

/-! ## Commands -/

/-- Subscribing to names adds nothing that is to be done. -/
theorem work_subscribeAll (registry : Nat) (handle : Handle) (position : Nat)
    (names : List String) :
    (m.subscribeAll registry handle position names).2.work = m.work := by
  induction names generalizing m position with
  | nil => rfl
  | cons name names ih =>
      rw [subscribeAll]
      dsimp only
      split
      · rfl
      · exact (ih _ _).trans (work_withService _ _)

/-- A command that listens has its script to perform, and its end. -/
theorem work_listen_le
    (root : Path) (names : List String) (poll : Bool) (script : List Action) :
    (m.listen root names poll script).work ≤ Action.workOfAll script + 3 + m.work := by
  rw [listen]
  dsimp only
  split
  · exact Nat.le_add_left _ _
  · rename_i handle service found
    have subscribed := work_subscribeAll
      ((m.withService (m.session.service.addRegistry root .host)).withService service)
      m.session.service.registries.length handle 0 names
    rw [work_withService, work_withService] at subscribed
    split
    · rename_i failure next refused
      rw [refused] at subscribed
      rw [work_answering, work_withService, subscribed]
      exact Nat.le_add_left _ _
    · rename_i next granted
      rw [granted] at subscribed
      have turns (l : Listener) := Task.workOfAll_script_le script (.turn l) (Nat.le_refl 1)
      split
      · rw [work_before, Task.workOfAll_append, subscribed]
        have listened := turns ⟨m.session.service.registries.length, handle, names, none⟩
        simp only [Task.workOfAll, List.map_cons, List.map_nil, List.sum_cons, List.sum_nil,
          Task.work] at listened ⊢
        omega
      · rw [work_before, work_withService, ← List.singleton_append, Task.workOfAll_append,
          Task.workOfAll_append, subscribed]
        have listened := turns
          ⟨m.session.service.registries.length, handle, names,
            some next.session.service.loops.length⟩
        simp only [Task.workOfAll, List.map_cons, List.map_nil, List.sum_cons, List.sum_nil,
          Task.work] at listened ⊢
        omega

/-- Of all that a command may come down to only listening leaves work behind. -/
theorem work_carryOut_le (script : List Action) (plan : Plan) :
    (m.carryOut script plan).work ≤ Action.workOfAll script + 3 + m.work := by
  cases plan with
  | createMarker path mode => exact Nat.le_add_left _ _
  | removeMarker path =>
      rw [carryOut]
      split <;> exact Nat.le_add_left _ _
  | publish root name =>
      rw [carryOut]
      split <;> exact Nat.le_add_left _ _
  | listen root names poll => exact m.work_listen_le root names poll script

/-- Settings are read without anything to be done later. -/
theorem work_loadSettings (arguments : Arguments) (root : Option String) :
    (m.loadSettings arguments root).2.work = m.work := by
  rw [loadSettings]
  split
  · rfl
  · rename_i path found
    obtain ⟨host, equal, -⟩ := m.session.heard_readFile (Path.ofString path)
    apply work_eq
    · dsimp only
      rw [equal]
      rfl
    · rfl

/-- A command is at most the work of its script and three more. -/
theorem work_runCommand_le
    (arguments : Arguments) (root : Option String) (script : List Action) :
    (m.runCommand arguments root script).work ≤ Action.workOfAll script + 3 + m.work := by
  have loaded := work_loadSettings
    { m with session := { m.session with printed := [] } } arguments root
  have quiet : work { m with session := { m.session with printed := [] } } = m.work := rfl
  rw [quiet] at loaded
  rw [runCommand]
  split
  · rename_i fault next found
    rw [found] at loaded
    rw [work_answering, loaded]
    exact Nat.le_add_left _ _
  · rename_i settings next found
    rw [found] at loaded
    split
    · rw [work_answering, loaded]
      exact Nat.le_add_left _ _
    · rw [← loaded]
      exact work_carryOut_le _ _ _

theorem work_exit : m.exit.work = m.work := by
  rw [exit]
  split <;> rfl

/-! ## Tasks -/

/-- An action that is performed is done with: what comes of it is less work. -/
theorem work_perform_lt (action : Action) : (m.perform action).work < action.work + m.work := by
  have some := action.four_le_work
  cases action with
  | call c =>
      have same : (m.perform (.call c)).work = m.work := work_eq (m.behaviours_call c) rfl
      omega
  | dispatch view h =>
      have nothing :
          Task.workOfAll [m.dispatching (m.session.registryOf view) (m.session.handle h)] = 0 :=
        rfl
      rw [perform, work_before, nothing]
      omega
  | poll view h =>
      rw [perform, work_poll]
      omega
  | attach view h loop =>
      rw [perform]
      have attached := m.work_attach_le (m.session.registryOf view) (m.session.handle h) loop
      omega
  | fire h loop =>
      rw [perform, work_fireLoop]
      omega
  | feed view h feed reader =>
      rw [perform, work_feed]
      omega
  | pollInBackground view h wake recover =>
      rw [perform, work_before, Task.workOfAll_append, workOfAll_dispatchingIfOpen]
      simp only [Task.workOfAll, List.map_cons, List.map_nil, List.sum_cons, List.sum_nil,
        Task.work]
      omega
  | run arguments root script =>
      rw [perform, Action.work]
      split
      · rw [work_answering]
        omega
      · rename_i parsed _
        have ran := m.work_runCommand_le parsed root script
        omega
  | execute arguments root =>
      rw [perform]
      split
      · rw [work_answering]
        omega
      · rename_i parsed _
        have ran := m.work_runCommand_le parsed root []
        rw [Action.workOfAll] at ran
        rw [work_exit]
        omega

/-- A command that was interrupted has still to hang up. -/
theorem work_interrupt_le (l : Listener) : (m.interrupt l).work ≤ 1 + m.work := by
  have hungUp (next : Machine) : (next.before [.hangUp l]).work = 1 + next.work :=
    work_before _ _
  rw [interrupt]
  split
  · exact Nat.le_of_eq (hungUp _)
  · split
    · exact Nat.le_add_left _ _
    · dsimp only
      rw [work_before, Task.workOfAll_append, workOfAll_dispatchingIfOpen, work_withService]
      exact Nat.le_of_eq rfl

/-- A subscriber that is told of an event acts on it, which is work, or nothing is changed but what
was told and printed. -/
theorem work_notify (who : Subscriber) (data : Payload) :
    (m.notify who data).work < m.work ∨
      (m.notify who data).work = m.work ∧ (m.notify who data).tasks = m.tasks ∧
        (m.notify who data).answer = m.answer ∧
        (m.notify who data).session.service = m.session.service := by
  cases who with
  | printer position line => exact Or.inr ⟨rfl, rfl, rfl, rfl⟩
  | labelled label =>
      rw [notify]
      cases found : Assoc.get? m.session.behaviours label with
      | none =>
          right
          refine ⟨?_, rfl, rfl, rfl⟩
          dsimp only
          rw [Assoc.adjust_of_absent found]
          rfl
      | some behaviour =>
          obtain ⟨script, times⟩ := behaviour
          have adjusted :=
            Assoc.total_adjust Behaviour.work found fun b => { b with times := b.times - 1 }
          cases times with
          | zero =>
              right
              refine ⟨?_, rfl, rfl, rfl⟩
              simp only [Behaviour.work, work] at adjusted ⊢
              omega
          | succ times =>
              left
              have scripted :=
                Task.workOfAll_script_le script (.note label) (Nat.zero_le 1)
              dsimp only
              rw [work_before]
              simp only [Behaviour.work, work, Nat.add_sub_cancel, Nat.add_mul] at adjusted ⊢
              omega

end Machine

end MarkerWatch
