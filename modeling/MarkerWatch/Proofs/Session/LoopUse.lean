import MarkerWatch.Proofs.Service.LoopUse
import MarkerWatch.Proofs.Session.Advance

/-!
# How a session uses a loop

A fire, a callback that runs and one that is still to be registered wait among the tasks of a
machine, so a loop and the tasks that are about it make up a loop in use.  Whatever a machine does,
such a loop makes steps or none; `Machine.Follows` says so.

The only tasks that take callbacks out otherwise are those of loops that run by themselves.  A loop
that takes them when it is fired has none of these tasks, and none are put before it.
-/

namespace MarkerWatch

open ReadyLoop (Activity Pending Trace Unreturning)

/-! ## Calls -/

namespace Session

open Service (CancelsAtMost)

variable (s : Session) (i : Nat)

/-- Where a call is refused the service stays, and else it is what the call gives. -/
theorem cancelsAtMost_afterService
    {outcome : Except Fault Service}
    (cancels : Yields outcome (CancelsAtMost i s.service)) :
    CancelsAtMost i s.service (s.afterService outcome).2.service := by
  cases outcome with
  | error fault => exact .refl i s.service
  | ok service => exact cancels service rfl

/-- A call on a registry cancels the registration of an engine, or leaves all loops alone. -/
theorem cancelsAtMost_callRegistry (r : Nat) (call : RegistryCall) :
    CancelsAtMost i s.service (s.callRegistry r call).2.service := by
  cases call with
  | init exhausted =>
      have opened := Service.cancelsAtMost_init i s.service r exhausted
      rw [callRegistry]
      split <;> rename_i found <;> rwa [found] at opened
  | close h => exact Service.cancelsAtMost_close i s.service r _
  | subscribe h name who data => exact Service.cancelsAtMost_subscribe ..
  | subscribeFile h path who data mask => exact Service.cancelsAtMost_subscribeFile ..
  | unsubscribe h name who => exact Service.cancelsAtMost_unsubscribe ..
  | unsubscribeFile h path who => exact Service.cancelsAtMost_unsubscribeFile ..
  | publish name =>
      exact s.cancelsAtMost_afterService i (s.service.cancelsAtMost_publishAt i _ name)
  | detach h => exact Service.cancelsAtMost_detach i s.service r _
  | driving | subscriptions | watchMask | contains | summary | text => exact .refl i s.service

/-- Calls on queues have nothing to do with loops. -/
theorem loops_callQueue (call : QueueCall) :
    (s.callQueue call).2.service.loops = s.service.loops := by
  cases call with
  | read h room =>
      rw [callQueue]
      split <;> rfl
  | openQueue | watch | unwatch | readiness => rfl

/-- No call on a session does more to a loop than to cancel registrations with it. -/
theorem cancelsAtMost_call (call : Call) :
    CancelsAtMost i s.service (s.call call).2.service := by
  cases call with
  | registry view call => exact s.cancelsAtMost_callRegistry i _ call
  | publishAt root name =>
      exact s.cancelsAtMost_afterService i (s.service.cancelsAtMost_publishAt i root name)
  | queue call =>
      refine .of_same (s.steps_call (.queue call)) ?_
      change (s.callQueue call).2.service.loops[i]? = _
      rw [loops_callQueue]
  | file call =>
      refine .of_same (s.steps_call (.file call)) ?_
      obtain ⟨host, equal, -⟩ := s.heard_callFile call
      change (s.callFile call).2.service.loops[i]? = _
      rw [equal]
      rfl
  | addRegistry root probe => exact .of_same (s.steps_call (.addRegistry root probe)) rfl
  | addView | registrations => exact .refl i s.service

end Session

/-! ## Tasks about a loop -/

namespace Task

/-- The loop that a task is about. -/
def loop? : Task → Option Nat
  | .fire loop _ _ | .finish loop _ _ | .join _ _ loop | .sweep loop _ _ | .swept loop _ _ =>
      some loop
  | .turn l => l.loop
  | _ => none

/-- The loop that is to run by itself. -/
def sweeps? : Task → Option Nat
  | .sweep loop _ _ | .swept loop _ _ => some loop
  | .turn l => l.loop
  | _ => none

/-- What a waiting task says that a loop has begun.  An eager loop has run the callback that it is
about to register. -/
def pending? (i : Nat) (kind : LoopKind) : Task → Option (Pending Ready)
  | .fire loop waiting ran => if loop = i then some (.firing waiting ran) else none
  | .finish loop id callback => if loop = i then some (.running id callback) else none
  | .join registry handle loop =>
    if loop = i ∧ kind = .eager then some (.readying handle.fd ⟨registry, handle⟩) else none
  | _ => none

variable {i : Nat} {task : Task}

/-- A task that is about another loop has not begun anything in this one. -/
theorem pending?_of_other
    (other : task.loop? ≠ some i) (kind : LoopKind) :
    task.pending? i kind = none := by
  cases task with
  | fire loop | finish loop => exact if_neg fun same => other (congrArg some same)
  | join registry handle loop => exact if_neg fun both => other (congrArg some both.1)
  | _ => rfl

theorem sweeps?_of_other
    (other : task.loop? ≠ some i) :
    task.sweeps? ≠ some i := by
  cases task with
  | sweep | swept | turn => exact other
  | _ => simp [sweeps?]

end Task

namespace Machine

open Service (CancelsAtMost)

/-- What a loop has begun, the innermost first. -/
def pendingAt (m : Machine) (i : Nat) (kind : LoopKind) : List (Pending Ready) :=
  m.tasks.filterMap (Task.pending? i kind)

/-- A loop of a machine with what it has begun. -/
def activity? (m : Machine) (i : Nat) : Option (Activity Ready) :=
  m.session.service.loops[i]?.map fun l => ⟨l, m.pendingAt i l.kind⟩

/-- A loop that takes its callbacks only when it is fired. -/
structure Fits (m : Machine) (i : Nat) (l : ReadyLoop Ready) : Prop where
  found : m.session.service.loops[i]? = some l
  fired : l.kind = .manual ∨ l.kind = .eager
  issued : m.session.service.Issued
  unswept : ∀ task ∈ m.tasks, task.sweeps? ≠ some i

/-- One machine after another, where the loop has made steps or none, and no fire has returned. -/
def Follows (i : Nat) (m after : Machine) : Prop :=
  ∀ l, m.Fits i l →
    ∃ later events, after.Fits i later ∧ Unreturning events ∧
      Trace ⟨l, m.pendingAt i l.kind⟩ events ⟨later, after.pendingAt i l.kind⟩

variable {i : Nat} {m : Machine}

/-- A machine that stays as it is follows the loop without a step of it. -/
theorem Follows.refl (m : Machine) : Follows i m m :=
  fun l fits => ⟨l, [], fits, ReadyLoop.unreturning_nil, .nil⟩

/-- What follows a loop twice makes the steps of it one after the other. -/
theorem Follows.trans
    {first second third : Machine}
    (left : Follows i first second)
    (right : Follows i second third) :
    Follows i first third := by
  intro l fits
  obtain ⟨between, events, fits, unreturning, trace⟩ := left l fits
  obtain ⟨later, events', fits, unreturning', trace'⟩ := right between fits
  have kind : between.kind = l.kind := trace.kind
  rw [kind] at trace'
  exact ⟨later, events ++ events', fits, unreturning.append unreturning', trace.append trace'⟩

/-- One step of the loop is enough, unless a fire returns in it. -/
theorem exists_of_step
    {after : Machine} {l later : ReadyLoop Ready} {event : ReadyLoop.Event Ready}
    {kind : LoopKind} {before now : List (Pending Ready)}
    (fits : after.Fits i later)
    (first : m.pendingAt i kind = before)
    (last : after.pendingAt i kind = now)
    (step : ReadyLoop.Step ⟨l, before⟩ event ⟨later, now⟩)
    (unreturning : ∀ depth ran, event ≠ .returned depth ran) :
    ∃ later events, after.Fits i later ∧ Unreturning events ∧
      Trace ⟨l, m.pendingAt i kind⟩ events ⟨later, after.pendingAt i kind⟩ := by
  rw [first]
  refine ⟨later, [event], fits, ?_, ?_⟩
  · intro depth ran member
    exact unreturning depth ran (List.mem_singleton.mp member).symm
  · rw [last]
    exact .single step

/-! ### Changes that are not about the loop -/

theorem pendingAt_before (tasks : List Task) (kind : LoopKind) :
    (m.before tasks).pendingAt i kind =
      tasks.filterMap (Task.pending? i kind) ++ m.pendingAt i kind :=
  List.filterMap_append

theorem filterMap_pending?_of_other
    {tasks : List Task}
    (other : ∀ task ∈ tasks, task.loop? ≠ some i) (kind : LoopKind) :
    tasks.filterMap (Task.pending? i kind) = [] :=
  List.filterMap_eq_nil_iff.mpr fun task member => Task.pending?_of_other (other task member) kind

variable (m)

/-- Any change that keeps the tasks, and does no more to the loop than to cancel. -/
theorem follows_of_cancels
    {after : Machine}
    (tasks : after.tasks = m.tasks)
    (cancels : CancelsAtMost i m.session.service after.session.service) :
    Follows i m after := by
  intro l fits
  obtain ⟨later, events, found, unreturning, trace⟩ := cancels.trace fits.issued l fits.found
  have kind : later.kind = l.kind := (trace []).kind
  refine ⟨later, events, ⟨found, ?_, ?_, ?_⟩, unreturning, ?_⟩
  · rw [kind]
    exact fits.fired
  · exact cancels.steps.induction Service.Issued.step fits.issued
  · rw [tasks]
    exact fits.unswept
  · rw [pendingAt, pendingAt, tasks]
    exact trace _

/-- What is written down or printed has nothing to do with loops. -/
theorem follows_of_noted
    {after : Machine}
    (tasks : after.tasks = m.tasks)
    (service : after.session.service = m.session.service) :
    Follows i m after := by
  refine m.follows_of_cancels tasks ?_
  rw [service]
  exact .refl i _

theorem follows_answering (answer : Answer) : Follows i m (m.answering answer) :=
  m.follows_of_noted rfl rfl

/-- A service that cancels at most has its machine follow the loop. -/
theorem follows_withService
    {service : Service}
    (cancels : CancelsAtMost i m.session.service service) :
    Follows i m (m.withService service) :=
  m.follows_of_cancels rfl cancels

theorem follows_withHost
    {host : Host}
    (move : m.session.service.host.Move host) :
    Follows i m (m.withHost host) :=
  m.follows_of_cancels rfl (.of_same (.single (.host _ move.step)) rfl)

/-- Tasks that sweep nothing may be put before those that wait. -/
theorem Fits.before
    {l : ReadyLoop Ready}
    (fits : m.Fits i l)
    {tasks : List Task}
    (unswept : ∀ task ∈ tasks, task.sweeps? ≠ some i) :
    (m.before tasks).Fits i l where
  found := fits.found
  fired := fits.fired
  issued := fits.issued
  unswept := by
    intro task member
    rcases List.mem_append.mp member with new | old
    · exact unswept task new
    · exact fits.unswept task old

/-- Tasks about other things may be put before those that wait. -/
theorem follows_before
    (tasks : List Task)
    (other : ∀ task ∈ tasks, task.loop? ≠ some i) :
    Follows i m (m.before tasks) := by
  intro l fits
  refine ⟨l, [], fits.before m fun task new => Task.sweeps?_of_other (other task new),
    ReadyLoop.unreturning_nil, ?_⟩
  rw [pendingAt_before, filterMap_pending?_of_other other]
  exact .nil

/-- A task that is not about the loop may be taken off. -/
theorem follows_popped
    {task : Task}
    (other : task.loop? ≠ some i) :
    Follows i (m.before [task]) m := by
  intro l fits
  refine ⟨l, [], ⟨fits.found, fits.fired, fits.issued, ?_⟩, ReadyLoop.unreturning_nil, ?_⟩
  · exact fun other member => fits.unswept other (List.mem_cons_of_mem _ member)
  · rw [pendingAt_before, filterMap_pending?_of_other (by simpa using other)]
    exact .nil

theorem loop?_dispatchingIfOpen
    (registry : Nat) (handle : Handle) :
    ∀ task ∈ m.dispatchingIfOpen registry handle, task.loop? ≠ some i := by
  intro task member
  rw [dispatchingIfOpen] at member
  split at member
  · rw [List.mem_singleton.mp member]
    simp [dispatching, Task.loop?]
  · cases member

/-! ### Dispatches -/

theorem follows_read (d : Dispatch) : Follows i m (m.read d) := by
  rw [read]
  split
  · exact m.follows_answering _
  · have move : m.session.service.host.Move
        (m.session.service.host.read d.handle.fd Record.bufferLength).2 := .read _ _ _
    split <;> rename_i found <;> rw [found] at move
    · exact (m.follows_withHost move).trans (follows_answering _ _)
    · exact (m.follows_withHost move).trans (follows_before _ _ (by simp [Task.loop?]))
    · split
      · exact (m.follows_withHost move).trans (follows_answering _ _)
      · split
        · exact (m.follows_withHost move).trans (follows_before _ _ (by simp [Task.loop?]))
        · exact (m.follows_withHost move).trans (follows_answering _ _)

theorem follows_takeUp (d : Dispatch) (rest : List (Except RecordFault Record)) :
    Follows i m (m.takeUp d rest) := by
  cases rest with
  | nil => exact m.follows_before _ (by simp [Task.loop?])
  | cons item rest =>
      cases item with
      | error fault => exact m.follows_answering _
      | ok record => exact m.follows_before _ (by simp [Task.loop?])

/-- The actions of a script are about no loop before they are performed. -/
theorem loop?_script (label : String) (script : List Action) :
    ∀ task ∈ script.flatMap fun action => [Task.perform action, .note label],
      task.loop? ≠ some i := by
  intro task member
  obtain ⟨action, -, member⟩ := List.mem_flatMap.mp member
  rcases List.mem_pair.mp member with rfl | rfl <;> simp [Task.loop?]

/-- A subscriber that is told has its script put before what waits. -/
theorem follows_notify (who : Subscriber) (data : Payload) :
    Follows i m (m.notify who data) := by
  cases who with
  | printer position line => exact m.follows_of_noted rfl rfl
  | labelled label =>
      rw [notify]
      split
      · refine .trans ?_ (follows_before _ _ (loop?_script label _))
        exact m.follows_of_noted rfl rfl
      · exact m.follows_of_noted rfl rfl

/-! ### Loops -/

/-- Another loop may take a callback out. -/
theorem follows_runCallback
    {loop : Nat} (other : loop ≠ i) (id : Nat) {follow : Bool → Task}
    (follows : ∀ started, (follow started).loop? ≠ some i) :
    Follows i m (m.runCallback loop id follow) := by
  rw [runCallback]
  split
  · exact m.follows_before _ (by simpa using follows false)
  · rename_i callback taken found
    refine .trans (m.follows_withService ?_) (follows_before _ _ ?_)
    · exact .of_same (.single (.take _ found)) (List.getElem?_set_ne other)
    · intro task member
      simp only [List.mem_cons, List.not_mem_nil, or_false] at member
      rcases member with rfl | rfl | rfl
      · simp [dispatching, Task.loop?]
      · simp [Task.loop?, other]
      · exact follows true

/-- A sweep of another loop may run callbacks of that one, and no others. -/
theorem follows_sweep
    {loop : Nat} (other : loop ≠ i) (ids : List Nat) (found : Bool) :
    Follows i m (m.sweep loop ids found) := by
  cases ids with
  | nil =>
      rw [sweep]
      split
      · exact m.follows_before _ (by simp [Task.loop?, other])
      · exact m.follows_answering _
  | cons id ids =>
      rw [sweep]
      split
      · refine m.follows_runCallback other id ?_
        intro started
        cases started <;> simp [Task.loop?, other]
      · exact m.follows_before _ (by simp [Task.loop?, other])

/-- A loop that is fired begins with the registrations for the descriptor. -/
theorem Fits.fires
    {l : ReadyLoop Ready}
    (fits : m.Fits i l) (fd : Int) :
    m.fireLoop i fd = m.before [.fire i (l.due fd) 0] ∧
      (m.fireLoop i fd).Fits i l ∧
      ReadyLoop.Step ⟨l, m.pendingAt i l.kind⟩ (.fired (ReadyLoop.depth (m.pendingAt i l.kind)) fd)
        ⟨l, (m.fireLoop i fd).pendingAt i l.kind⟩ := by
  have fired : m.fireLoop i fd = m.before [.fire i (l.due fd) 0] := by
    rw [fireLoop, fits.found]
    rcases fits.fired with manual | eager
    · simp only [manual]
    · simp only [eager]
  have pending : (m.before [.fire i (l.due fd) 0]).pendingAt i l.kind =
      .firing (l.due fd) 0 :: m.pendingAt i l.kind := by
    simp [pendingAt_before, Task.pending?]
  rw [fired]
  refine ⟨rfl, fits.before m (by simp [Task.sweeps?]), ?_⟩
  rw [pending]
  exact .fire l _ fd

/-- A loop that is fired has what is due begun by one step of it. -/
theorem follows_fireLoop (loop : Nat) (fd : Int) : Follows i m (m.fireLoop loop fd) := by
  by_cases other : loop ≠ i
  · rw [fireLoop]
    split
    · exact m.follows_answering _
    · split <;> exact m.follows_before _ (by simp [Task.loop?, other])
  · obtain rfl := not_not.mp other
    intro l fits
    obtain ⟨-, fired, step⟩ := fits.fires m fd
    exact exists_of_step fired rfl rfl step (by simp)

/-- An eager loop that an engine is attached to runs the callback, and any other one is to register
it. -/
theorem follows_attach (registry : Nat) (handle : Handle) (loop : Nat) :
    Follows i m (m.attach registry handle loop) := by
  rw [attach]
  split
  · exact m.follows_answering _
  · by_cases other : loop ≠ i
    · split
      · exact m.follows_answering _
      · exact m.follows_before _ (by simp [dispatching, Task.loop?, other])
      · exact m.follows_before _ (by simp [Task.loop?, other])
    · obtain rfl := not_not.mp other
      intro l fits
      have kind : m.kindOf? loop = some l.kind := by
        rw [kindOf?, fits.found]
        rfl
      rcases fits.fired with manual | eager
      · have pending : (m.before [.join registry handle loop]).pendingAt loop .manual =
            m.pendingAt loop .manual := by
          simp [pendingAt_before, Task.pending?]
        rw [kind, manual]
        refine ⟨l, [], fits.before m (by simp [Task.sweeps?]), ReadyLoop.unreturning_nil, ?_⟩
        dsimp only
        rw [pending]
        exact .nil
      · have pending :
            (m.before [m.dispatching registry handle, .join registry handle loop]).pendingAt loop
                .eager =
              .readying handle.fd ⟨registry, handle⟩ :: m.pendingAt loop .eager := by
          simp [pendingAt_before, List.filterMap_cons, Task.pending?, dispatching]
        rw [kind, eager]
        exact exists_of_step (fits.before m (by simp [dispatching, Task.sweeps?])) rfl pending
          (.ready eager _ handle.fd ⟨registry, handle⟩) (by simp)

theorem follows_poll (registry : Nat) (handle : Handle) :
    Follows i m (m.poll registry handle) := by
  rw [poll]
  split
  · exact m.follows_answering _
  · dsimp only
    split
    · exact m.follows_answering _
    · split <;> exact m.follows_before _ (by simp [dispatching, Task.loop?])

/-- What is fed reaches a loop when the reader fires it, and not otherwise. -/
theorem follows_feed
    (registry : Nat) (handle : Option Handle) (feed : Feed) (reader : FeedReader) :
    Follows i m (m.feed registry handle feed reader) := by
  cases handle with
  | none =>
      exact (m.follows_withHost (.openFed _ _)).trans
        (follows_before _ _ (by simp [dispatching, Task.loop?]))
  | some handle =>
      have fed : Follows i m ((m.withHost (m.session.service.host.feed handle.fd feed)).before
          [.unfeed handle.fd]) :=
        (m.follows_withHost (.feed _ handle.fd feed)).trans
          (follows_before _ _ (by simp [Task.loop?]))
      cases reader with
      | dispatch => exact fed.trans (follows_before _ _ (by simp [dispatching, Task.loop?]))
      | poll => exact fed.trans (follows_poll _ _ _)
      | fire loop => exact fed.trans (follows_fireLoop _ _ _)

/-- A marker that is published to wake somebody changes files. -/
theorem follows_wake
    (registry : Nat) (handle : Handle) (name : String) (recover : Option String) :
    Follows i m (m.wake registry handle name recover) := by
  have woken (next : Machine) (answer : Answer) :
      Follows i next
        (next.before (next.dispatchingIfOpen registry handle ++ [.reply answer])) := by
    refine next.follows_before _ ?_
    intro task member
    rcases List.mem_append.mp member with dispatch | reply
    · exact next.loop?_dispatchingIfOpen registry handle task dispatch
    · simp [List.mem_singleton.mp reply, Task.loop?]
  unfold wake
  split
  · rename_i service found
    have published := m.session.service.cancelsAtMost_publishAt i _ name service found
    exact (m.follows_withService published).trans (woken _ _)
  · exact woken _ _
  · rename_i fault other refused
    refine .trans ?_ (woken _ _)
    split
    · rename_i service found
      have published := m.session.service.cancelsAtMost_publishAt i _ other service found
      exact m.follows_withService published
    · exact .refl m

/-! ### Commands -/

theorem follows_subscribeAll (registry : Nat) (handle : Handle) (position : Nat)
    (names : List String) :
    Follows i m (m.subscribeAll registry handle position names).2 := by
  induction names generalizing m position with
  | nil => exact .refl m
  | cons name names ih =>
      have subscribed := m.follows_withService
        (m.session.service.cancelsAtMost_subscribe i registry handle name (.printer position name)
          .none)
      rw [subscribeAll]
      dsimp only
      split
      · exact subscribed
      · exact subscribed.trans (ih _ _)

/-- The tasks of a command that listens are about no loop but its own. -/
theorem loop?_turns
    {l : Listener}
    (other : l.loop ≠ some i) (script : List Action) :
    ∀ task ∈ script.flatMap (fun action => [Task.perform action, .turn l]) ++ [.interrupt l],
      task.loop? ≠ some i := by
  intro task member
  rcases List.mem_append.mp member with turn | last
  · obtain ⟨action, -, member⟩ := List.mem_flatMap.mp turn
    rcases List.mem_pair.mp member with rfl | rfl
    · simp [Task.loop?]
    · exact other
  · simp [List.mem_singleton.mp last, Task.loop?]

/-- A loop that is added for a command is not the one that was there. -/
theorem follows_listening
    (registry : Nat) (handle : Handle) (names : List String) (script : List Action) :
    Follows i m
      ((m.withService
          { m.session.service with
            loops := m.session.service.loops ++ [.empty .reactor] }).before
        (.join registry handle m.session.service.loops.length ::
          (script.flatMap
              (fun action =>
                [.perform action,
                  .turn ⟨registry, handle, names, some m.session.service.loops.length⟩]) ++
            [.interrupt ⟨registry, handle, names, some m.session.service.loops.length⟩]))) := by
  intro l fits
  have present : i < m.session.service.loops.length := (List.getElem?_eq_some_iff.mp fits.found).1
  have other : m.session.service.loops.length ≠ i := Nat.ne_of_gt present
  have added := m.follows_withService (i := i)
    (.of_same (.single (.addLoop m.session.service .reactor)) (List.getElem?_append_left present))
  refine added.trans (follows_before _ _ ?_) l fits
  refine List.forall_mem_cons.mpr ⟨by simpa [Task.loop?] using other, loop?_turns ?_ script⟩
  simpa using other

/-- A command that listens in a loop adds a loop of its own. -/
theorem follows_listen
    (root : Path) (names : List String) (poll : Bool) (script : List Action) :
    Follows i m (m.listen root names poll script) := by
  let added := m.withService (m.session.service.addRegistry root .host)
  have opened : Follows i m (added.withService
      (added.session.service.init m.session.service.registries.length false).2) :=
    (m.follows_withService (.of_same (.single (.addRegistry _ root .host)) rfl)).trans
      (added.follows_withService (Service.cancelsAtMost_init i _ _ false))
  rw [listen]
  dsimp only
  split
  · rename_i fault service found
    rw [found] at opened
    exact opened.trans (follows_answering _ _)
  · rename_i handle service found
    rw [found] at opened
    have subscribed := follows_subscribeAll (i := i) (added.withService service)
      m.session.service.registries.length handle 0 names
    split
    · rename_i failure next refused
      rw [refused] at subscribed
      refine (opened.trans subscribed).trans ?_
      exact (follows_withService _ (Service.cancelsAtMost_close i _ _ _)).trans
        (follows_answering _ _)
    · rename_i next granted
      rw [granted] at subscribed
      refine (opened.trans subscribed).trans ?_
      split
      · exact follows_before _ _ (loop?_turns (by simp) script)
      · exact next.follows_listening _ handle names script

/-- A turn of a command that listens with another loop. -/
theorem follows_turn
    {l : Listener}
    (other : l.loop ≠ some i) :
    Follows i m (m.before (m.turn l)) := by
  refine m.follows_before _ ?_
  rw [turn]
  split
  · rename_i loop known
    rw [known] at other
    simpa [Task.loop?] using other
  · exact m.loop?_dispatchingIfOpen l.registry l.handle

/-- An interrupted command detaches its engine, which cancels a registration. -/
theorem follows_interrupt (l : Listener) : Follows i m (m.interrupt l) := by
  rw [interrupt]
  split
  · exact (m.follows_withService (Service.cancelsAtMost_detach i _ _ _)).trans
      (follows_before _ _ (by simp [Task.loop?]))
  · split
    · exact m.follows_answering _
    · rename_i service found
      refine (m.follows_withService
        (m.session.service.cancelsAtMost_publishAt i _ _ service found)).trans ?_
      refine follows_before _ _ ?_
      intro task member
      rcases List.mem_append.mp member with dispatch | last
      · exact loop?_dispatchingIfOpen _ l.registry l.handle task dispatch
      · simp [List.mem_singleton.mp last, Task.loop?]

/-- A command that hangs up closes its engine, which cancels a registration. -/
theorem follows_hangUp (l : Listener) : Follows i m (m.hangUp l) :=
  (m.follows_withService (Service.cancelsAtMost_close i _ _ _)).trans (follows_answering _ _)

/-- Of all that a command may come down to only listening has to do with loops. -/
theorem follows_carryOut (script : List Action) (plan : Plan) :
    Follows i m (m.carryOut script plan) := by
  cases plan with
  | createMarker path mode =>
      exact (m.follows_withHost (.hear (Marker.create_hears _ path mode))).trans
        (follows_answering _ _)
  | removeMarker path =>
      rw [carryOut]
      split
      · rename_i host removed
        exact (m.follows_withHost (.hear (Marker.remove_hears _ path host removed))).trans
          (follows_answering _ _)
      · exact m.follows_answering _
  | publish root name =>
      rw [carryOut]
      split
      · rename_i service found
        exact (m.follows_withService
          (m.session.service.cancelsAtMost_publishAt i _ _ service found)).trans
          (follows_answering _ _)
      · exact m.follows_answering _
  | listen root names poll => exact m.follows_listen root names poll script

theorem follows_loadSettings (arguments : Arguments) (root : Option String) :
    Follows i m (m.loadSettings arguments root).2 := by
  rw [loadSettings]
  split
  · exact .refl m
  · rename_i path _
    obtain ⟨host, equal, heard⟩ := m.session.heard_readFile (Path.ofString path)
    have read := m.follows_withHost (i := i) (.hear heard)
    rw [withHost, ← equal] at read
    exact read

/-- A command follows the loops that were there before, whatever it comes down to. -/
theorem follows_runCommand
    (arguments : Arguments) (root : Option String) (script : List Action) :
    Follows i m (m.runCommand arguments root script) := by
  have quiet : Follows i m { m with session := { m.session with printed := [] } } :=
    m.follows_of_noted rfl rfl
  have loaded := follows_loadSettings (i := i)
    { m with session := { m.session with printed := [] } } arguments root
  rw [runCommand]
  split
  · rename_i fault next found
    rw [found] at loaded
    exact (quiet.trans loaded).trans (follows_answering _ _)
  · rename_i settings next found
    rw [found] at loaded
    refine (quiet.trans loaded).trans ?_
    split
    · exact follows_answering _ _
    · exact follows_carryOut _ _ _

theorem follows_exit : Follows i m m.exit := by
  rw [exit]
  split
  · exact m.follows_answering _
  · exact .refl m

end Machine

end MarkerWatch
