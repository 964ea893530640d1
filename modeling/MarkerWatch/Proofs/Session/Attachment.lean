import MarkerWatch.Proofs.Service.Registration
import MarkerWatch.Proofs.Session.Run

/-!
# Engines that loops drive

In every state that a session comes to, an engine that a loop drives has one registration over all
loops together, and any other descriptor of an engine, open or closed, has none.  An attempt to
attach an engine that fails leaves the registrations as it found them.

This holds between any two steps, whatever subscribers do meanwhile, since each step of the service
keeps engines and loops in order.
-/

namespace MarkerWatch.Machine

/-- The machines that a session on a fresh host comes to.  An action begins when the last one has
ended. -/
inductive Reached (numbering : Numbering) (loops : List LoopKind) : Machine → Prop
  | fresh (behaviours : Assoc String Behaviour) :
      Reached numbering loops ⟨.fresh numbering loops behaviours, [], .done⟩
  | start {m : Machine} (reached : Reached numbering loops m) (idle : m.tasks = [])
      (action : Action) : Reached numbering loops (.start m.session action)
  | step {m next : Machine} (reached : Reached numbering loops m) (step : Step m next) :
      Reached numbering loops next

variable {numbering : Numbering} {loops : List LoopKind}

theorem Reached.run
    {first last : Machine} {visited : List Machine}
    (reached : Reached numbering loops first)
    (run : Run first visited last) :
    Reached numbering loops last := by
  induction run with
  | nil m => exact reached
  | cons step run ih => exact ih (reached.step step)

theorem Reached.perform
    {m : Machine}
    (reached : Reached numbering loops m)
    (idle : m.tasks = []) (action : Action) (count : Nat) :
    Reached numbering loops (trail count (.start m.session action)).2 :=
  (reached.start idle action).run (run_trail count _)

theorem Reached.inOrder
    {m : Machine} {next : Int}
    (reached : Reached (.increasing next) loops m) :
    m.session.service.InOrder := by
  induction reached with
  | fresh behaviours => exact Service.inOrder_fresh next loops
  | start reached idle action ih => exact ih
  | step reached step ih => exact step.service.induction Service.InOrder.step ih

/-! ## Attempts to attach -/

theorem session_attach (m : Machine) (registry : Nat) (handle : Handle) (loop : Nat) :
    (m.attach registry handle loop).session = m.session := by
  rw [attach]
  split
  · rfl
  · split <;> rfl

/-- An attempt either is refused at once, or comes down to a join. -/
theorem tasks_attach (m : Machine) (registry : Nat) (handle : Handle) (loop : Nat) :
    (m.attach registry handle loop).tasks = m.tasks ∨
      ∃ above, (m.attach registry handle loop).tasks =
        above ++ .join registry handle loop :: m.tasks := by
  rw [attach]
  split
  · exact .inl rfl
  · split
    · exact .inl rfl
    · exact .inr ⟨[_], rfl⟩
    · exact .inr ⟨[], rfl⟩

/-- What waits above a join ends with it: once the join is next, the run has come down to its last
step. -/
theorem Run.ends_with_join
    {first last : Machine} {visited : List Machine}
    {above below : List Task} {registry loop : Nat} {handle : Handle}
    (tasks : first.tasks = above ++ .join registry handle loop :: below)
    (run : Run first visited last)
    (underWay : ∀ m ∈ visited, below.length < m.tasks.length)
    (ended : last.tasks.length = below.length) :
    ∃ earlier final,
      visited = earlier ++ [final] ∧ Run first earlier final ∧
        final.tasks = .join registry handle loop :: below ∧ Step final last := by
  induction run generalizing above with
  | nil m =>
      rw [tasks, List.length_append, List.length_cons] at ended
      omega
  | @cons m next last visited step run ih =>
      cases above with
      | nil =>
          have level : next.tasks = below := by
            rw [step.eq_execute tasks (by simp)]
            rfl
          cases run with
          | nil => exact ⟨[], m, rfl, .nil m, tasks, step⟩
          | cons later run =>
              have deeper := underWay next (by simp)
              rw [level] at deeper
              exact absurd deeper (Nat.lt_irrefl _)
      | cons task above =>
          obtain ⟨later, waits⟩ := step.tasks_of_deeper tasks
          obtain ⟨earlier, final, rfl, earlierRun, finalTasks, finalStep⟩ :=
            ih waits (fun n member => underWay n (List.mem_cons_of_mem _ member)) ended
          exact ⟨m :: earlier, final, rfl, .cons step earlierRun, finalTasks, finalStep⟩

/-- A join that fails leaves every registration as it was. -/
theorem Step.join_refused
    {m next : Machine} {below : List Task} {registry loop : Nat} {handle : Handle} {fault : Fault}
    (numbered : m.session.service.LoopsNumbered)
    (tasks : m.tasks = .join registry handle loop :: below)
    (step : Step m next)
    (refused : next.answer = .fault fault) (source : LoopSource) :
    next.session.service.descriptorOf? source = m.session.service.descriptorOf? source := by
  rw [step.eq_execute tasks (by simp), execute] at refused ⊢
  have joins : Service.Joins registry handle m.session.service
    (m.session.service.join registry handle loop) := Service.joins_join numbered loop
  dsimp only at refused ⊢
  generalize m.session.service.join registry handle loop = outcome at joins refused ⊢
  cases joins with
  | refused host registries descriptor numbered => exact descriptor source
  | attached found detached fresh host replaces descriptor numbered => cases refused

/-- An attempt to attach that fails takes its first and its last step without changing what is
registered.  The steps between the two are those of the callback. -/
theorem attach_refused
    {m last : Machine} {visited : List Machine} {next : Int}
    {view : Nat} {ref : HandleRef} {loop : Nat} {below : List Task} {fault : Fault}
    (reached : Reached (.increasing next) loops m)
    (tasks : m.tasks = .perform (.attach view ref loop) :: below)
    (run : Run m visited last)
    (underWay : ∀ n ∈ visited, below.length < n.tasks.length)
    (ended : last.tasks.length = below.length)
    (refused : last.answer = .fault fault) :
    (∀ second, Step m second → second.session = m.session) ∧
      ∃ earlier final,
        visited = earlier ++ [final] ∧
          ∀ source, last.session.service.descriptorOf? source =
            final.session.service.descriptorOf? source := by
  have attempt {second : Machine} (step : Step m second) :
      second = { m with tasks := below }.attach (m.session.registryOf view) (m.session.handle ref)
        loop :=
    step.eq_execute tasks (by simp)
  have first {second : Machine} (step : Step m second) : second.session = m.session := by
    rw [attempt step, session_attach]
  refine ⟨fun second => first, ?_⟩
  cases run with
  | nil =>
      rw [tasks, List.length_cons] at ended
      omega
  | @cons _ second _ visited step run =>
      have shape := tasks_attach { m with tasks := below } (m.session.registryOf view)
        (m.session.handle ref) loop
      rw [← attempt step] at shape
      have underWay' : ∀ n ∈ visited, below.length < n.tasks.length := fun n member =>
        underWay n (List.mem_cons_of_mem _ member)
      rcases shape with level | ⟨above, waiting⟩
      · cases run with
        | nil => exact ⟨[], m, rfl, fun source => by rw [first step]⟩
        | cons later run =>
            have deeper := underWay' second (List.mem_cons_self ..)
            rw [level] at deeper
            exact absurd deeper (Nat.lt_irrefl _)
      · obtain ⟨earlier, final, rfl, run, joining, finalStep⟩ :=
          run.ends_with_join waiting underWay' ended
        have numbered := ((reached.step step).run run).inOrder.numbered
        exact ⟨m :: earlier, final, rfl, finalStep.join_refused numbered joining refused⟩

/--
Between any two steps of a session on a host that gives no descriptor number twice, an engine that a
loop drives has exactly one registration over all loops together.  An engine that is detached has
none, and neither has a handle without an engine.

An attempt to attach that fails registers nothing that lasts: neither its first step nor its last
one changes what is registered, and the steps between the two are those of the callback.
-/
theorem registered_once
    {m : Machine} {next : Int}
    (reached : Reached (.increasing next) loops m) :
    (∀ r h, m.session.service.driving r h = .ok .externalLoop →
        ∃ source, m.session.service.registrationsOf h.fd = [source]) ∧
      (∀ r h, m.session.service.driving r h = .ok .detached →
        m.session.service.registrationsOf h.fd = []) ∧
      (∀ h, (∀ r, m.session.service.contains r h = false) →
        m.session.service.registrationsOf h.fd = []) ∧
      ∀ view ref loop below visited last fault,
        m.tasks = .perform (.attach view ref loop) :: below →
          Run m visited last →
            (∀ n ∈ visited, below.length < n.tasks.length) →
              last.tasks.length = below.length →
                last.answer = .fault fault →
                  (∀ second, Step m second → second.session = m.session) ∧
                    ∃ earlier final,
                      visited = earlier ++ [final] ∧
                        ∀ source, last.session.service.descriptorOf? source =
                          final.session.service.descriptorOf? source := by
  refine ⟨?_, ?_, ?_, ?_⟩
  · intro r h driving
    obtain ⟨e, found, driven⟩ := Service.exists_engine_of_driving driving
    rw [reached.inOrder.registrationsOf_eq found]
    cases known : e.source with
    | none => simp [Engine.driving, known] at driven
    | some source => exact ⟨source, rfl⟩
  · intro r h driving
    obtain ⟨e, found, driven⟩ := Service.exists_engine_of_driving driving
    rw [reached.inOrder.registrationsOf_eq found]
    cases known : e.source with
    | none => rfl
    | some source => simp [Engine.driving, known] at driven
  · intro h closed
    exact reached.inOrder.registrationsOf_of_closed closed
  · intro view ref loop below visited last fault tasks run underWay ended refused
    exact attach_refused reached tasks run underWay ended refused

/-- A session in which an engine was opened and attached to the first of two loops. -/
def attached : Machine :=
  let empty := (trail 1 (.start (.fresh (.increasing 10) [.manual, .eager] [])
    (.call (.addRegistry ⟨[0x2F, 0x74, 0x6D, 0x70]⟩ (.fixed "6.1.0"))))).2
  let opened := (trail 1 (.start empty.session (.call (.registry 0 (.init false))))).2
  (trail 2 (.start opened.session (.attach 0 (.engine 0) 0))).2

theorem reached_attached : Reached (.increasing 10) [.manual, .eager] attached :=
  (((Reached.fresh []).perform rfl _ 1).perform rfl _ 1).perform rfl _ 2

theorem registered_once_of_attached :
    ∃ source, attached.session.service.registrationsOf 10 = [source] :=
  (registered_once reached_attached).1 0 ⟨10⟩ rfl

end MarkerWatch.Machine
