import Mathlib.Data.Prod.Lex
import Mathlib.Data.Set.Finite.Lattice
import Mathlib.Order.WellFounded
import MarkerWatch.Proofs.Host.Load
import MarkerWatch.Proofs.Loop.Ready
import MarkerWatch.Proofs.Session.Run
import MarkerWatch.Proofs.Session.Work

/-!
# Sessions come to an end

A dispatch reads until nothing is left, while those that it tells refill what it reads, begin
dispatches of their own and change the tables.  It comes to an end all the same when they act only
finitely often.

Three measures go down one within the other.  The work that is left to subscribers goes down with
each action.  Between actions the load goes down: what waits in queues and feeds, and the records of
every buffer that a dispatch under way has not yet taken up.  Between reads that give something the
upkeep of the waiting tasks goes down.  A loop that runs by itself looks at its descriptors all over
again only after a dispatch that found records, so the upkeep counts whether one has.
-/

namespace MarkerWatch

/-! ## Load -/

/-- The records of a buffer that are still to be taken up. -/
def Task.load : Task → Nat
  | .records _ rest => rest.length
  | _ => 0

def Task.loadOfAll (tasks : List Task) : Nat :=
  (tasks.map Task.load).sum

theorem Task.loadOfAll_singleton (task : Task) : Task.loadOfAll [task] = task.load :=
  rfl

/-- What is still to be read, or was read and not yet taken up. -/
def Machine.load (m : Machine) : Nat :=
  m.session.service.host.load + Task.loadOfAll m.tasks

/-- No more records are found in a buffer than it has bytes. -/
theorem Record.length_decode_le (bytes : List UInt8) : (decode bytes).length ≤ bytes.length := by
  have skipping (skip : Nat) : (decodeFrom skip bytes).length ≤ bytes.length := by
    induction bytes generalizing skip with
    | nil => cases skip <;> exact Nat.le_refl _
    | cons byte rest ih =>
        cases skip with
        | succ skip => exact (ih skip).trans (Nat.le_succ _)
        | zero =>
            rw [decodeFrom]
            split
            · exact Nat.succ_le_succ (ih _)
            · exact Nat.succ_le_succ (Nat.zero_le _)
  exact skipping 0

/-! ## Upkeep -/

namespace Task

/-- The upkeep of looking at some registrations of a loop of so many, and at all of them again if
records were found. -/
def upkeepOfSweep (size : Nat) (ids : List Nat) (found : Bool) : Nat :=
  4 * ids.length + 1 + if found then 4 * size + 2 else 0

/-- The upkeep of tasks, given how many registrations each loop has and whether the last dispatch
found records.  A task that performs an action has none, since its work is counted. -/
def upkeep (size : Nat → Nat) : Bool → List Task → Nat
  | _, [] => 0
  | found, .note _ :: rest
  | found, .finish .. :: rest
  | found, .unfeed _ :: rest => 1 + upkeep size found rest
  | found, .tell targets :: rest => targets.length + 1 + upkeep size found rest
  | _, .read d :: rest => 1 + upkeep size (d.count != 0) rest
  | _, .records d _ :: rest => 2 + upkeep size (d.count != 0) rest
  | _, .fire _ ids _ :: rest => 3 * ids.length + 1 + upkeep size true rest
  | _, .sweep loop ids found :: rest =>
    upkeepOfSweep (size loop) ids found + upkeep size false rest
  | found, .swept loop ids foundBefore :: rest =>
    1 + upkeepOfSweep (size loop) ids (foundBefore || found) + upkeep size false rest
  | _, .reply _ :: rest => 1 + upkeep size true rest
  | _, .perform _ :: _ | _, .join .. :: _ | _, .wake .. :: _ | _, .turn _ :: _
  | _, .interrupt _ :: _ | _, .hangUp _ :: _ => 0

theorem upkeep_le_of_found (size : Nat → Nat) (found : Bool) (tasks : List Task) :
    upkeep size found tasks ≤ upkeep size true tasks := by
  induction tasks with
  | nil => exact Nat.le_refl _
  | cons task rest ih =>
      cases task with
      | note | finish | unfeed | tell =>
          simp only [upkeep]
          omega
      | swept loop ids foundBefore =>
          simp only [upkeep, upkeepOfSweep, Bool.or_true, if_true]
          split <;> omega
      | _ => exact Nat.le_refl _

theorem upkeep_false_le (size : Nat → Nat) (found : Bool) (tasks : List Task) :
    upkeep size false tasks ≤ upkeep size found tasks := by
  cases found with
  | false => exact Nat.le_refl _
  | true => exact upkeep_le_of_found size false tasks

end Task

namespace Machine

/-- The number of registrations of a loop. -/
def sizeOfLoop (m : Machine) (loop : Nat) : Nat :=
  (m.registered loop).length

/-- The upkeep of the waiting tasks. -/
def upkeep (m : Machine) : Nat :=
  Task.upkeep m.sizeOfLoop m.foundRecords m.tasks

/-- What goes down with each step. -/
def measure (m : Machine) : Nat ×ₗ Nat ×ₗ Nat :=
  toLex (m.work, toLex (m.load, m.upkeep))

section

variable {m next : Machine}

theorem measure_lt_of_work
    (work : next.work < m.work) :
    next.measure < m.measure := by
  rw [measure, measure, Prod.Lex.toLex_lt_toLex]
  exact Or.inl work

theorem measure_lt_of_load
    (work : next.work ≤ m.work)
    (load : next.load < m.load) :
    next.measure < m.measure := by
  rcases Nat.lt_or_eq_of_le work with less | same
  · exact measure_lt_of_work less
  · rw [measure, measure, Prod.Lex.toLex_lt_toLex, Prod.Lex.toLex_lt_toLex]
    exact Or.inr ⟨same, Or.inl load⟩

theorem measure_lt_of_upkeep
    (work : next.work ≤ m.work)
    (load : next.load ≤ m.load)
    (upkeep : next.upkeep < m.upkeep) :
    next.measure < m.measure := by
  rcases Nat.lt_or_eq_of_le load with less | sameLoad
  · exact measure_lt_of_load work less
  · rcases Nat.lt_or_eq_of_le work with less | same
    · exact measure_lt_of_work less
    · rw [measure, measure, Prod.Lex.toLex_lt_toLex, Prod.Lex.toLex_lt_toLex]
      exact Or.inr ⟨same, Or.inr ⟨sameLoad, upkeep⟩⟩

end

variable (m : Machine)

@[simp]
theorem load_before (tasks : List Task) :
    (m.before tasks).load = Task.loadOfAll tasks + m.load := by
  show m.session.service.host.load + Task.loadOfAll (tasks ++ m.tasks) = _
  rw [Task.loadOfAll, List.map_append, List.sum_append, load, ← Task.loadOfAll,
    ← Task.loadOfAll]
  omega

theorem upkeep_before (tasks : List Task) :
    (m.before tasks).upkeep = Task.upkeep m.sizeOfLoop m.foundRecords (tasks ++ m.tasks) :=
  rfl

/-- A task is replaced by others that bring no work and no load, and need less upkeep. -/
theorem measure_replaced_lt
    (other : Machine) (tasks : List Task) {task : Task}
    (work : other.work ≤ m.work)
    (load : other.load ≤ m.load)
    (sizes : other.sizeOfLoop = m.sizeOfLoop)
    (below : other.tasks = m.tasks)
    (noWork : Task.workOfAll tasks = 0)
    (noLoad : Task.loadOfAll tasks = 0)
    (cheaper :
      Task.upkeep m.sizeOfLoop other.foundRecords (tasks ++ m.tasks) <
        Task.upkeep m.sizeOfLoop m.foundRecords (task :: m.tasks)) :
    (other.before tasks).measure < (m.before [task]).measure := by
  apply measure_lt_of_upkeep
  · rw [work_before, work_before, noWork, Nat.zero_add]
    exact Nat.le_trans work (Nat.le_add_left _ _)
  · rw [load_before, load_before, noLoad, Nat.zero_add]
    exact Nat.le_trans load (Nat.le_add_left _ _)
  · rw [upkeep_before, upkeep_before, sizes, below]
    exact cheaper

/-! ## Dispatches -/

/-- A dispatch that stops leaves its number of records as the answer, or a fault. -/
theorem measure_stopped_lt
    {host : Host} (d : Dispatch)
    (load : host.load ≤ m.session.service.host.load) {answer : Answer}
    (stopped : (m.answering answer).foundRecords = true → d.count ≠ 0) :
    ((m.withHost host).answering answer).measure < (m.before [.read d]).measure := by
  have cheaper :
      Task.upkeep m.sizeOfLoop (m.answering answer).foundRecords m.tasks <
        1 + Task.upkeep m.sizeOfLoop (d.count != 0) m.tasks := by
    rw [Nat.add_comm, Nat.lt_succ_iff]
    cases found : (m.answering answer).foundRecords with
    | false => exact Task.upkeep_false_le _ _ _
    | true =>
        have counted : (d.count != 0) = true := bne_iff_ne.mpr (stopped found)
        rw [counted]
  exact
    m.measure_replaced_lt ((m.withHost host).answering answer) [] (Nat.le_refl _)
      (Nat.add_le_add_right load _) rfl rfl rfl rfl cheaper

/-- What a dispatch does after a read that gave something. -/
theorem measure_given_lt
    {host : Host} (d : Dispatch) {task : Task}
    (nothing : task.work = 0)
    (load : host.load + task.load < m.session.service.host.load) :
    ((m.withHost host).before [task]).measure < (m.before [.read d]).measure := by
  apply measure_lt_of_load
  · rw [work_before, work_before, work_withHost, Task.workOfAll_singleton, nothing]
    exact Nat.add_le_add_right (Nat.zero_le _) _
  · rw [load_before, load_before, Task.loadOfAll_singleton, Task.loadOfAll_singleton]
    show task.load + (host.load + Task.loadOfAll m.tasks) <
      0 + (m.session.service.host.load + Task.loadOfAll m.tasks)
    omega

theorem measure_read_lt (d : Dispatch) :
    (m.read d).measure < (m.before [.read d]).measure := by
  have counted {host : Host}
      (load : host.load ≤ m.session.service.host.load) :
      ((m.withHost host).answering (.count d.count)).measure < (m.before [.read d]).measure :=
    m.measure_stopped_lt d load fun found => bne_iff_ne.mp found
  have relieved := m.session.service.host.load_read d.handle.fd Record.bufferLength
  have less :
      (m.session.service.host.read d.handle.fd Record.bufferLength).2.load ≤
        m.session.service.host.load :=
    Nat.le_trans (Nat.le_add_right _ _) relieved
  rw [read]
  split
  · exact counted (Nat.le_refl _)
  · split <;> rename_i found <;> rw [found] at relieved less
    · exact counted less
    · rename_i bytes host nonempty
      apply m.measure_given_lt d rfl
      have decoded : (Record.decode bytes).length ≤ bytes.length := Record.length_decode_le bytes
      have relief : ReadOutcome.relief (.ok bytes) = bytes.length + 1 := by
        cases bytes with
        | nil => exact absurd rfl nonempty
        | cons byte rest => rfl
      simp only [relief] at relieved
      simp only [Task.load]
      omega
    · rename_i e host
      split
      · exact counted less
      · split
        · rename_i interrupted
          apply m.measure_given_lt d rfl
          simp only [ReadOutcome.relief, if_pos interrupted] at relieved
          exact relieved
        · exact m.measure_stopped_lt d less fun found => absurd found Bool.false_ne_true

/-- When a record is taken up, one record fewer is left, whatever becomes of it. -/
theorem measure_takeUp_lt (d : Dispatch) (items : List (Except RecordFault Record)) :
    (m.takeUp d items).measure < (m.before [.records d items]).measure := by
  cases items with
  | nil =>
      apply measure_lt_of_upkeep
      · exact Nat.le_of_eq rfl
      · exact Nat.le_of_eq rfl
      · rw [takeUp, upkeep_before, upkeep_before]
        exact Nat.add_lt_add_right Nat.one_lt_two _
  | cons item rest =>
      have fewer : m.load + rest.length < (m.before [.records d (item :: rest)]).load := by
        rw [load_before, Task.loadOfAll_singleton, Task.load, List.length_cons]
        omega
      have same : m.work = (m.before [.records d (item :: rest)]).work := by
        rw [work_before]
        exact (Nat.zero_add _).symm
      cases item with
      | error fault =>
          apply measure_lt_of_load
          · exact Nat.le_of_eq same
          · exact Nat.lt_of_le_of_lt (Nat.le_add_right _ _) fewer
      | ok record =>
          apply measure_lt_of_load
          · rw [takeUp, work_before, ← same]
            exact Nat.le_of_eq (Nat.zero_add _)
          · rw [takeUp, load_before]
            simp only [Task.loadOfAll, List.map_cons, List.map_nil, List.sum_cons, List.sum_nil,
              Task.load]
            omega

/-! ## Loops -/

theorem registered_setLoop
    {loop : Nat} {l old : ReadyLoop Ready}
    (found : m.session.service.loops[loop]? = some old)
    (fds : l.fds = old.fds) (other : Nat) :
    (m.withService
        { m.session.service with loops := m.session.service.loops.set loop l }).registered other =
      m.registered other := by
  show (m.session.service.loops.set loop l)[other]?.elim [] _ = _
  rw [registered, List.getElem?_set]
  split
  · rename_i same
    subst same
    rw [found]
    split
    · show Assoc.keys l.fds = Assoc.keys old.fds
      rw [fds]
    · rename_i outside
      rw [List.getElem?_eq_some_iff] at found
      exact absurd found.1 outside
  · rfl

theorem registered_finish (loop id : Nat) (callback : Ready) (other : Nat) :
    (m.finish loop id callback).registered other = m.registered other := by
  show (m.session.service.loops.modify loop _)[other]?.elim [] _ = _
  rw [registered, List.getElem?_modify]
  cases m.session.service.loops[other]? with
  | none => rfl
  | some l =>
      show Assoc.keys (if loop = other then l.finish id callback else l).fds = Assoc.keys l.fds
      split
      · rw [ReadyLoop.fds_finish]
      · rfl

/-- A callback is run or skipped, and what follows is less upkeep than the look at it. -/
theorem measure_runCallback_lt
    (loop id : Nat) {follow : Bool → Task} {task : Task}
    (noWork : ∀ started, (follow started).work = 0)
    (noLoad : ∀ started, (follow started).load = 0)
    (skipped :
      Task.upkeep m.sizeOfLoop m.foundRecords (follow false :: m.tasks) <
        Task.upkeep m.sizeOfLoop m.foundRecords (task :: m.tasks))
    (started :
      2 + Task.upkeep m.sizeOfLoop false (follow true :: m.tasks) <
        Task.upkeep m.sizeOfLoop m.foundRecords (task :: m.tasks)) :
    (m.runCallback loop id follow).measure < (m.before [task]).measure := by
  rw [runCallback]
  split
  · exact
      m.measure_replaced_lt m [follow false] (Nat.le_refl _) (Nat.le_refl _) rfl rfl
        (noWork false) (noLoad false) skipped
  · rename_i callback l taken
    obtain ⟨old, found, removed⟩ := Option.bind_eq_some_iff.mp taken
    have fds : l.fds = old.fds := by
      obtain ⟨running, _, same⟩ := Option.map_eq_some_iff.mp removed
      cases same
      rfl
    have sizes :
        (m.withService
          { m.session.service with loops := m.session.service.loops.set loop l }).sizeOfLoop =
          m.sizeOfLoop := by
      funext other
      rw [sizeOfLoop, m.registered_setLoop found fds other, sizeOfLoop]
    refine
      m.measure_replaced_lt
        (m.withService { m.session.service with loops := m.session.service.loops.set loop l }) _
        (Nat.le_refl m.work) (Nat.le_refl m.load) sizes rfl ?_ ?_ ?_
    · show 0 + (0 + ((follow true).work + 0)) = 0
      rw [noWork]
    · show 0 + (0 + ((follow true).load + 0)) = 0
      rw [noLoad]
    · show 1 + (1 + Task.upkeep m.sizeOfLoop false (follow true :: m.tasks)) < _
      rw [← Nat.add_assoc]
      exact started

theorem measure_sweep_lt (loop : Nat) (ids : List Nat) (found : Bool) :
    (m.sweep loop ids found).measure < (m.before [.sweep loop ids found]).measure := by
  cases ids with
  | nil =>
      rw [sweep]
      cases found with
      | false =>
          refine
            m.measure_replaced_lt (m.answering .done) [] (Nat.le_refl _) (Nat.le_refl _) rfl rfl
              rfl rfl ?_
          show Task.upkeep m.sizeOfLoop false m.tasks <
            0 + 1 + 0 + Task.upkeep m.sizeOfLoop false m.tasks
          omega
      | true =>
          refine m.measure_replaced_lt m _ (Nat.le_refl _) (Nat.le_refl _) rfl rfl rfl rfl ?_
          show 4 * m.sizeOfLoop loop + 1 + 0 + Task.upkeep m.sizeOfLoop false m.tasks <
            4 * 0 + 1 + (4 * m.sizeOfLoop loop + 2) + Task.upkeep m.sizeOfLoop false m.tasks
          omega
  | cons id ids =>
      have one :
          Task.upkeepOfSweep (m.sizeOfLoop loop) (id :: ids) found =
            4 + Task.upkeepOfSweep (m.sizeOfLoop loop) ids found := by
        simp only [Task.upkeepOfSweep, List.length_cons]
        omega
      rw [sweep]
      split
      · apply measure_runCallback_lt
        · intro started
          cases started <;> rfl
        · intro started
          cases started <;> rfl
        · show Task.upkeepOfSweep (m.sizeOfLoop loop) ids found + _ <
            Task.upkeepOfSweep (m.sizeOfLoop loop) (id :: ids) found + _
          omega
        · show 2 + (1 + Task.upkeepOfSweep (m.sizeOfLoop loop) ids (found || false) + _) <
            Task.upkeepOfSweep (m.sizeOfLoop loop) (id :: ids) found + _
          rw [Bool.or_false]
          omega
      · refine m.measure_replaced_lt m _ (Nat.le_refl _) (Nat.le_refl _) rfl rfl rfl rfl ?_
        show Task.upkeepOfSweep (m.sizeOfLoop loop) ids found +
            Task.upkeep m.sizeOfLoop false m.tasks <
          Task.upkeepOfSweep (m.sizeOfLoop loop) (id :: ids) found +
            Task.upkeep m.sizeOfLoop false m.tasks
        omega

theorem measure_fire_lt (loop id : Nat) (ids : List Nat) (ran : Nat) :
    (m.execute (.fire loop (id :: ids) ran)).measure <
      (m.before [.fire loop (id :: ids) ran]).measure := by
  rw [execute]
  apply measure_runCallback_lt
  · intro started
    rfl
  · intro started
    rfl
  · show 3 * ids.length + 1 + _ < 3 * (ids.length + 1) + 1 + _
    omega
  · show 2 + (3 * ids.length + 1 + _) < 3 * (ids.length + 1) + 1 + _
    omega

/-! ## Steps -/

/-- A subscriber that is told of an event acts on it, or there is one fewer to be told. -/
theorem measure_tell_lt
    (who : Subscriber) (data : Payload) (rest : List (Subscriber × Payload)) :
    ((m.before [.tell rest]).notify who data).measure <
      (m.before [.tell ((who, data) :: rest)]).measure := by
  have same : (m.before [.tell rest]).work = (m.before [.tell ((who, data) :: rest)]).work := by
    rw [work_before, work_before]
    rfl
  rcases (m.before [.tell rest]).work_notify who data with
    acts | ⟨work, tasks, answer, service⟩
  · apply measure_lt_of_work
    rw [← same]
    exact acts
  · apply measure_lt_of_upkeep
    · rw [work, same]
    · rw [load, tasks, service]
      exact Nat.le_refl _
    · have sizes :
          ((m.before [.tell rest]).notify who data).sizeOfLoop = m.sizeOfLoop := by
        funext loop
        simp only [sizeOfLoop, registered, service]
        rfl
      have found :
          ((m.before [.tell rest]).notify who data).foundRecords = m.foundRecords := by
        simp only [foundRecords, answer]
        rfl
      rw [upkeep, sizes, found, tasks, upkeep_before]
      show rest.length + 1 + Task.upkeep m.sizeOfLoop m.foundRecords m.tasks <
        rest.length + 1 + 1 + Task.upkeep m.sizeOfLoop m.foundRecords m.tasks
      omega

/-- Carrying a task out leaves less than there was before. -/
theorem measure_execute_lt (task : Task) :
    (m.execute task).measure < (m.before [task]).measure := by
  have busy {next : Machine} {task : Task}
      (less : next.work < task.work + m.work) :
      next.measure < (m.before [task]).measure := by
    apply measure_lt_of_work
    rwa [work_before, Task.workOfAll_singleton]
  cases task with
  | perform action => exact busy (m.work_perform_lt action)
  | note label =>
      exact
        m.measure_replaced_lt (m.execute (.note label)) [] (Nat.le_refl _) (Nat.le_refl _) rfl rfl
          rfl rfl (Nat.lt_one_add_iff.mpr (Nat.le_refl _))
  | tell targets =>
      cases targets with
      | nil =>
          exact
            m.measure_replaced_lt m [] (Nat.le_refl _) (Nat.le_refl _) rfl rfl rfl rfl
              (Nat.lt_one_add_iff.mpr (Nat.le_refl _))
      | cons target rest => exact m.measure_tell_lt target.1 target.2 rest
  | read d => exact m.measure_read_lt d
  | records d items => exact m.measure_takeUp_lt d items
  | join registry handle loop => exact busy (Nat.lt_one_add_iff.mpr (Nat.le_refl _))
  | fire loop ids ran =>
      cases ids with
      | nil =>
          refine
            m.measure_replaced_lt (m.answering (.count ran)) [] (Nat.le_refl _) (Nat.le_refl _) rfl
              rfl rfl rfl ?_
          show Task.upkeep m.sizeOfLoop (ran != 0) m.tasks <
            3 * 0 + 1 + Task.upkeep m.sizeOfLoop true m.tasks
          have bounded := Task.upkeep_le_of_found m.sizeOfLoop (ran != 0) m.tasks
          omega
      | cons id ids => exact m.measure_fire_lt loop id ids ran
  | finish loop id callback =>
      have sizes : (m.finish loop id callback).sizeOfLoop = m.sizeOfLoop := by
        funext other
        rw [sizeOfLoop, registered_finish, sizeOfLoop]
      exact
        m.measure_replaced_lt (m.finish loop id callback) [] (Nat.le_refl _) (Nat.le_refl _) sizes
          rfl rfl rfl (Nat.lt_one_add_iff.mpr (Nat.le_refl _))
  | sweep loop ids found => exact m.measure_sweep_lt loop ids found
  | swept loop ids found =>
      refine m.measure_replaced_lt m _ (Nat.le_refl _) (Nat.le_refl _) rfl rfl rfl rfl ?_
      show Task.upkeepOfSweep (m.sizeOfLoop loop) ids (found || m.foundRecords) +
          Task.upkeep m.sizeOfLoop false m.tasks <
        1 + Task.upkeepOfSweep (m.sizeOfLoop loop) ids (found || m.foundRecords) +
          Task.upkeep m.sizeOfLoop false m.tasks
      omega
  | reply answer =>
      exact
        m.measure_replaced_lt (m.answering answer) [] (Nat.le_refl _) (Nat.le_refl _) rfl rfl rfl
          rfl (Nat.lt_one_add_iff.mpr (Task.upkeep_le_of_found _ _ _))
  | unfeed fd =>
      have load := m.session.service.host.load_unfeed_le fd
      exact
        m.measure_replaced_lt (m.withHost (m.session.service.host.unfeed fd)) [] (Nat.le_refl _)
          (Nat.add_le_add_right load _) rfl rfl rfl rfl (Nat.lt_one_add_iff.mpr (Nat.le_refl _))
  | wake registry handle name recover =>
      apply busy
      rw [execute, work_wake]
      exact Nat.lt_one_add_iff.mpr (Nat.le_refl _)
  | turn l =>
      apply busy
      have nothing : Task.workOfAll (m.turn l) = 0 := by
        rw [Machine.turn]
        split
        · rfl
        · exact m.workOfAll_dispatchingIfOpen l.registry l.handle
      rw [execute, work_before, nothing]
      exact Nat.add_lt_add_right Nat.zero_lt_one _
  | interrupt l =>
      apply busy
      have left := m.work_interrupt_le l
      show (m.interrupt l).work < 2 + m.work
      omega
  | hangUp l => exact busy (Nat.lt_one_add_iff.mpr (Nat.le_refl _))

/-- A step in which nobody decides to act: that of the scripts, or one in which a subscriber that is
told of an event does nothing. -/
inductive Calm : Machine → Machine → Prop
  | scripted {m next : Machine} (stepped : m.step = some next) : Calm m next
  | inert {m : Machine} {label : String} {data : Payload} {rest : List (Subscriber × Payload)}
      {below : List Task} (told : m.tasks = .tell ((.labelled label, data) :: rest) :: below) :
      Calm m (m.decided label data [] (.tell rest :: below))

/-- A step in which a subscriber that is told of an event decides to act. -/
def Acts (label : String) (m next : Machine) : Prop :=
  ¬ Calm m next ∧
    ∃ data rest below, m.tasks = .tell ((.labelled label, data) :: rest) :: below

omit m in
theorem Step.calm_or_acts
    {m next : Machine}
    (step : Step m next) :
    Calm m next ∨ ∃ label, Acts label m next := by
  by_cases calm : Calm m next
  · exact Or.inl calm
  · cases step with
    | scripted stepped => exact absurd (.scripted stepped) calm
    | chosen told actions => exact Or.inr ⟨_, calm, _, _, _, told⟩

omit m in
theorem Calm.step
    {m next : Machine}
    (calm : Calm m next) :
    Step m next := by
  cases calm with
  | scripted stepped => exact .scripted stepped
  | inert told => exact .chosen told []

omit m in
/-- Calm steps leave less than there was before. -/
theorem Calm.measure_lt
    {m next : Machine}
    (calm : Calm m next) :
    next.measure < m.measure := by
  obtain ⟨session, tasks, answer⟩ := m
  cases calm with
  | scripted stepped =>
      cases tasks with
      | nil => cases stepped
      | cons task below =>
          rw [step_of_tasks rfl stepped]
          exact measure_execute_lt ⟨session, below, answer⟩ task
  | @inert label data rest below told =>
      obtain rfl : tasks = .tell ((.labelled label, data) :: rest) :: below := told
      apply measure_lt_of_upkeep
      · exact Nat.le_refl _
      · exact Nat.le_refl _
      · exact Nat.add_lt_add_right (Nat.lt_succ_self _) _

/-- There is no end to no sequence of calm steps. -/
theorem calm_wf : WellFounded fun next m : Machine => Calm m next :=
  Subrelation.wf Calm.measure_lt (InvImage.wf measure wellFounded_lt)

/-- Whatever is to be done in a session, its scripts come to an end. -/
theorem exists_run (m : Machine) : ∃ count last, m.run count = some last := by
  induction m using calm_wf.induction with
  | _ m ih =>
      cases stepped : m.step with
      | none => exact ⟨1, m, by rw [run, stepped]⟩
      | some next =>
          obtain ⟨count, last, ran⟩ := ih next (.scripted stepped)
          exact ⟨count + 1, last, by rw [run, stepped]; exact ran⟩

end Machine

end MarkerWatch
