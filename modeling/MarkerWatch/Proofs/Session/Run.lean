import MarkerWatch.Proofs.Session.Advance

/-!
# Runs of a session with subscribers that decide for themselves

A session binds each subscriber to a script that was written beforehand.  The steps here do not: a
subscriber that is told of an event may perform any actions, so that whatever holds of these steps
holds for every program that a subscriber may run.
-/

namespace MarkerWatch.Machine

/-- The machine in which a subscriber, told of an event, is about to perform some actions. -/
def decided (m : Machine) (label : String) (data : Payload) (actions : List Action)
    (below : List Task) : Machine :=
  { m with
    session := { m.session with log := m.session.log ++ [.told label data] }
    tasks := actions.flatMap (fun action => [.perform action, .note label]) ++ below }

/-- One step of a session: that of its scripts, or one in which a subscriber chooses what to do. -/
inductive Step : Machine → Machine → Prop
  | scripted {m next : Machine} (stepped : m.step = some next) : Step m next
  | chosen {m : Machine} {label : String} {data : Payload} {rest : List (Subscriber × Payload)}
      {below : List Task} (told : m.tasks = .tell ((.labelled label, data) :: rest) :: below)
      (actions : List Action) :
      Step m (m.decided label data actions (.tell rest :: below))

/-- A run, with the machines that it visits before the last one. -/
inductive Run : Machine → List Machine → Machine → Prop
  | nil (m : Machine) : Run m [] m
  | cons {m next last : Machine} {visited : List Machine} (step : Step m next)
      (run : Run next visited last) : Run m (m :: visited) last

/-- A run goes through each machine that it visits. -/
theorem Run.split
    {first middle last : Machine} {earlier later : List Machine}
    (run : Run first (earlier ++ middle :: later) last) :
    Run first earlier middle ∧ Run middle (middle :: later) last := by
  generalize whole : earlier ++ middle :: later = visited at run
  induction run generalizing earlier with
  | nil m => simp at whole
  | cons step run ih =>
      cases earlier with
      | nil =>
          obtain ⟨rfl, rfl⟩ := List.cons.inj whole
          exact ⟨.nil _, .cons step run⟩
      | cons m earlier =>
          obtain ⟨rfl, rest⟩ := List.cons.inj whole
          obtain ⟨left, right⟩ := ih rest
          exact ⟨.cons step left, right⟩

/-- The machines that the scripts of a session visit in so many steps, and the one after them. -/
def trail : Nat → Machine → List Machine × Machine
  | 0, m => ([], m)
  | count + 1, m =>
    match m.step with
    | none => ([], m)
    | some next => (m :: (trail count next).1, (trail count next).2)

theorem run_trail (count : Nat) (m : Machine) :
    Run m (m.trail count).1 (m.trail count).2 := by
  induction count generalizing m with
  | zero => exact .nil m
  | succ count ih =>
      rw [trail]
      split
      · exact .nil m
      · rename_i next stepped
        exact .cons (.scripted stepped) (ih next)

theorem step_of_tasks
    {m next : Machine} {task : Task} {below : List Task}
    (tasks : m.tasks = task :: below)
    (stepped : m.step = some next) :
    next = { m with tasks := below }.execute task := by
  rw [step, tasks] at stepped
  exact (Option.some.inj stepped).symm

/-- Only who is told of an event may have a choice, so that any other task is carried out. -/
theorem Step.eq_execute
    {m next : Machine} {task : Task} {below : List Task}
    (step : Step m next)
    (tasks : m.tasks = task :: below)
    (noChoice : ∀ label data rest, task ≠ .tell ((.labelled label, data) :: rest)) :
    next = { m with tasks := below }.execute task := by
  cases step with
  | scripted stepped => exact step_of_tasks tasks stepped
  | chosen told actions =>
      rw [tasks] at told
      exact absurd (List.cons.inj told).1 (noChoice _ _ _)

/-- The machine one step later, or the same one when nothing is left to be done. -/
def onward (m : Machine) : Machine :=
  m.step.getD m

theorem step_onward
    {m : Machine}
    (busy : m.tasks ≠ []) :
    m.step = some m.onward := by
  rw [onward, step]
  split
  · rename_i idle
    exact absurd idle busy
  · rfl

/-- The tasks that wait are not looked at by a step. -/
theorem Step.advances
    {m next : Machine} {task : Task} {below : List Task}
    (step : Step m next)
    (tasks : m.tasks = task :: below) :
    Advances { m with tasks := below } next := by
  cases step with
  | scripted stepped =>
      rw [step_of_tasks tasks stepped]
      exact advances_execute _ task
  | chosen told actions =>
      rw [told] at tasks
      obtain ⟨-, rfl⟩ := List.cons.inj tasks
      refine ⟨⟨_, (List.append_cons _ _ _).trans rfl⟩, .single ?_⟩
      exact .move .refl (List.prefix_refl _) rfl rfl

/-- What was begun above some tasks is gone on with above them. -/
theorem Step.tasks_of_deeper
    {m next : Machine} {task : Task} {above below : List Task}
    (step : Step m next)
    (tasks : m.tasks = task :: above ++ below) :
    ∃ later, next.tasks = later ++ below := by
  obtain ⟨added, equal⟩ := (step.advances tasks).tasks
  exact ⟨added ++ above, equal.trans (List.append_assoc _ _ _).symm⟩

theorem Step.ne_nil
    {m next : Machine}
    (step : Step m next) :
    m.tasks ≠ [] := by
  intro empty
  cases step with
  | scripted stepped => simp [Machine.step, empty] at stepped
  | chosen told actions => simp [empty] at told

/-- A step shifts the session. -/
theorem Step.session
    {m next : Machine}
    (step : Step m next) :
    Session.Shifts m.session next.session := by
  cases tasks : m.tasks with
  | nil => exact absurd tasks step.ne_nil
  | cons task below => exact (step.advances tasks).session

/-- The service of a session takes steps only. -/
theorem Step.service
    {m next : Machine}
    (step : Step m next) :
    Service.Steps m.session.service next.session.service :=
  step.session.service

theorem Run.service
    {first last : Machine} {visited : List Machine}
    (run : Run first visited last) :
    Service.Steps first.session.service last.session.service := by
  induction run with
  | nil m => exact .refl
  | cons step run ih => exact step.service.trans ih

end MarkerWatch.Machine
