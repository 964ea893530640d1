import MarkerWatch.Proofs.Service.Engine
import MarkerWatch.Proofs.Session.Account
import MarkerWatch.Proofs.Session.Log

/-!
# Dispatches on engines whose subscribers do as they like

While a dispatch is under way its tasks wait below those of the subscriber that it has told of an
event.  Whatever that subscriber does, the tasks that wait are not touched, so that the machine
follows the phases of the dispatch.  `Machine.dispatch_follows_account` draws the conclusion for
whole runs.
-/

namespace MarkerWatch.Machine

/-- What the next step does for the dispatch that has so many tasks below it. -/
def event? (depth : Nat) (m : Machine) : Option DispatchEvent :=
  match m.tasks with
  | .read d :: below =>
    if below.length = depth ∧ !m.isOver d then
      match m.session.service.host.read d.handle.fd Record.bufferLength with
      | (.ok (byte :: bytes), _) => some (.reads (byte :: bytes))
      | _ => none
    else none
  | .records d (.ok record :: _) :: below =>
    if below.length = depth then
      some (.takesUp ((m.session.service.engine? d.registry d.handle).map (·.table)) record)
    else none
  | .tell (target :: _) :: .records _ _ :: below =>
    if below.length = depth then some (.tells target) else none
  | _ => none

/-- Nothing is done for a dispatch while other tasks come before it. -/
theorem event?_of_deeper
    {m : Machine} {depth : Nat} {task : Task} {above below : List Task}
    {targets : List (Subscriber × Payload)} {d : Dispatch}
    {items : List (Except RecordFault Record)}
    (tasks : m.tasks = task :: above ++ .tell targets :: .records d items :: below)
    (bottom : below.length = depth) :
    m.event? depth = none := by
  have deeper (rest : List Task)
      (equal : rest = above ++ .tell targets :: .records d items :: below) :
      rest.length ≠ depth := by
    rw [equal, List.length_append, List.length_cons, List.length_cons]
    omega
  rw [List.cons_append] at tasks
  rw [event?]
  split
  · rename_i d' rest shape
    rw [tasks] at shape
    rw [if_neg fun both => deeper rest (List.cons.inj shape).2.symm both.1]
  · rename_i d' record items' rest shape
    rw [tasks] at shape
    rw [if_neg (deeper rest (List.cons.inj shape).2.symm)]
  · rename_i target targets' d' items' rest shape
    rw [tasks] at shape
    obtain ⟨-, inner⟩ := List.cons.inj shape
    rw [if_neg]
    cases above with
    | nil => cases (List.cons.inj inner).1
    | cons next above =>
        rw [List.cons_append] at inner
        rw [← (List.cons.inj inner).2, List.length_append, List.length_cons, List.length_cons]
        omega
  · rfl

theorem tasks_of_event?
    {m : Machine} {depth : Nat} {target : Subscriber × Payload}
    (event : m.event? depth = some (.tells target)) :
    ∃ targets below, m.tasks = .tell (target :: targets) :: below := by
  rw [event?] at event
  split at event
  · split at event
    · split at event <;> cases event
    · cases event
  · split at event <;> cases event
  · rename_i found targets d items below tasks
    split at event
    · cases event
      exact ⟨targets, _, tasks⟩
    · cases event
  · cases event

/-- Whoever is told for a dispatch is told, and written down, by the next step. -/
theorem Step.log_of_event?
    {m next : Machine} {depth : Nat} {label : String} {data : Payload}
    (step : Step m next)
    (event : m.event? depth = some (.tells (.labelled label, data))) :
    next.session.log = m.session.log ++ [.told label data] := by
  obtain ⟨targets, below, tasks⟩ := tasks_of_event? event
  rw [step.log, noted, tasks]
  rfl

section

variable (below : List Task) (registry : Nat) (handle : Handle)

/-- A machine in which a dispatch on a registered handle is in some phase.  Above its own tasks are
those of the subscriber that was told last. -/
inductive In : Phase → Machine → Prop
  | reading {m : Machine} {count : Nat}
      (tasks : m.tasks = .read ⟨registry, handle, true, count⟩ :: below) : In (.reading count) m
  | taking {m : Machine} {count : Nat} {items : List (Except RecordFault Record)}
      (tasks : m.tasks = .records ⟨registry, handle, true, count⟩ items :: below) :
      In (.taking count items) m
  | telling {m : Machine} {count : Nat} {targets : List (Subscriber × Payload)}
      {items : List (Except RecordFault Record)} (above : List Task)
      (tasks : m.tasks =
        above ++ .tell targets :: .records ⟨registry, handle, true, count⟩ items :: below) :
      In (.telling count targets items) m
  | returned {m : Machine} {answer : Answer} (tasks : m.tasks = below) (given : m.answer = answer) :
      In (.returned answer) m

end

variable {below : List Task} {registry : Nat} {handle : Handle}

/-- Reading either ends the dispatch, or gives a buffer, or has to be done again. -/
theorem read_phase
    {m : Machine} {count : Nat}
    (tasks : m.tasks = .read ⟨registry, handle, true, count⟩ :: below) :
    ∃ phase,
      Phase.Step (.reading count) (m.event? below.length) phase ∧
        In below registry handle phase
          ({ m with tasks := below }.read ⟨registry, handle, true, count⟩) := by
  rw [event?, tasks]
  dsimp only
  by_cases ended : m.isOver ⟨registry, handle, true, count⟩
  · have ended' : isOver { m with tasks := below } ⟨registry, handle, true, count⟩ = true := ended
    rw [if_neg (by simp [ended]), read, if_pos ended']
    exact ⟨_, .finishes count, .returned rfl rfl⟩
  · have ended' : ¬ isOver { m with tasks := below } ⟨registry, handle, true, count⟩ = true := ended
    rw [if_pos (by simp [ended]), read, if_neg ended']
    dsimp only
    rcases m.session.service.host.read handle.fd Record.bufferLength with ⟨outcome, host⟩
    cases outcome with
    | error errno =>
        dsimp only
        split
        · exact ⟨_, .finishes count, .returned rfl rfl⟩
        · split
          · exact ⟨_, .waits _, .reading rfl⟩
          · exact ⟨_, .fails count errno, .returned rfl rfl⟩
    | ok bytes =>
        cases bytes with
        | nil => exact ⟨_, .finishes count, .returned rfl rfl⟩
        | cons byte bytes => exact ⟨_, .reads count (byte :: bytes), .taking rfl⟩

theorem takeUp_phase
    {m : Machine} {count : Nat} {items : List (Except RecordFault Record)}
    (tasks : m.tasks = .records ⟨registry, handle, true, count⟩ items :: below) :
    ∃ phase,
      Phase.Step (.taking count items) (m.event? below.length) phase ∧
        In below registry handle phase
          ({ m with tasks := below }.takeUp ⟨registry, handle, true, count⟩ items) := by
  rw [event?, tasks]
  cases items with
  | nil => exact ⟨_, .empties count, .reading rfl⟩
  | cons item items =>
      cases item with
      | error fault => exact ⟨_, .refuses count fault items, .returned rfl rfl⟩
      | ok record =>
          dsimp only
          rw [if_pos rfl]
          refine ⟨_, .takesUp count
            ⟨(m.session.service.engine? registry handle).map (·.table), record⟩ items, ?_⟩
          refine .telling [] ?_
          rw [takeUp, before, targets, if_pos rfl]
          dsimp only
          cases m.session.service.engine? registry handle with
          | none => rfl
          | some e =>
              rw [Option.map_some, Delivery.told_of_table]
              rfl

/-- What a subscriber does when it is told comes before whom else there is to tell. -/
theorem tell_phase
    {m next : Machine} {count : Nat} {targets : List (Subscriber × Payload)}
    {items : List (Except RecordFault Record)}
    (tasks : m.tasks =
      .tell targets :: .records ⟨registry, handle, true, count⟩ items :: below)
    (step : Step m next) :
    ∃ phase,
      Phase.Step (.telling count targets items) (m.event? below.length) phase ∧
        In below registry handle phase next := by
  rw [event?, tasks]
  cases targets with
  | nil =>
      rw [step.eq_execute tasks (by simp)]
      exact ⟨_, .turns count items, .taking rfl⟩
  | cons target targets =>
      dsimp only
      rw [if_pos rfl]
      refine ⟨_, .tells count target targets items, ?_⟩
      cases step with
      | scripted stepped =>
          obtain ⟨who, data⟩ := target
          rw [step_of_tasks tasks stepped]
          obtain ⟨above, equal⟩ := (advances_notify
            (before { m with tasks := .records ⟨registry, handle, true, count⟩ items :: below }
              [.tell targets]) who data).tasks
          exact .telling above equal
      | chosen told actions =>
          rw [tasks] at told
          obtain ⟨same, rfl⟩ := List.cons.inj told
          obtain ⟨-, rfl⟩ := List.cons.inj (Task.tell.inj same)
          exact .telling _ rfl

/-- Every step of a session leads from phase to phase. -/
theorem In.step
    {m next : Machine} {phase : Phase}
    (place : In below registry handle phase m)
    (underWay : below.length < m.tasks.length)
    (step : Step m next) :
    ∃ phase', Phase.Step phase (m.event? below.length) phase' ∧
      In below registry handle phase' next := by
  cases place with
  | returned tasks given =>
      rw [tasks] at underWay
      exact absurd underWay (Nat.lt_irrefl _)
  | reading tasks =>
      rw [step.eq_execute tasks (by simp)]
      exact read_phase tasks
  | taking tasks =>
      rw [step.eq_execute tasks (by simp)]
      exact takeUp_phase tasks
  | telling above tasks =>
      cases above with
      | nil => exact tell_phase tasks step
      | cons task above =>
          rw [event?_of_deeper tasks rfl]
          obtain ⟨later, waits⟩ := step.tasks_of_deeper tasks
          exact ⟨_, .waits _, .telling later waits⟩

/-- The events of a run lead from phase to phase. -/
theorem In.run
    {first last : Machine} {visited : List Machine} {phase : Phase}
    (place : In below registry handle phase first)
    (run : Run first visited last)
    (underWay : ∀ m ∈ visited, below.length < m.tasks.length) :
    ∃ phase', Phase.Path phase (visited.filterMap (event? below.length)) phase' ∧
      In below registry handle phase' last := by
  induction run generalizing phase with
  | nil m => exact ⟨phase, .nil phase, place⟩
  | cons step run ih =>
      obtain ⟨middle, first, place⟩ := place.step (underWay _ (List.mem_cons_self ..)) step
      obtain ⟨phase', path, place⟩ := ih place fun m member =>
        underWay m (List.mem_cons_of_mem _ member)
      refine ⟨phase', ?_, place⟩
      have whole := Phase.Path.cons first path
      rw [List.filterMap_cons]
      split <;> rename_i event <;> rwa [event] at whole

/-- What an event says of the machine whose next step it is. -/
def Shows (m : Machine) (registry : Nat) (handle : Handle) : DispatchEvent → Prop
  | .reads bytes =>
    m.session.service.contains registry handle = true ∧
      (m.session.service.host.read handle.fd Record.bufferLength).1 = .ok bytes
  | .takesUp table _ => table = (m.session.service.engine? registry handle).map (·.table)
  | .tells _ => True

theorem In.shows
    {m : Machine} {phase : Phase} {event : DispatchEvent}
    (place : In below registry handle phase m)
    (underWay : below.length < m.tasks.length)
    (found : m.event? below.length = some event) :
    m.Shows registry handle event := by
  cases place with
  | returned tasks given =>
      rw [tasks] at underWay
      exact absurd underWay (Nat.lt_irrefl _)
  | @reading _ count tasks =>
      rw [event?, tasks] at found
      dsimp only at found
      split at found
      · rename_i goesOn
        split at found
        · rename_i read
          cases found
          refine ⟨by simpa [isOver] using goesOn.2, ?_⟩
          rw [read]
        · cases found
      · cases found
  | @taking _ count items tasks =>
      rw [event?, tasks] at found
      rcases items with _ | ⟨fault | record, items⟩
      · cases found
      · cases found
      · dsimp only at found
        rw [if_pos rfl] at found
        cases found
        rfl
  | @telling _ _ targets _ above tasks =>
      cases above with
      | cons task above =>
          rw [event?_of_deeper tasks rfl] at found
          cases found
      | nil =>
          rw [List.nil_append] at tasks
          rw [event?, tasks] at found
          cases targets with
          | nil => cases found
          | cons target targets =>
              dsimp only at found
              rw [if_pos rfl] at found
              cases found
              trivial

/-- Nothing is read and no table is found for a handle without an engine. -/
theorem In.event_of_closed
    {m : Machine} {phase : Phase} {event : DispatchEvent}
    (place : In below registry handle phase m)
    (underWay : below.length < m.tasks.length)
    (closed : m.session.service.contains registry handle = false)
    (found : m.event? below.length = some event) :
    event.AfterClosing := by
  have shows := place.shows underWay found
  cases event with
  | reads bytes =>
      obtain ⟨contained, -⟩ := shows
      rw [closed] at contained
      cases contained
  | takesUp table record =>
      have gone : m.session.service.engine? registry handle = none := by
        rwa [Service.contains, Option.isSome_eq_false_iff, Option.isNone_iff_eq_none] at closed
      change table = _ at shows
      rw [gone] at shows
      exact shows
  | tells target => trivial

theorem In.events_of_closed
    {first last : Machine} {visited : List Machine} {phase : Phase}
    (place : In below registry handle phase first)
    (run : Run first visited last)
    (underWay : ∀ m ∈ visited, below.length < m.tasks.length)
    (closed : ∀ m ∈ visited, m.session.service.contains registry handle = false) :
    ∀ event ∈ visited.filterMap (event? below.length), event.AfterClosing := by
  intro event member
  obtain ⟨m, visits, found⟩ := List.mem_filterMap.mp member
  obtain ⟨before, after, rfl⟩ := List.append_of_mem visits
  obtain ⟨phase', -, place⟩ := place.run run.split.1 fun m member =>
    underWay m (List.mem_append_left _ member)
  exact place.event_of_closed (underWay m visits) (closed m visits) found

/-- A handle that has lost its engine gets no other one in some machines. -/
def StaysClosed (registry : Nat) (handle : Handle) (visited : List Machine) : Prop :=
  visited.Pairwise fun earlier later =>
    later.session.service.contains registry handle = true →
      earlier.session.service.contains registry handle = true

/-- Where no number is given again, an engine that was closed is closed for good. -/
theorem Run.staysClosed
    {first last : Machine} {visited : List Machine} {next : Int}
    (run : Run first visited last)
    (numbers : first.session.service.host.NumbersFrom next)
    (old : handle.fd < next) :
    StaysClosed registry handle visited := by
  induction run with
  | nil m => exact .nil
  | @cons m second last visited step run ih =>
      refine .cons ?_ (ih (step.service.induction Service.Step.numbersFrom numbers))
      intro later member here
      obtain ⟨before, after, rfl⟩ := List.append_of_mem member
      have steps : Service.Steps m.session.service later.session.service :=
        step.service.trans run.split.1.service
      exact Service.Steps.contains steps numbers old here

/-- From the first machine without the engine on, there is none. -/
theorem StaysClosed.closed
    {before after : List Machine} {closed : Machine}
    (staysClosed : StaysClosed registry handle (before ++ closed :: after))
    (gone : closed.session.service.contains registry handle = false) :
    ∀ m ∈ closed :: after, m.session.service.contains registry handle = false := by
  obtain ⟨-, goneForGood, -⟩ := List.pairwise_append.mp staysClosed
  intro m member
  rcases List.mem_cons.mp member with rfl | later
  · exact gone
  · rw [Bool.eq_false_iff]
    intro reopened
    have stillOpen := List.rel_of_pairwise_cons goneForGood later reopened
    rw [gone] at stillOpen
    cases stillOpen

/--
Subscribers may do as they like when they are told of an event; what a dispatch on a registered
handle does keeps to an account nevertheless.  That is, each record that it takes up is told to
exactly those who have an entry for it in the table at that moment, before the next record is taken
up.  The dispatch answers with the number of records in its account.  Whoever is told is written
down in the log of the session by the step that tells them.

If the engine was closed meanwhile for good, those are still told who were to be told of the record
taken up last.  The records left of its buffer are taken up and told to nobody, and nothing more is
read.  Where no descriptor number is given twice, an engine is always closed for good.
-/
theorem dispatch_follows_account
    {first last : Machine} {visited : List Machine}
    {below : List Task} {registry : Nat} {handle : Handle}
    (begins : first.tasks = first.dispatching registry handle :: below)
    (registered : first.session.service.contains registry handle = true)
    (run : Run first visited last)
    (underWay : ∀ m ∈ visited, below.length < m.tasks.length) :
    (∃ account : Account,
      visited.filterMap (event? below.length) <+: account.events ∧
        (last.tasks.length = below.length →
          last.tasks = below ∧
            visited.filterMap (event? below.length) = account.events ∧
            last.answer = account.answer 0)) ∧
      (∀ m ∈ visited, ∀ label data,
        m.event? below.length = some (.tells (.labelled label, data)) →
          ∀ next, Step m next → next.session.log = m.session.log ++ [.told label data]) ∧
      (StaysClosed registry handle visited →
        ∀ before closed after,
          visited = before ++ closed :: after →
            closed.session.service.contains registry handle = false →
              ∃ (pending : List (Subscriber × Payload)) (remaining : List Record),
                (closed :: after).filterMap (event? below.length) =
                  pending.map .tells ++ remaining.map (.takesUp none)) ∧
      ∀ number, first.session.service.host.NumbersFrom number → handle.fd < number →
        StaysClosed registry handle visited := by
  have place : In below registry handle (.reading 0) first := by
    rw [dispatching, registered] at begins
    exact .reading begins
  refine ⟨?_, ?_, ?_, ?_⟩
  · obtain ⟨phase, path, ended⟩ := place.run run underWay
    obtain ⟨account, begun, whole⟩ := path.exists_account
    refine ⟨account, begun, ?_⟩
    intro level
    cases ended with
    | returned tasks given =>
        obtain ⟨same, answered⟩ := whole _ rfl
        exact ⟨tasks, same, given.trans answered⟩
    | reading tasks | taking tasks | telling above tasks =>
        rw [tasks] at level
        simp at level
        try omega
  · intro m _ label data event next step
    exact step.log_of_event? event
  · rintro staysClosed before closed after rfl gone
    obtain ⟨phase, -, place⟩ := place.run run.split.1 fun m member =>
      underWay m (List.mem_append_left _ member)
    have underWay : ∀ m ∈ closed :: after, below.length < m.tasks.length := fun m member =>
      underWay m (List.mem_append_right _ member)
    obtain ⟨phase', path, -⟩ := place.run run.split.2 underWay
    obtain ⟨pending, remaining, -, split⟩ := path.split_of_closed <|
      place.events_of_closed run.split.2 underWay (staysClosed.closed gone)
    exact ⟨pending, remaining, split⟩
  · intro number numbers old
    exact run.staysClosed numbers old

/-- A buffer with two records for two subscribers, of whom the first closes the engine. -/
def closing : Machine where
  session :=
    { service :=
        { host :=
            { Host.fresh (.increasing 10) with
              descriptors :=
                [(9, .fed ⟨[.ok (Event.bytes ⟨⟨1⟩, Mask.modify, 0, []⟩ ++
                  Event.bytes ⟨⟨1⟩, Mask.closeWrite, 0, []⟩)], false, .waiting⟩ none)] }
          release := ""
          registries :=
            [{ root := ⟨[]⟩
               probe := .host
               engines :=
                [(⟨9⟩,
                  { queue := 0
                    table := ⟨[⟨⟨1⟩, Mask.modify, .labelled "a", .number 1⟩,
                      ⟨⟨1⟩, Mask.events, .labelled "b", .number 2⟩]⟩
                    source := none })] }]
          loops := [] }
      views := [0]
      engines := [(0, ⟨9⟩)]
      queues := []
      behaviours := [("a", ⟨[.call (.registry 0 (.close (.engine 0)))], 1⟩)]
      log := []
      printed := [] }
  tasks := [.read ⟨0, ⟨9⟩, true, 0⟩]
  answer := .done

/-- The second subscriber is told of the first record still, and nobody of the second one. -/
theorem account_of_closing :
    ∃ account : Account,
      (closing.trail 11).1.filterMap (event? 0) = account.events ∧
        (closing.trail 11).2.answer = account.answer 0 ∧
        ∃ (pending : List (Subscriber × Payload)) (remaining : List Record),
          ((closing.trail 4).2 :: (closing.trail 11).1.drop 5).filterMap (event? 0) =
            pending.map .tells ++ remaining.map (.takesUp none) := by
  have begins : closing.tasks = closing.dispatching 0 ⟨9⟩ :: [] := rfl
  obtain ⟨⟨account, -, whole⟩, -, split, staysClosed⟩ :=
    dispatch_follows_account begins rfl (closing.run_trail 11) (by decide +kernel)
  have numbers : closing.session.service.host.NumbersFrom 10 := ⟨10, Int.le_refl 10, rfl⟩
  obtain ⟨-, events, answer⟩ := whole rfl
  exact ⟨account, events, answer,
    split (staysClosed 10 numbers (by decide)) ((closing.trail 11).1.take 4) (closing.trail 4).2
      ((closing.trail 11).1.drop 5) rfl rfl⟩

end MarkerWatch.Machine
