import MarkerWatch.Proofs.Loop.Firing
import MarkerWatch.Proofs.Session.Attachment
import MarkerWatch.Proofs.Session.LoopUse

/-!
# Loops that are fired by a session

The callbacks that a session registers dispatch, and whoever is told may do anything: attach, detach
and close engines, and fire the same loop again.  Each step of the machine makes steps of the loop
or none, so whatever holds of every use of a loop holds of the loops that sessions have.
-/

namespace MarkerWatch.Machine

open ReadyLoop (Activity Pending Trace Unreturning)

variable {i : Nat} (m : Machine)

/-! ## Tasks -/

theorem follows_perform (action : Action) : Follows i m (m.perform action) := by
  cases action with
  | call c => exact m.follows_of_cancels rfl (m.session.cancelsAtMost_call i c)
  | dispatch view h => exact m.follows_before _ (by simp [dispatching, Task.loop?])
  | poll view h => exact m.follows_poll _ _
  | attach view h loop => exact m.follows_attach _ _ loop
  | fire h loop => exact m.follows_fireLoop loop _
  | feed view h feed reader => exact m.follows_feed _ _ feed reader
  | pollInBackground view h wake recover =>
      refine m.follows_before _ ?_
      intro task member
      rcases List.mem_append.mp member with dispatch | last
      · exact m.loop?_dispatchingIfOpen _ _ task dispatch
      · simp [List.mem_singleton.mp last, Task.loop?]
  | run arguments root script =>
      rw [perform]
      split
      · exact m.follows_answering _
      · exact m.follows_runCommand _ root script
  | execute arguments root =>
      rw [perform]
      split
      · exact m.follows_answering _
      · exact (m.follows_runCommand _ root []).trans (follows_exit _)

/-- The machine without its next task, where that is one of the loop. -/
theorem Fits.popped
    {l : ReadyLoop Ready} {tasks : List Task}
    (fits : (m.before tasks).Fits i l) :
    m.Fits i l where
  found := fits.found
  fired := fits.fired
  issued := fits.issued
  unswept := fun task member => fits.unswept task (List.mem_append_right _ member)

/-- A fire that has come to all its registrations returns, and the machine answers how many of their
callbacks were run. -/
theorem Fits.returns
    {l : ReadyLoop Ready} {ran : Nat}
    (fits : (m.before [.fire i [] ran]).Fits i l) :
    (m.answering (.count ran)).Fits i l ∧
      ReadyLoop.Step ⟨l, (m.before [.fire i [] ran]).pendingAt i l.kind⟩
        (.returned (ReadyLoop.depth (m.pendingAt i l.kind)) ran)
        ⟨l, (m.answering (.count ran)).pendingAt i l.kind⟩ := by
  have firing : (m.before [.fire i [] ran]).pendingAt i l.kind =
      .firing [] ran :: m.pendingAt i l.kind := by
    simp [pendingAt_before, Task.pending?]
  refine ⟨⟨fits.found, fits.fired, fits.issued, (fits.popped m).unswept⟩, ?_⟩
  rw [firing]
  exact .return l ran _

/-- A fire comes to its next registration. -/
theorem follows_fire (loop id : Nat) (ids : List Nat) (ran : Nat) :
    Follows i (m.before [.fire loop (id :: ids) ran]) (m.execute (.fire loop (id :: ids) ran)) := by
  by_cases other : loop ≠ i
  · refine .trans (m.follows_popped (by simpa [Task.loop?] using other)) ?_
    rw [execute]
    exact m.follows_runCallback other id fun started => by simpa [Task.loop?] using other
  · obtain rfl := not_not.mp other
    intro l fits
    have firing (ids : List Nat) (ran : Nat) :
        (m.before [.fire loop ids ran]).pendingAt loop l.kind =
          .firing ids ran :: m.pendingAt loop l.kind := by
      simp [pendingAt_before, Task.pending?]
    have present : m.session.service.loops[loop]? = some l := fits.found
    rw [execute, runCallback]
    cases held : l.take? id with
    | none =>
        have skipped : m.session.service.loops[loop]?.bind (·.take? id) = none := by
          rw [present, ← held]
          rfl
        rw [skipped]
        exact exists_of_step ((fits.popped m).before m (by simp [Task.sweeps?]))
          (firing (id :: ids) ran) (firing ids ran) (.skip held ids ran _) (by simp)
    | some taking =>
        obtain ⟨callback, taken⟩ := taking
        have taking : m.session.service.loops[loop]?.bind (·.take? id) =
            some (callback, taken) := by
          rw [present, ← held]
          rfl
        have kind : taken.kind = l.kind := by
          obtain ⟨-, rfl⟩ := ReadyLoop.take?_eq_some_iff.mp held
          rfl
        let without := m.withService
          { m.session.service with loops := m.session.service.loops.set loop taken }
        have started : without.Fits loop taken := by
          refine ⟨?_, ?_, ?_, (fits.popped m).unswept⟩
          · exact List.getElem?_set_self (List.getElem?_eq_some_iff.mp present).1
          · rw [kind]
            exact fits.fired
          · exact fits.issued.step (.take m.session.service taking)
        have running :
            (without.before
              [without.dispatching callback.registry callback.handle,
                .finish loop id callback, .fire loop ids (ran + 1)]).pendingAt loop l.kind =
              .running id callback :: .firing ids (ran + 1) :: m.pendingAt loop l.kind := by
          rw [pendingAt_before]
          simp [List.filterMap_cons, Task.pending?, dispatching]
          rfl
        rw [taking]
        exact exists_of_step (started.before without (by simp [dispatching, Task.sweeps?]))
          (firing (id :: ids) ran) running (.start held ids ran _) (by simp)

/-- A callback that has run is put back, unless it was cancelled meanwhile. -/
theorem follows_finish (loop id : Nat) (callback : Ready) :
    Follows i (m.before [.finish loop id callback]) (m.finish loop id callback) := by
  by_cases other : loop ≠ i
  · refine .trans (m.follows_popped (by simpa [Task.loop?] using other)) ?_
    refine m.follows_withService (.of_same (.single (.finish _ loop id callback)) ?_)
    simp [other]
  · obtain rfl := not_not.mp other
    intro l fits
    have finished : (m.finish loop id callback).Fits loop (l.finish id callback) := by
      refine ⟨?_, ?_, ?_, (fits.popped m).unswept⟩
      · change (m.session.service.loops.modify loop (·.finish id callback))[loop]? = _
        rw [List.getElem?_modify_eq, show m.session.service.loops[loop]? = some l from fits.found]
        rfl
      · rw [l.kind_finish id callback]
        exact fits.fired
      · exact fits.issued.step (.finish m.session.service loop id callback)
    have running : (m.before [.finish loop id callback]).pendingAt loop l.kind =
        .running id callback :: m.pendingAt loop l.kind := by
      simp [pendingAt_before, Task.pending?]
    exact exists_of_step finished running rfl (.finish l id callback _) (by simp)

/-- The step of the loop in which a callback is registered. -/
theorem registers
    {l : ReadyLoop Ready} {registry loop : Nat} {handle : Handle}
    (fits : (m.before [.join registry handle loop]).Fits loop l) :
    ReadyLoop.Step ⟨l, (m.before [.join registry handle loop]).pendingAt loop l.kind⟩
      (.registered ⟨(l.register handle.fd ⟨registry, handle⟩).1, handle.fd, ⟨registry, handle⟩⟩)
      ⟨(l.register handle.fd ⟨registry, handle⟩).2, m.pendingAt loop l.kind⟩ := by
  rcases fits.fired with manual | eager
  · have waiting : (m.before [.join registry handle loop]).pendingAt loop l.kind =
        m.pendingAt loop l.kind := by
      simp [pendingAt_before, Task.pending?, manual]
    rw [waiting]
    exact .register manual _ handle.fd ⟨registry, handle⟩
  · have waiting : (m.before [.join registry handle loop]).pendingAt loop l.kind =
        .readying handle.fd ⟨registry, handle⟩ :: m.pendingAt loop l.kind := by
      simp [pendingAt_before, Task.pending?, eager]
    rw [waiting]
    exact .registerReadied l _ handle.fd ⟨registry, handle⟩

/-- A callback is registered, and cancelled at once where its engine cannot be attached. -/
theorem follows_join (registry : Nat) (handle : Handle) (loop : Nat) :
    Follows i (m.before [.join registry handle loop]) (m.execute (.join registry handle loop)) := by
  by_cases other : loop ≠ i
  · refine .trans (m.follows_popped (by simpa [Task.loop?] using other)) ?_
    exact (m.follows_withService (Service.cancelsAtMost_join other _ registry handle)).trans
      (follows_answering _ _)
  · obtain rfl := not_not.mp other
    intro l fits
    have registered := m.registers fits
    have joined {later : ReadyLoop Ready}
        (found : (m.session.service.join registry handle loop).2.loops[loop]? = some later)
        (kind : later.kind = l.kind) :
        (m.execute (.join registry handle loop)).Fits loop later := by
      refine ⟨found, ?_, ?_, (fits.popped m).unswept⟩
      · rw [kind]
        exact fits.fired
      · exact fits.issued.join registry handle loop
    have present : m.session.service.loops[loop]? = some l := fits.found
    rcases Service.loops_join present registry handle with kept | cancelled
    · exact ⟨_, _, joined kept rfl, by simp [Unreturning], .single registered⟩
    · have withdrawn := (Trace.single registered).append
        (.single (.cancel (Nat.succ_pos _) (Nat.le_refl _) (m.pendingAt loop l.kind)))
      exact ⟨_, _, joined cancelled (ReadyLoop.kind_cancel _ _), by simp [Unreturning], withdrawn⟩

/-- Every task but the last one of a fire makes steps of the loop in which no fire returns, or
none. -/
theorem follows_execute
    {task : Task}
    (goesOn : ∀ ran, task ≠ .fire i [] ran) :
    Follows i (m.before [task]) (m.execute task) := by
  have popped (calm : task.loop? = none) : Follows i (m.before [task]) m :=
    m.follows_popped (by simp [calm])
  cases task with
  | perform action => exact (popped rfl).trans (m.follows_perform action)
  | note label => exact (popped rfl).trans (m.follows_of_noted rfl rfl)
  | tell targets =>
      cases targets with
      | nil => exact popped rfl
      | cons target rest =>
          refine (popped rfl).trans ((m.follows_before _ ?_).trans (follows_notify _ _ _))
          simp [Task.loop?]
  | read d => exact (popped rfl).trans (m.follows_read d)
  | records d rest => exact (popped rfl).trans (m.follows_takeUp d rest)
  | join registry handle loop => exact m.follows_join registry handle loop
  | fire loop ids ran =>
      cases ids with
      | cons id ids => exact m.follows_fire loop id ids ran
      | nil =>
          have other : loop ≠ i := by
            rintro rfl
            exact goesOn ran rfl
          exact (m.follows_popped (by simpa [Task.loop?] using other)).trans
            (m.follows_answering (.count ran))
  | finish loop id callback => exact m.follows_finish loop id callback
  | sweep loop ids found =>
      intro l fits
      have other : (Task.sweep loop ids found).loop? ≠ some i :=
        fits.unswept (.sweep loop ids found) List.mem_cons_self
      exact (m.follows_popped other).trans
        (m.follows_sweep (fun same => other (congrArg some same)) ids found) l fits
  | swept loop ids found =>
      intro l fits
      have other : (Task.swept loop ids found).loop? ≠ some i :=
        fits.unswept (.swept loop ids found) List.mem_cons_self
      exact (m.follows_popped other).trans
        (m.follows_before _ (by simpa [Task.loop?] using other)) l fits
  | reply answer => exact (popped rfl).trans (m.follows_answering answer)
  | unfeed fd => exact (popped rfl).trans (m.follows_withHost (.unfeed _ fd))
  | wake registry handle name recover =>
      exact (popped rfl).trans (m.follows_wake registry handle name recover)
  | turn listener =>
      intro l fits
      have other : (Task.turn listener).loop? ≠ some i :=
        fits.unswept (.turn listener) List.mem_cons_self
      exact (m.follows_popped other).trans (m.follows_turn other) l fits
  | interrupt listener => exact (popped rfl).trans (m.follows_interrupt listener)
  | hangUp listener => exact (popped rfl).trans (m.follows_hangUp listener)

/-- A machine is the one without its next task, with that task before the others. -/
theorem eq_before_of_tasks
    {m : Machine} {task : Task} {below : List Task}
    (tasks : m.tasks = task :: below) :
    m = { m with tasks := below }.before [task] := by
  rw [before, List.singleton_append, ← tasks]

variable {m}

/-- A step of a machine makes steps of the loop in which no fire returns, or none, unless it is the
last one of a fire. -/
theorem Step.follows
    {next : Machine}
    (step : Step m next)
    (goesOn : ∀ ran below, m.tasks ≠ .fire i [] ran :: below) :
    Follows i m next := by
  cases step with
  | scripted stepped =>
      cases tasks : m.tasks with
      | nil => simp [Machine.step, tasks] at stepped
      | cons task below =>
          have further (ran : Nat) : task ≠ .fire i [] ran := by
            rintro rfl
            exact goesOn ran below tasks
          rw [step_of_tasks tasks stepped, eq_before_of_tasks tasks]
          exact follows_execute { m with tasks := below } further
  | @chosen label data rest below told actions =>
      let telling : Machine :=
        { m with
          session := { m.session with log := m.session.log ++ [.told label data] }
          tasks := below }
      have decided : m.decided label data actions (.tell rest :: below) =
          telling.before
            (actions.flatMap (fun action => [.perform action, .note label]) ++ [.tell rest]) := by
        rw [Machine.before, List.append_assoc]
        rfl
      have popped : Follows i m { m with tasks := below } := by
        have popped :
            Follows i ({ m with tasks := below }.before [.tell ((.labelled label, data) :: rest)])
              { m with tasks := below } :=
          follows_popped _ (by simp [Task.loop?])
        rwa [← eq_before_of_tasks told] at popped
      have noted : Follows i { m with tasks := below } telling := follows_of_noted _ rfl rfl
      rw [decided]
      refine (popped.trans noted).trans (telling.follows_before _ ?_)
      intro task member
      rcases List.mem_append.mp member with script | last
      · exact loop?_script label actions task script
      · simp [List.mem_singleton.mp last, Task.loop?]

/-- The last step of a fire. -/
theorem Step.returns
    {next : Machine} {l : ReadyLoop Ready} {ran : Nat} {below : List Task}
    (step : Step m next)
    (tasks : m.tasks = .fire i [] ran :: below)
    (fits : m.Fits i l) :
    next.tasks = below ∧ next.answer = .count ran ∧ next.Fits i l ∧
      ReadyLoop.Step ⟨l, m.pendingAt i l.kind⟩
        (.returned (ReadyLoop.depth (next.pendingAt i l.kind)) ran)
        ⟨l, next.pendingAt i l.kind⟩ := by
  rw [step.eq_execute tasks (by simp)]
  rw [eq_before_of_tasks tasks] at fits ⊢
  obtain ⟨returned, last⟩ := fits.returns
  exact ⟨rfl, rfl, returned, last⟩

/-- A step of a machine makes steps of the loop, or none. -/
theorem Step.exists_trace
    {next : Machine} {l : ReadyLoop Ready}
    (step : Step m next)
    (fits : m.Fits i l) :
    ∃ later events, next.Fits i later ∧
      Trace ⟨l, m.pendingAt i l.kind⟩ events ⟨later, next.pendingAt i l.kind⟩ := by
  by_cases last : ∃ ran below, m.tasks = .fire i [] ran :: below
  · obtain ⟨ran, below, tasks⟩ := last
    obtain ⟨-, -, fits, returned⟩ := step.returns tasks fits
    exact ⟨l, _, fits, .single returned⟩
  · have goesOn (ran : Nat) (below : List Task) : m.tasks ≠ .fire i [] ran :: below :=
      fun tasks => last ⟨ran, below, tasks⟩
    obtain ⟨later, events, fits, -, trace⟩ := step.follows goesOn l fits
    exact ⟨later, events, fits, trace⟩

/-! ## Fires -/

/-- What comes before a fire that goes on is put before it, and the fire itself has come to one
registration more. -/
theorem tasks_fire (m : Machine) (loop id : Nat) (ids : List Nat) (ran : Nat) :
    ∃ above now,
      (m.execute (.fire loop (id :: ids) ran)).tasks = above ++ .fire loop ids now :: m.tasks := by
  rw [execute, runCallback]
  split
  · exact ⟨[], ran, rfl⟩
  · exact ⟨[_, _], ran + 1, rfl⟩

/-- A fire is not as deep as what waits above it. -/
theorem depth_lt_of_fire (kind : LoopKind) (above below : List Task) (ids : List Nat) (ran : Nat) :
    ReadyLoop.depth (below.filterMap (Task.pending? i kind)) <
      ReadyLoop.depth ((above ++ .fire i ids ran :: below).filterMap (Task.pending? i kind)) := by
  have firing : Task.pending? i kind (.fire i ids ran) = some (.firing ids ran) := if_pos rfl
  rw [List.filterMap_append, List.filterMap_cons_some firing]
  exact ReadyLoop.depth_lt_append _ _ ids ran

/-- While a fire is under way each step goes on with it, or with what was begun after it, so that no
fire as deep as it returns. -/
theorem Step.within_fire
    {next : Machine} {l : ReadyLoop Ready} {above below : List Task} {ids : List Nat} {ran : Nat}
    (step : Step m next)
    (tasks : m.tasks = above ++ .fire i ids ran :: below)
    (goesOn : above = [] → ids ≠ [])
    (fits : m.Fits i l) :
    ∃ later events,
      (∃ above ids ran, next.tasks = above ++ .fire i ids ran :: below) ∧ next.Fits i later ∧
        (∀ other, .returned (ReadyLoop.depth (below.filterMap (Task.pending? i l.kind))) other ∉
          events) ∧
        Trace ⟨l, m.pendingAt i l.kind⟩ events ⟨later, next.pendingAt i l.kind⟩ := by
  have further :
      ∃ above ids ran, next.tasks = above ++ .fire i ids ran :: below := by
    cases above with
    | cons task above =>
        obtain ⟨later, waits⟩ := step.tasks_of_deeper tasks
        exact ⟨later, ids, ran, waits⟩
    | nil =>
        obtain ⟨id, ids, rfl⟩ := List.exists_cons_of_ne_nil (goesOn rfl)
        rw [step.eq_execute tasks (by simp)]
        obtain ⟨above, now, equal⟩ := tasks_fire { m with tasks := below } i id ids ran
        exact ⟨above, ids, now, equal⟩
  by_cases last : ∃ counted rest, m.tasks = .fire i [] counted :: rest
  · obtain ⟨counted, rest, shape⟩ := last
    obtain ⟨level, -, fitsNext, returned⟩ := step.returns shape fits
    refine ⟨l, _, further, fitsNext, ?_, .single returned⟩
    intro other member
    obtain ⟨above, ids, ran, equal⟩ := further
    have deeper := depth_lt_of_fire (i := i) l.kind above below ids ran
    rw [← equal] at deeper
    have same := (ReadyLoop.Event.returned.inj (List.mem_singleton.mp member)).1
    exact absurd same (Nat.ne_of_lt deeper)
  · obtain ⟨later, events, fitsNext, unreturning, trace⟩ :=
      step.follows (fun counted rest shape => last ⟨counted, rest, shape⟩) l fits
    exact ⟨later, events, further, fitsNext, fun other => unreturning _ other, trace⟩

/-- A fire that is under way returns when it has come to an end.  Fires that were begun after it
return before, but from further within. -/
theorem Run.returns
    {first last : Machine} {visited : List Machine} {l : ReadyLoop Ready}
    {above below : List Task} {ids : List Nat} {ran : Nat}
    (run : Run first visited last)
    (tasks : first.tasks = above ++ .fire i ids ran :: below)
    (fits : first.Fits i l)
    (underWay : ∀ m ∈ visited, below.length < m.tasks.length)
    (ended : last.tasks.length = below.length) :
    ∃ later during counted,
      last.tasks = below ∧ last.answer = .count counted ∧ last.Fits i later ∧
        (∀ other, .returned (ReadyLoop.depth (below.filterMap (Task.pending? i l.kind))) other ∉
          during) ∧
        Trace ⟨l, first.pendingAt i l.kind⟩
          (during ++
            [.returned (ReadyLoop.depth (below.filterMap (Task.pending? i l.kind))) counted])
          ⟨later, last.pendingAt i l.kind⟩ := by
  induction run generalizing above ids ran l with
  | nil m =>
      rw [tasks, List.length_append, List.length_cons] at ended
      omega
  | @cons m next last visited step run ih =>
      have laterUnderWay : ∀ m ∈ visited, below.length < m.tasks.length := fun m member =>
        underWay m (List.mem_cons_of_mem _ member)
      by_cases returns : above = [] ∧ ids = []
      · obtain ⟨rfl, rfl⟩ := returns
        obtain ⟨level, answered, fits, returned⟩ := step.returns tasks fits
        cases run with
        | nil =>
            rw [← level]
            exact ⟨l, [], ran, rfl, answered, fits, by simp, .single returned⟩
        | cons step run =>
            have deeper := laterUnderWay next List.mem_cons_self
            rw [level] at deeper
            exact absurd deeper (Nat.lt_irrefl _)
      · have goesOn : above = [] → ids ≠ [] := fun first done => returns ⟨first, done⟩
        obtain ⟨between, events, ⟨above, ids, ran, waits⟩, fits, unreturned, trace⟩ :=
          step.within_fire tasks goesOn fits
        obtain ⟨later, during, counted, back, answered, fits, unreturned', trace'⟩ :=
          ih waits fits laterUnderWay ended
        have kind : between.kind = l.kind := trace.kind
        rw [kind] at unreturned' trace'
        refine ⟨later, events ++ during, counted, back, answered, fits, ?_, ?_⟩
        · intro other member
          rcases List.mem_append.mp member with before | after
          · exact unreturned other before
          · exact unreturned' other after
        · rw [List.append_assoc]
          exact trace.append trace'

/-! ## Sessions -/

theorem Fits.activity
    {l : ReadyLoop Ready}
    (fits : m.Fits i l) :
    m.activity? i = some ⟨l, m.pendingAt i l.kind⟩ := by
  rw [activity?, fits.found]
  rfl

/-- In a session a loop that is fired has been used from the start as any other loop may be. -/
theorem Reached.fits
    {numbering : Numbering} {loops : List LoopKind} {kind : LoopKind}
    (reached : Reached numbering loops m)
    (found : loops[i]? = some kind)
    (fired : kind = .manual ∨ kind = .eager) :
    ∃ l history, m.Fits i l ∧ Trace ⟨.empty kind, []⟩ history ⟨l, m.pendingAt i l.kind⟩ := by
  induction reached with
  | fresh behaviours =>
      refine ⟨.empty kind, [], ⟨?_, fired, Service.issued_fresh numbering loops, ?_⟩, .nil⟩
      · change (loops.map ReadyLoop.empty)[i]? = _
        rw [List.getElem?_map, found]
        rfl
      · intro task member
        cases member
  | @start m reached idle action ih =>
      obtain ⟨l, history, fits, trace⟩ := ih
      refine ⟨l, history, ⟨fits.found, fits.fired, fits.issued, ?_⟩, ?_⟩
      · intro task member
        rw [List.mem_singleton.mp member]
        simp [Task.sweeps?]
      · rw [pendingAt, idle] at trace
        exact trace
  | @step m next reached step ih =>
      obtain ⟨l, history, fits, trace⟩ := ih
      obtain ⟨later, events, fitsLater, more⟩ := step.exists_trace fits
      have same : later.kind = l.kind := more.kind
      refine ⟨later, history ++ events, fitsLater, ?_⟩
      rw [same]
      exact trace.append more

/-- The step in which a loop is fired. -/
theorem Step.fires
    {next : Machine} {l : ReadyLoop Ready} {h : HandleRef} {below : List Task}
    (step : Step m next)
    (tasks : m.tasks = .perform (.fire h i) :: below)
    (fits : m.Fits i l) :
    next.tasks = .fire i (l.due (m.session.handle h).fd) 0 :: below ∧ next.Fits i l ∧
      ReadyLoop.Step ⟨l, m.pendingAt i l.kind⟩
        (.fired (ReadyLoop.depth (m.pendingAt i l.kind)) (m.session.handle h).fd)
        ⟨l, next.pendingAt i l.kind⟩ := by
  have popped : ({ m with tasks := below } : Machine).Fits i l := by
    rw [eq_before_of_tasks tasks] at fits
    exact fits.popped _
  have waiting :
      m.pendingAt i l.kind = ({ m with tasks := below } : Machine).pendingAt i l.kind := by
    rw [pendingAt, tasks]
    rfl
  obtain ⟨fired, fitsNext, first⟩ := popped.fires _ (m.session.handle h).fd
  rw [step.eq_execute tasks (by simp), waiting]
  exact ⟨congrArg Machine.tasks fired, fitsNext, first⟩

/-- A loop that is fired comes to the registrations that are live for the descriptor, and answers
how many of their callbacks it has started. -/
theorem Run.fires
    {last : Machine} {visited : List Machine} {l : ReadyLoop Ready} {kind : LoopKind}
    {h : HandleRef} {below : List Task} {history : List (ReadyLoop.Event Ready)}
    (run : Run m visited last)
    (tasks : m.tasks = .perform (.fire h i) :: below)
    (fits : m.Fits i l)
    (trace : Trace ⟨.empty kind, []⟩ history ⟨l, m.pendingAt i l.kind⟩)
    (underWay : ∀ n ∈ visited, below.length < n.tasks.length)
    (ended : last.tasks.length = below.length) :
    let depth := ReadyLoop.depth (m.pendingAt i l.kind)
    ∃ later during,
      last.tasks = below ∧ last.activity? i = some later ∧
        Trace ⟨l, m.pendingAt i l.kind⟩
          (.fired depth (m.session.handle h).fd ::
            (during ++ [.returned depth (ReadyLoop.starts depth during).length])) later ∧
        ReadyLoop.turns depth during = ReadyLoop.liveFor history (m.session.handle h).fd ∧
        last.answer = .count (ReadyLoop.starts depth during).length := by
  intro depth
  cases run with
  | nil =>
      rw [tasks, List.length_cons] at ended
      omega
  | @cons _ second _ visited step run =>
      obtain ⟨begun, fitsSecond, first⟩ := step.fires tasks fits
      have level : ReadyLoop.depth (below.filterMap (Task.pending? i l.kind)) = depth := by
        rw [show depth = ReadyLoop.depth (m.tasks.filterMap (Task.pending? i l.kind)) from rfl,
          tasks]
        rfl
      have waits : second.tasks = [] ++ .fire i (l.due (m.session.handle h).fd) 0 :: below := begun
      obtain ⟨later, during, counted, back, answered, fitsLast, unreturned, rest⟩ :=
        run.returns waits fitsSecond (fun n member => underWay n (List.mem_cons_of_mem _ member))
          ended
      rw [level] at unreturned rest
      have whole := (Trace.single first).append rest
      have fire : ReadyLoop.Fire
          (history ++
            ([.fired depth (m.session.handle h).fd] ++ (during ++ [.returned depth counted])))
          depth (m.session.handle h).fd history during [.returned depth counted] :=
        ⟨rfl, unreturned⟩
      obtain ⟨-, -, complete⟩ := (trace.append whole).orderly.turns _ _ _ _ _ fire
      obtain ⟨turns, total⟩ := complete counted [] rfl
      subst total
      have kind : later.kind = l.kind := whole.kind
      have active := fitsLast.activity
      rw [kind] at active
      exact ⟨_, during, back, active, whole, turns, answered⟩

/--
Let the callbacks of a loop register, cancel, themselves included, and fire the loop again.  A fire
comes to each registration that was live for its descriptor when it began, once and in their order,
and starts the callback unless it was cancelled meanwhile or is running.  Once a registration was
cancelled, its callback is not started again; a callback that was not is back in the loop when the
fire that has started it returns; and the registrations that the loop counts are those that were not
cancelled.

The loops of sessions are used in this way and in no other, whatever subscribers decide to do and
whichever numbers descriptors get: from one step of a session to the next, a loop that is run by
hand or eagerly makes steps of such a use, or none.  The action that fires such a loop begins a fire
for the descriptor of its handle.  When the action has ended, the fire has returned: it has come to
what was live for the descriptor, and the answer is the number of callbacks that it has started.
-/
theorem fires_live_registrations_once :
    (∀ (κ : Type) (kind : LoopKind) (history : List (ReadyLoop.Event κ)) (a : Activity κ),
        Trace ⟨.empty kind, []⟩ history a → ReadyLoop.Orderly history a.loop) ∧
      ∀ (numbering : Numbering) (loops : List LoopKind) (m : Machine) (i : Nat) (kind : LoopKind),
        Reached numbering loops m → loops[i]? = some kind → kind = .manual ∨ kind = .eager →
          ∃ a history, m.activity? i = some a ∧ Trace ⟨.empty kind, []⟩ history a ∧
            (∀ next, Step m next →
              ∃ later events, next.activity? i = some later ∧ Trace a events later ∧
                ∀ h below, m.tasks = .perform (.fire h i) :: below →
                  events = [.fired (ReadyLoop.depth a.pending) (m.session.handle h).fd]) ∧
            ∀ h below visited last,
              m.tasks = .perform (.fire h i) :: below →
                Run m visited last →
                  (∀ n ∈ visited, below.length < n.tasks.length) →
                    last.tasks.length = below.length →
                      let depth := ReadyLoop.depth a.pending
                      ∃ later during,
                        last.tasks = below ∧ last.activity? i = some later ∧
                          Trace a
                            (.fired depth (m.session.handle h).fd ::
                              (during ++ [.returned depth (ReadyLoop.starts depth during).length]))
                            later ∧
                          ReadyLoop.turns depth during =
                            ReadyLoop.liveFor history (m.session.handle h).fd ∧
                          last.answer = .count (ReadyLoop.starts depth during).length := by
  constructor
  · intro κ kind history a trace
    exact trace.orderly
  · intro numbering loops m i kind reached found fired
    obtain ⟨l, history, fits, trace⟩ := reached.fits found fired
    refine ⟨_, history, fits.activity, trace, ?_, ?_⟩
    · intro next step
      by_cases fires : ∃ h below, m.tasks = .perform (.fire h i) :: below
      · obtain ⟨h, below, tasks⟩ := fires
        obtain ⟨-, fitsNext, first⟩ := step.fires tasks fits
        refine ⟨_, _, fitsNext.activity, .single first, ?_⟩
        intro other rest shape
        cases tasks.symm.trans shape
        rfl
      · obtain ⟨later, events, fitsLater, more⟩ := step.exists_trace fits
        have same : later.kind = l.kind := more.kind
        refine ⟨_, events, fitsLater.activity, ?_, ?_⟩
        · rw [same]
          exact more
        · intro h below tasks
          exact absurd ⟨h, below, tasks⟩ fires
    · intro h below visited last tasks run underWay ended
      exact run.fires tasks fits trace underWay ended

/-- A callback cancels itself, fires the loop again, cancels the registration that this has run, and
registers another one. -/
def reentrant : List (ReadyLoop.Event Char) :=
  [.registered ⟨1, 7, 'a'⟩, .registered ⟨2, 7, 'b'⟩, .fired 0 7, .turned 0 1 (some 'a'),
    .cancelled 1, .fired 1 7, .turned 1 2 (some 'b'), .ended 2, .returned 1 1, .cancelled 2,
    .registered ⟨3, 7, 'c'⟩, .ended 1, .turned 0 2 none, .returned 0 1]

theorem trace_reentrant :
    Trace ⟨.empty .manual, []⟩ reentrant ⟨⟨.manual, 3, [(3, 7)], [(3, 'c')], []⟩, []⟩ := by
  have begun : Trace (⟨.empty .manual, []⟩ : Activity Char)
      [.registered ⟨1, 7, 'a'⟩, .registered ⟨2, 7, 'b'⟩, .fired 0 7]
      ⟨⟨.manual, 2, [(1, 7), (2, 7)], [(1, 'a'), (2, 'b')], []⟩, [.firing [1, 2] 0]⟩ :=
    .snoc (.snoc (.single (.register rfl _ 7 'a')) (.register rfl _ 7 'b')) (.fire _ _ 7)
  have within : Trace
      ⟨⟨.manual, 2, [(1, 7), (2, 7)], [(1, 'a'), (2, 'b')], []⟩, [.firing [1, 2] 0]⟩
      [.turned 0 1 (some 'a'), .cancelled 1, .fired 1 7, .turned 1 2 (some 'b'), .ended 2,
        .returned 1 1]
      ⟨⟨.manual, 2, [(2, 7)], [(2, 'b')], [1]⟩, [.running 1 'a', .firing [2] 1]⟩ :=
    .snoc (.snoc (.snoc (.snoc (.snoc (.single (.start rfl _ _ _))
      (.cancel (by decide) (by decide) _)) (.fire _ _ 7)) (.start rfl _ _ _)) (.finish _ _ _ _))
      (.return _ _ _)
  have ended : Trace
      ⟨⟨.manual, 2, [(2, 7)], [(2, 'b')], [1]⟩, [.running 1 'a', .firing [2] 1]⟩
      [.cancelled 2, .registered ⟨3, 7, 'c'⟩, .ended 1, .turned 0 2 none, .returned 0 1]
      ⟨⟨.manual, 3, [(3, 7)], [(3, 'c')], []⟩, []⟩ :=
    .snoc (.snoc (.snoc (.snoc (.single (.cancel (by decide) (by decide) _))
      (.register rfl _ 7 'c')) (.finish _ _ _ _)) (.skip rfl _ _ _)) (.return _ _ _)
  exact (begun.append within).append ended

/-- A subscriber that fires the loop again when it is told of an event, and then detaches the
engine. -/
def firingAgain : Assoc String Behaviour :=
  [("first", ⟨[.fire (.engine 0) 0, .call (.registry 0 (.detach (.engine 0)))], 1⟩)]

/-- A session in which that subscriber has an event to be told of, and a loop drives the engine. -/
def readied : Machine :=
  [.call (.addRegistry ⟨[0x2F, 0x74, 0x6D, 0x70]⟩ (.fixed "6.1.0")),
    .call (.file (.write ⟨[0x2F, 0x74, 0x6D, 0x70, 0x2F, 0x6D]⟩ "")),
    .call (.registry 0 (.init false)),
    .call (.registry 0 (.subscribe (.engine 0) "m" "first" .none)),
    .attach 0 (.engine 0) 0,
    .call (.registry 0 (.publish "m"))].foldl
      (fun m action => (trail 2 (.start m.session action)).2)
      ⟨.fresh (.increasing 10) [.manual, .eager] firingAgain, [], .done⟩

theorem reached_readied : Reached (.increasing 10) [.manual, .eager] readied :=
  ((((((Reached.fresh firingAgain).perform rfl _ 2).perform rfl _ 2).perform rfl _ 2).perform rfl
    _ 2).perform rfl _ 2).perform rfl _ 2

/-- The loop of a session is fired for its one registration, whose callback fires it again and
cancels the registration. -/
theorem fires_live_registrations_once_of_reentrant :
    ReadyLoop.Orderly reentrant ⟨.manual, 3, [(3, 7)], [(3, 'c')], []⟩ ∧
      ∃ a history later during,
        Trace ⟨.empty .manual, []⟩ history a ∧
          (trail 20 (.start readied.session (.fire (.engine 0) 0))).2.activity? 0 = some later ∧
          Trace a (.fired 0 10 :: (during ++ [.returned 0 1])) later ∧
          later.loop.registrations = 0 ∧
          ReadyLoop.turns 0 during = ReadyLoop.liveFor history 10 ∧
          (ReadyLoop.starts 0 during).length = 1 := by
  constructor
  · exact fires_live_registrations_once.1 Char .manual reentrant _ trace_reentrant
  · have reached : Reached (.increasing 10) [.manual, .eager]
        (.start readied.session (.fire (.engine 0) 0)) :=
      reached_readied.start rfl _
    obtain ⟨a, history, active, trace, -, fires⟩ :=
      fires_live_registrations_once.2 _ _ _ 0 .manual reached rfl (.inl rfl)
    have outermost : ReadyLoop.depth a.pending = 0 := by
      cases active
      rfl
    obtain ⟨later, during, -, activeLast, whole, turns, answered⟩ :=
      fires (.engine 0) [] _ _ rfl (run_trail 20 _) (by decide +kernel) rfl
    rw [outermost] at whole turns answered
    have started : (ReadyLoop.starts 0 during).length = 1 := (Answer.count.inj answered).symm
    rw [started] at whole
    refine ⟨a, history, later, during, trace, activeLast, whole, ?_, turns, started⟩
    cases activeLast
    rfl

end MarkerWatch.Machine
