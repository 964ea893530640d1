import MarkerWatch.Proofs.Session.Snapshot
import MarkerWatch.Proofs.Session.Withdrawal

/-!
# Engines that take the place of others

A dispatch knows its engine by the handle only.  For each record of a buffer it looks up the engine
that is at the handle by then, and tells those whom the table of that engine holds for the record.
This is the engine from whose descriptor the buffer was read, unless that one was closed meanwhile
and another was opened with the same number.

Where no number is given again, that cannot happen.  Otherwise subscribers of the new engine are
told of what was left in the buffer of the old one.
-/

namespace MarkerWatch

/-! ## What comes before somebody is told -/

namespace DispatchEvent

/-- A buffer is read. -/
def Reads : DispatchEvent → Prop
  | reads _ => True
  | _ => False

/-- Somebody is told. -/
def Tells : DispatchEvent → Prop
  | tells _ => True
  | _ => False

end DispatchEvent

/-- Since these records were in the buffer, a delivery was the last that was taken up. -/
def Delivery.LastOf (d : Delivery) (items : List (Except RecordFault Record))
    (events : List DispatchEvent) : Prop :=
  .ok d.record ∈ items ∧
    ∃ before after, events = before ++ .takesUp d.table d.record :: after ∧
      (∀ event ∈ before, ¬ event.Reads) ∧ ∀ event ∈ after, event.Tells

namespace Phase

/-- The records that a phase has still to take up. -/
def items : Phase → List (Except RecordFault Record)
  | taking _ items | telling _ _ items => items
  | _ => []

/-- Why somebody is told after some events from a phase on: he was to be told in that phase already,
or the record taken up last was in the buffer by then, or it was in a buffer read since. -/
inductive Explains (target : Subscriber × Payload) : Phase → List DispatchEvent → Prop
  | due {phase : Phase} {events : List DispatchEvent} (due : target ∈ phase.due)
      (tells : ∀ event ∈ events, event.Tells) : Explains target phase events
  | buffered {phase : Phase} {events : List DispatchEvent} {d : Delivery} (told : target ∈ d.told)
      (last : d.LastOf phase.items events) : Explains target phase events
  | read {phase : Phase} {bytes : List UInt8} {d : Delivery} (before : List DispatchEvent)
      {after : List DispatchEvent} (told : target ∈ d.told)
      (last : d.LastOf (Record.decode bytes) after) :
      Explains target phase (before ++ .reads bytes :: after)

theorem Explains.cons
    {target : Subscriber × Payload} {phase next : Phase} {event : Option DispatchEvent}
    {events : List DispatchEvent}
    (step : Step phase event next)
    (explains : Explains target next events) :
    Explains target phase (event.toList ++ events) := by
  cases explains with
  | read before told last =>
      rw [← List.append_assoc]
      exact .read _ told last
  | due due tells =>
      cases step with
      | waits => exact .due due tells
      | finishes | fails | reads | empties | refuses | turns => cases due
      | takesUp count d items =>
          refine .buffered due ⟨List.mem_cons_self, [], events, rfl, ?_, tells⟩
          intro event member
          cases member
      | tells count first targets items =>
          refine .due (List.mem_cons_of_mem first due) ?_
          intro event member
          rcases List.mem_cons.mp member with rfl | later
          · trivial
          · exact tells event later
  | buffered told last =>
      obtain ⟨member, before, after, rfl, between, tells⟩ := last
      have later {event : DispatchEvent} (other : ¬ event.Reads) :
          ∀ earlier ∈ event :: before, ¬ earlier.Reads := by
        intro earlier among
        rcases List.mem_cons.mp among with rfl | among
        · exact other
        · exact between earlier among
      cases step with
      | waits | turns => exact .buffered told ⟨member, before, after, rfl, between, tells⟩
      | finishes | fails | empties | refuses => cases member
      | reads count bytes => exact .read [] told ⟨member, before, after, rfl, between, tells⟩
      | takesUp count first items =>
          have member := List.mem_cons_of_mem (.ok first.record) member
          exact .buffered told ⟨member, _ :: before, after, rfl, later id, tells⟩
      | tells count first targets items =>
          exact .buffered told ⟨member, _ :: before, after, rfl, later id, tells⟩

theorem Path.explains
    {first last : Phase} {target : Subscriber × Payload} {before after : List DispatchEvent}
    (path : Path first (before ++ .tells target :: after) last) :
    Explains target first before := by
  generalize whole : before ++ .tells target :: after = events at path
  induction path generalizing before with
  | nil phase => simp at whole
  | @cons first next last event events step path ih =>
      cases event with
      | none => exact .cons step (ih whole)
      | some event =>
          cases before with
          | nil =>
              obtain ⟨rfl, -⟩ := List.cons.inj whole
              cases step with
              | tells count target targets items =>
                  exact .due List.mem_cons_self fun event member => nomatch member
          | cons earlier before =>
              obtain ⟨rfl, rest⟩ := List.cons.inj whole
              exact .cons step (ih rest)

/-- Whoever is told by a dispatch is told of a record out of the buffer that it has read last. -/
theorem Path.exists_read
    {count : Nat} {last : Phase} {target : Subscriber × Payload}
    {before after : List DispatchEvent}
    (path : Path (reading count) (before ++ .tells target :: after) last) :
    ∃ (earlier later : List DispatchEvent) (bytes : List UInt8) (d : Delivery),
      before = earlier ++ .reads bytes :: later ∧ target ∈ d.told ∧
        d.LastOf (Record.decode bytes) later := by
  cases path.explains with
  | due due => cases due
  | buffered told last => cases last.1
  | read earlier told last => exact ⟨earlier, _, _, _, rfl, told, last⟩

end Phase

namespace Machine

variable {below : List Task} {registry : Nat} {handle : Handle}

/-! ## Dispatches without an engine -/

/-- A machine in which a dispatch is under way that found no engine when it began. -/
inductive Drains (below : List Task) (registry : Nat) (handle : Handle) (m : Machine) : Prop
  | reading {count : Nat} (tasks : m.tasks = .read ⟨registry, handle, false, count⟩ :: below)
  | taking {count : Nat} {items : List (Except RecordFault Record)}
      (tasks : m.tasks = .records ⟨registry, handle, false, count⟩ items :: below)
  | turning {count : Nat} {items : List (Except RecordFault Record)}
      (tasks : m.tasks = .tell [] :: .records ⟨registry, handle, false, count⟩ items :: below)
  | returned (tasks : m.tasks = below)

/-- A step of a dispatch whose engine is gone takes its buffer further.  It tells nobody who could
choose what to do. -/
theorem Drains.step
    {m next : Machine}
    (drains : Drains below registry handle m)
    (underWay : below.length < m.tasks.length)
    (step : Step m next) :
    Drains below registry handle next := by
  cases step with
  | chosen told actions =>
      cases drains with
      | reading tasks | taking tasks | turning tasks =>
          rw [tasks] at told
          cases told
      | returned tasks =>
          rw [tasks] at underWay
          exact absurd underWay (Nat.lt_irrefl _)
  | scripted stepped =>
      cases drains with
      | returned tasks =>
          rw [tasks] at underWay
          exact absurd underWay (Nat.lt_irrefl _)
      | @reading count tasks =>
          rw [step_of_tasks tasks stepped, execute, read]
          split
          · exact .returned rfl
          · dsimp only
            split
            · exact .returned rfl
            · exact .taking rfl
            · split
              · exact .returned rfl
              · split
                · exact .reading rfl
                · exact .returned rfl
      | @taking count items tasks =>
          rw [step_of_tasks tasks stepped, execute]
          rcases items with _ | ⟨fault | record, items⟩
          · exact .reading rfl
          · exact .returned rfl
          · exact .turning rfl
      | turning tasks =>
          rw [step_of_tasks tasks stepped]
          exact .taking rfl

theorem Drains.run
    {first last : Machine} {visited : List Machine}
    (drains : Drains below registry handle first)
    (run : Run first visited last)
    (underWay : ∀ m ∈ visited, below.length < m.tasks.length) :
    Drains below registry handle last := by
  induction run with
  | nil m => exact drains
  | cons step run ih =>
      exact ih (drains.step (underWay _ List.mem_cons_self) step) fun m member =>
        underWay m (List.mem_cons_of_mem _ member)

theorem Drains.not_tells
    {m : Machine} {depth : Nat} {target : Subscriber × Payload}
    (drains : Drains below registry handle m)
    (underWay : below.length < m.tasks.length) :
    m.event? depth ≠ some (.tells target) := by
  intro event
  obtain ⟨targets, rest, told⟩ := tasks_of_event? event
  cases drains with
  | reading tasks | taking tasks | turning tasks =>
      rw [tasks] at told
      cases told
  | returned tasks =>
      rw [tasks] at underWay
      exact absurd underWay (Nat.lt_irrefl _)

/-! ## Records and the engines that they were read from -/

/-- The machines in which a dispatch with so many tasks below it has read its last buffer and taken
its last record up, which is one of that buffer. -/
def LastTakesUp (depth : Nat) (earlier : List Machine) (reading : Machine) (bytes : List UInt8)
    (taking : Machine) (d : Delivery) : Prop :=
  .ok d.record ∈ Record.decode bytes ∧
    ∃ before between after,
      earlier = before ++ reading :: (between ++ taking :: after) ∧
        reading.event? depth = some (.reads bytes) ∧
        taking.event? depth = some (.takesUp d.table d.record) ∧
        (∀ event ∈ between.filterMap (event? depth), ¬ event.Reads) ∧
        ∀ event ∈ after.filterMap (event? depth), event.Tells

theorem exists_lastTakesUp
    {depth : Nat} {earlier : List Machine} {before after : List DispatchEvent}
    {bytes : List UInt8} {d : Delivery}
    (events : earlier.filterMap (event? depth) = before ++ .reads bytes :: after)
    (last : d.LastOf (Record.decode bytes) after) :
    ∃ reading taking, LastTakesUp depth earlier reading bytes taking d := by
  obtain ⟨listed, between, told, rfl, noReads, tells⟩ := last
  obtain ⟨first, rest, rfl, -, restEvents⟩ := List.filterMap_eq_append_iff.mp events
  obtain ⟨silent, reading, rest, rfl, -, reads, restEvents⟩ :=
    List.filterMap_eq_cons_iff.mp restEvents
  obtain ⟨second, rest, rfl, betweenEvents, restEvents⟩ :=
    List.filterMap_eq_append_iff.mp restEvents
  obtain ⟨silent', taking, rest, rfl, quiet, takesUp, restEvents⟩ :=
    List.filterMap_eq_cons_iff.mp restEvents
  refine ⟨reading, taking, listed, first ++ silent, second ++ silent', rest, ?_, reads, takesUp, ?_,
    ?_⟩
  · simp only [List.append_assoc]
  · rw [List.filterMap_append, betweenEvents, List.filterMap_eq_nil_iff.mpr quiet, List.append_nil]
    exact noReads
  · rw [restEvents]
    exact tells

/-- The run up to the last read, the run from there to the last record, and what these machines
show. -/
theorem In.shows_lastTakesUp
    {first last reading taking : Machine} {earlier later : List Machine} {phase : Phase}
    {bytes : List UInt8} {d : Delivery}
    (place : In below registry handle phase first)
    (run : Run first (earlier ++ later) last)
    (underWay : ∀ m ∈ earlier, below.length < m.tasks.length)
    (takesUp : LastTakesUp below.length earlier reading bytes taking d) :
    reading.Shows registry handle (.reads bytes) ∧
      taking.Shows registry handle (.takesUp d.table d.record) ∧
      Service.Steps first.session.service reading.session.service ∧
      Service.Steps reading.session.service taking.session.service := by
  obtain ⟨-, before, between, after, rfl, reads, takes, -, -⟩ := takesUp
  have toReading : Run first before reading ∧
      Run reading (reading :: between ++ taking :: (after ++ later)) last := by
    apply Run.split
    simpa using run
  have toTaking : Run first (before ++ reading :: between) taking ∧
      Run taking (taking :: (after ++ later)) last := by
    apply Run.split
    simpa using run
  obtain ⟨atReading, -, placeReading⟩ := place.run toReading.1 fun m member =>
    underWay m (by simp [member])
  have begun : before ++ reading :: between <+: before ++ reading :: (between ++ taking :: after) :=
    ⟨taking :: after, by simp⟩
  obtain ⟨atTaking, -, placeTaking⟩ := place.run toTaking.1 fun m member =>
    underWay m (begun.subset member)
  exact ⟨placeReading.shows (underWay reading (by simp)) reads,
    placeTaking.shows (underWay taking (by simp)) takes, toReading.1.service,
    toReading.2.split.1.service⟩

/-- Whoever is told by a dispatch that began with an engine is told of the record taken up last. -/
theorem In.told_of_lastTakesUp
    {first last telling : Machine} {earlier later : List Machine} {count : Nat}
    {target : Subscriber × Payload}
    (place : In below registry handle (.reading count) first)
    (run : Run first (earlier ++ telling :: later) last)
    (underWay : ∀ m ∈ earlier ++ telling :: later, below.length < m.tasks.length)
    (told : telling.event? below.length = some (.tells target)) :
    ∃ reading bytes taking d,
      LastTakesUp below.length earlier reading bytes taking d ∧ target ∈ d.told := by
  obtain ⟨phase, path, -⟩ := place.run run underWay
  rw [List.filterMap_append, List.filterMap_cons_some told] at path
  obtain ⟨before, after, bytes, d, events, due, last⟩ := path.exists_read
  obtain ⟨reading, taking, takesUp⟩ := exists_lastTakesUp events last
  exact ⟨reading, bytes, taking, d, takesUp, due⟩

/-- A dispatch that is under way began with an engine, or tells nobody. -/
theorem exists_in_of_told
    {first last telling : Machine} {earlier later : List Machine} {depth : Nat}
    {target : Subscriber × Payload}
    (begins : first.tasks = first.dispatching registry handle :: below)
    (run : Run first (earlier ++ telling :: later) last)
    (underWay : ∀ m ∈ earlier ++ telling :: later, below.length < m.tasks.length)
    (told : telling.event? depth = some (.tells target)) :
    In below registry handle (.reading 0) first := by
  rw [dispatching] at begins
  cases registered : first.session.service.contains registry handle with
  | true =>
      rw [registered] at begins
      exact .reading begins
  | false =>
      rw [registered] at begins
      have drains : Drains below registry handle telling :=
        (Drains.reading begins).run run.split.1 fun m member =>
          underWay m (List.mem_append_left _ member)
      exact absurd told (drains.not_tells (underWay telling (by simp)))

/--
Let a dispatch be under way in any run, in which subscribers do as they like and numbers of
descriptors may be given again.  Whoever is told by it is told of a record out of the buffer that it
has read last, from the descriptor of the engine `reader` that was at the handle by then; and he is
told because of a subscription of the engine `holder` that was at the handle when the record was
taken up.

The two are one engine, which is known by its queue, or `reader` is gone and `holder` was opened
since.  Where no number is given again, they are one engine.
-/
theorem told_by_engine_at_handle
    {numbering : Numbering} {loops : List LoopKind}
    {first last : Machine} {visited : List Machine}
    {below : List Task} {registry : Nat} {handle : Handle}
    (reached : Service.Steps (.fresh numbering loops) first.session.service)
    (begins : first.tasks = first.dispatching registry handle :: below)
    (run : Run first visited last)
    (underWay : ∀ m ∈ visited, below.length < m.tasks.length)
    {earlier later : List Machine} {telling : Machine} {target : Subscriber × Payload}
    (visits : visited = earlier ++ telling :: later)
    (told : telling.event? below.length = some (.tells target)) :
    ∃ reading bytes taking d reader holder entry,
      LastTakesUp below.length earlier reading bytes taking d ∧
        (reading.session.service.host.read handle.fd Record.bufferLength).1 = .ok bytes ∧
        reading.session.service.engine? registry handle = some reader ∧
        reading.session.service.host.Seats handle.fd reader.queue ∧
        taking.session.service.engine? registry handle = some holder ∧
        entry ∈ holder.table.entries ∧ (entry.subscriber, entry.data) = target ∧
        entry.watch = d.record.watch ∧ entry.mask.intersects d.record.mask = true ∧
        (holder.queue = reader.queue ∨
          reading.session.service.host.nextQueue ≤ holder.queue ∧
            ∀ r h e, taking.session.service.engine? r h = some e → e.queue ≠ reader.queue) ∧
        ∀ next, numbering = .increasing next → holder.queue = reader.queue := by
  subst visits
  have place := exists_in_of_told begins run underWay told
  obtain ⟨reading, bytes, taking, d, takesUp, due⟩ := place.told_of_lastTakesUp run underWay told
  obtain ⟨⟨contained, read⟩, looked, toReading, onTheWay⟩ :=
    place.shows_lastTakesUp run (fun m member => underWay m (List.mem_append_left _ member)) takesUp
  obtain ⟨reader, readerThere⟩ := Option.isSome_iff_exists.mp contained
  have reachedReading : Service.Steps (.fresh numbering loops) reading.session.service :=
    reached.trans toReading
  have seated := reachedReading.seated
  change d.table = _ at looked
  rw [Delivery.told, looked] at due
  cases holderThere : taking.session.service.engine? registry handle with
  | none =>
      rw [holderThere] at due
      cases due
  | some holder =>
      rw [holderThere] at due
      obtain ⟨entry, member, onWatch, asked, same⟩ := WatchTable.exists_of_matching due
      refine ⟨reading, bytes, taking, d, reader, holder, entry, takesUp, read, readerThere,
        seated.seats readerThere, holderThere, member, same, onWatch, asked,
        seated.same_or_replaced onTheWay readerThere holderThere, ?_⟩
      rintro next rfl
      have fresh : (Service.fresh (.increasing next) loops).host.NumbersFrom next :=
        ⟨next, Int.le_refl next, rfl⟩
      obtain ⟨now, -, numbers⟩ :=
        Service.Steps.induction Service.Step.numbersFrom reachedReading fresh
      have given : handle.fd < now := (seated.seats readerThere).given now numbers
      exact seated.queue_eq_of_numbersFrom onTheWay ⟨now, Int.le_refl now, numbers⟩ given
        readerThere holderThere

/-! ## A subscriber that opens its engine again -/

deriving instance DecidableEq for DispatchEvent

/-- A subscriber that closes its engine, opens one and subscribes another subscriber there. -/
def reopening : Assoc String Behaviour :=
  [("first", ⟨[.call (.registry 0 (.close (.engine 0))), .call (.registry 0 (.init false)),
    .call (.registry 0 (.subscribe (.engine 1) "m" "second" .none))], 1⟩)]

/-- A machine in which this subscriber is to be told that its marker file was opened and closed. -/
def reopened (numbering : Numbering) : Machine :=
  [.registry 0 (.subscribeFile (.engine 0) (Name.resolve markers "m") "first" .none
      (.opened ∪ .closeWrite)),
    .registry 0 (.publish "m")].foldl called (marked numbering reopening)

/-- The dispatch that tells it. -/
def dispatched (numbering : Numbering) (handle : Handle) : Machine :=
  { reopened numbering with tasks := [(reopened numbering).dispatching 0 handle] }

theorem told_by_engine_of_increasing :
    ∃ (reading taking : Machine) (reader holder : Engine),
      reading.session.service.engine? 0 ⟨10⟩ = some reader ∧
        taking.session.service.engine? 0 ⟨10⟩ = some holder ∧ holder.queue = reader.queue := by
  have reached : Service.Steps (.fresh (.increasing 10) [])
      (dispatched (.increasing 10) ⟨10⟩).session.service :=
    (reached_marked _ _).trans (steps_calls _ _)
  have begins : (dispatched (.increasing 10) ⟨10⟩).tasks =
      (dispatched (.increasing 10) ⟨10⟩).dispatching 0 ⟨10⟩ :: [] := rfl
  have visits : ((dispatched (.increasing 10) ⟨10⟩).trail 3).1 =
      ((dispatched (.increasing 10) ⟨10⟩).trail 2).1 ++
        ((dispatched (.increasing 10) ⟨10⟩).trail 2).2 :: [] := rfl
  have told : ((dispatched (.increasing 10) ⟨10⟩).trail 2).2.event? 0 =
      some (.tells (.labelled "first", .none)) := by
    decide +kernel
  obtain ⟨reading, -, taking, -, reader, holder, -, -, -, readerThere, -, holderThere, -, -, -, -,
      -, same⟩ :=
    told_by_engine_at_handle reached begins ((dispatched (.increasing 10) ⟨10⟩).run_trail 3)
      (by decide +kernel) visits told
  exact ⟨reading, taking, reader, holder, readerThere, holderThere, same 10 rfl⟩

/-- Where numbers are given again, the second record of the buffer that was read from the first
engine is told to the subscriber of the second one.  Each event stands with the queue of the engine
that was at the handle by then. -/
theorem told_by_reopened_engine :
    ((dispatched .lowestFree ⟨3⟩).trail 12).1.filterMap (fun m =>
        (m.event? 0).map fun event =>
          (event, (m.session.service.engine? 0 ⟨3⟩).map (·.queue))) =
      [(.reads (Event.bytes ⟨⟨1⟩, .opened, 0, []⟩ ++ Event.bytes ⟨⟨1⟩, .closeWrite, 0, []⟩),
          some 0),
        (.takesUp (some ⟨[⟨⟨1⟩, .opened ∪ .closeWrite, .labelled "first", .none⟩]⟩)
          ⟨⟨1⟩, .opened, 0, 0⟩, some 0),
        (.tells (.labelled "first", .none), some 0),
        (.takesUp (some ⟨[⟨⟨1⟩, .defaultInterest, .labelled "second", .none⟩]⟩)
          ⟨⟨1⟩, .closeWrite, 0, 0⟩, some 1),
        (.tells (.labelled "second", .none), some 1)] := by
  decide +kernel

end Machine

end MarkerWatch
