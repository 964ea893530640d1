import MarkerWatch.Proofs.Host.Delivery
import MarkerWatch.Proofs.Session.Unheard

/-!
# Dispatches in quiet sessions

A dispatch in a quiet session reads all that waits in its queue, tells the subscribers that the
events concern, in order, and ends when nothing is left to be read.  It leaves the queues of other
engines alone, so engines may be dispatched one after another.
-/

namespace MarkerWatch

namespace Machine

/-- Steps of a machine one after another. -/
abbrev Leads : Machine → Machine → Prop :=
  Relation.ReflTransGen fun m next => m.step = some next

/-- A machine that gets to the end of its tasks runs that far. -/
theorem Leads.run
    {m last : Machine}
    (leads : Leads m last)
    (idle : last.tasks = []) :
    ∃ count, m.run count = some last := by
  induction leads using Relation.ReflTransGen.head_induction_on with
  | refl => exact ⟨0, by rw [Machine.run, idle]; rfl⟩
  | head stepped _ ih =>
      obtain ⟨count, ran⟩ := ih
      exact ⟨count + 1, by rw [Machine.run, stepped]; exact ran⟩

theorem run_of_idle
    {m : Machine}
    (idle : m.tasks = []) (count : Nat) :
    m.run count = some m := by
  cases count with
  | zero => rw [Machine.run, idle, List.isEmpty_nil, if_pos rfl]
  | succ count => rw [Machine.run, step, idle]

theorem run_of_busy
    {m last : Machine} {count : Nat}
    (busy : m.tasks ≠ [])
    (ran : m.run count = some last) :
    ∃ fewer next, count = fewer + 1 ∧ m.step = some next ∧ next.run fewer = some last := by
  obtain ⟨task, rest, tasks⟩ := List.exists_cons_of_ne_nil busy
  cases count with
  | zero =>
      rw [Machine.run, tasks] at ran
      cases ran
  | succ count =>
      rw [Machine.run, step, tasks] at ran
      exact ⟨count, _, rfl, by rw [step, tasks], ran⟩

/-- A machine gets to one end only, however many steps it may take. -/
theorem run_unique
    {m last other : Machine} {count more : Nat}
    (ran : m.run count = some last)
    (ranOther : m.run more = some other) :
    last = other := by
  by_cases idle : m.tasks = []
  · rw [run_of_idle idle] at ran ranOther
    exact Option.some.inj (ran.symm.trans ranOther)
  · obtain ⟨fewer, next, counted, stepped, ran⟩ := run_of_busy idle ran
    obtain ⟨fewerOther, same, -, steppedOther, ranOther⟩ := run_of_busy idle ranOther
    cases stepped.symm.trans steppedOther
    exact run_unique ran ranOther
termination_by count

variable {calls : FileCall → Prop} {s : Session} (below : List Task) (answer : Answer)

/-- The script of a subscriber runs to its end. -/
theorem leads_script
    (quiet : s.Quiet calls) (label : String) {script : List Action}
    (permitted : ∀ action ∈ script, ∃ c, calls c ∧ action = .call (.file c)) :
    ∃ after last, s.Notes calls [] after ∧
      Leads ⟨s, (script.flatMap fun action => [.perform action, .note label]) ++ below, answer⟩
        ⟨after, below, last⟩ := by
  induction script generalizing s answer with
  | nil => exact ⟨s, answer, .refl quiet, .refl⟩
  | cons action script ih =>
      obtain ⟨c, allowed, rfl⟩ := permitted action List.mem_cons_self
      have called := Session.Notes.call quiet allowed label
      obtain ⟨after, last, noted, later⟩ := ih (s.callFile c).1 called.quiet fun other member =>
        permitted other (List.mem_cons_of_mem _ member)
      exact ⟨after, last, called.trans noted, .head rfl (.head rfl later)⟩

theorem leads_notify
    (quiet : s.Quiet calls) (label : String) (data : Payload)
    (rest : List (Subscriber × Payload)) :
    ∃ after last, s.Notes calls [.told label data] after ∧
      Leads ⟨s, .tell ((.labelled label, data) :: rest) :: below, answer⟩
        ⟨after, .tell rest :: below, last⟩ := by
  have told := Session.Notes.telling quiet label data
  have stepped : step ⟨s, .tell ((.labelled label, data) :: rest) :: below, answer⟩ =
      some (notify ⟨s, .tell rest :: below, answer⟩ (.labelled label) data) := rfl
  rw [notify] at stepped
  split at stepped
  · rename_i script times found
    obtain ⟨after, last, noted, later⟩ := leads_script (.tell rest :: below) answer told.quiet label
      (quiet.scripts label _ found (Nat.succ_ne_zero times))
    exact ⟨after, last, told.trans noted, .head stepped later⟩
  · exact ⟨s.telling label data, answer, told, .single stepped⟩

/-- Subscribers are told one after the other. -/
theorem leads_tell
    (quiet : s.Quiet calls)
    {entries : List (Subscription Subscriber Payload)}
    (labelled : ∀ entry ∈ entries, ∃ label, entry.subscriber = .labelled label) :
    ∃ after last, s.Notes calls (notes entries) after ∧
      Leads ⟨s, .tell (entries.map fun entry => (entry.subscriber, entry.data)) :: below, answer⟩
        ⟨after, below, last⟩ := by
  induction entries generalizing s answer with
  | nil => exact ⟨s, answer, .refl quiet, .single rfl⟩
  | cons entry entries ih =>
      obtain ⟨label, known⟩ := labelled entry List.mem_cons_self
      obtain ⟨middle, reply, told, first⟩ := leads_notify below answer quiet label entry.data
        (entries.map fun entry => (entry.subscriber, entry.data))
      obtain ⟨after, last, noted, later⟩ := ih reply told.quiet fun other member =>
        labelled other (List.mem_cons_of_mem entry member)
      refine ⟨after, last, ?_, ?_⟩
      · rw [notes, List.flatMap_cons, known]
        exact told.trans noted
      · rw [List.map_cons, known]
        exact first.trans later

/-- The records of a buffer are taken up one after the other, all of them with the table that was
there before, since those who are told leave it alone. -/
theorem leads_records
    (quiet : s.Quiet calls)
    {d : Dispatch} (registered : d.registered = true)
    {e : Engine} (found : s.service.engine? d.registry d.handle = some e)
    (labelled : ∀ entry ∈ e.table.entries, ∃ label, entry.subscriber = .labelled label)
    (events : List Event) :
    ∃ after last, s.Notes calls (notes (e.table.due events)) after ∧
      Leads ⟨s, .records d (events.map (.ok ·.record)) :: below, answer⟩
        ⟨after, .read { d with count := d.count + events.length } :: below, last⟩ := by
  induction events generalizing s d answer with
  | nil => exact ⟨s, answer, .refl quiet, .single rfl⟩
  | cons event events ih =>
      let next : Dispatch := { d with count := d.count + 1 }
      have nextRegistered : next.registered = true := registered
      have targeted : targets ⟨s, below, answer⟩ d event.record =
          (e.table.concerned event).map fun entry => (entry.subscriber, entry.data) := by
        rw [targets, registered, if_pos rfl, found]
        exact e.table.matching_eq event
      obtain ⟨middle, reply, told, telling⟩ := leads_tell
        (.records next (events.map (.ok ·.record)) :: below) answer quiet
        fun entry member => labelled entry (WatchTable.mem_concerned.mp member).1
      obtain ⟨after, last, noted, rest⟩ := ih reply told.quiet nextRegistered (told.engine? ▸ found)
      have takenUp : Leads ⟨s, .records d ((event :: events).map (.ok ·.record)) :: below, answer⟩
          ⟨middle, .records next (events.map (.ok ·.record)) :: below, reply⟩ := by
        refine .head ?_ telling
        rw [← targeted]
        rfl
      refine ⟨after, last, ?_, takenUp.trans ?_⟩
      · rw [WatchTable.due, List.flatMap_cons, notes, List.flatMap_append]
        exact told.trans noted
      · rw [List.length_cons, Nat.add_comm events.length, ← Nat.add_assoc]
        exact rest

/-! ## Reads -/

section

variable {d : Dispatch} {e : Engine} {id : Nat} {queue : EventQueue}
  (registered : d.registered = true)
  (found : s.service.engine? d.registry d.handle = some e)
  (behind : s.service.host.queueAt? d.handle.fd = some (id, queue))

include registered found

theorem isOver_eq_false : isOver ⟨s, below, answer⟩ d = false := by
  rw [isOver, registered, if_pos rfl, Service.contains_of_engine? found]
  rfl

include behind

/-- A dispatch ends when nothing is left to be read. -/
theorem leads_read_nothing (nothing : queue.events = []) :
    Leads ⟨s, .read d :: below, answer⟩ ⟨s, below, .count d.count⟩ := by
  refine .single ?_
  change some (read ⟨s, below, answer⟩ d) = _
  rw [read, isOver_eq_false below answer registered found,
    Host.read_nothing behind nothing Record.bufferLength]
  rfl

/-- A dispatch takes up all that waits, where it fits into one buffer. -/
theorem leads_read_all
    (something : queue.events ≠ [])
    (fits : ∀ event ∈ queue.events, event.Fits)
    (enough : queue.events.length * Event.mostBytes ≤ Record.bufferLength) :
    Leads ⟨s, .read d :: below, answer⟩
      ⟨s.withHost (s.service.host.setQueue id { queue with events := [] }),
        .records d (queue.events.map (.ok ·.record)) :: below, answer⟩ := by
  have bytes : queue.events.flatMap Event.bytes ≠ [] := by
    intro nothing
    obtain ⟨event, rest, equal⟩ := List.exists_cons_of_ne_nil something
    rw [equal, List.flatMap_cons, List.append_eq_nil_iff] at nothing
    exact Event.bytes_ne_nil (fits event (equal ▸ List.mem_cons_self)) nothing.1
  refine .single ?_
  change some (read ⟨s, below, answer⟩ d) = _
  rw [read, isOver_eq_false below answer registered found,
    Host.read_all behind something fits enough, ← Event.decode_flatMap fits]
  cases buffer : queue.events.flatMap Event.bytes with
  | nil => exact absurd buffer bytes
  | cons byte rest => rfl

end

/-- A dispatch on an engine tells those whom the events in its queue concern, and ends.  Those who
are told leave the queue empty, so the read after the first finds nothing. -/
theorem leads_dispatch
    (quiet : s.Quiet calls)
    {d : Dispatch} (registered : d.registered = true)
    {e : Engine} (found : s.service.engine? d.registry d.handle = some e)
    (labelled : ∀ entry ∈ e.table.entries, ∃ label, entry.subscriber = .labelled label)
    {id : Nat} {queue : EventQueue}
    (behind : s.service.host.queueAt? d.handle.fd = some (id, queue))
    (fits : ∀ event ∈ queue.events, event.Fits)
    (enough : queue.events.length * Event.mostBytes ≤ Record.bufferLength) :
    ∃ after count,
      (s.withHost (s.service.host.read d.handle.fd Record.bufferLength).2).Notes calls
        (notes (e.table.due queue.events)) after ∧
        Leads ⟨s, .read d :: below, answer⟩ ⟨after, below, .count count⟩ := by
  by_cases nothing : queue.events = []
  · refine ⟨s, d.count, ?_, leads_read_nothing below answer registered found behind nothing⟩
    rw [Host.read_nothing behind nothing, nothing]
    exact .refl quiet
  · have first := leads_read_all below answer registered found behind nothing fits enough
    have quietStill := quiet.drift (.read s d.handle.fd Record.bufferLength) rfl
    rw [Host.read_all behind nothing fits enough] at quietStill ⊢
    obtain ⟨after, reply, noted, second⟩ := leads_records below answer quietStill registered found
      labelled queue.events
    let done : Dispatch := { d with count := d.count + queue.events.length }
    have foundStill : after.service.engine? done.registry done.handle = some e := by
      rw [noted.engine?]
      exact found
    have behindStill : after.service.host.queueAt? done.handle.fd =
        some (id, { queue with events := [] }) := by
      rw [noted.queueAt?]
      exact Host.queueAt?_setQueue behind _
    have third := leads_read_nothing below reply (d := done) registered foundStill behindStill rfl
    exact ⟨after, done.count, noted, (first.trans second).trans third⟩

end Machine

/-! ## Dispatches on several engines -/

/-- Whom the events that wait in the queue of an engine concern. -/
def Service.due (s : Service) (r : Nat) (h : Handle) : List (Subscription Subscriber Payload) :=
  match s.engine? r h, s.host.queueAt? h.fd with
  | some e, some (_, queue) => e.table.due queue.events
  | _, _ => []

theorem Service.due_eq
    {s : Service} {r : Nat} {h : Handle} {e : Engine} {id : Nat} {queue : EventQueue}
    (found : s.engine? r h = some e)
    (behind : s.host.queueAt? h.fd = some (id, queue)) :
    s.due r h = e.table.due queue.events := by
  rw [due, found, behind]

namespace Session

/-- The registry and the handle that a dispatch is about. -/
def locate (s : Session) (place : Nat × HandleRef) : Nat × Handle :=
  (s.registryOf place.1, s.handle place.2)

theorem Notes.locate
    {calls : FileCall → Prop} {s after : Session} {host : Host} {lines : List LogEntry}
    (notes : (s.withHost host).Notes calls lines after) (place : Nat × HandleRef) :
    after.locate place = s.locate place := by
  obtain ⟨tree, cookie, log, behaviours, rfl⟩ := notes.same
  obtain ⟨view, h⟩ := place
  cases h <;> rfl

/-- Sessions one after another, with one dispatch between each two. -/
inductive Dispatches : Session → List (Nat × HandleRef) → Session → Prop
  | nil (s : Session) : Dispatches s [] s
  | cons {s next last : Session} {place : Nat × HandleRef} {order : List (Nat × HandleRef)}
      {steps count : Nat}
      (performed : s.perform steps (.dispatch place.1 place.2) = some (.count count, next))
      (later : Dispatches next order last) : Dispatches s (place :: order) last

/-- Dispatches in one order lead to one session. -/
theorem Dispatches.unique
    {s last other : Session} {order : List (Nat × HandleRef)}
    (dispatched : Dispatches s order last)
    (dispatchedOther : Dispatches s order other) :
    last = other := by
  induction dispatched with
  | nil =>
      cases dispatchedOther
      rfl
  | cons performed later ih =>
      cases dispatchedOther with
      | cons performedOther laterOther =>
          obtain ⟨final, ran, same⟩ := Option.map_eq_some_iff.mp performed
          obtain ⟨finalOther, ranOther, sameOther⟩ := Option.map_eq_some_iff.mp performedOther
          obtain rfl := Machine.run_unique ran ranOther
          cases same.symm.trans sameOther
          exact ih laterOther

/-- An engine whose queue can be emptied by one read. -/
def Readable (s : Session) (place : Nat × HandleRef) : Prop :=
  ∃ e queue,
    s.service.engine? (s.locate place).1 (s.locate place).2 = some e ∧
      s.service.host.queueAt? (s.locate place).2.fd = some (e.queue, queue) ∧
        (∀ event ∈ queue.events, event.Fits) ∧
          queue.events.length * Event.mostBytes ≤ Record.bufferLength

variable {calls : FileCall → Prop} {s : Session}

theorem perform_dispatch
    (tuned : s.service.Tuned) (quiet : s.Quiet calls)
    {place : Nat × HandleRef} (readable : s.Readable place) :
    ∃ next steps count,
      s.perform steps (.dispatch place.1 place.2) = some (.count count, next) ∧
        (s.withHost (s.service.host.read (s.locate place).2.fd Record.bufferLength).2).Notes calls
          (notes (s.service.due (s.locate place).1 (s.locate place).2)) next := by
  obtain ⟨e, queue, found, behind, fits, enough⟩ := readable
  obtain ⟨next, count, noted, leads⟩ := Machine.leads_dispatch [] .done quiet
    (d := ⟨(s.locate place).1, (s.locate place).2, true, 0⟩) rfl found
    (tuned.engines found).labelled behind fits enough
  have begins : (Machine.start s (.dispatch place.1 place.2)).step =
      some ⟨s, [.read ⟨(s.locate place).1, (s.locate place).2, true, 0⟩], .done⟩ := by
    rw [← Service.contains_of_engine? found]
    rfl
  obtain ⟨steps, ran⟩ := Machine.Leads.run (.head begins leads) rfl
  refine ⟨next, steps, count, ?_, Service.due_eq found behind ▸ noted⟩
  rw [perform, ran]
  rfl

/-- What one dispatch leaves as it was for the next. -/
theorem readable_of_ne
    (tuned : s.service.Tuned)
    {place other : Nat × HandleRef} (readable : s.Readable place) (readableOther : s.Readable other)
    (different : s.locate place ≠ s.locate other)
    {lines : List LogEntry} {next : Session}
    (noted : (s.withHost
      (s.service.host.read (s.locate place).2.fd Record.bufferLength).2).Notes calls lines next) :
    next.Readable other ∧
      next.service.due (s.locate other).1 (s.locate other).2 =
        s.service.due (s.locate other).1 (s.locate other).2 := by
  obtain ⟨e, queue, found, behind, -, -⟩ := readable
  obtain ⟨e', queue', found', behind', fits, enough⟩ := readableOther
  have differentQueue : e.queue ≠ e'.queue := fun same =>
    different (Prod.ext_iff.mpr (tuned.apart found found' same))
  have carried := Host.queueAt?_read_of_ne tuned.sound Record.bufferLength behind differentQueue
    behind'
  have foundNext : next.service.engine? (s.locate other).1 (s.locate other).2 = some e' := by
    rw [noted.engine?]
    exact found'
  have behindNext : next.service.host.queueAt? (s.locate other).2.fd =
      some (e'.queue, queue') := by
    rw [noted.queueAt?]
    exact carried
  refine ⟨⟨e', queue', ?_, ?_, fits, enough⟩, ?_⟩
  · rw [noted.locate]
    exact foundNext
  · rw [noted.locate]
    exact behindNext
  · rw [Service.due_eq foundNext behindNext, Service.due_eq found' behind']

/-- Engines dispatched one after another tell those whom the events in their queues concern.  Each
dispatch leaves the queues of the engines still to come as they were at the start. -/
theorem exists_dispatches
    (tuned : s.service.Tuned) (quiet : s.Quiet calls)
    {order : List (Nat × HandleRef)}
    (readable : ∀ place ∈ order, s.Readable place)
    (once : (order.map s.locate).Nodup) :
    ∃ last, Dispatches s order last ∧
      last.tellings = s.tellings ++ order.flatMap fun place =>
        notes (s.service.due (s.locate place).1 (s.locate place).2) := by
  induction order generalizing s with
  | nil => exact ⟨s, .nil s, (List.append_nil _).symm⟩
  | cons place order ih =>
      rw [List.map_cons, List.nodup_cons] at once
      obtain ⟨different, once⟩ := once
      have here := readable place List.mem_cons_self
      obtain ⟨next, steps, count, performed, noted⟩ := perform_dispatch tuned quiet here
      have later {other : Nat × HandleRef} (member : other ∈ order) :
          next.Readable other ∧
            next.service.due (s.locate other).1 (s.locate other).2 =
              s.service.due (s.locate other).1 (s.locate other).2 :=
        readable_of_ne tuned here (readable other (List.mem_cons_of_mem place member))
          (fun same => different (same ▸ List.mem_map_of_mem member)) noted
      have tunedNext : next.service.Tuned := noted.tuned (tuned.read _ _)
      have sameOrder : order.map next.locate = order.map s.locate :=
        List.map_congr_left fun other _ => noted.locate other
      obtain ⟨last, dispatched, told⟩ := ih tunedNext noted.quiet
        (fun other member => (later member).1) (sameOrder ▸ once)
      refine ⟨last, .cons performed dispatched, ?_⟩
      have rest : (order.flatMap fun other =>
            notes (next.service.due (next.locate other).1 (next.locate other).2)) =
          order.flatMap fun other =>
            notes (s.service.due (s.locate other).1 (s.locate other).2) :=
        List.flatMap_congr fun other member => by rw [noted.locate, (later member).2]
      rw [told, rest, noted.tellings, List.flatMap_cons, List.append_assoc]
      rfl

end Session

end MarkerWatch
