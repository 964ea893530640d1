import MarkerWatch.Session.Dispatch

/-!
# Accounts of dispatches

What a dispatch does is seen from outside as a sequence of events: it reads bytes, takes a record up
and tells subscribers.  An `Account` is the law of that sequence.  It consists of rounds.  A round
reads a buffer and takes its records up in order; each record goes with the table as it was when the
record was taken up, and whoever that table holds for the record is told before the next one.

While a dispatch is under way it is in some `Phase`, which knows what is left of the current round.
Whatever is done from phase to phase is the beginning of an account.
-/

namespace MarkerWatch

/-- What a dispatch does, one thing at a time. -/
inductive DispatchEvent
  | reads (bytes : List UInt8)
  /-- A record is taken up, with the table of the engine unless that is gone. -/
  | takesUp (table : Option (WatchTable Subscriber Payload)) (record : Record)
  | tells (target : Subscriber × Payload)

/-- What is still done when the engine is gone: records are taken up without a table, and those are
told who were to be told before. -/
def DispatchEvent.AfterClosing : DispatchEvent → Prop
  | reads _ => False
  | takesUp table _ => table = none
  | tells _ => True

/-- A record with the table as it was when the record was taken up. -/
structure Delivery where
  table : Option (WatchTable Subscriber Payload)
  record : Record

namespace Delivery

/-- Those with an entry on the watch of the record that asks for one of its kinds, each with the
data of the entry, in the order of subscription.  Without a table there is nobody. -/
def told (d : Delivery) : List (Subscriber × Payload) :=
  match d.table with
  | some table =>
    (table.entries.filter fun entry =>
      entry.watch = d.record.watch ∧ entry.mask.intersects d.record.mask).map fun entry =>
        (entry.subscriber, entry.data)
  | none => []

/-- These are the ones that a look into the table finds. -/
theorem told_of_table (table : WatchTable Subscriber Payload) (record : Record) :
    told ⟨some table, record⟩ = table.matching record.watch record.mask :=
  rfl

/-- The record is taken up, and then everyone is told of it once. -/
def events (d : Delivery) : List DispatchEvent :=
  .takesUp d.table d.record :: d.told.map .tells

end Delivery

/-- What a dispatch does from its first read to its end. -/
inductive Account
  /-- Nothing is left to be read, or the engine is gone. -/
  | finished
  | failed (errno : Errno)
  /-- The buffer holds records up to a fault, and the dispatch ends there. -/
  | malformed (bytes : List UInt8) (deliveries : List Delivery) (fault : RecordFault)
      (decoded : ∃ unread,
        Record.decode bytes = deliveries.map (.ok ·.record) ++ .error fault :: unread)
  | round (bytes : List UInt8) (deliveries : List Delivery)
      (decoded : Record.decode bytes = deliveries.map (.ok ·.record)) (rest : Account)

namespace Account

/-- The events of an account in order. -/
def events : Account → List DispatchEvent
  | finished | failed _ => []
  | malformed bytes deliveries _ _ => .reads bytes :: deliveries.flatMap Delivery.events
  | round bytes deliveries _ rest =>
    .reads bytes :: (deliveries.flatMap Delivery.events ++ rest.events)

/-- The answer of a dispatch that has taken so many records up before. -/
def answer (count : Nat) : Account → Answer
  | finished => .count count
  | failed errno => .fault (.io (.os errno))
  | malformed _ _ fault _ => .fault (.overflow fault)
  | round _ deliveries _ rest => rest.answer (count + deliveries.length)

end Account

/-- Where a dispatch stands, with the number of the records that it has taken up. -/
inductive Phase
  | reading (count : Nat)
  | taking (count : Nat) (items : List (Except RecordFault Record))
  | telling (count : Nat) (targets : List (Subscriber × Payload))
      (items : List (Except RecordFault Record))
  | returned (answer : Answer)

namespace Phase

/-- How a dispatch goes on, and the event by which it does. -/
inductive Step : Phase → Option DispatchEvent → Phase → Prop
  | waits (phase : Phase) : Step phase none phase
  | finishes (count : Nat) : Step (reading count) none (returned (.count count))
  | fails (count : Nat) (errno : Errno) :
      Step (reading count) none (returned (.fault (.io (.os errno))))
  | reads (count : Nat) (bytes : List UInt8) :
      Step (reading count) (some (.reads bytes)) (taking count (Record.decode bytes))
  | empties (count : Nat) : Step (taking count []) none (reading count)
  | refuses (count : Nat) (fault : RecordFault) (unread : List (Except RecordFault Record)) :
      Step (taking count (.error fault :: unread)) none (returned (.fault (.overflow fault)))
  | takesUp (count : Nat) (d : Delivery) (items : List (Except RecordFault Record)) :
      Step (taking count (.ok d.record :: items)) (some (.takesUp d.table d.record))
        (telling (count + 1) d.told items)
  | tells (count : Nat) (target : Subscriber × Payload) (targets : List (Subscriber × Payload))
      (items : List (Except RecordFault Record)) :
      Step (telling count (target :: targets) items) (some (.tells target))
        (telling count targets items)
  | turns (count : Nat) (items : List (Except RecordFault Record)) :
      Step (telling count [] items) none (taking count items)

/-- Steps one after another, with their events. -/
inductive Path : Phase → List DispatchEvent → Phase → Prop
  | nil (phase : Phase) : Path phase [] phase
  | cons {first next last : Phase} {event : Option DispatchEvent} {events : List DispatchEvent}
      (step : Step first event next) (path : Path next events last) :
      Path first (event.toList ++ events) last

/-- The events to come before a dispatch has ended with an answer, as the rest of an account. -/
inductive Completes : Phase → List DispatchEvent → Answer → Prop
  | reading (count : Nat) (account : Account) :
      Completes (reading count) account.events (account.answer count)
  | taking (count : Nat) (deliveries : List Delivery) (account : Account) :
      Completes (taking count (deliveries.map (.ok ·.record)))
        (deliveries.flatMap Delivery.events ++ account.events)
        (account.answer (count + deliveries.length))
  | refusing (count : Nat) (deliveries : List Delivery) (fault : RecordFault)
      (unread : List (Except RecordFault Record)) :
      Completes (taking count (deliveries.map (.ok ·.record) ++ .error fault :: unread))
        (deliveries.flatMap Delivery.events) (.fault (.overflow fault))
  | telling {count : Nat} {items : List (Except RecordFault Record)}
      {events : List DispatchEvent} {answer : Answer} (targets : List (Subscriber × Payload))
      (rest : Completes (taking count items) events answer) :
      Completes (telling count targets items) (targets.map .tells ++ events) answer
  | returned (answer : Answer) : Completes (returned answer) [] answer

/-- A step before the rest of an account makes the rest of an account. -/
theorem Completes.cons
    {phase next : Phase} {event : Option DispatchEvent}
    {events : List DispatchEvent} {answer : Answer}
    (step : Step phase event next)
    (completes : Completes next events answer) :
    Completes phase (event.toList ++ events) answer := by
  cases step with
  | waits => exact completes
  | finishes count =>
      cases completes
      exact .reading count .finished
  | fails count errno =>
      cases completes
      exact .reading count (.failed errno)
  | reads count bytes =>
      generalize decoded : Record.decode bytes = items at completes
      cases completes with
      | taking _ deliveries account =>
          exact .reading count (.round bytes deliveries decoded account)
      | refusing _ deliveries fault unread =>
          exact .reading count (.malformed bytes deliveries fault ⟨unread, decoded⟩)
  | empties count =>
      cases completes with
      | reading _ account => exact .taking count [] account
  | refuses count fault unread =>
      cases completes
      exact .refusing count [] fault unread
  | takesUp count d items =>
      cases completes with
      | telling _ rest =>
          cases rest with
          | taking _ deliveries account =>
              have length : count + 1 + deliveries.length = count + (d :: deliveries).length := by
                rw [List.length_cons]
                omega
              rw [length]
              simpa [Delivery.events] using Completes.taking count (d :: deliveries) account
          | refusing _ deliveries fault unread =>
              simpa [Delivery.events] using Completes.refusing count (d :: deliveries) fault unread
  | tells count target targets items =>
      cases completes with
      | telling _ rest => exact .telling (target :: targets) rest
  | turns count items => exact .telling [] completes

/-- From each phase a dispatch may come to an end. -/
theorem exists_completes (phase : Phase) :
    ∃ events answer, Completes phase events answer := by
  have taken (count : Nat) (items : List (Except RecordFault Record)) :
      ∃ events answer, Completes (taking count items) events answer := by
    induction items generalizing count with
    | nil => exact ⟨_, _, .taking count [] .finished⟩
    | cons item items ih =>
        cases item with
        | error fault => exact ⟨_, _, .refusing count [] fault items⟩
        | ok record =>
            obtain ⟨events, answer, completes⟩ := ih (count + 1)
            exact ⟨_, _, .cons (.takesUp count ⟨none, record⟩ items) (.telling [] completes)⟩
  cases phase with
  | reading count => exact ⟨_, _, .reading count .finished⟩
  | taking count items => exact taken count items
  | telling count targets items =>
      obtain ⟨events, answer, completes⟩ := taken count items
      exact ⟨_, _, .telling targets completes⟩
  | returned answer => exact ⟨_, _, .returned answer⟩

theorem Path.completes
    {first last : Phase} {events : List DispatchEvent}
    (path : Path first events last) :
    ∃ rest answer,
      Completes first (events ++ rest) answer ∧
        ∀ given, last = returned given → rest = [] ∧ given = answer := by
  induction path with
  | nil phase =>
      obtain ⟨events, answer, completes⟩ := phase.exists_completes
      refine ⟨events, answer, completes, ?_⟩
      rintro given rfl
      cases completes
      exact ⟨rfl, rfl⟩
  | cons step path ih =>
      obtain ⟨rest, answer, completes, ended⟩ := ih
      exact ⟨rest, answer, by simpa only [List.append_assoc] using .cons step completes, ended⟩

/-- What was done is the beginning of an account, and all of it when the dispatch has ended. -/
theorem Path.exists_account
    {count : Nat} {events : List DispatchEvent} {last : Phase}
    (path : Path (reading count) events last) :
    ∃ account : Account,
      events <+: account.events ∧
        ∀ answer, last = returned answer →
          events = account.events ∧ answer = account.answer count := by
  obtain ⟨rest, answer, completes, ended⟩ := path.completes
  generalize whole : events ++ rest = all at completes
  cases completes with
  | reading _ account =>
      refine ⟨account, ⟨rest, whole⟩, ?_⟩
      intro given returned
      obtain ⟨rfl, rfl⟩ := ended given returned
      exact ⟨by rw [← whole, List.append_nil], rfl⟩

/-! ## After the engine was closed -/

/-- Whom a phase has still to tell of the record taken up last. -/
def due : Phase → List (Subscriber × Payload)
  | telling _ targets _ => targets
  | _ => []

/-- When the engine is gone, first those are told who were to be told of the record taken up last.
The other records of the buffer are taken up without telling anybody, and nothing more is read. -/
theorem Path.split_of_closed
    {first last : Phase} {events : List DispatchEvent}
    (path : Path first events last)
    (closed : ∀ event ∈ events, event.AfterClosing) :
    ∃ (pending : List (Subscriber × Payload)) (remaining : List Record),
      pending <+: first.due ∧
        events = pending.map .tells ++ remaining.map (.takesUp none) := by
  induction path with
  | nil phase => exact ⟨[], [], List.nil_prefix, rfl⟩
  | cons step path ih =>
      obtain ⟨pending, remaining, due, equal⟩ :=
        ih fun event member => closed event (List.mem_append_right _ member)
      subst equal
      cases step with
      | waits => exact ⟨pending, remaining, due, rfl⟩
      | finishes | fails | empties | refuses =>
          obtain rfl := List.prefix_nil.mp due
          exact ⟨[], remaining, List.nil_prefix, rfl⟩
      | reads count bytes => exact (closed (.reads bytes) (by simp)).elim
      | takesUp count d items =>
          have gone : d.table = none := closed (.takesUp d.table d.record) (by simp)
          have nobody : d.told = [] := by rw [Delivery.told, gone]
          have nothing : pending = [] := List.prefix_nil.mp (nobody ▸ due)
          subst nothing
          exact ⟨[], d.record :: remaining, List.nil_prefix, by rw [gone]; rfl⟩
      | tells count target targets items =>
          exact ⟨target :: pending, remaining, (List.prefix_cons_inj target).mpr due, rfl⟩
      | turns count items =>
          obtain rfl := List.prefix_nil.mp due
          exact ⟨[], remaining, List.nil_prefix, rfl⟩

end Phase

end MarkerWatch
