import MarkerWatch.Proofs.Host.Load
import MarkerWatch.Proofs.Host.Tidings
import MarkerWatch.Proofs.Session.Unheard

/-!
# What successive reads of a descriptor give

A descriptor supplies some outcomes when its reads give one after another, whatever calls on files
subscribers make between them, and when nothing more is to be read after the last of them.  A fed
descriptor supplies what it is fed with.  The queue of an engine supplies its events, as long as it
hears of no call that is made meanwhile.

A cut is a way in which reads can give a sequence of records: in buffers at whose ends records end,
with interrupted reads between them.
-/

namespace MarkerWatch

open Relation (ReflTransGen)

/-! ## Cuts -/

/-- Outcomes of reads, the records in them, and what is wrong with the record after those, if there
is one. -/
inductive Cut : List ReadOutcome → List Packet → Option RecordFault → Prop
  | nil : Cut [] [] none
  | interrupted {outcomes : List ReadOutcome} {packets : List Packet} {fault? : Option RecordFault}
      (cut : Cut outcomes packets fault?) :
      Cut (.error .interrupted :: outcomes) packets fault?
  | buffer {outcomes : List ReadOutcome} {packets : List Packet} {fault? : Option RecordFault}
      {first : List Packet} (nonempty : first ≠ []) (cut : Cut outcomes packets fault?) :
      Cut (.ok (first.flatMap Packet.bytes) :: outcomes) (first ++ packets) fault?
  /-- The buffer has a malformed record, and whatever is read later plays no part. -/
  | malformed {buffer rest : List UInt8} {first : List Packet} {fault : RecordFault}
      (splits : Packet.Splits buffer first rest) (malformed : Packet.fault? rest = some fault)
      (outcomes : List ReadOutcome) :
      Cut (.ok buffer :: outcomes) first (some fault)

namespace Session

/-! ## Calls on files between reads -/

/-- A step of a session in which a subscriber makes a call on files or something is noted. -/
inductive Stirs (calls : FileCall → Prop) : Session → Session → Prop
  | call (s : Session) {c : FileCall} (permitted : calls c) : Stirs calls s (s.callFile c).2
  | note {s next : Session} (same : next.service = s.service) : Stirs calls s next

/-- A session after any number of such steps. -/
abbrev Stirred (calls : FileCall → Prop) : Session → Session → Prop :=
  ReflTransGen (Stirs calls)

variable {calls : FileCall → Prop} {s later : Session} {fd : Int}

theorem Stirred.engine?
    (stirred : Stirred calls s later) :
    later.service.engine? = s.service.engine? := by
  induction stirred with
  | refl => rfl
  | @tail before next _ step ih =>
      rw [← ih]
      cases step with
      | note same => rw [same]
      | call permitted =>
          obtain ⟨host, equal, -⟩ := before.heard_callFile _
          rw [equal]
          rfl

theorem Stirred.descriptors
    (stirred : Stirred calls s later) :
    later.service.host.descriptors = s.service.host.descriptors := by
  induction stirred with
  | refl => rfl
  | @tail before next _ step ih =>
      rw [← ih]
      cases step with
      | note same => rw [same]
      | call permitted =>
          obtain ⟨host, equal, hears⟩ := before.heard_callFile _
          rw [equal]
          exact hears.descriptors

/-- A queue that hears of no call stays as it is. -/
theorem Stirred.queues
    (stirred : Stirred calls s later)
    (unheard : s.Unheard calls) :
    later.service.host.queues = s.service.host.queues ∧ later.Unheard calls := by
  induction stirred with
  | refl => exact ⟨rfl, unheard⟩
  | @tail before next _ step ih =>
      obtain ⟨same, stillUnheard⟩ := ih
      cases step with
      | note noted => exact ⟨by rw [noted, same], stillUnheard.drift (.note noted)⟩
      | call permitted =>
          refine ⟨?_, stillUnheard.drift (.call before permitted)⟩
          rw [stillUnheard before .refl _ permitted, same]

/-- Whatever subscribers do to files, the reads of a descriptor give these outcomes, and after them
there is nothing to be read. -/
def Supplies (calls : FileCall → Prop) (fd : Int) : List ReadOutcome → Session → Prop
  | [], s => ∀ later, Stirred calls s later →
    later.service.host.readable fd = false ∧
      later.service.host.read fd Record.bufferLength = (.error .tryAgain, later.service.host)
  | outcome :: rest, s => ∀ later, Stirred calls s later →
    later.service.host.readable fd = true ∧
      (later.service.host.read fd Record.bufferLength).1 = outcome ∧
      Supplies calls fd rest
        (later.withHost (later.service.host.read fd Record.bufferLength).2)

theorem Supplies.stirred
    {outcomes : List ReadOutcome}
    (supplies : s.Supplies calls fd outcomes)
    (stirred : Stirred calls s later) :
    later.Supplies calls fd outcomes := by
  cases outcomes with
  | nil => exact fun last further => supplies last (stirred.trans further)
  | cons outcome rest => exact fun last further => supplies last (stirred.trans further)

/-! ## Feeds -/

/-- A descriptor supplies what it is fed with, whatever subscribers do to files. -/
theorem supplies_of_fed
    {pending : List ReadOutcome} {stream : Bool} {hidden : Option Nat}
    (number : 0 ≤ fd)
    (fed :
      Assoc.get? s.service.host.descriptors fd = some (.fed ⟨pending, stream, .waiting⟩ hidden))
    (small : ∀ bytes, .ok bytes ∈ pending → bytes.length ≤ Record.bufferLength) :
    s.Supplies calls fd pending := by
  have numbered : ¬ fd < 0 := Int.not_lt.mpr number
  induction pending generalizing s with
  | nil =>
      intro later stirred
      rw [← stirred.descriptors] at fed
      constructor
      · rw [Host.readable, Host.readiness, if_neg numbered, fed]
        rfl
      · have same := Assoc.set_eq_self fed
        simp only [Host.read, fed, Feed.read, FeedEnd.outcome, same]
  | cons outcome rest ih =>
      intro later stirred
      rw [← stirred.descriptors] at fed
      have read :
          later.service.host.read fd Record.bufferLength =
            (outcome,
              { later.service.host with
                descriptors := Assoc.set later.service.host.descriptors fd
                  (.fed ⟨rest, stream, .waiting⟩ hidden) }) := by
        rw [Host.read, fed]
        dsimp only
        cases outcome with
        | error e => rfl
        | ok bytes =>
            have whole := small bytes List.mem_cons_self
            have nothing : bytes.drop Record.bufferLength = [] := List.drop_eq_nil_of_le whole
            simp only [Feed.read, nothing, List.take_of_length_le whole, List.isEmpty_nil,
              Bool.not_true, Bool.and_false, Bool.false_eq_true, if_false]
      refine ⟨?_, ?_, ?_⟩
      · rw [Host.readable, Host.readiness, if_neg numbered, fed]
        rfl
      · rw [read]
      · rw [read]
        exact ih (Assoc.get?_set_self _ _ _) fun bytes member =>
          small bytes (List.mem_cons_of_mem outcome member)

/-! ## Queues -/

/-- The first of some events fits into a buffer. -/
theorem fitting_ne_nil
    {events : List Event}
    (something : events ≠ [])
    (fits : ∀ event ∈ events, event.Fits) :
    EventQueue.fitting Record.bufferLength events ≠ [] := by
  cases events with
  | nil => exact absurd rfl something
  | cons event rest =>
      have small : event.bytes.length ≤ Record.bufferLength :=
        Nat.le_trans (fits event List.mem_cons_self).length_bytes_le (by decide)
      rw [EventQueue.fitting, if_pos small]
      exact List.cons_ne_nil _ _

theorem exists_packets
    {events : List Event}
    (fits : ∀ event ∈ events, event.Fits) :
    ∃ packets : List Packet,
      packets.flatMap Packet.bytes = events.flatMap Event.bytes ∧
        packets.map Packet.record = events.map Event.record := by
  induction events with
  | nil => exact ⟨[], rfl, rfl⟩
  | cons event rest ih =>
      have here := fits event List.mem_cons_self
      obtain ⟨packets, bytes, records⟩ := ih fun other member =>
        fits other (List.mem_cons_of_mem event member)
      refine ⟨here.packet :: packets, ?_, ?_⟩
      · rw [List.flatMap_cons, List.flatMap_cons, bytes, here.bytes_packet]
      · rw [List.map_cons, List.map_cons, records, here.record_packet]

theorem Stirred.queueAt?
    (stirred : Stirred calls s later)
    (unheard : s.Unheard calls) :
    later.service.host.queueAt? fd = s.service.host.queueAt? fd := by
  rw [Host.queueAt?, Host.queueAt?, stirred.descriptors, (stirred.queues unheard).1]

/-- A descriptor is readable when its queue has events. -/
theorem readable_of_queueAt?
    {host : Host} {id : Nat} {queue : EventQueue}
    (number : 0 ≤ fd)
    (behind : host.queueAt? fd = some (id, queue)) :
    host.readable fd = !queue.events.isEmpty := by
  obtain ⟨descriptor, held⟩ := Host.queueAt?_iff.mp behind
  rw [Host.readable, Host.readiness, if_neg (Int.not_lt.mpr number), descriptor]
  dsimp only
  rw [held, Option.map_some, Option.getD_some]
  cases queue.events.isEmpty <;> rfl

/-- A read takes those events off a queue that fit into the buffer. -/
theorem read_fitting
    {host : Host} {id : Nat} {queue : EventQueue}
    (room : Nat)
    (behind : host.queueAt? fd = some (id, queue))
    (something : EventQueue.fitting room queue.events ≠ []) :
    host.read fd room =
      (.ok ((EventQueue.fitting room queue.events).flatMap Event.bytes),
        host.setQueue id
          { queue with
            events := queue.events.drop (EventQueue.fitting room queue.events).length }) := by
  obtain ⟨descriptor, held⟩ := Host.queueAt?_iff.mp behind
  have waiting : queue.events.isEmpty = false := by
    rw [List.isEmpty_eq_false_iff]
    intro nothing
    rw [nothing] at something
    exact something rfl
  have nonempty : (EventQueue.fitting room queue.events).isEmpty = false := by
    simpa using something
  simp only [Host.read, descriptor, held, waiting, nonempty, Bool.false_eq_true, if_false]

/-- The queue behind a descriptor supplies its events in buffers, as long as no call is heard.  Each
read takes the events off that fit, of which there is one at least. -/
theorem exists_cut_of_queue
    (number : 0 ≤ fd) (id : Nat)
    {events : List Event}
    (fits : ∀ event ∈ events, event.Fits) :
    ∃ outcomes packets,
      Cut outcomes packets none ∧ packets.map Packet.record = events.map Event.record ∧
        ∀ (s : Session) (queue : EventQueue),
          s.service.host.queueAt? fd = some (id, queue) → queue.events = events →
            s.Unheard calls → s.Supplies calls fd outcomes := by
  induction sized : events.length using Nat.strongRecOn generalizing events with
  | _ size ih =>
      by_cases nothing : events = []
      · subst nothing
        refine ⟨[], [], .nil, rfl, ?_⟩
        intro s queue behind empty unheard later stirred
        rw [← stirred.queueAt? unheard] at behind
        constructor
        · rw [readable_of_queueAt? number behind, empty]
          rfl
        · exact Host.read_nothing behind empty Record.bufferLength
      · have something := fitting_ne_nil nothing fits
        have whole := EventQueue.fitting_append_drop Record.bufferLength events
        generalize portion : EventQueue.fitting Record.bufferLength events = taken
          at something whole
        have taken_of_mem {event : Event} (member : event ∈ taken) : event.Fits := by
          apply fits event
          rw [← whole]
          exact List.mem_append_left _ member
        have shorter : (events.drop taken.length).length < size := by
          have positive := List.length_pos_of_ne_nil something
          have lengths := congrArg List.length whole
          rw [List.length_append] at lengths
          omega
        obtain ⟨first, bytes, records⟩ := exists_packets fun event => taken_of_mem
        obtain ⟨outcomes, packets, cut, laterRecords, supplies⟩ :=
          ih _ shorter (fun event member => fits event (List.mem_of_mem_drop member)) rfl
        have firstNonempty : first ≠ [] := by
          intro empty
          rw [empty] at records
          exact something (List.map_eq_nil_iff.mp records.symm)
        refine ⟨_, _, .buffer firstNonempty cut, ?_, ?_⟩
        · rw [List.map_append, records, laterRecords, ← List.map_append, whole]
        · intro s queue behind same unheard later stirred
          have stillUnheard := (stirred.queues unheard).2
          rw [← stirred.queueAt? unheard] at behind
          have read := read_fitting Record.bufferLength behind
            (by rw [same, portion]; exact something)
          rw [same, portion, ← bytes] at read
          refine ⟨?_, ?_, ?_⟩
          · rw [readable_of_queueAt? number behind, same]
            simpa using nothing
          · rw [read]
          · have drained := stillUnheard.drift (.read later fd Record.bufferLength)
            rw [read] at drained ⊢
            exact supplies _ _ (Host.queueAt?_setQueue behind _) rfl drained

end Session

end MarkerWatch
