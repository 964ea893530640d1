import MarkerWatch.Session.Task

/-!
# Dispatches

A dispatch reads from a descriptor until nothing is left, and tells the subscribers of each record
in turn.  Who they are is looked up in the table as it is when the record is taken up.  A dispatch
on a descriptor without an engine tells nobody, and stops when nothing can be read; one whose engine
was closed meanwhile finishes the records it has read, of which nobody is told, and stops.
-/

namespace MarkerWatch.Machine

/-- Whether a dispatch reads no further.  A descriptor without an engine is looked at before each
read, and this look is taken to succeed: one that fails would end the dispatch with its fault. -/
def isOver (m : Machine) (d : Dispatch) : Bool :=
  if d.registered then !m.session.service.contains d.registry d.handle
  else !m.session.service.host.readable d.handle.fd

/-- The machine after a read of a dispatch. An interrupted read is made again. -/
def read (m : Machine) (d : Dispatch) : Machine :=
  if m.isOver d then m.answering (.count d.count)
  else
    match m.session.service.host.read d.handle.fd Record.bufferLength with
    | (.ok [], host) => (m.withHost host).answering (.count d.count)
    | (.ok bytes, host) => (m.withHost host).before [.records d (Record.decode bytes)]
    | (.error e, host) =>
      if e = .tryAgain then (m.withHost host).answering (.count d.count)
      else if e = .interrupted then (m.withHost host).before [.read d]
      else (m.withHost host).answering (.fault (.io (.os e)))

/-- Whom a dispatch tells of a record. -/
def targets (m : Machine) (d : Dispatch) (record : Record) : List (Subscriber × Payload) :=
  if d.registered then
    match m.session.service.engine? d.registry d.handle with
    | some e => e.table.matching record.watch record.mask
    | none => []
  else
    []

/-- The machine after the next record of a buffer was taken up. -/
def takeUp (m : Machine) (d : Dispatch) : List (Except RecordFault Record) → Machine
  | [] => m.before [.read d]
  | .error fault :: _ => m.answering (.fault (.overflow fault))
  | .ok record :: rest =>
    m.before [.tell (m.targets d record), .records { d with count := d.count + 1 } rest]

/-- The machine after a subscriber was told of an event. -/
def notify (m : Machine) (who : Subscriber) (data : Payload) : Machine :=
  let s := m.session
  match who with
  | .printer _ line => { m with session := { s with printed := s.printed ++ [line] } }
  | .labelled label =>
    let m := { m with session := { s with
      log := s.log ++ [.told label data]
      behaviours := Assoc.adjust s.behaviours label fun b => { b with times := b.times - 1 } } }
    match Assoc.get? s.behaviours label with
    | some ⟨script, _ + 1⟩ =>
      m.before (script.flatMap fun action => [.perform action, .note label])
    | _ => m

end MarkerWatch.Machine
