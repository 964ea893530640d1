import MarkerWatch.Assoc
import MarkerWatch.Record

/-!
# Queues of file events

A queue has watches on files and reports the events on them in order.  A watch has an id, which is
counted up and never given again; a file has at most one watch in a queue.  An event that is like
the last one not yet read is not queued again, except the one that says that a watch is gone.
-/

namespace MarkerWatch

/-- An event as it waits in a queue. -/
structure Event where
  watch : WatchId
  mask : Mask
  cookie : Nat
  name : List UInt8
  deriving DecidableEq, Repr

/-- A watch on a file. -/
structure KernelWatch where
  id : WatchId
  inode : Nat
  mask : Mask
  once : Bool
  deriving DecidableEq, Repr

/-- A queue with its watches. -/
structure EventQueue where
  watches : List KernelWatch
  lastId : Nat
  events : List Event
  deriving DecidableEq, Repr

namespace Event

/-- The bytes of a name in a record: ended by a zero and filled with zeros to a multiple of
sixteen.  No name takes no bytes. -/
def paddedName (e : Event) : List UInt8 :=
  if e.name.isEmpty then []
  else e.name ++ List.replicate (16 - e.name.length % 16) 0

/-- The record that reports an event. -/
def record (e : Event) : Record :=
  ⟨e.watch, e.mask, BitVec.ofNat 32 e.cookie, e.paddedName.length⟩

/-- The bytes that report an event. -/
def bytes (e : Event) : List UInt8 :=
  e.record.encode e.paddedName

/-- Whether two events say the same of the same watch.  Renamings are told apart by their cookies,
which play no part in that. -/
def isLike (e f : Event) : Bool :=
  e.watch == f.watch && e.mask == f.mask && e.name == f.name

end Event

namespace EventQueue

/-- The queue without watches. -/
def empty : EventQueue :=
  ⟨[], 0, []⟩

instance : Inhabited EventQueue := ⟨empty⟩

/-- The queue with one more event. -/
def push (q : EventQueue) (e : Event) : EventQueue :=
  if q.events.getLast?.any e.isLike && e.mask != Mask.ignored then q
  else { q with events := q.events ++ [e] }

/-- The watch on a file. -/
def watchOn? (q : EventQueue) (inode : Nat) : Option KernelWatch :=
  q.watches.find? (·.inode = inode)

/-- The queue without a watch, which it reports. -/
def drop (q : EventQueue) (w : WatchId) : EventQueue :=
  { q with watches := q.watches.filter (·.id ≠ w) }.push ⟨w, Mask.ignored, 0, []⟩

/-- The queue after an event on a file, which it reports when its watch on the file asks for one of
the kinds; `extra` is reported along with them. -/
def report (q : EventQueue) (inode : Nat) (kinds extra : Mask) (cookie : Nat) (name : List UInt8) :
    EventQueue :=
  match q.watchOn? inode with
  | none => q
  | some w =>
    if w.mask.intersects kinds then
      let q := q.push ⟨w.id, kinds ∪ extra, cookie, name⟩
      if w.once then q.drop w.id else q
    else
      q

/-- The queue after a file ceased to exist: its watch reports that, if asked to, and is gone. -/
def forget (q : EventQueue) (inode : Nat) : EventQueue :=
  match q.watchOn? inode with
  | none => q
  | some w =>
    let q := if w.mask.intersects Mask.deleteSelf then q.push ⟨w.id, Mask.deleteSelf, 0, []⟩ else q
    q.drop w.id

/-- The queue with a watch on a file set to a mask, and the id of the watch. -/
def watch (q : EventQueue) (inode : Nat) (mask : Mask) (once : Bool) : WatchId × EventQueue :=
  match q.watchOn? inode with
  | some w =>
    (w.id, { q with watches := q.watches.map fun v =>
      if v.inode = inode then { v with mask, once } else v })
  | none =>
    let w : WatchId := ⟨q.lastId + 1⟩
    (w, { q with watches := q.watches ++ [⟨w, inode, mask, once⟩], lastId := q.lastId + 1 })

/-- The first events that fit into a number of bytes. -/
def fitting : Nat → List Event → List Event
  | _, [] => []
  | room, e :: rest =>
    if e.bytes.length ≤ room then e :: fitting (room - e.bytes.length) rest else []

end EventQueue

end MarkerWatch
