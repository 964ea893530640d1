import MarkerWatch.Host.Descriptor
import MarkerWatch.Host.EventQueue
import MarkerWatch.Host.FileTree
import MarkerWatch.Watch.Kernel

/-!
# Hosts

A host has files, queues of file events and descriptors that read from the queues.  A queue is known
by a number of its own, which is never given again, so that it can be told from another queue behind
the same descriptor number.

The calls here are those on descriptors: opening and closing a queue, setting and removing watches,
reading, and asking whether a read would give something.
-/

namespace MarkerWatch

/-- A host: its files, its event queues and its descriptors. -/
structure Host where
  tree : FileTree
  queues : Assoc Nat EventQueue
  nextQueue : Nat
  descriptors : Assoc Int Descriptor
  numbering : Numbering
  /-- The number that the two events of the next renaming share. -/
  nextCookie : Nat

namespace Host

/-- The host with an empty current directory and without queues. -/
def fresh (numbering : Numbering) : Host :=
  ⟨.fresh, [], 0, [], numbering, 1⟩

/-- The host with a descriptor for something. -/
def openDescriptor (h : Host) (d : Descriptor) : Int × Host :=
  let fd := h.numbering.next (Assoc.keys h.descriptors)
  (fd,
    { h with
      descriptors := Assoc.set h.descriptors fd d
      numbering := h.numbering.advance })

/-- The host with a new queue and a descriptor for it. -/
def openQueue (h : Host) : Int × Host :=
  openDescriptor
    { h with queues := Assoc.set h.queues h.nextQueue .empty, nextQueue := h.nextQueue + 1 }
    (.queue h.nextQueue)

/-- The host without a descriptor and the queue behind it. -/
def closeDescriptor (h : Host) (fd : Int) : Host :=
  { h with
    descriptors := Assoc.erase h.descriptors fd
    queues :=
      match (Assoc.get? h.descriptors fd).bind Descriptor.queue? with
      | some id => Assoc.erase h.queues id
      | none => h.queues }

/-- The host with a feed before what a descriptor reads from, if anything. -/
def feed (h : Host) (fd : Int) (f : Feed) : Host :=
  let hidden := (Assoc.get? h.descriptors fd).bind Descriptor.queue?
  { h with descriptors := Assoc.set h.descriptors fd (.fed f hidden) }

/-- The host with the feed of a descriptor taken away.  A descriptor that has nothing else to read
from goes with it. -/
def unfeed (h : Host) (fd : Int) : Host :=
  match Assoc.get? h.descriptors fd with
  | some (.fed _ (some id)) =>
    { h with descriptors := Assoc.set h.descriptors fd (.queue id) }
  | some (.fed _ none) => { h with descriptors := Assoc.erase h.descriptors fd }
  | _ => h

/-- The queue that a descriptor reads from. -/
def queueAt? (h : Host) (fd : Int) : Option (Nat × EventQueue) :=
  match Assoc.get? h.descriptors fd with
  | some (.queue id) => (Assoc.get? h.queues id).map fun q => (id, q)
  | _ => none

/-- The host with a queue changed. -/
def setQueue (h : Host) (id : Nat) (q : EventQueue) : Host :=
  { h with queues := Assoc.set h.queues id q }

/-- The queue for a call on watches, or why there is none. -/
def queueFor (h : Host) (fd : Int) : Except Errno (Nat × EventQueue) :=
  match h.queueAt? fd with
  | some entry => .ok entry
  | none => .error (if Assoc.has h.descriptors fd then .invalid else .badDescriptor)

end Host

namespace WatchFlag

/-- Only a directory is watched. -/
def onlyDirectory : Mask := .ofNat 0x01000000

/-- A symbolic link itself is watched. -/
def noFollow : Mask := .ofNat 0x02000000

/-- Events of removed entries are left out. -/
def exceptUnlinked : Mask := .ofNat 0x04000000

/-- A watch that is already there is an error. -/
def mustBeNew : Mask := .ofNat 0x10000000

/-- The mask is added to that of a watch that is already there. -/
def addToMask : Mask := .ofNat 0x20000000

/-- The watch is gone after its first event. -/
def once : Mask := .ofNat 0x80000000

/-- Every bit that a watch may be set with. -/
def all : Mask :=
  Mask.union [Mask.events, Mask.unmount, Mask.queueOverflow, Mask.ignored, Mask.isDir,
    onlyDirectory, noFollow, exceptUnlinked, mustBeNew, addToMask, once]

end WatchFlag

namespace Host

/-- The host with a watch on a path set to a mask, and the id of the watch. -/
def watch (h : Host) (fd : Int) (path : Path) (m : Mask) : Except Errno (WatchId × Host) := do
  if (m ∩ WatchFlag.all).isEmpty || !WatchFlag.all.contains m then throw .invalid
  unless Assoc.has h.descriptors fd do throw .badDescriptor
  if m.contains (WatchFlag.mustBeNew ∪ WatchFlag.addToMask) then throw .invalid
  let (id, q) ← h.queueFor fd
  let (i, _) ← h.tree.find (!m.contains WatchFlag.noFollow) path
  if m.contains WatchFlag.onlyDirectory && !h.tree.isDirectory i then throw .notDirectory
  let old := q.watchOn? i
  if m.contains WatchFlag.mustBeNew && old.isSome then throw .alreadyExists
  let kept := if m.contains WatchFlag.addToMask then (old.map (·.mask)).getD ∅ else ∅
  let (w, q) := q.watch i (kept ∪ m ∩ Mask.events) (m.contains WatchFlag.once)
  return (w, h.setQueue id q)

/-- The host without a watch, which its queue reports. -/
def unwatch (h : Host) (fd : Int) (w : WatchId) : Except Errno Host := do
  let (id, q) ← h.queueFor fd
  if q.watches.any (·.id = w) then return h.setQueue id (q.drop w) else throw .invalid

/-- The outcome of one read of so many bytes, with the host after it. -/
def read (h : Host) (fd : Int) (room : Nat) : ReadOutcome × Host :=
  match Assoc.get? h.descriptors fd with
  | none => (.error .badDescriptor, h)
  | some (.fed f hidden) =>
    let (outcome, f) := f.read room
    (outcome, { h with descriptors := Assoc.set h.descriptors fd (.fed f hidden) })
  | some (.queue id) =>
    match Assoc.get? h.queues id with
    | none => (.error .badDescriptor, h)
    | some q =>
      if q.events.isEmpty then (.error .tryAgain, h)
      else
        let taken := EventQueue.fitting room q.events
        if taken.isEmpty then (.error .invalid, h)
        else
          (.ok (taken.flatMap Event.bytes),
            h.setQueue id { q with events := q.events.drop taken.length })

/-- What a descriptor is found to be without waiting: how many descriptors are ready, and whether a
read would give something. -/
structure Readiness where
  ready : Nat
  readable : Bool
  deriving DecidableEq, Repr

/-- The readiness of a descriptor.  A negative number stands for no descriptor, and one that is not
open is ready to report that.  There is always an answer: that looking at a descriptor may itself
fail, as when a signal arrives, is left out. -/
def readiness (h : Host) (fd : Int) : Readiness :=
  if fd < 0 then ⟨0, false⟩
  else
    match Assoc.get? h.descriptors fd with
    | none => ⟨1, false⟩
    | some (.fed f _) => if f.readable then ⟨1, true⟩ else ⟨0, false⟩
    | some (.queue id) =>
      if ((Assoc.get? h.queues id).map (·.events.isEmpty)).getD true then ⟨0, false⟩ else ⟨1, true⟩

/-- Whether a read of a descriptor would give something. -/
def readable (h : Host) (fd : Int) : Bool :=
  (h.readiness fd).readable

end Host

/-- A host as the kernel of the watches behind one descriptor. -/
structure HostQueue where
  host : Host
  fd : Int

namespace HostQueue

/-- The queue after a watch was set.  A path with a zero byte never reaches the host. -/
def addWatch (q : HostQueue) (path : Path) (m : Mask) : Except Fault WatchId × HostQueue :=
  if path.hasNul then (.error (.invalidArgument (.nulInPath path)), q)
  else
    match q.host.watch q.fd path m with
    | .ok (w, host) => (.ok w, { q with host })
    | .error e => (.error (.io (.os e)), q)

/-- The queue after a watch was removed. -/
def removeWatch (q : HostQueue) (w : WatchId) : Except Fault Unit × HostQueue :=
  match q.host.unwatch q.fd w with
  | .ok host => (.ok (), { q with host })
  | .error e => (.error (.io (.os e)), q)

instance : WatchKernel HostQueue where
  addWatch := addWatch
  removeWatch := removeWatch

end HostQueue

end MarkerWatch
