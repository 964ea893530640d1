import MarkerWatch.Host.Basic
import MarkerWatch.Proofs.Assoc

/-!
# What waits to be read

The load of a host bounds how much its descriptors still have to give.  A byte counts twice, so that
the load of a read goes down by more than the records that its bytes can hold.

A read takes what it gives off the load.  One that was interrupted takes something off as well,
since only a feed interrupts a read, and each piece of a feed is given once.
-/

namespace MarkerWatch

open Assoc (total)

/-! ## Loads -/

/-- The load of a piece of a feed. -/
def ReadOutcome.load : ReadOutcome → Nat
  | .ok bytes => 2 * bytes.length + 1
  | .error _ => 1

/-- What a read takes off the load at least, going by its outcome. -/
def ReadOutcome.relief : ReadOutcome → Nat
  | .ok [] => 0
  | .ok bytes => bytes.length + 1
  | .error e => if e = .interrupted then 1 else 0

def Feed.load (f : Feed) : Nat :=
  (f.pending.map ReadOutcome.load).sum

def Descriptor.load : Descriptor → Nat
  | .queue _ => 0
  | .fed f _ => f.load

def EventQueue.load (q : EventQueue) : Nat :=
  2 * (q.events.flatMap Event.bytes).length

/-- The load of all queues and feeds of a host. -/
def Host.load (h : Host) : Nat :=
  total EventQueue.load h.queues + total Descriptor.load h.descriptors

/-! ## Reads -/

theorem ReadOutcome.relief_le (bytes : List UInt8) :
    ReadOutcome.relief (.ok bytes) ≤ 2 * bytes.length := by
  cases bytes with
  | nil => exact Nat.le_refl _
  | cons byte rest =>
      simp only [relief, List.length_cons]
      omega

theorem Feed.load_read (f : Feed) (room : Nat) :
    (f.read room).2.load + (f.read room).1.relief ≤ f.load := by
  obtain ⟨pending, stream, atEnd⟩ := f
  cases pending with
  | nil => cases atEnd <;> exact Nat.le_refl _
  | cons piece rest =>
      cases piece with
      | error e =>
          simp only [read, load, List.map_cons, List.sum_cons, ReadOutcome.load,
            ReadOutcome.relief]
          split <;> omega
      | ok bytes =>
          have relief := ReadOutcome.relief_le (bytes.take room)
          have parts : (bytes.take room).length + (bytes.drop room).length = bytes.length := by
            rw [← List.length_append, List.take_append_drop]
          simp only [read, load, List.map_cons, List.sum_cons, ReadOutcome.load]
          split
          · simp only [List.map_cons, List.sum_cons, ReadOutcome.load]
            omega
          · omega

/-- The events that fit come first. -/
theorem EventQueue.fitting_append_drop (room : Nat) (events : List Event) :
    fitting room events ++ events.drop (fitting room events).length = events := by
  induction events generalizing room with
  | nil => rfl
  | cons event rest ih =>
      rw [fitting]
      split
      · simp [ih]
      · rfl

/-- A read takes off the load what it gives. -/
theorem Host.load_read (h : Host) (fd : Int) (room : Nat) :
    (h.read fd room).2.load + (h.read fd room).1.relief ≤ h.load := by
  rw [read]
  split
  · exact Nat.le_refl _
  · rename_i f hidden found
    have less := f.load_read room
    have set :=
      Assoc.total_set_of_present Descriptor.load found (.fed (f.read room).2 hidden)
    simp only [load]
    simp only [Descriptor.load] at set
    omega
  · rename_i id found
    split
    · exact Nat.le_refl _
    · rename_i q queued
      split
      · exact Nat.le_refl _
      · dsimp only
        split
        · exact Nat.le_refl _
        · have whole := EventQueue.fitting_append_drop room q.events
          generalize EventQueue.fitting room q.events = taken at whole
          have relief := ReadOutcome.relief_le (taken.flatMap Event.bytes)
          have set :=
            Assoc.total_set_of_present EventQueue.load queued
              { q with events := q.events.drop taken.length }
          have parts :
              q.load = 2 * (taken.flatMap Event.bytes).length +
                EventQueue.load { q with events := q.events.drop taken.length } := by
            simp only [EventQueue.load]
            conv_lhs => rw [← whole, List.flatMap_append, List.length_append]
            rw [Nat.mul_add]
          simp only [load, setQueue]
          omega

theorem Host.load_unfeed_le (h : Host) (fd : Int) :
    (h.unfeed fd).load ≤ h.load := by
  rw [unfeed]
  split
  · rename_i f id found
    have set := Assoc.total_set_of_present Descriptor.load found (.queue id)
    simp only [load]
    simp only [Descriptor.load] at set
    omega
  · apply Nat.add_le_add_left
    exact Assoc.total_erase_le _ _ _
  · exact Nat.le_refl _

end MarkerWatch
