import Mathlib.Logic.Relation
import MarkerWatch.Proofs.Host.Hearing
import MarkerWatch.Service.Attachment

/-!
# Steps of a service

Whatever a session does to its service comes down to the steps listed here: something happens to the
host, a registry or a loop is added, or an engine is opened, closed, subscribed to, attached or
detached; a loop takes a callback out in order to run it and puts it back.

An invariant of services needs to be shown for these steps only.

Most of what a session does opens neither a queue without an engine nor an engine in a registry that
is there.  Such steps are moves.
-/

namespace MarkerWatch

/-- What may happen to a host. -/
inductive Host.Step : Host → Host → Prop
  | hear {before after : Host} (heard : Hears after.Has before after) : Step before after
  | openDescriptor (host : Host) (descriptor : Descriptor) :
      Step host (host.openDescriptor descriptor).2
  | openQueue (host : Host) : Step host host.openQueue.2
  | read (host : Host) (fd : Int) (room : Nat) : Step host (host.read fd room).2
  | watch (host : Host) (fd : Int) (path : Path) (mask : Mask) :
      Step host (HostQueue.addWatch ⟨host, fd⟩ path mask).2.host
  | unwatch (host : Host) (fd : Int) (watch : WatchId) :
      Step host (HostQueue.removeWatch ⟨host, fd⟩ watch).2.host
  | feed (host : Host) (fd : Int) (feed : Feed) : Step host (host.feed fd feed)
  | unfeed (host : Host) (fd : Int) : Step host (host.unfeed fd)

/-- What may happen to a host while no queue is opened. -/
inductive Host.Move : Host → Host → Prop
  | hear {before after : Host} (heard : Hears after.Has before after) : Move before after
  | openFed (host : Host) (feed : Feed) : Move host (host.openDescriptor (.fed feed none)).2
  | read (host : Host) (fd : Int) (room : Nat) : Move host (host.read fd room).2
  | watch (host : Host) (fd : Int) (path : Path) (mask : Mask) :
      Move host (HostQueue.addWatch ⟨host, fd⟩ path mask).2.host
  | unwatch (host : Host) (fd : Int) (watch : WatchId) :
      Move host (HostQueue.removeWatch ⟨host, fd⟩ watch).2.host
  | feed (host : Host) (fd : Int) (feed : Feed) : Move host (host.feed fd feed)
  | unfeed (host : Host) (fd : Int) : Move host (host.unfeed fd)

theorem Host.Move.step
    {before after : Host}
    (move : Move before after) :
    Step before after := by
  cases move with
  | hear heard => exact .hear heard
  | openFed feed => exact .openDescriptor _ _
  | read fd room => exact .read _ fd room
  | watch fd path mask => exact .watch _ fd path mask
  | unwatch fd watch => exact .unwatch _ fd watch
  | feed fd feed => exact .feed _ fd feed
  | unfeed fd => exact .unfeed _ fd

namespace Service

/-- What may happen to a service. -/
inductive Step : Service → Service → Prop
  | host (s : Service) {after : Host} (step : s.host.Step after) : Step s { s with host := after }
  | addRegistry (s : Service) (root : Path) (probe : Release.Probe) :
      Step s (s.addRegistry root probe)
  | addLoop (s : Service) (kind : LoopKind) : Step s { s with loops := s.loops ++ [.empty kind] }
  | init (s : Service) (r : Nat) (exhausted : Bool) : Step s (s.init r exhausted).2
  | close (s : Service) (r : Nat) (h : Handle) : Step s (s.close r h)
  | subscribe (s : Service) (r : Nat) (h : Handle) (path : Path) (who : Subscriber)
      (data : Payload) (mask : Mask) : Step s (s.subscribeFile r h path who data mask).2
  | unsubscribe (s : Service) (r : Nat) (h : Handle) (path : Path) (who : Option Subscriber) :
      Step s (s.unsubscribeFile r h path who).2
  | join (s : Service) (r : Nat) (h : Handle) (loop : Nat) : Step s (s.join r h loop).2
  | detach (s : Service) (r : Nat) (h : Handle) : Step s (s.detach r h).2
  | take (s : Service) {loop id : Nat} {callback : Ready} {taken : ReadyLoop Ready}
      (found : s.loops[loop]?.bind (·.take? id) = some (callback, taken)) :
      Step s { s with loops := s.loops.set loop taken }
  | finish (s : Service) (loop id : Nat) (callback : Ready) :
      Step s { s with loops := s.loops.modify loop (·.finish id callback) }

/-- What may happen to a service while no queue is opened, unless for an engine of a registry that
was not there before. -/
inductive Move : Service → Service → Prop
  | host (s : Service) {after : Host} (move : s.host.Move after) : Move s { s with host := after }
  | addRegistry (s : Service) (root : Path) (probe : Release.Probe) :
      Move s (s.addRegistry root probe)
  | addLoop (s : Service) (kind : LoopKind) : Move s { s with loops := s.loops ++ [.empty kind] }
  | initNew (s : Service) (root : Path) (probe : Release.Probe) (exhausted : Bool) :
      Move s ((s.addRegistry root probe).init s.registries.length exhausted).2
  | close (s : Service) (r : Nat) (h : Handle) : Move s (s.close r h)
  | subscribe (s : Service) (r : Nat) (h : Handle) (path : Path) (who : Subscriber)
      (data : Payload) (mask : Mask) : Move s (s.subscribeFile r h path who data mask).2
  | unsubscribe (s : Service) (r : Nat) (h : Handle) (path : Path) (who : Option Subscriber) :
      Move s (s.unsubscribeFile r h path who).2
  | join (s : Service) (r : Nat) (h : Handle) (loop : Nat) : Move s (s.join r h loop).2
  | detach (s : Service) (r : Nat) (h : Handle) : Move s (s.detach r h).2
  | take (s : Service) {loop id : Nat} {callback : Ready} {taken : ReadyLoop Ready}
      (found : s.loops[loop]?.bind (·.take? id) = some (callback, taken)) :
      Move s { s with loops := s.loops.set loop taken }
  | finish (s : Service) (loop id : Nat) (callback : Ready) :
      Move s { s with loops := s.loops.modify loop (·.finish id callback) }

/-- Moves of a service one after another. -/
abbrev Moves : Service → Service → Prop :=
  Relation.ReflTransGen Move

/-- Steps of a service one after another. -/
abbrev Steps : Service → Service → Prop :=
  Relation.ReflTransGen Step

namespace Steps

theorem single {before after : Service} (step : Step before after) : Steps before after :=
  Relation.ReflTransGen.single step

/-- A property that every step keeps is kept by any number of steps. -/
theorem induction
    {property : Service → Prop}
    (kept : ∀ {before after : Service}, Step before after → property before → property after)
    {before after : Service}
    (steps : Steps before after)
    (holds : property before) :
    property after := by
  induction steps with
  | refl => exact holds
  | tail earlier last ih => exact kept last ih

end Steps

theorem Move.steps
    {before after : Service}
    (move : Move before after) :
    Steps before after := by
  cases move with
  | host move => exact .single (.host before move.step)
  | addRegistry root probe => exact .single (.addRegistry before root probe)
  | addLoop kind => exact .single (.addLoop before kind)
  | initNew root probe exhausted =>
      exact .trans (.single (.addRegistry before root probe)) (.single (.init _ _ exhausted))
  | close r h => exact .single (.close before r h)
  | subscribe r h path who data mask => exact .single (.subscribe before r h path who data mask)
  | unsubscribe r h path who => exact .single (.unsubscribe before r h path who)
  | join r h loop => exact .single (.join before r h loop)
  | detach r h => exact .single (.detach before r h)
  | take found => exact .single (.take before found)
  | finish loop id callback => exact .single (.finish before loop id callback)

namespace Moves

theorem steps
    {before after : Service}
    (moves : Moves before after) :
    Steps before after := by
  induction moves with
  | refl => exact .refl
  | tail earlier last ih => exact ih.trans last.steps

theorem hear
    (s : Service) {after : Host}
    (heard : Host.Hears after.Has s.host after) :
    Moves s { s with host := after } :=
  .single (.host s (.hear heard))

end Moves

/-! ## Calls on names -/

variable (s : Service)

theorem moves_subscribe
    (r : Nat) (h : Handle) (name : String) (who : Subscriber) (data : Payload) :
    Moves s (s.subscribe r h name who data).2 := by
  rw [subscribe]
  split
  · exact .refl
  · exact .single (.subscribe s r h _ who data _)

theorem moves_unsubscribe
    (r : Nat) (h : Handle) (name : String) (who : Option Subscriber) :
    Moves s (s.unsubscribe r h name who).2 := by
  rw [unsubscribe]
  split
  · exact .refl
  · exact .single (.unsubscribe s r h _ who)

/-- Publishing a name does nothing but to empty its marker file. -/
theorem yields_publishAt
    {root : Path} {name : String} {property : Host → Prop}
    (each : Yields (s.host.truncate (Name.resolve root name)) property) :
    Yields (s.publishAt root name) fun after =>
      ∃ host, after = { s with host := host } ∧ property host := by
  refine .bind fun _ _ => ?_
  dsimp only
  split
  · rename_i host truncated
    exact .pure ⟨host, rfl, Host.yields_onPath each host truncated⟩
  · exact .throw

theorem hears_publishAt {lasting : Nat → Prop} (root : Path) (name : String) :
    Yields (s.publishAt root name) fun after =>
      ∃ host, after = { s with host := host } ∧ Host.Hears lasting s.host host :=
  s.yields_publishAt (s.host.truncate_hears _)

theorem moves_publishAt (root : Path) (name : String) :
    Yields (s.publishAt root name) (Moves s) := by
  intro after published
  have heard : ∃ host, after = { s with host := host } ∧
      Host.Hears (fun _ => True) s.host host := s.hears_publishAt root name after published
  obtain ⟨host, rfl, heard⟩ := heard
  exact .hear s (heard.mono fun _ _ => trivial)

end Service

end MarkerWatch
