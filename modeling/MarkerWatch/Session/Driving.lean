import MarkerWatch.Session.Dispatch

/-!
# What drives dispatches

An engine is dispatched for by a loop that is fired, by a poll, while its descriptor is fed, or by a
poller in the background.
-/

namespace MarkerWatch.Machine

/-- The machine after a callback was taken out of a loop to be run, with the tasks that follow. -/
def runCallback (m : Machine) (loop id : Nat) (follow : Bool → Task) : Machine :=
  match m.session.service.loops[loop]?.bind (·.take? id) with
  | none => m.before [follow false]
  | some (callback, l) =>
    let service := m.session.service
    let m := m.withService { service with loops := service.loops.set loop l }
    m.before
      [m.dispatching callback.registry callback.handle, .finish loop id callback, follow true]

/-- The machine with a callback back in its loop. -/
def finish (m : Machine) (loop id : Nat) (callback : Ready) : Machine :=
  let service := m.session.service
  m.withService { service with loops := service.loops.modify loop (·.finish id callback) }

/-- Every registration of a loop. -/
def registered (m : Machine) (loop : Nat) : List Nat :=
  m.session.service.loops[loop]?.elim [] fun l => Assoc.keys l.fds

/-- Whether the descriptor of a registration is readable. -/
def isDue (m : Machine) (loop id : Nat) : Bool :=
  match m.session.service.loops[loop]?.bind fun l => Assoc.get? l.fds id with
  | some fd => m.session.service.host.readable fd
  | none => false

/-- Whether a dispatch found records. -/
def foundRecords (m : Machine) : Bool :=
  match m.answer with
  | .count n => n != 0
  | _ => false

/-- The machine after a look at the next registration of a loop that runs by itself. -/
def sweep (m : Machine) (loop : Nat) (ids : List Nat) (found : Bool) : Machine :=
  match ids with
  | [] => if found then m.before [.sweep loop (m.registered loop) false] else m.answering .done
  | id :: ids =>
    if m.isDue loop id then
      m.runCallback loop id fun ran => if ran then .swept loop ids found else .sweep loop ids found
    else
      m.before [.sweep loop ids found]

/-- The kind of a loop. -/
def kindOf? (m : Machine) (loop : Nat) : Option LoopKind :=
  m.session.service.loops[loop]?.map (·.kind)

/-- The machine in which a loop is fired for a descriptor, or gets its turn if it runs by itself. -/
def fireLoop (m : Machine) (loop : Nat) (fd : Int) : Machine :=
  match m.session.service.loops[loop]? with
  | none => m.answering (.count 0)
  | some l =>
    match l.kind with
    | .reactor => m.before [.sweep loop (m.registered loop) false]
    | _ => m.before [.fire loop (l.due fd) 0]

/-- The machine in which an engine is attached to a loop. -/
def attach (m : Machine) (registry : Nat) (handle : Handle) (loop : Nat) : Machine :=
  match m.session.service.requireDetached registry handle with
  | .error fault => m.answering (.fault fault)
  | .ok () =>
    match m.kindOf? loop with
    | some .failing => m.answering (.fault (.io (.os .notPermitted)))
    | some .eager => m.before [m.dispatching registry handle, .join registry handle loop]
    | _ => m.before [.join registry handle loop]

/-- The machine in which an engine is polled until its descriptor is ready.  The answer is the
number of ready descriptors, whatever comes of the dispatch. -/
def poll (m : Machine) (registry : Nat) (handle : Handle) : Machine :=
  match m.session.service.requireDetached registry handle with
  | .error fault => m.answering (.fault fault)
  | .ok () =>
    let readiness := m.session.service.host.readiness handle.fd
    if readiness.ready = 0 then m.answering .wouldBlock
    else
      let dispatch := if readiness.readable then [m.dispatching registry handle] else []
      m.before (dispatch ++ [.reply (.count readiness.ready)])

/-- The machine in which a descriptor is fed while an action reads it. -/
def feed (m : Machine) (registry : Nat) (handle : Option Handle) (f : Feed) (reader : FeedReader) :
    Machine :=
  match handle with
  | none =>
    let (fd, host) := m.session.service.host.openDescriptor (.fed f none)
    let m := m.withHost host
    m.before [m.dispatching registry ⟨fd⟩, .unfeed fd]
  | some h =>
    let m := (m.withHost (m.session.service.host.feed h.fd f)).before [.unfeed h.fd]
    match reader with
    | .dispatch => m.before [m.dispatching registry h]
    | .poll => m.poll registry h
    | .fire loop => m.fireLoop loop h.fd

/-- The machine after a background poller was stopped by publishing a name.  What the name or the
one after it puts into the queue is dispatched. -/
def wake (m : Machine) (registry : Nat) (handle : Handle) (name : String)
    (recover : Option String) : Machine :=
  match m.session.service.publish registry name, recover with
  | .ok service, _ =>
    let m := m.withService service
    m.before (m.dispatchingIfOpen registry handle ++ [.reply .done])
  | .error fault, none =>
    m.before (m.dispatchingIfOpen registry handle ++ [.reply (.fault fault)])
  | .error fault, some other =>
    let m := match m.session.service.publish registry other with
      | .ok service => m.withService service
      | .error _ => m
    m.before (m.dispatchingIfOpen registry handle ++ [.reply (.fault fault)])

end MarkerWatch.Machine
