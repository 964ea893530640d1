import MarkerWatch.Assoc

/-!
# Event loops

A loop keeps callbacks for descriptors and runs those of a descriptor when it is fired for it.  The
loop does not hold a callback while it runs.  A registration that is cancelled meanwhile leaves a
mark, so that the callback is dropped when it has run.
-/

namespace MarkerWatch

/-- When a loop runs its callbacks. -/
inductive LoopKind
  /-- When it is fired. -/
  | manual
  /-- When it is fired, and once before it registers them. -/
  | eager
  /-- Never: it refuses to register any. -/
  | failing
  /-- As long as a descriptor is readable, whenever it gets its turn. -/
  | reactor
  deriving DecidableEq, Repr

/-- A loop with its registrations, each known by a number. -/
structure ReadyLoop (κ : Type) where
  kind : LoopKind
  lastId : Nat
  fds : Assoc Nat Int
  callbacks : Assoc Nat κ
  cancelled : List Nat

namespace ReadyLoop

variable {κ : Type}

/-- The loop without registrations. -/
def empty (kind : LoopKind) : ReadyLoop κ :=
  ⟨kind, 0, [], [], []⟩

/-- The loop with a callback for a descriptor, and the number of the registration. -/
def register (l : ReadyLoop κ) (fd : Int) (callback : κ) : Nat × ReadyLoop κ :=
  let id := l.lastId + 1
  (id,
    { l with
      lastId := id
      fds := Assoc.set l.fds id fd
      callbacks := Assoc.set l.callbacks id callback })

/-- The loop without a registration. -/
def cancel (l : ReadyLoop κ) (id : Nat) : ReadyLoop κ :=
  let fds := Assoc.erase l.fds id
  if Assoc.has l.callbacks id then { l with fds, callbacks := Assoc.erase l.callbacks id }
  else { l with fds, cancelled := id :: l.cancelled }

/-- The registrations for a descriptor, the oldest first. -/
def due (l : ReadyLoop κ) (fd : Int) : List Nat :=
  (l.fds.filter (·.2 = fd)).map (·.1)

/-- A callback taken out of the loop to be run, unless it is gone or running. -/
def take? (l : ReadyLoop κ) (id : Nat) : Option (κ × ReadyLoop κ) :=
  (Assoc.get? l.callbacks id).map fun callback =>
    (callback, { l with callbacks := Assoc.erase l.callbacks id })

/-- The loop after a callback has run. -/
def finish (l : ReadyLoop κ) (id : Nat) (callback : κ) : ReadyLoop κ :=
  if l.cancelled.contains id then { l with cancelled := l.cancelled.filter (· ≠ id) }
  else { l with callbacks := Assoc.set l.callbacks id callback }

/-- The number of registrations. -/
def registrations (l : ReadyLoop κ) : Nat :=
  l.fds.length

end ReadyLoop

end MarkerWatch
