import MarkerWatch.Service.Engine

/-!
# Engines and loops

An engine is driven by at most one loop.  It is attached in two steps, between which the loop may
run its callback, so the second step looks again whether the engine can still be attached.
-/

namespace MarkerWatch.Service

/-- Refuses a handle whose engine is driven by a loop already. -/
def requireDetached (s : Service) (r : Nat) (h : Handle) : Except Fault Unit := do
  match ← s.driving r h with
  | .detached => return ()
  | .externalLoop => throw (.alreadyInProgress h)

/-- The service after a loop has taken the callback of an engine.  The engine may have been closed
or attached since it was asked for; then the callback is taken back. -/
def join (s : Service) (r : Nat) (h : Handle) (loop : Nat) : Except Fault Unit × Service :=
  match s.loops[loop]? with
  | none => (.error (.io (.os .invalid)), s)
  | some l =>
    let (id, l) := l.register h.fd ⟨r, h⟩
    let s := { s with loops := s.loops.set loop l }
    match s.engine? r h with
    | none => (.error (.badHandle h), s.cancel (some ⟨loop, id⟩))
    | some e =>
      if e.source.isSome then (.error (.alreadyInProgress h), s.cancel (some ⟨loop, id⟩))
      else (.ok (), s.setEngine r h { e with source := some ⟨loop, id⟩ })

/-- The service with an engine that no loop drives. -/
def detach (s : Service) (r : Nat) (h : Handle) : Except Fault Unit × Service :=
  match s.engine? r h with
  | none => (.error (.badHandle h), s)
  | some e => (.ok (), (s.setEngine r h { e with source := none }).cancel e.source)

end MarkerWatch.Service
