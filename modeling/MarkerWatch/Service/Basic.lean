import MarkerWatch.Host.Root
import MarkerWatch.Loop.Ready
import MarkerWatch.Name
import MarkerWatch.Subscriber
import MarkerWatch.Watch.Table

/-!
# Registries of engines

An engine owns a queue of file events and the subscriptions on it.  A registry holds the engines
that were opened through it, by handle.  A service is a host with all registries and event loops.

An engine is found through the registry that opened it, and no other.
-/

namespace MarkerWatch

/-- The registration of an engine with a loop. -/
structure LoopSource where
  loop : Nat
  id : Nat
  deriving DecidableEq, Repr

/-- An engine: its queue, its subscriptions and, where a loop drives it, the registration there. -/
structure Engine where
  queue : Nat
  table : WatchTable Subscriber Payload
  source : Option LoopSource
  deriving DecidableEq, Repr

/-- How an engine is driven. -/
inductive Driving
  | detached
  | externalLoop
  deriving DecidableEq, Repr

namespace Driving

/-- How it is written. -/
def text : Driving → String
  | .detached => "detached"
  | .externalLoop => "external-loop"

end Driving

namespace Engine

/-- The engine of a queue before its first subscription. -/
def fresh (queue : Nat) : Engine :=
  ⟨queue, .empty, none⟩

/-- How the engine is driven. -/
def driving (e : Engine) : Driving :=
  if e.source.isSome then .externalLoop else .detached

end Engine

/-- A registry: the root directory of its names, the source of the host's release, and its
engines. -/
structure Registry where
  root : Path
  probe : Release.Probe
  engines : Assoc Handle Engine
  deriving DecidableEq, Repr

/-- How a source of a release is written. -/
def Release.Probe.text : Release.Probe → String
  | .host => "HostKernel"
  | .fixed release => "FixedRelease(" ++ Text.quote release ++ ")"
  | .broken => "BrokenProbe"

namespace Registry

/-- The registry without engines. -/
def fresh (root : Path) (probe : Release.Probe) : Registry :=
  ⟨root, probe, []⟩

/-- How a registry is written. -/
def text (r : Registry) : String :=
  "Registry \x7b root: " ++ r.root.quoted ++ ", probe: " ++ r.probe.text ++ ", engines: " ++
    toString r.engines.length ++ " \x7d"

end Registry

/-- What a loop runs when a descriptor is readable: a dispatch on an engine. -/
structure Ready where
  registry : Nat
  handle : Handle
  deriving DecidableEq, Repr

/-- A host with the registries and loops on it. -/
structure Service where
  host : Host
  /-- The release string of the host. -/
  release : String
  registries : List Registry
  loops : List (ReadyLoop Ready)

namespace Service

/-- The service on a fresh host, with loops of some kinds. -/
def fresh (numbering : Numbering) (loops : List LoopKind) : Service :=
  ⟨.fresh numbering, "6.1.0", [], loops.map .empty⟩

/-- The service with one more registry. -/
def addRegistry (s : Service) (root : Path) (probe : Release.Probe) : Service :=
  { s with registries := s.registries ++ [.fresh root probe] }

/-- The engine of a handle in a registry. -/
def engine? (s : Service) (r : Nat) (h : Handle) : Option Engine :=
  s.registries[r]?.bind fun registry => Assoc.get? registry.engines h

/-- Whether a handle has an engine in a registry. -/
def contains (s : Service) (r : Nat) (h : Handle) : Bool :=
  (s.engine? r h).isSome

/-- The service with the engines of a registry changed. -/
def mapEngines (s : Service) (r : Nat) (change : Assoc Handle Engine → Assoc Handle Engine) :
    Service :=
  { s with registries := s.registries.modify r fun registry =>
      { registry with engines := change registry.engines } }

/-- The service with the engine of a handle changed. -/
def setEngine (s : Service) (r : Nat) (h : Handle) (e : Engine) : Service :=
  s.mapEngines r (Assoc.set · h e)

/-- The service without a registration. -/
def cancel (s : Service) : Option LoopSource → Service
  | none => s
  | some source => { s with loops := s.loops.modify source.loop (·.cancel source.id) }

end Service

end MarkerWatch
