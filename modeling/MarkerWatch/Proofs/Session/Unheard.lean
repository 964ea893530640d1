import Mathlib.Logic.Relation
import MarkerWatch.Proofs.Session.Undisturbed

/-!
# Calls of subscribers that no queue hears

A subscriber that is told of an event may make calls on files.  If a queue hears of such a call, the
dispatch that told the subscriber finds more to read.  In a quiet session this does not happen:
whatever is read from queues and whatever calls subscribers have made before, the next of their
calls leaves all queues as they are.

While subscribers are told of events in a quiet session, the session stays quiet.  Files may change
meanwhile, but engines and queues are those that were there before.
-/

namespace MarkerWatch

open Relation (ReflTransGen)

/-- The calls on files in the scripts that subscribers may still run. -/
def Scripted (behaviours : Assoc String Behaviour) (c : FileCall) : Prop :=
  ∃ label behaviour, Assoc.get? behaviours label = some behaviour ∧ behaviour.times ≠ 0 ∧
    .call (.file c) ∈ behaviour.script

namespace Session

/-- What happens to a session while subscribers make some calls on files. -/
inductive Drift (calls : FileCall → Prop) : Session → Session → Prop
  | read (s : Session) (fd : Int) (room : Nat) :
      Drift calls s (s.withHost (s.service.host.read fd room).2)
  | call (s : Session) {c : FileCall} (permitted : calls c) : Drift calls s (s.callFile c).2
  /-- Something is written down, or a subscriber has one notification fewer to act upon. -/
  | note {s next : Session} (same : next.service = s.service) : Drift calls s next

/-- No queue hears of some calls on files, made at any time from now on. -/
def Unheard (calls : FileCall → Prop) (s : Session) : Prop :=
  ∀ later, ReflTransGen (Drift calls) s later → ∀ c, calls c →
    (later.callFile c).2.service.host.queues = later.service.host.queues

/-- Calls that only look at files are not heard. -/
theorem unheard_of_status
    {calls : FileCall → Prop} (s : Session)
    (looking : ∀ c, calls c → ∃ path, c = .status path) :
    s.Unheard calls := by
  intro later _ c permitted
  obtain ⟨path, rfl⟩ := looking c permitted
  rfl

/-- A session in which subscribers make some calls on files only, of which no queue hears. -/
structure Quiet (calls : FileCall → Prop) (s : Session) : Prop where
  scripts : ∀ label behaviour, Assoc.get? s.behaviours label = some behaviour →
    behaviour.times ≠ 0 → ∀ action ∈ behaviour.script, ∃ c, calls c ∧ action = .call (.file c)
  unheard : s.Unheard calls

theorem Unheard.quiet
    {s : Session} (unheard : s.Unheard (Scripted s.behaviours)) (outward : Outward s.behaviours) :
    s.Quiet (Scripted s.behaviours) where
  scripts := by
    intro label behaviour found remaining action member
    obtain ⟨c, rfl⟩ := outward label behaviour found action member
    exact ⟨c, ⟨label, behaviour, found, remaining, member⟩, rfl⟩
  unheard := unheard

variable {calls : FileCall → Prop} {s next : Session}

theorem Unheard.drift (unheard : s.Unheard calls) (drift : Drift calls s next) :
    next.Unheard calls :=
  fun later drifts => unheard later (.head drift drifts)

theorem Quiet.drift
    (quiet : s.Quiet calls) (drift : Drift calls s next)
    (same : next.behaviours = s.behaviours) :
    next.Quiet calls where
  scripts := same ▸ quiet.scripts
  unheard := quiet.unheard.drift drift

/-- The session after a subscriber was told of an event, before it runs its script. -/
def telling (s : Session) (label : String) (data : Payload) : Session :=
  { s with
    log := s.log ++ [.told label data]
    behaviours := Assoc.adjust s.behaviours label fun b => { b with times := b.times - 1 } }

theorem Quiet.telling (quiet : s.Quiet calls) (label : String) (data : Payload) :
    (s.telling label data).Quiet calls where
  scripts := by
    intro other behaviour found remaining
    obtain ⟨old, foundOld, script, times⟩ := exists_of_told found
    rw [script]
    refine quiet.scripts other old foundOld fun none => remaining ?_
    exact Nat.eq_zero_of_le_zero (none ▸ times)
  unheard := quiet.unheard.drift (.note rfl)

end Session

/-- A host on which no queue has heard of a call differs in its files at most. -/
theorem Host.Hears.eq_of_queues
    {lasting : Nat → Prop} {before after : Host}
    (hears : Hears lasting before after) (same : after.queues = before.queues) :
    after = { before with tree := after.tree, nextCookie := after.nextCookie } := by
  cases before
  cases after
  obtain ⟨rfl, rfl, rfl, -⟩ := hears
  cases same
  rfl

/-! ## What is written down -/

/-- Whether a subscriber was told of an event. -/
def LogEntry.isTold : LogEntry → Bool
  | told _ _ => true
  | answered _ _ => false

/-- What subscribers were told, without the answers to what they did. -/
def Session.tellings (s : Session) : List LogEntry :=
  s.log.filter (·.isTold)

/-- What is written down when a subscriber is told of an event. -/
def Subscriber.note (who : Subscriber) (data : Payload) : List LogEntry :=
  match who with
  | .labelled label => [.told label data]
  | .printer _ _ => []

/-- What is written down when the subscribers of some subscriptions are told of events. -/
def notes (entries : List (Subscription Subscriber Payload)) : List LogEntry :=
  entries.flatMap fun entry => entry.subscriber.note entry.data

/-- A quiet session after subscribers were told of events.  Nothing else has happened that matters
to engines or queues. -/
structure Session.Notes (calls : FileCall → Prop) (lines : List LogEntry)
    (before after : Session) : Prop where
  quiet : after.Quiet calls
  tellings : after.tellings = before.tellings ++ lines
  same : ∃ tree cookie log behaviours,
    after = { before with
      service.host := { before.service.host with tree := tree, nextCookie := cookie }
      log := log
      behaviours := behaviours }

namespace Session.Notes

variable {calls : FileCall → Prop} {s after : Session} {lines : List LogEntry}

theorem refl (quiet : s.Quiet calls) : Notes calls [] s s where
  quiet := quiet
  tellings := (List.append_nil _).symm
  same := ⟨_, _, _, _, rfl⟩

theorem trans
    {first second third : Session} {earlier later : List LogEntry}
    (left : Notes calls earlier first second)
    (right : Notes calls later second third) :
    Notes calls (earlier ++ later) first third where
  quiet := right.quiet
  tellings := by rw [right.tellings, left.tellings, List.append_assoc]
  same := by
    obtain ⟨tree, cookie, log, behaviours, rfl⟩ := left.same
    exact right.same

theorem telling (quiet : s.Quiet calls) (label : String) (data : Payload) :
    Notes calls [.told label data] s (s.telling label data) where
  quiet := quiet.telling label data
  tellings := List.filter_append _ _
  same := ⟨_, _, _, _, rfl⟩

/-- A subscriber makes a call on files, and the answer is written down. -/
theorem call
    (quiet : s.Quiet calls) {c : FileCall} (permitted : calls c) (label : String) :
    Notes calls [] s { (s.callFile c).2 with
      log := (s.callFile c).2.log ++ [.answered label (s.callFile c).1] } := by
  have kept := quiet.unheard s .refl c permitted
  have drift : Drift calls s (s.callFile c).2 := .call s permitted
  obtain ⟨host, equal, hears⟩ := s.heard_callFile c
  rw [equal] at kept drift ⊢
  constructor
  · exact (quiet.drift drift rfl).drift (.note rfl) rfl
  · exact List.filter_append _ _
  · refine ⟨host.tree, host.nextCookie, s.log ++ [.answered label (s.callFile c).1],
      s.behaviours, ?_⟩
    rw [← hears.eq_of_queues kept]
    rfl

theorem engine? (notes : Notes calls lines s after) :
    after.service.engine? = s.service.engine? := by
  obtain ⟨tree, cookie, log, behaviours, rfl⟩ := notes.same
  rfl

theorem queueAt? (notes : Notes calls lines s after) :
    after.service.host.queueAt? = s.service.host.queueAt? := by
  obtain ⟨tree, cookie, log, behaviours, rfl⟩ := notes.same
  rfl

theorem tuned (notes : Notes calls lines s after) (tuned : s.service.Tuned) :
    after.service.Tuned := by
  obtain ⟨tree, cookie, log, behaviours, rfl⟩ := notes.same
  have hears : Host.Hears (fun _ => True) s.service.host
      { s.service.host with tree := tree, nextCookie := cookie } :=
    Host.hears_of_tree s.service.host tree cookie
  exact tuned.hear hears fun _ _ _ _ _ _ => trivial

end Session.Notes

end MarkerWatch
