import MarkerWatch.Proofs.Service.Tuning
import MarkerWatch.Proofs.Session.Advance

/-!
# Undisturbed sessions

A session is undisturbed when it consists of calls on registries and files and of dispatches, when
its subscribers leave the registries alone, and when no file ceases to exist while it is watched.
Lookups of paths may fail in it, and so may opening an engine; no other call on the kernel does.

Between any two steps of such a session each engine is in tune with its queue.
-/

namespace MarkerWatch

/-- A call on a registry or on files, or a dispatch. -/
inductive Action.Regular : Action → Prop
  | call {c : Call} (noQueue : ∀ q, c ≠ .queue q) : Regular (.call c)
  | dispatch (view : Nat) (h : HandleRef) : Regular (.dispatch view h)

/-- Subscribers that leave registries alone: all they do is to make calls on files. -/
def Outward (behaviours : Assoc String Behaviour) : Prop :=
  ∀ label behaviour, Assoc.get? behaviours label = some behaviour →
    ∀ action ∈ behaviour.script, ∃ c, action = .call (.file c)

/-- A subscriber that was told of an event keeps its script, and is not to run it more often. -/
theorem exists_of_told
    {behaviours : Assoc String Behaviour} {label other : String} {behaviour : Behaviour}
    (found : Assoc.get? (Assoc.adjust behaviours label fun b => { b with times := b.times - 1 })
      other = some behaviour) :
    ∃ old, Assoc.get? behaviours other = some old ∧ behaviour.script = old.script ∧
      behaviour.times ≤ old.times := by
  rw [Assoc.get?_adjust] at found
  split at found
  · obtain ⟨old, foundOld, rfl⟩ := Option.map_eq_some_iff.mp found
    exact ⟨old, foundOld, rfl, Nat.sub_le _ _⟩
  · exact ⟨behaviour, found, rfl, Nat.le_refl _⟩

/-- What a regular action comes down to. -/
inductive Task.Regular : Task → Prop
  | perform {action : Action} (regular : action.Regular) : Regular (.perform action)
  | note (label : String) : Regular (.note label)
  | tell (targets : List (Subscriber × Payload)) : Regular (.tell targets)
  | read (d : Dispatch) : Regular (.read d)
  | records (d : Dispatch) (rest : List (Except RecordFault Record)) : Regular (.records d rest)

namespace Machine

/-- The machines that an undisturbed session comes to.  An action begins when the last one has
ended. -/
inductive Undisturbed : Machine → Prop
  | fresh (numbering : Numbering) (loops : List LoopKind) {behaviours : Assoc String Behaviour}
      (outward : Outward behaviours) :
      Undisturbed ⟨.fresh numbering loops behaviours, [], .done⟩
  | start {m : Machine} (undisturbed : Undisturbed m) (idle : m.tasks = []) {action : Action}
      (regular : action.Regular) : Undisturbed (.start m.session action)
  | step {m next : Machine} (undisturbed : Undisturbed m) (stepped : m.step = some next)
      (kept : m.session.service.host.Keeps next.session.service.host) : Undisturbed next

end Machine

/-! ## Calls -/

namespace Session

variable {s : Session}

theorem behaviours_callRegistry (r : Nat) (call : RegistryCall) :
    (s.callRegistry r call).2.behaviours = s.behaviours := by
  cases call with
  | init exhausted =>
      rw [callRegistry]
      split <;> rfl
  | publish name =>
      change (s.afterService (s.service.publish r name)).2.behaviours = _
      cases s.service.publish r name <;> rfl
  | _ => rfl

/-- Calls do not change what subscribers do. -/
theorem behaviours_call {c : Call} (noQueue : ∀ q, c ≠ .queue q) :
    (s.call c).2.behaviours = s.behaviours := by
  cases c with
  | registry view call => exact behaviours_callRegistry _ call
  | publishAt root name =>
      change (s.afterService (s.service.publishAt root name)).2.behaviours = _
      cases s.service.publishAt root name <;> rfl
  | file call =>
      obtain ⟨host, equal, -⟩ := s.heard_callFile call
      change (s.callFile call).2.behaviours = _
      rw [equal]
      rfl
  | queue call => exact absurd rfl (noQueue call)
  | addRegistry | addView | registrations => rfl

theorem tuned_afterService
    (tuned : s.service.Tuned) (root : Path) (name : String) :
    (s.afterService (s.service.publishAt root name)).2.service.Tuned := by
  cases published : s.service.publishAt root name with
  | error fault => exact tuned
  | ok service =>
      have heard : ∃ host, service = { s.service with host := host } ∧
          Host.Hears (fun _ => True) s.service.host host :=
        s.service.hears_publishAt root name service published
      obtain ⟨host, rfl, hears⟩ := heard
      exact tuned.hear hears fun _ _ _ _ _ _ => trivial

theorem tuned_callRegistry
    (tuned : s.service.Tuned) (r : Nat) (call : RegistryCall) :
    (s.callRegistry r call).2.service.Tuned := by
  cases call with
  | init exhausted =>
      have opened := tuned.init r exhausted
      rw [callRegistry]
      split <;> rename_i found <;> rwa [found] at opened
  | close h => exact tuned.close r _
  | subscribe h name who data => exact tuned.subscribe r _ name who data
  | subscribeFile h path who data mask => exact tuned.subscribeFile r _ path who data mask
  | unsubscribe h name who => exact tuned.unsubscribe r _ name _
  | unsubscribeFile h path who => exact tuned.unsubscribeFile r _ path _
  | publish name => exact tuned_afterService tuned _ name
  | detach h => exact tuned.detach r _
  | driving | subscriptions | watchMask | contains | summary | text => exact tuned

/-- Calls on registries keep engines in tune, and so do calls on files that keep what is watched. -/
theorem tuned_call
    (tuned : s.service.Tuned)
    {c : Call} (noQueue : ∀ q, c ≠ .queue q)
    (kept : s.service.host.Keeps (s.call c).2.service.host) :
    (s.call c).2.service.Tuned := by
  cases c with
  | addRegistry root probe => exact tuned.addRegistry root probe
  | registry view call => exact tuned_callRegistry tuned _ call
  | publishAt root name => exact tuned_afterService tuned root name
  | file call =>
      obtain ⟨host, equal, hears⟩ := s.heard_callFile call
      change s.service.host.Keeps (s.callFile call).2.service.host at kept
      change (s.callFile call).2.service.Tuned
      rw [equal] at kept ⊢
      exact tuned.hear hears kept
  | queue call => exact absurd rfl (noQueue call)
  | addView | registrations => exact tuned

end Session

/-! ## Steps -/

namespace Machine

/-- A machine that has only regular tasks, and whose engines are in tune with their queues. -/
structure Regular (m : Machine) : Prop where
  tuned : m.session.service.Tuned
  outward : Outward m.session.behaviours
  tasks : ∀ task ∈ m.tasks, task.Regular

namespace Regular

variable {m next : Machine}

/-- Tasks are taken up one at a time and put before those that wait. -/
theorem of_before
    (regular : m.Regular)
    (tuned : next.session.service.Tuned)
    (outward : Outward next.session.behaviours)
    {added : List Task}
    (tasks : next.tasks = added ++ m.tasks)
    (each : ∀ task ∈ added, task.Regular) :
    next.Regular where
  tuned := tuned
  outward := outward
  tasks := by
    intro task member
    rw [tasks] at member
    rcases List.mem_append.mp member with new | old
    · exact each task new
    · exact regular.tasks task old

theorem before
    (regular : m.Regular)
    {added : List Task}
    (each : ∀ task ∈ added, task.Regular) :
    (m.before added).Regular :=
  regular.of_before regular.tuned regular.outward rfl each

theorem perform
    (regular : m.Regular)
    {action : Action} (regularAction : action.Regular)
    (kept : m.session.service.host.Keeps (m.perform action).session.service.host) :
    (m.perform action).Regular := by
  cases regularAction with
  | call noQueue =>
      constructor
      · exact Session.tuned_call regular.tuned noQueue kept
      · change Outward (m.session.call _).2.behaviours
        rw [Session.behaviours_call noQueue]
        exact regular.outward
      · exact regular.tasks
  | dispatch view h =>
      refine regular.before fun task member => ?_
      rw [List.mem_singleton.mp member]
      exact .read _

theorem notify
    (regular : m.Regular) (who : Subscriber) (data : Payload) :
    (m.notify who data).Regular := by
  cases who with
  | printer position line => exact ⟨regular.tuned, regular.outward, regular.tasks⟩
  | labelled label =>
      have outward : Outward (Assoc.adjust m.session.behaviours label fun b =>
          { b with times := b.times - 1 }) := by
        intro other behaviour found
        obtain ⟨old, foundOld, script, -⟩ := exists_of_told found
        rw [script]
        exact regular.outward other old foundOld
      rw [Machine.notify]
      split
      · rename_i script times found
        refine regular.of_before regular.tuned outward rfl fun task member => ?_
        obtain ⟨action, scripted, member⟩ := List.mem_flatMap.mp member
        obtain ⟨c, rfl⟩ := regular.outward label _ found action scripted
        rcases List.mem_cons.mp member with rfl | member
        · apply Task.Regular.perform
          apply Action.Regular.call
          intro q equal
          cases equal
        · rw [List.mem_singleton.mp member]
          exact .note label
      · exact ⟨regular.tuned, outward, regular.tasks⟩

theorem read (regular : m.Regular) (d : Dispatch) : (m.read d).Regular := by
  have afterRead :
      (m.withHost (m.session.service.host.read d.handle.fd Record.bufferLength).2).Regular :=
    ⟨regular.tuned.read _ _, regular.outward, regular.tasks⟩
  have answering {other : Machine} (regular : other.Regular) (answer : Answer) :
      (other.answering answer).Regular :=
    ⟨regular.tuned, regular.outward, regular.tasks⟩
  have single {task other : Task} (regular : task.Regular) (member : other ∈ [task]) :
      other.Regular := by
    rwa [List.mem_singleton.mp member]
  rw [Machine.read]
  split
  · exact answering regular _
  · split <;> rename_i found <;> rw [found] at afterRead
    · exact answering afterRead _
    · exact afterRead.before fun _ => single (.records _ _)
    · split
      · exact answering afterRead _
      · split
        · exact afterRead.before fun _ => single (.read _)
        · exact answering afterRead _

theorem takeUp
    (regular : m.Regular) (d : Dispatch) (rest : List (Except RecordFault Record)) :
    (m.takeUp d rest).Regular := by
  cases rest with
  | nil =>
      refine regular.before fun task member => ?_
      rw [List.mem_singleton.mp member]
      exact .read d
  | cons item rest =>
      cases item with
      | error fault => exact ⟨regular.tuned, regular.outward, regular.tasks⟩
      | ok record =>
          refine regular.before fun task member => ?_
          rcases List.mem_cons.mp member with rfl | member
          · exact .tell _
          · rw [List.mem_singleton.mp member]
            exact .records _ _

/-- Every task of an undisturbed session keeps its engines in tune. -/
theorem execute
    (regular : m.Regular)
    {task : Task} (regularTask : task.Regular)
    (kept : m.session.service.host.Keeps (m.execute task).session.service.host) :
    (m.execute task).Regular := by
  cases regularTask with
  | perform regularAction => exact regular.perform regularAction kept
  | note label => exact ⟨regular.tuned, regular.outward, regular.tasks⟩
  | tell targets =>
      cases targets with
      | nil => exact regular
      | cons target rest =>
          refine notify (regular.before fun task member => ?_) target.1 target.2
          rw [List.mem_singleton.mp member]
          exact .tell rest
  | read d => exact regular.read d
  | records d rest => exact regular.takeUp d rest

theorem step
    (regular : m.Regular)
    (stepped : m.step = some next)
    (kept : m.session.service.host.Keeps next.session.service.host) :
    next.Regular := by
  rw [Machine.step] at stepped
  split at stepped
  · cases stepped
  · rename_i task rest tasks
    cases stepped
    have taken : ({ m with tasks := rest } : Machine).Regular :=
      ⟨regular.tuned, regular.outward, fun other member =>
        regular.tasks other (tasks ▸ List.mem_cons_of_mem task member)⟩
    exact taken.execute (regular.tasks task (tasks ▸ List.mem_cons_self)) kept

end Regular

theorem Undisturbed.regular {m : Machine} (undisturbed : Undisturbed m) : m.Regular := by
  induction undisturbed with
  | fresh numbering loops outward =>
      refine ⟨Service.tuned_fresh numbering loops, outward, fun task member => ?_⟩
      cases member
  | start undisturbed idle regularAction ih =>
      refine ⟨ih.tuned, ih.outward, fun task member => ?_⟩
      rw [List.mem_singleton.mp member]
      exact .perform regularAction
  | step undisturbed stepped kept ih => exact ih.step stepped kept

end Machine

end MarkerWatch
