import MarkerWatch.Proofs.Service.Ownership
import MarkerWatch.Proofs.Session.Attachment

/-!
# From the opening of an engine to its closing

In every state that a session comes to, each open queue belongs to one engine of one registry, or
was opened without an engine.  A request to open an engine that is refused leaves nothing open.

What a session remembers tells what becomes of a view and of a handle.  A view shows the same
registry from then on.  A handle whose engine was closed has none until a request returns it again,
and an action that needs an engine is then refused and changes nothing.
-/

namespace MarkerWatch

namespace Session

variable {s after : Session} {r : Nat} {h : Handle}

/-! ## Shifts of a session -/

/-- A request to open an engine changes the service, and is remembered when it is granted. -/
theorem callRegistry_init (s : Session) (r : Nat) (exhausted : Bool) :
    (s.callRegistry r (.init exhausted)).2 =
      { s with
        service := (s.service.init r exhausted).2
        engines := s.engines ++
          match (s.service.init r exhausted).1 with
          | .ok h => [(r, h)]
          | .error _ => [] } := by
  rw [callRegistry]
  split
  · rename_i found
    simp only [found]
  · rename_i found
    simp only [found, List.append_nil]

theorem Shift.views (shift : Shift s after) : s.views <+: after.views := by
  cases shift with
  | move moves views => exact views
  | init r exhausted => exact ⟨[], by rw [callRegistry_init, List.append_nil]⟩
  | openQueue => exact List.prefix_rfl

theorem Shifts.views (shifts : Shifts s after) : s.views <+: after.views := by
  induction shifts with
  | refl => exact List.prefix_rfl
  | tail earlier last ih => exact ih.trans last.views

/-- A view shows the same registry from then on. -/
theorem Shifts.registryOf
    (shifts : Shifts s after)
    {view : Nat} (present : view < s.views.length) :
    after.registryOf view = s.registryOf view := by
  obtain ⟨more, equal⟩ := Shifts.views shifts
  rw [Session.registryOf, Session.registryOf, ← equal, List.getElem?_append_left present,
    List.getElem?_eq_getElem present]
  rfl

theorem Shift.opened
    (shift : Shift s after)
    (present : r < s.service.registries.length) :
    ∃ opened, after.engines = s.engines ++ opened ∧
      (after.service.contains r h = true → s.service.contains r h = true ∨ (r, h) ∈ opened) := by
  cases shift with
  | move moves views engines =>
      exact ⟨[], by rw [engines, List.append_nil], fun here => .inl (moves.contains present here)⟩
  | openQueue => exact ⟨[], (List.append_nil _).symm, fun here => .inl here⟩
  | init r' exhausted =>
      rw [callRegistry_init]
      refine ⟨_, rfl, ?_⟩
      intro here
      rcases Service.contains_of_init here with old | ⟨rfl, answered⟩
      · exact .inl old
      · right
        rw [answered]
        exact List.mem_singleton_self _

/-- A handle of a registry that is there has an engine only if it had one, or if a request has
returned it since. -/
theorem Shifts.opened
    (shifts : Shifts s after)
    (present : r < s.service.registries.length) :
    ∃ opened, after.engines = s.engines ++ opened ∧
      (after.service.contains r h = true → s.service.contains r h = true ∨ (r, h) ∈ opened) := by
  induction shifts with
  | refl => exact ⟨[], (List.append_nil _).symm, .inl⟩
  | @tail middle last earlier shift ih =>
      obtain ⟨opened, equal, before⟩ := ih
      have stillPresent := Nat.lt_of_lt_of_le present (Shifts.service earlier).length_le
      obtain ⟨opened', equal', since⟩ := Shift.opened (h := h) shift stillPresent
      refine ⟨opened ++ opened', by rw [equal', equal, List.append_assoc], ?_⟩
      intro here
      rcases since here with there | member
      · rcases before there with old | member
        · exact .inl old
        · exact .inr (List.mem_append_left _ member)
      · exact .inr (List.mem_append_right _ member)

theorem Shift.accounted
    (shift : Shift s after)
    (accounted : s.service.Accounted s.queues) :
    after.service.Accounted after.queues := by
  cases shift with
  | move moves views engines queues =>
      rw [queues]
      exact accounted.moves moves
  | init r exhausted =>
      rw [callRegistry_init]
      exact accounted.init r exhausted
  | openQueue => exact accounted.openQueue

theorem Shifts.accounted
    (shifts : Shifts s after)
    (accounted : s.service.Accounted s.queues) :
    after.service.Accounted after.queues := by
  induction shifts with
  | refl => exact accounted
  | tail earlier last ih => exact last.accounted ih

/-! ## Open queues -/

/-- Each open queue belongs to one engine of one registry, or was opened without an engine. -/
structure OwnsQueues (s : Session) : Prop where
  open_iff : ∀ fd, (∃ id, s.service.host.queueOf? fd = some id) ↔
    (∃ r, s.service.contains r ⟨fd⟩ = true) ∨ ⟨fd⟩ ∈ s.queues
  apart : ∀ h ∈ s.queues, ∀ r, s.service.contains r h = false
  own : ∀ r h e, s.service.engine? r h = some e → s.service.host.queueOf? h.fd = some e.queue
  single : ∀ r h e r' h' e', s.service.engine? r h = some e → s.service.engine? r' h' = some e' →
    h = h' ∨ e.queue = e'.queue → r = r' ∧ h = h'

theorem ownsQueues_of_accounted
    (accounted : s.service.Accounted s.queues) :
    s.OwnsQueues where
  open_iff := by
    intro fd
    constructor
    · rintro ⟨id, found⟩
      exact accounted.owned fd id found
    · rintro (⟨r, here⟩ | member)
      · obtain ⟨e, found⟩ := Option.isSome_iff_exists.mp here
        exact ⟨e.queue, (accounted.seated.seats found).queue⟩
      · obtain ⟨id, -, seats, -⟩ := accounted.foreign _ member
        exact ⟨id, seats.queue⟩
  apart := by
    intro h member
    obtain ⟨id, -, -, absent⟩ := accounted.foreign h member
    exact absent
  own := fun r h e found => (accounted.seated.seats found).queue
  single := by
    rintro r h e r' h' e' found found' (same | same)
    · exact accounted.seated.fd_unique found found' (congrArg Handle.fd same)
    · exact accounted.seated.apart found found' same

end Session

/-! ## Actions through another view -/

/-- An action on a view, through another view. -/
def Action.through (view : Nat) : Action → Action
  | .call (.registry _ c) => .call (.registry view c)
  | .call (.addView _) => .call (.addView view)
  | .dispatch _ h => .dispatch view h
  | .poll _ h => .poll view h
  | .attach _ h loop => .attach view h loop
  | .feed _ h f reader => .feed view h f reader
  | .pollInBackground _ h wake recover => .pollInBackground view h wake recover
  | action => action

/-- Actions that need the engine of a handle, with names and paths that are not refused before. -/
inductive Action.Needs (view : Nat) (h : HandleRef) : Action → Prop
  | subscribe {name : String} (nonempty : name ≠ "") (noNul : Char.ofNat 0 ∉ name.toList)
      (who : String) (data : Payload) :
      Needs view h (.call (.registry view (.subscribe h name who data)))
  | subscribeFile {path : Path} (nonempty : path.isEmpty = false) (who : String) (data : Payload)
      (mask : Mask) : Needs view h (.call (.registry view (.subscribeFile h path who data mask)))
  | unsubscribe {name : String} (nonempty : name ≠ "") (noNul : Char.ofNat 0 ∉ name.toList)
      (who : Option String) : Needs view h (.call (.registry view (.unsubscribe h name who)))
  | unsubscribeFile {path : Path} (nonempty : path.isEmpty = false) (who : Option String) :
      Needs view h (.call (.registry view (.unsubscribeFile h path who)))
  | attach (loop : Nat) : Needs view h (.attach view h loop)
  | detach : Needs view h (.call (.registry view (.detach h)))
  | poll : Needs view h (.poll view h)
  | driving : Needs view h (.call (.registry view (.driving h)))
  | subscriptions : Needs view h (.call (.registry view (.subscriptions h)))
  | watchMask (watch : WatchId) : Needs view h (.call (.registry view (.watchMask h watch)))

namespace Machine

variable {m : Machine} {view : Nat}

theorem perform_through
    {other : Nat}
    (same : m.session.registryOf other = m.session.registryOf view)
    (action : Action) :
    m.perform (action.through other) = m.perform (action.through view) := by
  cases action with
  | call c => cases c <;> simp only [Action.through, perform, Session.call, same]
  | dispatch | poll | attach | feed | pollInBackground => simp only [Action.through, perform, same]
  | fire | run | execute => rfl

/-- A machine in which whatever needs the engine of a handle is refused and changes nothing.  A
dispatch is one on a handle without an engine, and takes nothing up where the number is not open. -/
structure Refuses (m : Machine) (view : Nat) (h : HandleRef) : Prop where
  needs : ∀ action, Action.Needs view h action →
    m.perform action = m.answering (.fault (.badHandle (m.session.handle h)))
  dispatch : m.perform (.dispatch view h) =
    m.before [.read ⟨m.session.registryOf view, m.session.handle h, false, 0⟩]
  drained : Assoc.get? m.session.service.host.descriptors (m.session.handle h).fd = none →
    (m.perform (.dispatch view h)).step = some (m.answering (.count 0))

/-- A dispatch without an engine takes nothing up from a number that is not open. -/
theorem read_of_absent
    {d : Dispatch}
    (unregistered : d.registered = false)
    (number : 0 ≤ d.handle.fd)
    (free : Assoc.get? m.session.service.host.descriptors d.handle.fd = none) :
    m.read d = m.answering (.count d.count) := by
  have ended : m.isOver d = true := by
    rw [isOver, unregistered, if_neg Bool.false_ne_true, Host.readable, Host.readiness,
      if_neg (Int.not_lt.mpr number), free]
    rfl
  rw [Machine.read, if_pos ended]

theorem refuses_of_closed
    {h : HandleRef}
    (number : 0 ≤ (m.session.handle h).fd)
    (closed : m.session.service.contains (m.session.registryOf view) (m.session.handle h) = false) :
    m.Refuses view h where
  needs := by
    have absent :
        m.session.service.engine? (m.session.registryOf view) (m.session.handle h) = none := by
      rwa [Service.contains, Option.isSome_eq_false_iff, Option.isNone_iff_eq_none] at closed
    have asked {α : Type} (question : Engine → α) := Service.ask_of_absent absent question
    have attached :
        m.session.service.requireDetached (m.session.registryOf view) (m.session.handle h) =
          .error (.badHandle (m.session.handle h)) := by
      rw [Service.requireDetached, Service.driving, asked]
      rfl
    intro action needs
    cases needs with
    | subscribe nonempty noNul who data =>
        rw [perform, Session.call, Session.callRegistry,
          Service.subscribe_of_absent absent nonempty noNul]
        rfl
    | subscribeFile nonempty who data mask =>
        rw [perform, Session.call, Session.callRegistry,
          Service.subscribeFile_of_absent absent nonempty]
        rfl
    | unsubscribe nonempty noNul who =>
        rw [perform, Session.call, Session.callRegistry,
          Service.unsubscribe_of_absent absent number nonempty noNul]
        rfl
    | unsubscribeFile nonempty who =>
        rw [perform, Session.call, Session.callRegistry,
          Service.unsubscribeFile_of_absent absent number nonempty]
        rfl
    | attach loop => rw [perform, attach, attached]
    | detach =>
        rw [perform, Session.call, Session.callRegistry, Service.detach, absent]
        rfl
    | poll => rw [perform, poll, attached]
    | driving =>
        rw [perform, Session.call, Session.callRegistry, Service.driving, asked]
        rfl
    | subscriptions =>
        rw [perform, Session.call, Session.callRegistry, Service.subscriptions, asked]
        rfl
    | watchMask watch =>
        rw [perform, Session.call, Session.callRegistry, Service.watchMask, asked]
        rfl
  dispatch := by
    rw [perform, dispatching, closed]
  drained := by
    intro free
    rw [perform, dispatching, closed]
    exact congrArg some (read_of_absent rfl number free)

/-! ## Later machines -/

/-- One machine after another: a step, or the start of an action when nothing is left to be done. -/
inductive Goes : Machine → Machine → Prop
  | step {m next : Machine} (step : Step m next) : Goes m next
  | start {m : Machine} (idle : m.tasks = []) (action : Action) : Goes m (.start m.session action)

/-- A machine, and one that it comes to. -/
abbrev Later : Machine → Machine → Prop :=
  Relation.ReflTransGen Goes

theorem Later.session
    {last : Machine}
    (later : Later m last) :
    Session.Shifts m.session last.session := by
  induction later with
  | refl => exact .refl
  | tail earlier goes ih =>
      cases goes with
      | step step => exact ih.trans step.session
      | start idle action => exact ih

theorem Reached.accounted
    {numbering : Numbering} {loops : List LoopKind}
    (reached : Reached numbering loops m) :
    m.session.service.Accounted m.session.queues := by
  induction reached with
  | fresh behaviours => exact Service.accounted_fresh numbering loops
  | start reached idle action ih => exact ih
  | step reached step ih => exact step.session.accounted ih

/-- A handle that was closed has no engine until a request returns it again. -/
theorem contains_of_closed
    {closed last : Machine} {r : Nat} {h : Handle}
    (present : r < m.session.service.registries.length)
    (closing : closed.session = { m.session with service := m.session.service.close r h })
    (later : Later closed last)
    (unreturned : (r, h) ∉ last.session.engines.drop m.session.engines.length) :
    last.session.service.contains r h = false := by
  have stillPresent : r < closed.session.service.registries.length := by
    rw [closing]
    exact Nat.lt_of_lt_of_le present
      (Service.Steps.length_le (.single (.close m.session.service r h)))
  obtain ⟨opened, engines, returned⟩ := later.session.opened (h := h) stillPresent
  rw [engines, closing, List.drop_left] at unreturned
  rw [Bool.eq_false_iff]
  intro here
  rcases returned here with before | member
  · rw [closing, Service.contains_close] at before
    cases before
  · exact unreturned member

/--
In every state that a session comes to, whatever subscribers do meanwhile and whichever numbers new
descriptors get, each open queue belongs to one engine of one registry, or was opened without an
engine.  A request to open an engine that is refused leaves the registries and the open queues as
they are, and unless the root directory is unavailable, everything else too.

Of any two views that show one registry because one of them was made from the other, an action has
the same outcome through either.  After an engine was closed, and as long as no request returns its
handle again, everything that needs the engine is refused and changes nothing.
-/
theorem engines_own_queues
    {numbering : Numbering} {loops : List LoopKind}
    (reached : Reached numbering loops m) :
    m.session.OwnsQueues ∧
      (∀ r exhausted fault after,
        m.session.service.init r exhausted = (.error fault, after) →
          after.registries = m.session.service.registries ∧
            after.loops = m.session.service.loops ∧
            after.host.queueOf? = m.session.service.host.queueOf? ∧
            (Assoc.get? m.session.service.host.descriptors m.session.service.host.openQueue.1 = none →
              after.host.descriptors = m.session.service.host.descriptors) ∧
            ((∀ root failure, fault ≠ .rootUnavailable root failure) → after = m.session.service)) ∧
      (∀ view cloned last,
        view < m.session.views.length →
          cloned.session = (m.session.call (.addView view)).2 →
            Later cloned last →
              ∀ action : Action,
                last.perform (action.through m.session.views.length) =
                  last.perform (action.through view)) ∧
      ∀ r h closed last,
        r < m.session.service.registries.length → 0 ≤ h.fd →
          closed.session = { m.session with service := m.session.service.close r h } →
            Later closed last →
              (r, h) ∉ last.session.engines.drop m.session.engines.length →
                ∀ view ref, last.session.registryOf view = r → last.session.handle ref = h →
                  last.Refuses view ref := by
  refine ⟨Session.ownsQueues_of_accounted reached.accounted, ?_, ?_, ?_⟩
  · intro r exhausted fault after refused
    exact reached.accounted.of_refused refused
  · intro view cloned last present cloning later action
    have views : cloned.session.views = m.session.views ++ [m.session.registryOf view] := by
      rw [cloning]
      rfl
    have shown :
        cloned.session.registryOf m.session.views.length = cloned.session.registryOf view := by
      rw [Session.registryOf, Session.registryOf, views, List.getElem?_concat_length,
        List.getElem?_append_left present, Session.registryOf, List.getElem?_eq_getElem present]
      rfl
    have length : cloned.session.views.length = m.session.views.length + 1 := by
      rw [views, List.length_append]
      rfl
    apply perform_through
    rw [later.session.registryOf (by omega), later.session.registryOf (by omega), shown]
  · rintro r h closed last present number closing later unreturned view ref rfl rfl
    exact refuses_of_closed number (contains_of_closed present closing later unreturned)

/-! ## A number that is given again -/

theorem Run.later
    {last : Machine} {visited : List Machine}
    (run : Run m visited last) :
    Later m last := by
  induction run with
  | nil m => exact .refl
  | cons step run ih => exact .head (.step step) ih

theorem Later.perform
    {last : Machine}
    (later : Later m last)
    (idle : last.tasks = []) (action : Action) (count : Nat) :
    Later m (trail count (.start last.session action)).2 :=
  (later.tail (.start idle action)).trans (run_trail count _).later

/-- A session with an engine in the first of two registries. -/
def opened : Machine :=
  let first := (trail 1 (.start (.fresh .lowestFree [] [])
    (.call (.addRegistry ⟨[0x2F]⟩ (.fixed "6.1.0"))))).2
  let second := (trail 1 (.start first.session
    (.call (.addRegistry ⟨[0x2F]⟩ (.fixed "6.1.0"))))).2
  (trail 1 (.start second.session (.call (.registry 0 (.init false))))).2

theorem reached_opened : Reached .lowestFree [] opened :=
  (((Reached.fresh []).perform rfl _ 1).perform rfl _ 1).perform rfl _ 1

/-- That session after the engine was closed. -/
def closedAgain : Machine :=
  (trail 1 (.start opened.session (.call (.registry 0 (.close (.engine 0)))))).2

/-- The session after the number was given to an engine of the second registry. -/
def reopenedElsewhere : Machine :=
  (trail 1 (.start closedAgain.session (.call (.registry 1 (.init false))))).2

/-- The handle is still refused where its engine was closed, although it has one elsewhere. -/
theorem engines_own_queues_elsewhere :
    opened.session.OwnsQueues ∧ reopenedElsewhere.session.service.contains 1 ⟨3⟩ = true ∧
      reopenedElsewhere.Refuses 0 (.engine 0) := by
  obtain ⟨owns, -, -, closes⟩ := engines_own_queues reached_opened
  refine ⟨owns, by decide +kernel, ?_⟩
  exact closes 0 ⟨3⟩ closedAgain reopenedElsewhere (by decide +kernel) (by decide) rfl
    (Later.perform .refl rfl _ 1) (by decide +kernel) 0 (.engine 0) rfl rfl

end Machine

end MarkerWatch
