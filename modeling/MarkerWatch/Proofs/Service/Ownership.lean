import MarkerWatch.Proofs.Service.Tenure

/-!
# Who owns the open queues

Every queue that is open belongs to an engine, or was opened without one.  An engine has its queue
from the request that opened it until it is closed, and a request that is refused opens nothing.

`Service.Accounted` says so of a service, given the descriptors that were opened without an engine.
It is kept by every move, whichever numbers new descriptors get.
-/

namespace MarkerWatch

/-! ## Accepted names -/

/-- A name passes that is not empty and has no zero character in it. -/
theorem Name.check_eq_ok
    {name : String}
    (nonempty : name ≠ "") (noNul : Char.ofNat 0 ∉ name.toList) :
    check name = .ok () := by
  have something : name.toList.isEmpty = false := by simpa using nonempty
  have clean : name.toList.contains (Char.ofNat 0) = false := by simpa using noNul
  rw [check, something, clean]
  rfl

theorem Name.isEmpty_resolve
    (root : Path) {name : String}
    (nonempty : name ≠ "") :
    (resolve root name).isEmpty = false := by
  have something : (Text.encode name).isEmpty = false := by
    rw [List.isEmpty_eq_false_iff]
    exact fun empty => nonempty (Text.encode_injective (t := "") empty)
  rw [resolve]
  split
  · exact something
  · rw [Path.join]
    split
    · exact something
    · split <;> simp_all [Path.isEmpty, Path.ofString]

/-! ## Open queues -/

namespace Host

/-- The queue of a descriptor, be it hidden by a feed. -/
def queueOf? (host : Host) (fd : Int) : Option Nat :=
  (Assoc.get? host.descriptors fd).bind Descriptor.queue?

variable {host after : Host} {fd other : Int} {id : Nat}

/-- Which queue a descriptor stands for is up to the descriptors of a host. -/
theorem queueOf?_of_descriptors
    (same : after.descriptors = host.descriptors) :
    after.queueOf? = host.queueOf? := by
  funext fd
  rw [queueOf?, queueOf?, same]

/-- What a descriptor reads from may change, as long as its queue stays. -/
theorem queueOf?_set
    {descriptor : Descriptor}
    (same : descriptor.queue? = host.queueOf? other) :
    queueOf? { host with descriptors := Assoc.set host.descriptors other descriptor } fd =
      host.queueOf? fd := by
  rw [queueOf?, Assoc.get?_set]
  split
  · rename_i equal
    rw [Option.bind_some, same, equal]
  · rfl

theorem queueOf?_erase (host : Host) (other fd : Int) :
    queueOf? { host with descriptors := Assoc.erase host.descriptors other } fd =
      if other = fd then none else host.queueOf? fd := by
  rw [queueOf?, Assoc.get?_erase]
  split <;> rfl

theorem queueOf?_read (room : Nat) :
    (host.read other room).2.queueOf? fd = host.queueOf? fd := by
  rw [read]
  split
  · rfl
  · rename_i feed hidden found
    apply queueOf?_set
    rw [queueOf?, found]
    rfl
  · split
    · rfl
    · split
      · rfl
      · dsimp only
        split <;> rfl

theorem queueOf?_unfeed : (host.unfeed other).queueOf? fd = host.queueOf? fd := by
  rw [unfeed]
  split
  · rename_i feed hidden found
    apply queueOf?_set
    rw [queueOf?, found]
    rfl
  · rename_i feed found
    rw [queueOf?_erase]
    split
    · rename_i same
      subst same
      rw [queueOf?, found]
      rfl
    · rfl
  · rfl

theorem Requeued.queueOf?
    {kernel : HostQueue}
    (requeued : host.Requeued other kernel) :
    kernel.host.queueOf? = host.queueOf? := by
  obtain ⟨queues, rfl⟩ := requeued
  rfl

/-- No move opens a queue. -/
theorem Move.queueOf?
    (move : host.Move after)
    (found : after.queueOf? fd = some id) :
    host.queueOf? fd = some id := by
  cases move with
  | hear heard => rwa [queueOf?_of_descriptors heard.descriptors] at found
  | openFed feed =>
      change queueOf? { host with descriptors := Assoc.set host.descriptors _ _ } fd = _ at found
      rw [Host.queueOf?, Assoc.get?_set] at found
      split at found
      · cases found
      · exact found
  | read other room => rwa [queueOf?_read] at found
  | watch other path mask => rwa [((Requeued.refl host other).addWatch path mask).queueOf?] at found
  | unwatch other watch => rwa [((Requeued.refl host other).removeWatch watch).queueOf?] at found
  | feed other feed => rwa [Host.feed, queueOf?_set rfl] at found
  | unfeed other => rwa [queueOf?_unfeed] at found

/-- A queue that is opened is behind its own descriptor, and every other descriptor is as it was. -/
theorem queueOf?_openQueue (host : Host) (fd : Int) :
    host.openQueue.2.queueOf? fd =
      if host.openQueue.1 = fd then some host.nextQueue else host.queueOf? fd := by
  change queueOf? { host with descriptors := Assoc.set host.descriptors host.openQueue.1 _ } fd = _
  rw [queueOf?, Assoc.get?_set]
  split <;> rfl

theorem queueOf?_closeDescriptor (host : Host) (other fd : Int) :
    (host.closeDescriptor other).queueOf? fd = if other = fd then none else host.queueOf? fd :=
  queueOf?_erase host other fd

/-- A root directory that cannot be prepared is reported as such. -/
theorem exists_failure_of_prepareRoot
    {root : Path} {fault : Fault}
    (refused : host.prepareRoot root = (.error fault, after)) :
    ∃ failure, fault = .rootUnavailable root failure := by
  rw [prepareRoot] at refused
  split at refused
  · cases refused
    exact ⟨_, rfl⟩
  · split at refused
    · cases refused
      exact ⟨_, rfl⟩
    · cases refused

end Host

namespace Service

variable {s after : Service} {r r' : Nat} {h h' : Handle} {foreign : List Handle}

/-! ## Queues without an engine -/

theorem contains_eq_false
    (absent : ∀ e, s.engine? r h ≠ some e) :
    s.contains r h = false := by
  rw [contains, Option.isSome_eq_false_iff, Option.isNone_iff_eq_none]
  exact Option.eq_none_iff_forall_ne_some.mpr absent

/-- The descriptor of a handle without an engine has a queue. -/
def Foreign (s : Service) (h : Handle) : Prop :=
  ∃ id < s.host.nextQueue, s.host.Seats h.fd id ∧ ∀ r, s.contains r h = false

/-- A queue that was opened without an engine stays open, and gets none: an engine that is opened
has the queue that came last. -/
theorem Foreign.step
    (step : s.Step after)
    (isForeign : s.Foreign h) :
    after.Foreign h := by
  obtain ⟨id, old, seats, absent⟩ := isForeign
  have withoutEngine {r : Nat} {e : Engine} (found : s.engine? r h = some e) : False := by
    have present := contains_of_engine? found
    rw [absent r] at present
    cases present
  rcases step.seats seats with kept | ⟨r, h', e, same, found, -⟩
  · refine ⟨id, Nat.lt_of_lt_of_le old step.succeeds.nextQueue, kept, ?_⟩
    intro r
    apply contains_eq_false
    intro e here
    rcases (step.stems here).opened_or_old with ⟨newest, -, -, seats'⟩ | ⟨e', found, -⟩
    · have queue := seats'.queue
      rw [kept.queue, newest] at queue
      exact absurd (Option.some.inj queue) (Nat.ne_of_lt old)
    · exact withoutEngine found
  · obtain rfl : h' = h := congrArg Handle.mk same
    exact (withoutEngine found).elim

/-! ## Requests to open an engine -/

/-- What comes of a request to open an engine.  Only where the root directory is unavailable has
anything happened by the time it is refused. -/
inductive InitOutcome (s : Service) (r : Nat) : Except Fault Handle × Service → Prop
  | refused {fault : Fault} (early : ∀ root failure, fault ≠ .rootUnavailable root failure) :
      InitOutcome s r (.error fault, s)
  | unavailable (root : Path) (failure : IoFailure) {host : Host}
      (hears : Host.Hears (fun _ => True) s.host.openQueue.2 host) :
      InitOutcome s r
        (.error (.rootUnavailable root failure),
          { s with host := host.closeDescriptor s.host.openQueue.1 })
  | granted {host : Host} (present : r < s.registries.length)
      (hears : Host.Hears (fun _ => True) s.host.openQueue.2 host) :
      InitOutcome s r
        (.ok ⟨s.host.openQueue.1⟩,
          ({ s with host } : Service).setEngine r ⟨s.host.openQueue.1⟩ (.fresh s.host.nextQueue))

/-- Every request to open an engine comes out in one of these ways. -/
theorem initOutcome (s : Service) (r : Nat) (exhausted : Bool) :
    InitOutcome s r (s.init r exhausted) := by
  rw [init]
  split
  · exact .refused (by simp)
  · rename_i registry present
    split
    · exact .refused (by simp)
    · split
      · exact .refused (by simp)
      · have hears : Host.Hears (fun _ => True) s.host.openQueue.2
            (s.host.openQueue.2.prepareRoot registry.root).2 :=
          s.host.openQueue.2.prepareRoot_hears registry.root
        dsimp only
        split <;> rename_i prepared <;> rw [prepared] at hears
        · rename_i fault host
          obtain ⟨failure, rfl⟩ := Host.exists_failure_of_prepareRoot prepared
          exact .unavailable registry.root failure hears
        · exact .granted (List.getElem?_eq_some_iff.mp present).1 hears

/-! ## Accounts of open queues -/

/-- Each open queue belongs to an engine, or was opened without one behind one of some handles. -/
structure Accounted (foreign : List Handle) (s : Service) : Prop where
  seated : s.Seated
  owned : ∀ fd id, s.host.queueOf? fd = some id →
    (∃ r, s.contains r ⟨fd⟩ = true) ∨ ⟨fd⟩ ∈ foreign
  foreign : ∀ h ∈ foreign, s.Foreign h

/-- A service without registries has neither engines nor queues to account for. -/
theorem accounted_fresh (numbering : Numbering) (loops : List LoopKind) :
    (fresh numbering loops).Accounted [] where
  seated := seated_fresh numbering loops
  owned := by
    intro fd id found
    cases found
  foreign := by
    intro h member
    cases member

/-- A handle keeps an engine when some handle gets one. -/
theorem Replaces.keeps
    {e : Engine}
    (replaces : Replaces r h (some e) s after)
    (there : s.contains r' h' = true) :
    after.contains r' h' = true := by
  rw [replaces.contains]
  split
  · rfl
  · exact there

/-- An engine with another table is still there. -/
theorem Retables.keeps
    (retables : Retables r h s after)
    (there : s.contains r' h' = true) :
    after.contains r' h' = true := by
  rcases retables with rfl | ⟨e, table, queues, found, rfl⟩
  · exact there
  · exact (replaces_setEngine (lt_of_engine? found) _).keeps there

theorem keeps_join
    (loop : Nat)
    (there : s.contains r' h' = true) :
    (s.join r h loop).2.contains r' h' = true := by
  rw [join]
  split
  · exact there
  · dsimp only
    split
    · rwa [contains, engine?_cancel]
    · rename_i e found
      split
      · rwa [contains, engine?_cancel]
      · exact (replaces_setEngine (lt_of_engine? found) _).keeps there

theorem keeps_detach
    (there : s.contains r' h' = true) :
    (s.detach r h).2.contains r' h' = true := by
  rw [detach]
  split
  · exact there
  · rename_i e found
    rw [contains, engine?_cancel]
    exact (replaces_setEngine (lt_of_engine? found) _).keeps there

theorem Retables.queueOf?
    (retables : Retables r h s after) :
    after.host.queueOf? = s.host.queueOf? := by
  rcases retables with rfl | ⟨e, table, queues, found, rfl⟩ <;> rfl

namespace Accounted

/-- Steps that open no queue and close no engine keep the accounts. -/
theorem of_kept
    (accounted : s.Accounted foreign)
    (steps : Steps s after)
    (queues : ∀ fd id, after.host.queueOf? fd = some id → s.host.queueOf? fd = some id)
    (kept : ∀ r h, s.contains r h = true → after.contains r h = true) :
    after.Accounted foreign where
  seated := steps.induction Seated.step accounted.seated
  owned := by
    intro fd id found
    rcases accounted.owned fd id (queues fd id found) with ⟨r, there⟩ | member
    · exact .inl ⟨r, kept r ⟨fd⟩ there⟩
    · exact .inr member
  foreign := fun h member => steps.induction Foreign.step (accounted.foreign h member)

/-- Steps that close no engine and leave all queues behind their descriptors keep the account. -/
theorem of_same
    (accounted : s.Accounted foreign)
    (steps : Steps s after)
    (queues : after.host.queueOf? = s.host.queueOf?)
    (kept : ∀ r h, s.contains r h = true → after.contains r h = true) :
    after.Accounted foreign :=
  accounted.of_kept steps (fun fd id found => by rwa [queues] at found) kept

/-- The number that comes next has no queue. -/
theorem queueOf?_next
    (accounted : s.Accounted foreign) :
    s.host.queueOf? s.host.openQueue.1 = none := by
  by_contra open_
  obtain ⟨id, found⟩ := Option.ne_none_iff_exists'.mp open_
  rcases accounted.owned _ id found with ⟨r, there⟩ | member
  · obtain ⟨e, engine⟩ := Option.isSome_iff_exists.mp there
    exact (accounted.seated.seats engine).ne_next rfl
  · obtain ⟨id, -, seats, -⟩ := accounted.foreign _ member
    exact seats.ne_next rfl

/-- A request to open an engine that is refused leaves the open queues as they were. -/
theorem queueOf?_unavailable
    (accounted : s.Accounted foreign)
    {host : Host}
    (hears : Host.Hears (fun _ => True) s.host.openQueue.2 host) :
    (host.closeDescriptor s.host.openQueue.1).queueOf? = s.host.queueOf? := by
  funext fd
  rw [Host.queueOf?_closeDescriptor]
  split
  · rename_i same
    rw [← same, accounted.queueOf?_next]
  · rename_i different
    rw [Host.queueOf?_of_descriptors hears.descriptors, Host.queueOf?_openQueue, if_neg different]

theorem init
    (accounted : s.Accounted foreign)
    (r : Nat) (exhausted : Bool) :
    (s.init r exhausted).2.Accounted foreign := by
  have steps : Steps s (s.init r exhausted).2 := .single (.init s r exhausted)
  have outcome := initOutcome s r exhausted
  generalize s.init r exhausted = result at steps outcome ⊢
  cases outcome with
  | refused early => exact accounted
  | unavailable root failure hears =>
      exact accounted.of_same steps (accounted.queueOf?_unavailable hears) fun r h there => there
  | @granted host present hears =>
      have replaces := replaces_opened present host s.host.openQueue.1
      refine ⟨steps.induction Seated.step accounted.seated, ?_, ?_⟩
      · intro fd id found
        change host.queueOf? fd = some id at found
        rw [Host.queueOf?_of_descriptors hears.descriptors, Host.queueOf?_openQueue] at found
        split at found
        · rename_i same
          refine .inl ⟨r, ?_⟩
          rw [replaces.contains, if_pos ⟨rfl, congrArg Handle.mk same⟩]
          rfl
        · rcases accounted.owned fd id found with ⟨r', there⟩ | member
          · exact .inl ⟨r', replaces.keeps there⟩
          · exact .inr member
      · exact fun h member => steps.induction Foreign.step (accounted.foreign h member)

/-- A queue is opened without an engine. -/
theorem openQueue
    (accounted : s.Accounted foreign) :
    Accounted (foreign ++ [⟨s.host.openQueue.1⟩]) { s with host := s.host.openQueue.2 } := by
  have step : s.Step { s with host := s.host.openQueue.2 } := .host s (.openQueue s.host)
  refine ⟨accounted.seated.step step, ?_, ?_⟩
  · intro fd id found
    change s.host.openQueue.2.queueOf? fd = some id at found
    rw [Host.queueOf?_openQueue] at found
    split at found
    · rename_i same
      subst same
      exact .inr (List.mem_append_right _ (List.mem_singleton_self _))
    · rcases accounted.owned fd id found with there | member
      · exact .inl there
      · exact .inr (List.mem_append_left _ member)
  · intro h member
    rcases List.mem_append.mp member with old | new
    · exact (accounted.foreign h old).step step
    · obtain rfl := List.mem_singleton.mp new
      refine ⟨s.host.nextQueue, Nat.lt_succ_self _, .opened s.host, ?_⟩
      intro r
      apply contains_eq_false
      intro e found
      exact (accounted.seated.seats found).ne_next rfl

theorem close
    (accounted : s.Accounted foreign)
    (r : Nat) (h : Handle) :
    (s.close r h).Accounted foreign := by
  have steps : Steps s (s.close r h) := .single (.close s r h)
  rw [Service.close] at steps ⊢
  split at steps
  · exact accounted
  · rename_i e found
    refine ⟨steps.induction Seated.step accounted.seated, ?_, ?_⟩
    · intro fd id open_
      change (((s.mapEngines r (Assoc.erase · h)).cancel e.source).host.closeDescriptor h.fd).queueOf?
        fd = some id at open_
      rw [host_cancel, Host.queueOf?_closeDescriptor] at open_
      split at open_
      · cases open_
      · rename_i different
        rcases accounted.owned fd id open_ with ⟨r', there⟩ | member
        · refine .inl ⟨r', ?_⟩
          change ((s.mapEngines r (Assoc.erase · h)).cancel e.source).contains r' ⟨fd⟩ = true
          rw [contains, engine?_cancel, replaces_erase, if_neg]
          · exact there
          · rintro ⟨-, rfl⟩
            exact different rfl
        · exact .inr member
    · exact fun h' member => steps.induction Foreign.step (accounted.foreign h' member)

theorem move
    (accounted : s.Accounted foreign)
    (move : s.Move after) :
    after.Accounted foreign := by
  have steps := move.steps
  cases move with
  | host move =>
      exact accounted.of_kept steps (fun fd id found => move.queueOf? found) fun r h there => there
  | addRegistry root probe =>
      refine accounted.of_same steps rfl fun r h there => ?_
      rwa [contains, engine?_addRegistry]
  | addLoop | take | finish => exact accounted.of_same steps rfl fun r h there => there
  | initNew root probe exhausted =>
      have added : (s.addRegistry root probe).Accounted foreign := by
        refine accounted.of_same (.single (.addRegistry s root probe)) rfl fun r h there => ?_
        rwa [contains, engine?_addRegistry]
      exact added.init _ exhausted
  | close r h => exact accounted.close r h
  | subscribe r h path who data mask =>
      have retables := retables_subscribe (s := s) (r := r) (h := h) path who data mask
      exact accounted.of_same steps retables.queueOf? fun _ _ => retables.keeps
  | unsubscribe r h path who =>
      have retables := retables_unsubscribe (s := s) (r := r) (h := h) path who
      exact accounted.of_same steps retables.queueOf? fun _ _ => retables.keeps
  | join r h loop =>
      exact accounted.of_same steps (by rw [host_join]) fun _ _ => keeps_join loop
  | detach r h =>
      exact accounted.of_same steps (by rw [host_detach]) fun _ _ => keeps_detach

theorem moves
    (accounted : s.Accounted foreign)
    (moves : Moves s after) :
    after.Accounted foreign := by
  induction moves with
  | refl => exact accounted
  | tail earlier last ih => exact ih.move last

/-- What a request leaves behind that is refused: no registry, no loop and no open queue has
changed.  Where the next number is free, the descriptors are those of before, and unless the root
directory is unavailable, so is everything else. -/
theorem of_refused
    (accounted : s.Accounted foreign)
    {exhausted : Bool} {fault : Fault}
    (refused : s.init r exhausted = (.error fault, after)) :
    after.registries = s.registries ∧ after.loops = s.loops ∧
      after.host.queueOf? = s.host.queueOf? ∧
      (Assoc.get? s.host.descriptors s.host.openQueue.1 = none →
        after.host.descriptors = s.host.descriptors) ∧
      ((∀ root failure, fault ≠ .rootUnavailable root failure) → after = s) := by
  have outcome := initOutcome s r exhausted
  rw [refused] at outcome
  cases outcome with
  | refused early => exact ⟨rfl, rfl, rfl, fun _ => rfl, fun _ => rfl⟩
  | unavailable root failure hears =>
      refine ⟨rfl, rfl, accounted.queueOf?_unavailable hears, ?_, ?_⟩
      · intro free
        show Assoc.erase _ s.host.openQueue.1 = s.host.descriptors
        rw [hears.descriptors]
        show Assoc.erase (Assoc.set s.host.descriptors s.host.openQueue.1 _) _ = s.host.descriptors
        rw [Assoc.erase_set, Assoc.erase_of_absent free]
      · intro early
        exact absurd rfl (early root failure)

end Accounted

/-! ## Handles that get no engine -/

/-- A handle gets an engine only from the request that returns it. -/
theorem contains_of_init
    {exhausted : Bool}
    (here : (s.init r exhausted).2.contains r' h' = true) :
    s.contains r' h' = true ∨ r = r' ∧ (s.init r exhausted).1 = .ok h' := by
  have outcome := initOutcome s r exhausted
  generalize s.init r exhausted = result at outcome here ⊢
  cases outcome with
  | refused early => exact .inl here
  | unavailable root failure hears => exact .inl here
  | @granted host present hears =>
      rw [(replaces_opened present host s.host.openQueue.1).contains] at here
      split at here
      · rename_i same
        exact .inr ⟨same.1, congrArg Except.ok same.2⟩
      · exact .inl here

/-- A handle that is closed has no engine. -/
theorem contains_close (s : Service) (r : Nat) (h : Handle) :
    (s.close r h).contains r h = false := by
  rw [Service.close]
  split
  · rename_i absent
    rw [contains, absent]
    rfl
  · rename_i e found
    change ((s.mapEngines r (Assoc.erase · h)).cancel e.source).contains r h = false
    rw [contains, engine?_cancel, replaces_erase, if_pos ⟨rfl, rfl⟩]
    rfl

/-- Moves give no engine to a handle of a registry that is there. -/
theorem Move.contains
    (move : s.Move after)
    (present : r' < s.registries.length)
    (here : after.contains r' h' = true) :
    s.contains r' h' = true := by
  cases move with
  | host | addLoop | take | finish => exact here
  | addRegistry root probe => rwa [Service.contains, engine?_addRegistry] at here
  | initNew root probe exhausted =>
      rcases contains_of_init here with old | ⟨rfl, -⟩
      · rwa [Service.contains, engine?_addRegistry] at old
      · exact absurd present (Nat.lt_irrefl _)
  | close r h => exact contains_of_close here
  | subscribe r h path who data mask =>
      exact (retables_subscribe path who data mask).contains here
  | unsubscribe r h path who => exact (retables_unsubscribe path who).contains here
  | join r h loop => exact contains_of_join here
  | detach r h => exact contains_of_detach here

/-- Registries are never taken away. -/
theorem Steps.length_le
    (steps : Steps s after) :
    s.registries.length ≤ after.registries.length := by
  have lengths := steps.roots.length_le
  rwa [Service.roots, Service.roots, List.length_map, List.length_map] at lengths

theorem Moves.contains
    (moves : Moves s after)
    (present : r' < s.registries.length)
    (here : after.contains r' h' = true) :
    s.contains r' h' = true := by
  induction moves with
  | refl => exact here
  | tail earlier last ih =>
      exact ih (last.contains (Nat.lt_of_lt_of_le present (Moves.steps earlier).length_le) here)

/-! ## Calls on handles without an engine -/

section

variable (absent : s.engine? r h = none)
include absent

/-- No file is subscribed to on a handle without an engine. -/
theorem subscribeFile_of_absent
    {path : Path} (nonempty : path.isEmpty = false)
    (who : Subscriber) (data : Payload) (mask : Mask) :
    s.subscribeFile r h path who data mask = (.error (.badHandle h), s) := by
  rw [subscribeFile, if_neg (by rw [nonempty]; exact Bool.false_ne_true), absent]

theorem unsubscribeFile_of_absent
    (number : 0 ≤ h.fd)
    {path : Path} (nonempty : path.isEmpty = false)
    (who : Option Subscriber) :
    s.unsubscribeFile r h path who = (.error (.badHandle h), s) := by
  rw [unsubscribeFile, if_neg (Int.not_lt.mpr number),
    if_neg (by rw [nonempty]; exact Bool.false_ne_true), absent]

theorem subscribe_of_absent
    {name : String} (nonempty : name ≠ "") (noNul : Char.ofNat 0 ∉ name.toList)
    (who : Subscriber) (data : Payload) :
    s.subscribe r h name who data = (.error (.badHandle h), s) := by
  rw [subscribe, Name.check_eq_ok nonempty noNul]
  exact subscribeFile_of_absent absent (Name.isEmpty_resolve _ nonempty) who data _

theorem unsubscribe_of_absent
    (number : 0 ≤ h.fd)
    {name : String} (nonempty : name ≠ "") (noNul : Char.ofNat 0 ∉ name.toList)
    (who : Option Subscriber) :
    s.unsubscribe r h name who = (.error (.badHandle h), s) := by
  rw [unsubscribe, Name.check_eq_ok nonempty noNul]
  exact unsubscribeFile_of_absent absent number (Name.isEmpty_resolve _ nonempty) who

theorem ask_of_absent {α : Type} (question : Engine → α) :
    s.ask r h question = .error (.badHandle h) := by
  rw [ask, absent]

end

end Service

end MarkerWatch
