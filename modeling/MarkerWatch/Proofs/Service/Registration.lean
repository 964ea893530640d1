import Mathlib.Data.List.Sigma
import MarkerWatch.Proofs.Loop.Ready
import MarkerWatch.Proofs.Service.Engine

/-!
# Registrations of engines with loops

A loop knows a registration by a number, and an engine that a loop drives knows loop and number.
The two sides agree: what an engine knows is registered for its descriptor, and whatever is
registered is known to an engine.  `Service.InOrder` says so, and every step of a service keeps it
as long as descriptor numbers are not given again.

Attaching is the step where the sides could part.  The loop registers first, and if the engine is
gone or driven by then, the registration is cancelled within the same step.
-/

namespace MarkerWatch

/-! ## Registrations -/

namespace Service

/-- The registrations of a descriptor over all loops together. -/
def registrationsOf (s : Service) (fd : Int) : List LoopSource :=
  s.loops.zipIdx.flatMap fun (l, loop) => (l.due fd).map (⟨loop, ·⟩)

/-- The descriptor that a registration is for, unless there is none. -/
def descriptorOf? (s : Service) (source : LoopSource) : Option Int :=
  s.loops[source.loop]?.bind fun l => Assoc.get? l.fds source.id

/-- Every loop has distinct numbers for its registrations. -/
def LoopsNumbered (s : Service) : Prop :=
  ∀ (loop : Nat) (l : ReadyLoop Ready), s.loops[loop]? = some l → l.Numbered

/-- The registration that an engine knows. -/
def driver? (s : Service) (r : Nat) (h : Handle) : Option LoopSource :=
  (s.engine? r h).bind (·.source)

variable {s : Service} {r : Nat} {h : Handle}

/-- The registrations of a descriptor are those that a loop holds for it. -/
theorem mem_registrationsOf_iff
    (numbered : s.LoopsNumbered)
    (fd : Int) (source : LoopSource) :
    source ∈ s.registrationsOf fd ↔ s.descriptorOf? source = some fd := by
  obtain ⟨loop, id⟩ := source
  rw [registrationsOf, descriptorOf?, List.mem_flatMap, Option.bind_eq_some_iff]
  constructor
  · rintro ⟨⟨l, loop'⟩, member, mapped⟩
    rw [List.mem_zipIdx_iff_getElem?] at member
    obtain ⟨id', due, equal⟩ := List.mem_map.mp mapped
    cases equal
    exact ⟨l, member, (ReadyLoop.mem_due_iff (numbered loop l member) fd id).mp due⟩
  · rintro ⟨l, found, registered⟩
    refine ⟨(l, loop), List.mem_zipIdx_iff_getElem?.mpr found, List.mem_map.mpr ⟨id, ?_, rfl⟩⟩
    exact (ReadyLoop.mem_due_iff (numbered loop l found) fd id).mpr registered

theorem nodup_registrationsOf
    (numbered : s.LoopsNumbered) (fd : Int) :
    (s.registrationsOf fd).Nodup := by
  rw [registrationsOf, List.nodup_flatMap]
  constructor
  · rintro ⟨l, loop⟩ member
    have found := List.mem_zipIdx_iff_getElem?.mp member
    refine (ReadyLoop.nodup_due (numbered loop l found) fd).map ?_
    intro id id' equal
    cases equal
    rfl
  · refine (List.pairwise_map.mp (List.nodup_zipIdx_map_snd s.loops)).imp ?_
    rintro ⟨l, loop⟩ ⟨l', loop'⟩ different source here there
    obtain ⟨id, -, rfl⟩ := List.mem_map.mp here
    obtain ⟨id', -, equal⟩ := List.mem_map.mp there
    cases equal
    exact different rfl

theorem contains_of_driver?
    {source : LoopSource}
    (driven : s.driver? r h = some source) :
    s.contains r h = true := by
  rw [driver?, Option.bind_eq_some_iff] at driven
  obtain ⟨e, found, -⟩ := driven
  exact contains_of_engine? found

/-- A handle is driven as its engine is. -/
theorem driver?_of_engine?
    {e : Engine}
    (found : s.engine? r h = some e) :
    s.driver? r h = e.source := by
  rw [driver?, found]
  rfl

/-- A handle whose engine was replaced is driven as the new one is, and others as before. -/
theorem Replaces.driver
    {engine : Option Engine} {after : Service}
    (replaces : Replaces r h engine s after) (r' : Nat) (h' : Handle) :
    after.driver? r' h' =
      if r = r' ∧ h = h' then engine.bind (·.source) else s.driver? r' h' := by
  rw [driver?, replaces, apply_ite (Option.bind · _)]
  rfl

/-! ## Changes to loops -/

theorem descriptorOf?_set
    {loop : Nat} {l : ReadyLoop Ready}
    (found : s.loops[loop]? = some l) (changed : ReadyLoop Ready) (source : LoopSource) :
    ({ s with loops := s.loops.set loop changed } : Service).descriptorOf? source =
      if loop = source.loop then Assoc.get? changed.fds source.id
      else s.descriptorOf? source := by
  rw [descriptorOf?, descriptorOf?]
  dsimp only
  rw [List.getElem?_set]
  by_cases same : loop = source.loop
  · rw [if_pos same, if_pos same, if_pos (List.getElem?_eq_some_iff.mp found).1]
    rfl
  · rw [if_neg same, if_neg same]

theorem descriptorOf?_modify
    (loop : Nat) (change : ReadyLoop Ready → ReadyLoop Ready) (source : LoopSource) :
    ({ s with loops := s.loops.modify loop change } : Service).descriptorOf? source =
      s.loops[source.loop]?.bind fun l =>
        Assoc.get? (if loop = source.loop then change l else l).fds source.id := by
  rw [descriptorOf?]
  dsimp only
  rw [List.getElem?_modify]
  cases s.loops[source.loop]? <;> rfl

/-- What is cancelled is registered for nothing any more, and all else is as it was. -/
theorem descriptorOf?_cancel (cancelled : Option LoopSource) (source : LoopSource) :
    (s.cancel cancelled).descriptorOf? source =
      if cancelled = some source then none else s.descriptorOf? source := by
  cases cancelled with
  | none => rfl
  | some gone =>
      obtain ⟨loop, id⟩ := gone
      obtain ⟨loop', id'⟩ := source
      rw [cancel, descriptorOf?_modify, descriptorOf?]
      by_cases sameLoop : loop = loop'
      · subst sameLoop
        cases s.loops[loop]? with
        | none => simp
        | some l =>
            by_cases sameId : id = id' <;> simp [ReadyLoop.fds_cancel, Assoc.get?_erase, sameId]
      · simp [sameLoop]

/-- A registration is for the descriptor that it was made for, and has the number that comes
next. -/
theorem descriptorOf?_register
    {loop : Nat} {l : ReadyLoop Ready}
    (found : s.loops[loop]? = some l) (fd : Int) (callback : Ready) (source : LoopSource) :
    ({ s with loops := s.loops.set loop (l.register fd callback).2 } : Service).descriptorOf?
        source =
      if ⟨loop, l.lastId + 1⟩ = source then some fd else s.descriptorOf? source := by
  obtain ⟨loop', id⟩ := source
  rw [descriptorOf?_set found, descriptorOf?]
  by_cases sameLoop : loop = loop'
  · subst sameLoop
    rw [if_pos rfl, found, Option.bind_some]
    change Assoc.get? (Assoc.set l.fds (l.lastId + 1) fd) id = _
    rw [Assoc.get?_set]
    simp
  · simp [sameLoop]

theorem numbered_modify
    (numbered : s.LoopsNumbered)
    {changed : Nat} {change : ReadyLoop Ready → ReadyLoop Ready}
    (kept : ∀ l, l.Numbered → (change l).Numbered) :
    ({ s with loops := s.loops.modify changed change } : Service).LoopsNumbered := by
  intro loop l found
  dsimp only at found
  rw [List.getElem?_modify] at found
  cases old : s.loops[loop]? with
  | none => simp [old] at found
  | some before =>
      rw [old] at found
      obtain rfl := Option.some.inj found
      split
      · exact kept before (numbered loop before old)
      · exact numbered loop before old

theorem numbered_set
    (numbered : s.LoopsNumbered)
    (changed : Nat) {replaced : ReadyLoop Ready}
    (kept : replaced.Numbered) :
    ({ s with loops := s.loops.set changed replaced } : Service).LoopsNumbered := by
  intro loop l found
  dsimp only at found
  rw [List.getElem?_set] at found
  split at found
  · split at found
    · obtain rfl := Option.some.inj found
      exact kept
    · cases found
  · exact numbered loop l found

theorem numbered_cancel
    (numbered : s.LoopsNumbered) (source : Option LoopSource) :
    (s.cancel source).LoopsNumbered := by
  cases source with
  | none => exact numbered
  | some source => exact numbered_modify numbered fun l kept => kept.cancel source.id

/-! ## The invariant -/

/-- No two engines share a number, and none has one that is still to be given. -/
structure Apart (s : Service) : Prop where
  numbers : ∃ next, s.host.NumbersFrom next ∧ ∀ r h, s.contains r h = true → h.fd < next
  apart : ∀ r r' h, s.contains r h = true → s.contains r' h = true → r = r'

/-- Handles stay apart when no number is given back and no engine is opened. -/
theorem Apart.mono
    {after : Service}
    (apart : s.Apart)
    (numbers : ∀ next, s.host.NumbersFrom next → after.host.NumbersFrom next)
    (contains : ∀ r h, after.contains r h = true → s.contains r h = true) :
    after.Apart where
  numbers := by
    obtain ⟨next, from_, below⟩ := apart.numbers
    exact ⟨next, numbers next from_, fun r h here => below r h (contains r h here)⟩
  apart := fun r r' h here there => apart.apart r r' h (contains r h here) (contains r' h there)

/-- Engines and loops know of each other. -/
structure InOrder (s : Service) : Prop extends Apart s where
  registered : ∀ r h source, s.driver? r h = some source → s.descriptorOf? source = some h.fd
  driving : ∀ source fd, s.descriptorOf? source = some fd → ∃ r, s.driver? r ⟨fd⟩ = some source
  numbered : s.LoopsNumbered

namespace InOrder

variable {after : Service}

/-- What changes neither the engines that are driven nor the registrations keeps them in order. -/
theorem of_same
    (inOrder : s.InOrder)
    (apart : after.Apart)
    (driver : ∀ r h, after.driver? r h = s.driver? r h)
    (descriptor : ∀ source, after.descriptorOf? source = s.descriptorOf? source)
    (numbered : after.LoopsNumbered) :
    after.InOrder where
  toApart := apart
  registered := by
    intro r h source driven
    rw [driver] at driven
    rw [descriptor]
    exact inOrder.registered r h source driven
  driving := by
    intro source fd registered
    rw [descriptor] at registered
    obtain ⟨r, driven⟩ := inOrder.driving source fd registered
    exact ⟨r, by rw [driver, driven]⟩
  numbered := numbered

/-- One registration is for one descriptor, hence known to one engine only. -/
theorem eq_of_driver?
    (inOrder : s.InOrder)
    {r r' : Nat} {h h' : Handle} {source : LoopSource}
    (here : s.driver? r h = some source)
    (there : s.driver? r' h' = some source) :
    r = r' ∧ h = h' := by
  have same := inOrder.registered r h source here
  rw [inOrder.registered r' h' source there] at same
  have sameHandle : h = h' := by
    rw [Handle.mk.injEq]
    exact (Option.some.inj same).symm
  subst sameHandle
  exact ⟨inOrder.apart r r' h (contains_of_driver? here) (contains_of_driver? there), rfl⟩

/-- An engine may let go of its registration, whether it stays or goes itself. -/
theorem release
    (inOrder : s.InOrder) {engine : Option Engine}
    (replaces : Replaces r h engine s after)
    (present : s.contains r h = true)
    (detached : engine.bind (·.source) = none)
    (numbers : ∀ next, s.host.NumbersFrom next → after.host.NumbersFrom next)
    (descriptor : ∀ source, after.descriptorOf? source =
      if s.driver? r h = some source then none else s.descriptorOf? source)
    (numbered : after.LoopsNumbered) :
    after.InOrder where
  toApart := inOrder.toApart.mono numbers (replaces.contains_mono present)
  registered := by
    intro r' h' source driven
    rw [replaces.driver, detached] at driven
    split at driven
    · cases driven
    · rename_i other
      rw [descriptor, if_neg fun released => other (inOrder.eq_of_driver? released driven)]
      exact inOrder.registered r' h' source driven
  driving := by
    intro source fd registered
    rw [descriptor] at registered
    split at registered
    · cases registered
    · rename_i kept
      obtain ⟨r', driven⟩ := inOrder.driving source fd registered
      refine ⟨r', ?_⟩
      rw [replaces.driver, if_neg, driven]
      rintro ⟨rfl, rfl⟩
      exact kept driven
  numbered := numbered

/-- An engine that no loop drives may be registered anew. -/
theorem engage
    (inOrder : s.InOrder) {e : Engine} {source : LoopSource}
    (replaces : Replaces r h (some e) s after)
    (present : s.contains r h = true)
    (detached : s.driver? r h = none)
    (attached : e.source = some source)
    (fresh : s.descriptorOf? source = none)
    (host : after.host = s.host)
    (descriptor : ∀ other, after.descriptorOf? other =
      if source = other then some h.fd else s.descriptorOf? other)
    (numbered : after.LoopsNumbered) :
    after.InOrder := by
  have driver (r' : Nat) (h' : Handle) :
      after.driver? r' h' = if r = r' ∧ h = h' then some source else s.driver? r' h' := by
    rw [replaces.driver, Option.bind_some, attached]
  constructor
  case toApart =>
    exact inOrder.toApart.mono (by rw [host]; exact fun _ numbers => numbers)
      (replaces.contains_mono present)
  case registered =>
    intro r' h' other driven
    rw [driver] at driven
    rw [descriptor]
    split at driven
    · rename_i same
      obtain ⟨-, rfl⟩ := same
      rw [if_pos (Option.some.inj driven)]
    · have old := inOrder.registered r' h' other driven
      rw [if_neg, old]
      rintro rfl
      rw [fresh] at old
      cases old
  case driving =>
    intro other fd registered
    rw [descriptor] at registered
    split at registered
    · rename_i same
      obtain rfl := Option.some.inj registered
      exact ⟨r, by rw [driver, if_pos ⟨rfl, rfl⟩, same]⟩
    · obtain ⟨r', driven⟩ := inOrder.driving other fd registered
      refine ⟨r', ?_⟩
      rw [driver, if_neg, driven]
      rintro ⟨rfl, rfl⟩
      rw [detached] at driven
      cases driven
  case numbered => exact numbered

/-- An engine that is opened gets a number that no other one has. -/
theorem opens
    (inOrder : s.InOrder)
    (opens : Opens r s after) :
    after.InOrder := by
  cases opens with
  | refused numbers =>
      refine inOrder.of_same ?_ (fun _ _ => rfl) (fun _ => rfl) inOrder.numbered
      exact inOrder.toApart.mono numbers fun _ _ here => here
  | @opened host number present numbers =>
      obtain ⟨next, ⟨later, above, numbering⟩, below⟩ := inOrder.numbers
      obtain ⟨rfl, numbers⟩ := numbers later numbering
      have replaces := replaces_opened present host number
      have absent (r' : Nat) : s.contains r' ⟨number⟩ = false := by
        rw [Bool.eq_false_iff]
        intro here
        have bound := below r' ⟨number⟩ here
        dsimp only at bound
        omega
      refine inOrder.of_same ⟨⟨number + 1, numbers, ?_⟩, ?_⟩ ?_ (fun _ => rfl) inOrder.numbered
      · intro r' h' here
        rw [replaces.contains] at here
        split at here
        · rename_i same
          rw [← same.2]
          exact Int.lt_succ number
        · have bound := below r' h' here
          omega
      · intro r' r'' h' here there
        rw [replaces.contains] at here there
        by_cases new : (⟨number⟩ : Handle) = h'
        · subst new
          rw [absent] at here there
          have first : r = r' := by simpa using here
          have second : r = r'' := by simpa using there
          rw [← first, second]
        · rw [if_neg fun both => new both.2] at here there
          exact inOrder.apart r' r'' h' here there
      · intro r' h'
        rw [replaces.driver]
        split
        · rename_i same
          obtain ⟨rfl, rfl⟩ := same
          cases old : s.driver? r ⟨number⟩ with
          | none => rfl
          | some source =>
              have here := contains_of_driver? old
              rw [absent] at here
              cases here
        · rfl

theorem retables
    (inOrder : s.InOrder)
    (retables : Retables r h s after) :
    after.InOrder := by
  rcases retables with rfl | ⟨e, table, queues, found, rfl⟩
  · exact inOrder
  · have replaces := replaces_setEngine_withHost (h := h) (lt_of_engine? found)
      { s.host with queues } { e with table }
    refine inOrder.of_same ?_ ?_ (fun _ => rfl) inOrder.numbered
    · exact inOrder.toApart.mono (fun _ numbers => numbers)
        (replaces.contains_mono (contains_of_engine? found))
    · intro r' h'
      rw [replaces.driver]
      split
      · rename_i same
        obtain ⟨rfl, rfl⟩ := same
        rw [driver?, found]
        rfl
      · rfl

theorem close (inOrder : s.InOrder) (r : Nat) (h : Handle) : (s.close r h).InOrder := by
  rw [Service.close]
  split
  · exact inOrder
  · rename_i e found
    have replaces : Replaces r h none s ((s.mapEngines r (Assoc.erase · h)).cancel e.source) := by
      intro r' h'
      exact (engine?_cancel _ r' h').trans (replaces_erase r' h')
    have released : ((s.mapEngines r (Assoc.erase · h)).cancel e.source).InOrder := by
      refine inOrder.release replaces (contains_of_engine? found) rfl ?_ ?_ ?_
      · rw [host_cancel]
        exact fun _ numbers => numbers
      · intro source
        rw [descriptorOf?_cancel, driver?_of_engine? found]
        rfl
      · have kept : (s.mapEngines r (Assoc.erase · h)).LoopsNumbered := inOrder.numbered
        exact numbered_cancel kept e.source
    refine released.of_same ?_ (fun _ _ => rfl) (fun _ => rfl) released.numbered
    exact released.toApart.mono (fun _ numbers => numbers) fun _ _ here => here

theorem detach (inOrder : s.InOrder) (r : Nat) (h : Handle) : (s.detach r h).2.InOrder := by
  rw [Service.detach]
  split
  · exact inOrder
  · rename_i e found
    have replaces : Replaces r h (some { e with source := none }) s
        ((s.setEngine r h { e with source := none }).cancel e.source) := by
      intro r' h'
      exact (engine?_cancel _ r' h').trans (replaces_setEngine (lt_of_engine? found) _ r' h')
    refine inOrder.release replaces (contains_of_engine? found) rfl ?_ ?_ ?_
    · rw [host_cancel]
      exact fun _ numbers => numbers
    · intro source
      rw [descriptorOf?_cancel, driver?_of_engine? found]
      rfl
    · have kept : (s.setEngine r h { e with source := none }).LoopsNumbered := inOrder.numbered
      exact numbered_cancel kept e.source

end InOrder

/-! ## Attaching -/

/-- What may come of the step in which a loop takes the callback of an engine. -/
inductive Joins (r : Nat) (h : Handle) (before : Service) : Except Fault Unit × Service → Prop
  | refused {fault : Fault} {after : Service}
      (host : after.host = before.host) (registries : after.registries = before.registries)
      (descriptor : ∀ source, after.descriptorOf? source = before.descriptorOf? source)
      (numbered : after.LoopsNumbered) : Joins r h before (.error fault, after)
  | attached {e : Engine} {source : LoopSource} {after : Service}
      (found : before.engine? r h = some e) (detached : e.source = none)
      (fresh : before.descriptorOf? source = none) (host : after.host = before.host)
      (replaces : Replaces r h (some { e with source := some source }) before after)
      (descriptor : ∀ other, after.descriptorOf? other =
        if source = other then some h.fd else before.descriptorOf? other)
      (numbered : after.LoopsNumbered) : Joins r h before (.ok (), after)

/-- A registration that was made in vain is cancelled at once. -/
theorem joins_join
    (numbered : s.LoopsNumbered) (loop : Nat) :
    Joins r h s (s.join r h loop) := by
  rw [join]
  split
  · exact .refused rfl rfl (fun _ => rfl) numbered
  · rename_i l present
    have fresh : s.descriptorOf? ⟨loop, l.lastId + 1⟩ = none := by
      rw [descriptorOf?, present]
      exact (numbered loop l present).get?_fresh
    have registered := descriptorOf?_register present h.fd ⟨r, h⟩
    have stillNumbered : LoopsNumbered
        { s with loops := s.loops.set loop (l.register h.fd ⟨r, h⟩).2 } :=
      numbered_set numbered loop ((numbered loop l present).register h.fd ⟨r, h⟩)
    have cancelled (source : LoopSource) :
        (({ s with loops := s.loops.set loop (l.register h.fd ⟨r, h⟩).2 } : Service).cancel
          (some ⟨loop, l.lastId + 1⟩)).descriptorOf? source = s.descriptorOf? source := by
      rw [descriptorOf?_cancel, registered]
      by_cases new : (⟨loop, l.lastId + 1⟩ : LoopSource) = source
      · rw [if_pos (congrArg some new), ← new, fresh]
      · rw [if_neg fun same => new (Option.some.inj same), if_neg new]
    dsimp only
    split
    · exact .refused (host_cancel _) rfl cancelled (numbered_cancel stillNumbered _)
    · rename_i e found
      split
      · exact .refused (host_cancel _) rfl cancelled (numbered_cancel stillNumbered _)
      · rename_i detached
        refine .attached found (by simpa using detached) fresh rfl ?_ registered stillNumbered
        exact replaces_setEngine (lt_of_engine? found) _

theorem InOrder.join
    (inOrder : s.InOrder) (r : Nat) (h : Handle) (loop : Nat) :
    (s.join r h loop).2.InOrder := by
  have joins : Joins r h s (s.join r h loop) := joins_join inOrder.numbered loop
  generalize s.join r h loop = outcome at joins ⊢
  cases joins with
  | @refused fault after host registries descriptor numbered =>
      have engine (r' : Nat) (h' : Handle) : after.engine? r' h' = s.engine? r' h' := by
        rw [engine?, registries, engine?]
      refine inOrder.of_same ?_ ?_ descriptor numbered
      · refine inOrder.toApart.mono ?_ ?_
        · rw [host]
          exact fun _ numbers => numbers
        · intro r' h' here
          rwa [contains, engine] at here
      · intro r' h'
        rw [driver?, engine, driver?]
  | attached found detached fresh host replaces descriptor numbered =>
      refine inOrder.engage replaces (contains_of_engine? found) ?_ rfl fresh host descriptor
        numbered
      rw [driver?_of_engine? found, detached]

/-- A loop that is taken from or given back to keeps its registrations. -/
theorem InOrder.of_fds
    (inOrder : s.InOrder) {loops : List (ReadyLoop Ready)}
    (descriptor : ∀ source,
      ({ s with loops } : Service).descriptorOf? source = s.descriptorOf? source)
    (numbered : ({ s with loops } : Service).LoopsNumbered) :
    ({ s with loops } : Service).InOrder := by
  refine inOrder.of_same ?_ (fun _ _ => rfl) descriptor numbered
  exact inOrder.toApart.mono (fun _ numbers => numbers) fun _ _ here => here

theorem get?_fds_of_empty
    {loops : List (ReadyLoop Ready)}
    (empty : ∀ l ∈ loops, l.fds = []) (loop id : Nat) :
    (loops[loop]?.bind fun l => Assoc.get? l.fds id) = none := by
  rw [Option.bind_eq_none_iff]
  intro l found
  rw [empty l (List.mem_of_getElem? found)]
  rfl

theorem InOrder.addLoop
    (inOrder : s.InOrder) (kind : LoopKind) :
    ({ s with loops := s.loops ++ [.empty kind] } : Service).InOrder := by
  refine inOrder.of_fds ?_ ?_
  · intro source
    rw [descriptorOf?, descriptorOf?]
    by_cases old : source.loop < s.loops.length
    · rw [List.getElem?_append_left old]
    · rw [List.getElem?_append_right (Nat.not_lt.mp old), List.getElem?_eq_none (Nat.not_lt.mp old)]
      exact get?_fds_of_empty (by simp [ReadyLoop.empty]) _ _
  · intro loop l found
    rcases List.mem_append.mp (List.mem_of_getElem? found) with old | new
    · obtain ⟨loop', found⟩ := List.mem_iff_getElem?.mp old
      exact inOrder.numbered loop' l found
    · rw [List.mem_singleton.mp new]
      exact ReadyLoop.numbered_empty kind

/-- Every step of a service keeps engines and loops in order. -/
theorem InOrder.step
    {after : Service}
    (step : s.Step after)
    (inOrder : s.InOrder) :
    after.InOrder := by
  cases step with
  | host step =>
      refine inOrder.of_same ?_ (fun _ _ => rfl) (fun _ => rfl) inOrder.numbered
      exact inOrder.toApart.mono (fun _ numbers => numbers.step step) fun _ _ here => here
  | addRegistry root probe =>
      refine inOrder.of_same ?_ ?_ (fun _ => rfl) inOrder.numbered
      · refine inOrder.toApart.mono (fun _ numbers => numbers) fun r h here => ?_
        rwa [contains, engine?_addRegistry] at here
      · intro r h
        rw [driver?, engine?_addRegistry, driver?]
  | addLoop kind => exact inOrder.addLoop kind
  | init r exhausted => exact inOrder.opens (opens_init exhausted)
  | close r h => exact inOrder.close r h
  | subscribe r h path who data mask =>
      exact inOrder.retables (retables_subscribe path who data mask)
  | unsubscribe r h path who => exact inOrder.retables (retables_unsubscribe path who)
  | join r h loop => exact inOrder.join r h loop
  | detach r h => exact inOrder.detach r h
  | @take loop id callback taken found =>
      rw [Option.bind_eq_some_iff] at found
      obtain ⟨l, present, found⟩ := found
      rw [ReadyLoop.take?, Option.map_eq_some_iff] at found
      obtain ⟨callback, -, equal⟩ := found
      cases equal
      have numbered := inOrder.numbered loop l present
      refine inOrder.of_fds ?_ <|
        numbered_set inOrder.numbered loop ⟨numbered.distinct, numbered.issued⟩
      intro source
      rw [descriptorOf?_set present, descriptorOf?]
      split
      · rename_i same
        rw [← same, present, Option.bind_some]
      · rfl
  | finish loop id callback =>
      refine inOrder.of_fds ?_ ?_
      · intro source
        rw [descriptorOf?_modify, descriptorOf?]
        cases s.loops[source.loop]? with
        | none => rfl
        | some l =>
            dsimp only [Option.bind_some]
            split
            · rw [ReadyLoop.fds_finish]
            · rfl
      · exact numbered_modify inOrder.numbered fun l kept => kept.finish id callback

theorem inOrder_fresh (next : Int) (loops : List LoopKind) :
    (fresh (.increasing next) loops).InOrder := by
  have noEngine (r : Nat) (h : Handle) : (fresh (.increasing next) loops).engine? r h = none := rfl
  have noDescriptor (source : LoopSource) :
      (fresh (.increasing next) loops).descriptorOf? source = none := by
    refine get?_fds_of_empty ?_ _ _
    intro l member
    obtain ⟨kind, -, rfl⟩ := List.mem_map.mp member
    rfl
  constructor
  case toApart =>
    refine ⟨⟨next, ⟨next, Int.le_refl next, rfl⟩, ?_⟩, ?_⟩
    · intro r h here
      rw [contains, noEngine] at here
      cases here
    · intro r r' h here
      rw [contains, noEngine] at here
      cases here
  case registered =>
    intro r h source driven
    rw [driver?, noEngine] at driven
    cases driven
  case driving =>
    intro source fd registered
    rw [noDescriptor] at registered
    cases registered
  case numbered =>
    intro loop l found
    obtain ⟨kind, -, rfl⟩ := List.mem_map.mp (List.mem_of_getElem? found)
    exact ReadyLoop.numbered_empty kind

/-! ## How many registrations there are -/

/-- Over all loops together, an engine has the registration that drives it and no other one. -/
theorem InOrder.registrationsOf_eq
    (inOrder : s.InOrder)
    {e : Engine}
    (found : s.engine? r h = some e) :
    s.registrationsOf h.fd = e.source.toList := by
  have perm : (s.registrationsOf h.fd).Perm e.source.toList := by
    rw [List.perm_ext_iff_of_nodup (nodup_registrationsOf inOrder.numbered h.fd)
      (by cases e.source <;> simp)]
    intro source
    rw [mem_registrationsOf_iff inOrder.numbered, Option.mem_toList]
    rw [← driver?_of_engine? found]
    constructor
    · intro registered
      obtain ⟨r', driven⟩ := inOrder.driving source h.fd registered
      have here := contains_of_driver? driven
      rw [← inOrder.apart r r' h (contains_of_engine? found) here] at driven
      exact driven
    · exact inOrder.registered r h source
  cases driven : e.source with
  | none =>
      rw [driven] at perm
      exact List.perm_nil.mp perm
  | some source =>
      rw [driven] at perm
      exact List.perm_singleton.mp perm

/-- Nothing is registered for a descriptor that no engine has. -/
theorem InOrder.registrationsOf_of_closed
    (inOrder : s.InOrder)
    (closed : ∀ r, s.contains r h = false) :
    s.registrationsOf h.fd = [] := by
  rw [List.eq_nil_iff_forall_not_mem]
  intro source member
  rw [mem_registrationsOf_iff inOrder.numbered] at member
  obtain ⟨r, driven⟩ := inOrder.driving source h.fd member
  have here := contains_of_driver? driven
  rw [closed] at here
  cases here

end Service

end MarkerWatch
