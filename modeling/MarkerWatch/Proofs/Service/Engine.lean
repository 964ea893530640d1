import MarkerWatch.Proofs.Service.Step

/-!
# Engines of a service after a step

Which engine a handle has is decided by a few changes only: opening one, closing one, and replacing
one by itself with another table or another registration.  The lemmas here say so for each call, so
that invariants over engines need not look into registries.

A subscription passes through several calls on the kernel.  Whatever each single call keeps is kept
by the whole of it.
-/

namespace MarkerWatch

/-! ## Calls of a watch table -/

namespace WatchTable

variable {κ σ δ : Type} [WatchKernel κ] [DecidableEq σ] {kept : κ → Prop}
  (adds : ∀ kernel path mask, kept kernel → kept (WatchKernel.addWatch kernel path mask).2)
  (removes : ∀ kernel watch, kept kernel → kept (WatchKernel.removeWatch kernel watch).2)

include adds

/-- What every call on a kernel keeps is kept when a mask is put on a watch. -/
theorem install_keeps
    {kernel : κ} (holds : kept kernel) (path : Path) (mask : Mask) :
    kept (install kernel path mask).2 := by
  have added := adds kernel path mask holds
  rw [install]
  split
  · exact holds
  · split <;> rename_i found <;> rwa [found] at added

include removes

omit [DecidableEq σ] in
/-- What every call on a kernel keeps is kept when a watch is settled for its table again. -/
theorem restore_keeps
    (table : WatchTable σ δ) {kernel : κ} (holds : kept kernel) (path : Path) (watch : WatchId) :
    kept (table.restore kernel path watch) := by
  rw [restore]
  split
  · exact removes kernel watch holds
  · exact adds kernel path _ holds

omit [DecidableEq σ] in
/-- What every call on a kernel keeps is kept when a watch is left to those who stay. -/
theorem leave_keeps
    {kernel : κ} (holds : kept kernel) (path : Path) (watch : WatchId)
    (survivors : List (Subscription σ δ)) :
    kept (leave kernel path watch survivors).2 := by
  have added := adds kernel path (Mask.union (survivors.map (·.mask))) holds
  rw [leave]
  split
  · exact removes kernel watch holds
  · split <;> rename_i found <;> rwa [found] at added

/-- What every call on a kernel keeps is kept by a subscription. -/
theorem subscribe_keeps
    (table : WatchTable σ δ) {kernel : κ} (holds : kept kernel)
    (path : Path) (who : σ) (data : δ) (mask : Mask) :
    kept (table.subscribe kernel path who data mask).2.2 := by
  have probed := adds kernel path Mask.probe holds
  rw [subscribe]
  split
  · split
    · rename_i found
      rwa [found] at probed
    · rename_i watch next found
      rw [found] at probed
      split
      · exact install_keeps adds probed path _
      · have installed := install_keeps adds probed path (table.aggregate watch ∪ mask)
        split
        · rename_i found
          rw [found] at installed
          exact restore_keeps adds removes table installed path watch
        · rename_i found
          rwa [found] at installed
  · exact holds

/-- What every call on a kernel keeps is kept when subscriptions are ended. -/
theorem unsubscribe_keeps
    (table : WatchTable σ δ) {kernel : κ} (holds : kept kernel)
    (path : Path) (who : Option σ) :
    kept (table.unsubscribe kernel path who).2.2 := by
  have probed := adds kernel path Mask.probe holds
  rw [unsubscribe]
  split
  · rename_i found
    rwa [found] at probed
  · rename_i watch next found
    rw [found] at probed
    have left := leave_keeps adds removes probed path watch
      ((table.on watch).filter (!selects watch who ·))
    dsimp only
    split
    · rename_i found
      rw [found] at left
      exact restore_keeps adds removes table left path watch
    · rename_i found
      rw [found] at left
      split <;> exact left

end WatchTable

/-! ## Numbers of descriptors -/

namespace Host

/-- Numbers from the given one on have not been given to descriptors yet. -/
def NumbersFrom (next : Int) (host : Host) : Prop :=
  ∃ later, next ≤ later ∧ host.numbering = .increasing later

variable {next : Int} {host : Host}

/-- Only the numbering of a host matters to which numbers are still to be given. -/
theorem NumbersFrom.of_numbering
    {after : Host}
    (numbers : host.NumbersFrom next)
    (same : after.numbering = host.numbering) :
    after.NumbersFrom next := by
  obtain ⟨later, above, numbering⟩ := numbers
  exact ⟨later, above, same.trans numbering⟩

/-- A descriptor that is opened takes a number, and those after it are still to be given. -/
theorem NumbersFrom.openDescriptor
    (numbers : host.NumbersFrom next)
    (descriptor : Descriptor) :
    (host.openDescriptor descriptor).2.NumbersFrom next := by
  obtain ⟨later, above, numbering⟩ := numbers
  refine ⟨later + 1, by omega, ?_⟩
  rw [Host.openDescriptor]
  dsimp only
  rw [numbering]
  rfl

/-- Only the queues of a host are changed by setting a watch. -/
theorem yields_watch (fd : Int) (path : Path) (mask : Mask) :
    Yields (host.watch fd path mask) fun answer => ∃ queues, answer.2 = { host with queues } := by
  unfold watch
  refine .guard fun _ => .ensure fun _ => .guard fun _ => ?_
  refine .bind fun place _ => .bind fun file _ => ?_
  refine .guard fun _ => .guard fun _ => ?_
  exact .pure ⟨_, rfl⟩

/-- Only the queues of a host are changed by ending a watch. -/
theorem yields_unwatch (fd : Int) (watch : WatchId) :
    Yields (host.unwatch fd watch) fun after => ∃ queues, after = { host with queues } := by
  refine .bind fun place _ => ?_
  dsimp only
  split
  · exact .pure ⟨_, rfl⟩
  · exact .throw

/-- The kernel of a host of which only the queues have changed. -/
def Requeued (host : Host) (fd : Int) (kernel : HostQueue) : Prop :=
  ∃ queues, kernel = ⟨{ host with queues }, fd⟩

/-- A watch that is added through a queue changes the queues of its host only. -/
theorem Requeued.addWatch
    {fd : Int} {kernel : HostQueue}
    (requeued : host.Requeued fd kernel) (path : Path) (mask : Mask) :
    host.Requeued fd (HostQueue.addWatch kernel path mask).2 := by
  obtain ⟨queues, rfl⟩ := requeued
  rw [HostQueue.addWatch]
  split
  · exact ⟨queues, rfl⟩
  · split
    · rename_i watch after set
      obtain ⟨queues, rfl⟩ := yields_watch fd path mask (watch, after) set
      exact ⟨queues, rfl⟩
    · exact ⟨queues, rfl⟩

/-- A watch that is removed through a queue changes the queues of its host only. -/
theorem Requeued.removeWatch
    {fd : Int} {kernel : HostQueue}
    (requeued : host.Requeued fd kernel) (watch : WatchId) :
    host.Requeued fd (HostQueue.removeWatch kernel watch).2 := by
  obtain ⟨queues, rfl⟩ := requeued
  rw [HostQueue.removeWatch]
  split
  · rename_i after removed
    obtain ⟨queues, rfl⟩ := yields_unwatch fd watch after removed
    exact ⟨queues, rfl⟩
  · exact ⟨queues, rfl⟩

theorem Requeued.refl (host : Host) (fd : Int) : host.Requeued fd ⟨host, fd⟩ :=
  ⟨host.queues, rfl⟩

/-- A read gives no number. -/
theorem numbering_read (fd : Int) (room : Nat) :
    (host.read fd room).2.numbering = host.numbering := by
  rw [read]
  split
  · rfl
  · rfl
  · split
    · rfl
    · split
      · rfl
      · dsimp only
        split <;> rfl

theorem numbering_unfeed (fd : Int) :
    (host.unfeed fd).numbering = host.numbering := by
  rw [unfeed]
  split <;> rfl

/-- No number is given to two descriptors. -/
theorem NumbersFrom.step
    {after : Host}
    (numbers : host.NumbersFrom next)
    (step : host.Step after) :
    after.NumbersFrom next := by
  cases step with
  | hear heard => exact numbers.of_numbering heard.numbering
  | openDescriptor descriptor => exact numbers.openDescriptor descriptor
  | openQueue =>
      have renamed : NumbersFrom next { host with
          queues := Assoc.set host.queues host.nextQueue .empty
          nextQueue := host.nextQueue + 1 } := numbers
      exact renamed.openDescriptor _
  | read fd room => exact numbers.of_numbering (numbering_read fd room)
  | watch fd path mask =>
      obtain ⟨queues, equal⟩ := (Requeued.refl host fd).addWatch path mask
      rw [equal]
      exact numbers
  | unwatch fd watch =>
      obtain ⟨queues, equal⟩ := (Requeued.refl host fd).removeWatch watch
      rw [equal]
      exact numbers
  | feed fd feed => exact numbers
  | unfeed fd => exact numbers.of_numbering (numbering_unfeed fd)

end Host

/-! ## Engines -/

namespace Service

variable {s : Service} {r : Nat} {h : Handle}

/-- Engines are those of registries that are there. -/
theorem lt_of_engine?
    {e : Engine}
    (found : s.engine? r h = some e) :
    r < s.registries.length := by
  rw [engine?, Option.bind_eq_some_iff] at found
  obtain ⟨registry, present, -⟩ := found
  exact (List.getElem?_eq_some_iff.mp present).1

/-- A registry contains the handles that have an engine. -/
theorem contains_of_engine?
    {e : Engine}
    (found : s.engine? r h = some e) :
    s.contains r h = true := by
  rw [contains, found]
  rfl

/-- Only an engine that is there can say how it is driven. -/
theorem exists_engine_of_driving
    {driving : Driving}
    (answer : s.driving r h = .ok driving) :
    ∃ e, s.engine? r h = some e ∧ e.driving = driving := by
  rw [Service.driving, ask] at answer
  split at answer
  · rename_i e found
    exact ⟨e, found, Except.ok.inj answer⟩
  · cases answer

/-- A change to the engines of one registry is seen in that registry only. -/
theorem engine?_mapEngines
    (change : Assoc Handle Engine → Assoc Handle Engine) (r' : Nat) (h' : Handle) :
    (s.mapEngines r change).engine? r' h' =
      if r = r' then
        s.registries[r]?.bind fun registry => Assoc.get? (change registry.engines) h'
      else s.engine? r' h' := by
  rw [engine?, mapEngines, List.getElem?_modify]
  split
  · rename_i same
    subst same
    cases s.registries[r]? <;> rfl
  · rw [engine?]
    cases s.registries[r']? <;> rfl

/-- A service in which one handle has another engine than before, or none. -/
def Replaces (r : Nat) (h : Handle) (engine : Option Engine) (before after : Service) : Prop :=
  ∀ r' h', after.engine? r' h' = if r = r' ∧ h = h' then engine else before.engine? r' h'

/-- A handle whose engine was replaced is contained exactly if it has got one, and others as
before. -/
theorem Replaces.contains
    {engine : Option Engine} {after : Service}
    (replaces : Replaces r h engine s after) (r' : Nat) (h' : Handle) :
    after.contains r' h' = if r = r' ∧ h = h' then engine.isSome else s.contains r' h' := by
  rw [Service.contains, replaces, apply_ite Option.isSome]
  rfl

/-- Where an engine is replaced that was there, no handle is contained that was not before. -/
theorem Replaces.contains_mono
    {engine : Option Engine} {after : Service}
    (replaces : Replaces r h engine s after)
    (present : s.contains r h = true) (r' : Nat) (h' : Handle)
    (here : after.contains r' h' = true) :
    s.contains r' h' = true := by
  rw [replaces.contains] at here
  split at here
  · rename_i same
    obtain ⟨rfl, rfl⟩ := same
    exact present
  · exact here

/-- Setting the engine of a handle replaces it, and no other one. -/
theorem replaces_setEngine
    (present : r < s.registries.length) (e : Engine) :
    Replaces r h (some e) s (s.setEngine r h e) := by
  intro r' h'
  rw [setEngine, engine?_mapEngines, List.getElem?_eq_getElem present, Option.bind_some,
    Assoc.get?_set]
  by_cases sameRegistry : r = r'
  · subst sameRegistry
    rw [engine?, List.getElem?_eq_getElem present]
    by_cases sameHandle : h = h' <;> simp [sameHandle]
  · simp [sameRegistry]

/-- What else becomes of the host does not matter to engines. -/
theorem replaces_setEngine_withHost
    (present : r < s.registries.length) (host : Host) (e : Engine) :
    Replaces r h (some e) s (({ s with host } : Service).setEngine r h e) :=
  replaces_setEngine present e

/-- Erasing a handle leaves it without an engine, and all others with theirs. -/
theorem replaces_erase : Replaces r h none s (s.mapEngines r (Assoc.erase · h)) := by
  intro r' h'
  rw [engine?_mapEngines]
  by_cases sameRegistry : r = r'
  · subst sameRegistry
    rw [engine?]
    cases s.registries[r]? with
    | none => simp
    | some registry =>
        rw [Option.bind_some, Option.bind_some, Assoc.get?_erase]
        by_cases sameHandle : h = h' <;> simp [sameHandle]
  · simp [sameRegistry]

/-- A registry that is added has no engines yet, and is counted after those that were there. -/
theorem engine?_addRegistry (root : Path) (probe : Release.Probe) (r' : Nat) (h' : Handle) :
    (s.addRegistry root probe).engine? r' h' = s.engine? r' h' := by
  rw [engine?, engine?, addRegistry]
  by_cases old : r' < s.registries.length
  · rw [List.getElem?_append_left old]
  · rw [List.getElem?_eq_none (Nat.not_lt.mp old), List.getElem?_append_right (Nat.not_lt.mp old)]
    cases r' - s.registries.length <;> rfl

@[simp]
theorem engine?_cancel (source : Option LoopSource) (r' : Nat) (h' : Handle) :
    (s.cancel source).engine? r' h' = s.engine? r' h' := by
  cases source <;> rfl

@[simp]
theorem host_cancel (source : Option LoopSource) : (s.cancel source).host = s.host := by
  cases source <;> rfl

/-! ## What the calls do -/

/-- A service in which an engine may have got another table, and the host other queues. -/
def Retables (r : Nat) (h : Handle) (before after : Service) : Prop :=
  after = before ∨
    ∃ e table queues, before.engine? r h = some e ∧
      after = { before with host := { before.host with queues } }.setEngine r h { e with table }

/-- A subscription changes the table of one engine and the queues of the host at most. -/
theorem retables_subscribe
    (path : Path) (who : Subscriber) (data : Payload) (mask : Mask) :
    Retables r h s (s.subscribeFile r h path who data mask).2 := by
  rw [subscribeFile]
  split
  · exact .inl rfl
  · split
    · exact .inl rfl
    · rename_i e found
      have requeued : s.host.Requeued h.fd
          (e.table.subscribe (⟨s.host, h.fd⟩ : HostQueue) path who data mask).2.2 :=
        e.table.subscribe_keeps (fun _ path mask kept => kept.addWatch path mask)
          (fun _ watch kept => kept.removeWatch watch) (.refl s.host h.fd) path who data mask
      generalize e.table.subscribe (⟨s.host, h.fd⟩ : HostQueue) path who data mask = outcome
        at requeued
      obtain ⟨answer, table, kernel⟩ := outcome
      obtain ⟨queues, rfl⟩ := requeued
      exact .inr ⟨e, table, queues, found, rfl⟩

/-- Ending subscriptions changes the table of one engine and the queues of the host at most. -/
theorem retables_unsubscribe (path : Path) (who : Option Subscriber) :
    Retables r h s (s.unsubscribeFile r h path who).2 := by
  rw [unsubscribeFile]
  split
  · exact .inl rfl
  · split
    · exact .inl rfl
    · split
      · exact .inl rfl
      · rename_i e found
        have requeued : s.host.Requeued h.fd
            (e.table.unsubscribe (⟨s.host, h.fd⟩ : HostQueue) path who).2.2 :=
          e.table.unsubscribe_keeps (fun _ path mask kept => kept.addWatch path mask)
            (fun _ watch kept => kept.removeWatch watch) (.refl s.host h.fd) path who
        generalize e.table.unsubscribe (⟨s.host, h.fd⟩ : HostQueue) path who = outcome
          at requeued
        obtain ⟨answer, table, kernel⟩ := outcome
        obtain ⟨queues, rfl⟩ := requeued
        exact .inr ⟨e, table, queues, found, rfl⟩

/-- A service in which an engine may have been opened with the number that came next. -/
inductive Opens (r : Nat) (before : Service) : Service → Prop
  | refused {host : Host}
      (numbers : ∀ next, before.host.NumbersFrom next → host.NumbersFrom next) :
      Opens r before { before with host }
  | opened {host : Host} {number : Int} (present : r < before.registries.length)
      (numbers : ∀ next, before.host.numbering = .increasing next →
        number = next ∧ host.NumbersFrom (next + 1)) :
      Opens r before ({ before with host }.setEngine r ⟨number⟩ (.fresh before.host.nextQueue))

/-- An engine that is opened is a fresh one on the queue that came next. -/
theorem replaces_opened
    (present : r < s.registries.length) (host : Host) (number : Int) :
    Replaces r ⟨number⟩ (some (.fresh s.host.nextQueue)) s
      (({ s with host } : Service).setEngine r ⟨number⟩ (.fresh s.host.nextQueue)) :=
  replaces_setEngine_withHost present host _

/-- A request to open an engine is refused at one of its checks, or opens one with the next
number. -/
theorem opens_init (exhausted : Bool) : Opens r s (s.init r exhausted).2 := by
  have untouched : Opens r s { s with host := s.host } := .refused fun _ numbers => numbers
  rw [init]
  split
  · exact untouched
  · rename_i registry present
    split
    · exact untouched
    · split
      · exact untouched
      · have heard : Host.Hears (fun _ => True) s.host.openQueue.2
            (s.host.openQueue.2.prepareRoot registry.root).2 :=
          s.host.openQueue.2.prepareRoot_hears registry.root
        dsimp only
        split <;> rename_i prepared <;> rw [prepared] at heard
        · refine .refused fun next numbers => ?_
          exact (numbers.step (.openQueue s.host)).of_numbering heard.numbering
        · refine .opened (List.getElem?_eq_some_iff.mp present).1 fun next numbering => ?_
          have advanced : s.host.openQueue.2.numbering = .increasing (next + 1) := by
            change s.host.numbering.advance = _
            rw [numbering]
            rfl
          constructor
          · change s.host.numbering.next _ = next
            rw [numbering]
            rfl
          · exact ⟨next + 1, Int.le_refl _, heard.numbering.trans advanced⟩

/-! ## Handles that get an engine -/

/-- An engine with another table is no new one. -/
theorem Retables.contains
    {after : Service}
    (retables : Retables r h s after)
    {r' : Nat} {h' : Handle}
    (here : after.contains r' h' = true) :
    s.contains r' h' = true := by
  rcases retables with rfl | ⟨e, table, queues, found, rfl⟩
  · exact here
  · exact (replaces_setEngine (lt_of_engine? found) _).contains_mono
      (contains_of_engine? found) r' h' here

/-- Closing an engine leaves those that were there before, but for the one that is closed. -/
theorem contains_of_close
    {r' : Nat} {h' : Handle}
    (here : (s.close r h).contains r' h' = true) :
    s.contains r' h' = true := by
  rw [close] at here
  split at here
  · exact here
  · rename_i e found
    dsimp only [contains] at here
    change ((s.mapEngines r (Assoc.erase · h)).cancel e.source).contains r' h' = true at here
    rw [contains, engine?_cancel] at here
    exact replaces_erase.contains_mono (contains_of_engine? found) r' h' here

theorem contains_of_join
    {loop r' : Nat} {h' : Handle}
    (here : (s.join r h loop).2.contains r' h' = true) :
    s.contains r' h' = true := by
  rw [join] at here
  split at here
  · exact here
  · dsimp only at here
    split at here
    · rwa [contains, engine?_cancel] at here
    · rename_i e found
      split at here
      · rwa [contains, engine?_cancel] at here
      · exact (replaces_setEngine (lt_of_engine? found) _).contains_mono
          (contains_of_engine? found) r' h' here

theorem contains_of_detach
    {r' : Nat} {h' : Handle}
    (here : (s.detach r h).2.contains r' h' = true) :
    s.contains r' h' = true := by
  rw [detach] at here
  split at here
  · exact here
  · rename_i e found
    rw [contains, engine?_cancel] at here
    exact (replaces_setEngine (lt_of_engine? found) _).contains_mono
      (contains_of_engine? found) r' h' here

/-- A handle gets an engine only with a number that was not given before. -/
theorem Step.contains
    {after : Service}
    (step : s.Step after)
    {r' : Nat} {h' : Handle}
    (here : after.contains r' h' = true) :
    s.contains r' h' = true ∨ ∀ next, s.host.NumbersFrom next → next ≤ h'.fd := by
  cases step with
  | host | addLoop | take | finish => exact .inl here
  | addRegistry root probe =>
      rw [Service.contains, engine?_addRegistry] at here
      exact .inl here
  | init r exhausted =>
      have opens : Opens r s (s.init r exhausted).2 := opens_init exhausted
      generalize (s.init r exhausted).2 = after at opens here
      cases opens with
      | refused numbers => exact .inl here
      | @opened host number present numbers =>
          rw [(replaces_opened present host number).contains] at here
          split at here
          · rename_i same
            refine .inr fun next from_ => ?_
            obtain ⟨later, above, numbering⟩ := from_
            rw [← same.2, (numbers later numbering).1]
            exact above
          · exact .inl here
  | close r h => exact .inl (contains_of_close here)
  | subscribe r h path who data mask =>
      exact .inl ((retables_subscribe path who data mask).contains here)
  | unsubscribe r h path who => exact .inl ((retables_unsubscribe path who).contains here)
  | join r h loop => exact .inl (contains_of_join here)
  | detach r h => exact .inl (contains_of_detach here)

/-- Numbers that were given out are not given again by any step. -/
theorem Step.numbersFrom
    {after : Service} {next : Int}
    (step : s.Step after)
    (numbers : s.host.NumbersFrom next) :
    after.host.NumbersFrom next := by
  have retabled {r : Nat} {h : Handle} {after : Service} (retables : Retables r h s after) :
      after.host.NumbersFrom next := by
    rcases retables with rfl | ⟨e, table, queues, found, rfl⟩ <;> exact numbers
  cases step with
  | host step => exact numbers.step step
  | addRegistry | addLoop | take | finish => exact numbers
  | init r exhausted =>
      have opens : Opens r s (s.init r exhausted).2 := opens_init exhausted
      generalize (s.init r exhausted).2 = after at opens
      cases opens with
      | refused later => exact later next numbers
      | opened present later =>
          obtain ⟨given, above, numbering⟩ := numbers
          obtain ⟨last, beyond, numbering⟩ := (later given numbering).2
          exact ⟨last, by omega, numbering⟩
  | close r h =>
      rw [Service.close]
      split
      · exact numbers
      · dsimp only
        rw [host_cancel]
        exact numbers
  | subscribe r h path who data mask => exact retabled (retables_subscribe path who data mask)
  | unsubscribe r h path who => exact retabled (retables_unsubscribe path who)
  | join r h loop =>
      rw [Service.join]
      split
      · exact numbers
      · dsimp only
        split
        · exact numbers
        · split <;> exact numbers
  | detach r h =>
      rw [Service.detach]
      split
      · exact numbers
      · rw [host_cancel]
        exact numbers

/-- With numbers that are given only once, a handle that has lost its engine gets none again. -/
theorem Steps.contains
    {after : Service} {next : Int}
    (steps : Steps s after)
    (numbers : s.host.NumbersFrom next) (old : h.fd < next)
    (here : after.contains r h = true) :
    s.contains r h = true := by
  induction steps with
  | refl => exact here
  | tail earlier last ih =>
      have still := Steps.induction Step.numbersFrom earlier numbers
      rcases last.contains here with before | new
      · exact ih before
      · exact absurd (new next still) (by omega)

/-! ## Root directories -/

section

variable {after : Service}

/-- The root directories of the registries. -/
def roots (s : Service) : List Path :=
  s.registries.map (·.root)

theorem root_eq_getElem? (s : Service) (r : Nat) :
    s.root r = s.roots[r]?.getD (Path.ofString "") := by
  rw [root, roots, List.getElem?_map]

/-- As long as roots are only added, a registry that was there has the root that it had. -/
theorem root_eq_of_roots
    (registered : r < s.registries.length)
    (roots : s.roots <+: after.roots) :
    after.root r = s.root r := by
  obtain ⟨more, equal⟩ := roots
  have present : r < s.roots.length := by simpa [Service.roots] using registered
  rw [root_eq_getElem?, root_eq_getElem?, ← equal, List.getElem?_append_left present]

@[simp]
theorem roots_mapEngines (r : Nat) (change : Assoc Handle Engine → Assoc Handle Engine) :
    (s.mapEngines r change).roots = s.roots := by
  apply List.ext_getElem?
  intro i
  simp only [roots, mapEngines, List.getElem?_map, List.getElem?_modify]
  cases s.registries[i]? with
  | none => rfl
  | some registry => by_cases same : r = i <;> simp [same]

@[simp]
theorem roots_setEngine (r : Nat) (h : Handle) (e : Engine) : (s.setEngine r h e).roots = s.roots :=
  roots_mapEngines r _

@[simp]
theorem roots_cancel (source : Option LoopSource) : (s.cancel source).roots = s.roots := by
  cases source <;> rfl

theorem Retables.roots (retables : Retables r h s after) : after.roots = s.roots := by
  rcases retables with rfl | ⟨e, table, queues, -, rfl⟩
  · rfl
  · rw [roots_setEngine]
    rfl

theorem roots_init (r : Nat) (exhausted : Bool) : (s.init r exhausted).2.roots = s.roots := by
  have opens : Opens r s (s.init r exhausted).2 := s.opens_init exhausted
  generalize (s.init r exhausted).2 = after at opens
  cases opens with
  | refused => rfl
  | opened =>
      rw [roots_setEngine]
      rfl

theorem roots_join (r : Nat) (h : Handle) (loop : Nat) : (s.join r h loop).2.roots = s.roots := by
  rw [join]
  split
  · rfl
  · dsimp only
    split
    · rw [roots_cancel]
      rfl
    · split
      · rw [roots_cancel]
        rfl
      · rw [roots_setEngine]
        rfl

theorem roots_close (r : Nat) (h : Handle) : (s.close r h).roots = s.roots := by
  rw [close]
  split
  · rfl
  · rename_i e found
    change ((s.mapEngines r (Assoc.erase · h)).cancel e.source).roots = s.roots
    rw [roots_cancel, roots_mapEngines]

theorem roots_detach (r : Nat) (h : Handle) : (s.detach r h).2.roots = s.roots := by
  rw [detach]
  split
  · rfl
  · rw [roots_cancel, roots_setEngine]

/-- A registry keeps its root directory. -/
theorem Step.roots (step : s.Step after) : s.roots <+: after.roots := by
  cases step with
  | host | addLoop | take | finish => exact List.prefix_rfl
  | addRegistry root probe =>
      refine ⟨[root], ?_⟩
      change _ = (s.registries ++ [Registry.fresh root probe]).map (·.root)
      rw [List.map_append]
      rfl
  | init r exhausted => exact (roots_init r exhausted).symm ▸ List.prefix_rfl
  | close r h => exact (roots_close r h).symm ▸ List.prefix_rfl
  | subscribe r h path who data mask =>
      exact (s.retables_subscribe path who data mask).roots.symm ▸ List.prefix_rfl
  | unsubscribe r h path who =>
      exact (s.retables_unsubscribe path who).roots.symm ▸ List.prefix_rfl
  | join r h loop => exact (roots_join r h loop).symm ▸ List.prefix_rfl
  | detach r h => exact (roots_detach r h).symm ▸ List.prefix_rfl

theorem Steps.roots (steps : Steps s after) : s.roots <+: after.roots := by
  induction steps with
  | refl => exact List.prefix_rfl
  | tail earlier last ih => exact ih.trans last.roots

/-- A registry with an engine keeps its root directory for good. -/
theorem Steps.root_of_engine?
    (steps : Steps s after)
    {e : Engine} (found : s.engine? r h = some e) :
    after.root r = s.root r :=
  root_eq_of_roots (lt_of_engine? found) steps.roots

end

end Service

end MarkerWatch
