import MarkerWatch.Proofs.Service.Succession
import MarkerWatch.Proofs.Watch.Safety

/-!
# Engines over time

An engine sits at a handle: the descriptor of that number has the queue of the engine, whether it
reads from the queue at the moment or is fed.  No step of a service moves an engine, gives its queue
to another one, or puts a subscription into its table other than by a granted request.

`Service.Seated` is the invariant, and it holds whichever numbers new descriptors get, the number of
an engine that was closed included.
-/

namespace MarkerWatch

/-! ## Descriptors that have a queue -/

namespace Host

/-- A number was given to a descriptor, which has a queue, be it hidden by a feed. -/
structure Seats (host : Host) (fd : Int) (id : Nat) : Prop where
  given : ∀ next, host.numbering = .increasing next → fd < next
  queue : (Assoc.get? host.descriptors fd).bind Descriptor.queue? = some id

namespace Seats

variable {host after : Host} {fd other : Int} {id : Nat}

/-- A number is not given while it has a queue. -/
theorem ne_next (seats : host.Seats fd id) :
    host.numbering.next (Assoc.keys host.descriptors) ≠ fd := by
  rintro rfl
  cases numbering : host.numbering with
  | increasing next =>
      have below := seats.given next numbering
      rw [numbering] at below
      exact absurd below (Int.lt_irrefl next)
  | lowestFree =>
      have queue := seats.queue
      have free : Assoc.get? host.descriptors
          (host.numbering.next (Assoc.keys host.descriptors)) = none := by
        rw [Assoc.get?_eq_none_iff, numbering]
        exact Numbering.firstFree_not_mem _ _
      rw [free] at queue
      cases queue

theorem of_same
    (seats : host.Seats fd id)
    (descriptors : after.descriptors = host.descriptors)
    (numbering : after.numbering = host.numbering) :
    after.Seats fd id where
  given := by
    rw [numbering]
    exact seats.given
  queue := by
    rw [descriptors]
    exact seats.queue

/-- What a descriptor reads from may change, as long as its queue stays. -/
theorem of_set
    (seats : host.Seats fd id)
    {descriptor : Descriptor}
    (same : descriptor.queue? = (Assoc.get? host.descriptors other).bind Descriptor.queue?) :
    Seats { host with descriptors := Assoc.set host.descriptors other descriptor } fd id where
  given := seats.given
  queue := by
    rw [Assoc.get?_set]
    split
    · rename_i equal
      rw [Option.bind_some, same, equal]
      exact seats.queue
    · exact seats.queue

theorem openDescriptor
    (seats : host.Seats fd id)
    (descriptor : Descriptor) :
    (host.openDescriptor descriptor).2.Seats fd id where
  given := by
    intro next advanced
    change host.numbering.advance = _ at advanced
    cases numbering : host.numbering with
    | lowestFree =>
        rw [numbering] at advanced
        cases advanced
    | increasing last =>
        rw [numbering] at advanced
        cases advanced
        exact Int.lt_add_one_of_le (Int.le_of_lt (seats.given last numbering))
  queue := by
    change (Assoc.get? (Assoc.set host.descriptors _ descriptor) fd).bind _ = _
    rw [Assoc.get?_set_of_ne _ _ seats.ne_next]
    exact seats.queue

theorem openQueue (seats : host.Seats fd id) : host.openQueue.2.Seats fd id := by
  have counted : Seats { host with
      queues := Assoc.set host.queues host.nextQueue .empty
      nextQueue := host.nextQueue + 1 } fd id :=
    seats.of_same rfl rfl
  exact counted.openDescriptor _

/-- A queue that was opened is seated at its descriptor. -/
theorem opened (host : Host) : host.openQueue.2.Seats host.openQueue.1 host.nextQueue where
  given := by
    intro next advanced
    change host.numbering.advance = _ at advanced
    change host.numbering.next _ < next
    cases numbering : host.numbering with
    | lowestFree =>
        rw [numbering] at advanced
        cases advanced
    | increasing last =>
        rw [numbering] at advanced
        cases advanced
        exact Int.lt_succ last
  queue := by
    have behind : Assoc.get? host.openQueue.2.descriptors host.openQueue.1 =
        some (.queue host.nextQueue) :=
      Assoc.get?_set_self _ _ _
    rw [behind]
    rfl

/-- Only the descriptor that is closed loses its queue. -/
theorem closeDescriptor
    (seats : host.Seats fd id)
    (different : other ≠ fd) :
    (host.closeDescriptor other).Seats fd id where
  given := seats.given
  queue := by
    change (Assoc.get? (Assoc.erase host.descriptors other) fd).bind _ = _
    rw [Assoc.get?_erase, if_neg different]
    exact seats.queue

theorem hear
    {lasting : Nat → Prop}
    (seats : host.Seats fd id)
    (hears : Hears lasting host after) :
    after.Seats fd id :=
  seats.of_same hears.descriptors hears.numbering

theorem read
    (seats : host.Seats fd id)
    (room : Nat) :
    (host.read other room).2.Seats fd id := by
  rw [Host.read]
  split
  · exact seats
  · rename_i feed hidden found
    exact seats.of_set (by rw [found]; rfl)
  · split
    · exact seats
    · split
      · exact seats
      · dsimp only
        split
        · exact seats
        · exact seats.of_same rfl rfl

/-- The end of a feed uncovers what it has hidden, and a descriptor without a queue is another
one. -/
theorem unfeed (seats : host.Seats fd id) (other : Int) : (host.unfeed other).Seats fd id := by
  rw [Host.unfeed]
  split
  · rename_i feed hidden found
    exact seats.of_set (by rw [found]; rfl)
  · rename_i feed found
    have different : other ≠ fd := by
      rintro rfl
      have queue := seats.queue
      rw [found] at queue
      cases queue
    refine ⟨seats.given, ?_⟩
    change (Assoc.get? (Assoc.erase host.descriptors other) fd).bind _ = _
    rw [Assoc.get?_erase, if_neg different]
    exact seats.queue
  · exact seats

theorem requeued
    {kernel : HostQueue}
    (seats : host.Seats fd id)
    (requeued : host.Requeued other kernel) :
    kernel.host.Seats fd id := by
  obtain ⟨queues, rfl⟩ := requeued
  exact seats.of_same rfl rfl

/-- Whatever happens to a host, a descriptor keeps its queue. -/
theorem step
    (seats : host.Seats fd id)
    (step : host.Step after) :
    after.Seats fd id := by
  cases step with
  | hear heard => exact seats.hear heard
  | openDescriptor descriptor => exact seats.openDescriptor descriptor
  | openQueue => exact seats.openQueue
  | read fd room => exact seats.read room
  | watch fd path mask => exact seats.requeued ((Requeued.refl host fd).addWatch path mask)
  | unwatch fd watch => exact seats.requeued ((Requeued.refl host fd).removeWatch watch)
  | feed fd feed => exact seats.of_set rfl
  | unfeed fd => exact seats.unfeed fd

end Seats

end Host

/-! ## Requests of engines -/

namespace WatchTable

variable {κ σ δ : Type} [WatchKernel κ] [DecidableEq σ]

/-- What every call on a kernel keeps is kept by a request. -/
theorem serve_keeps
    {kept : κ → Prop}
    (adds : ∀ kernel path mask, kept kernel → kept (WatchKernel.addWatch kernel path mask).2)
    (removes : ∀ kernel watch, kept kernel → kept (WatchKernel.removeWatch kernel watch).2)
    (table : WatchTable σ δ) {kernel : κ} (holds : kept kernel) (request : WatchRequest σ δ) :
    kept (table.serve kernel request).kernel := by
  cases request with
  | subscribe path who data mask =>
      exact table.subscribe_keeps adds removes holds path who data mask
  | unsubscribe path who => exact table.unsubscribe_keeps adds removes holds path who

/-- A subscription is in the table after a request when it was there before, or when the request is
the one that was granted for it. -/
theorem mem_entries_serve
    {table : WatchTable σ δ} {kernel : κ} {request : WatchRequest σ δ} {entry : Subscription σ δ}
    (member : entry ∈ (table.serve kernel request).table.entries) :
    entry ∈ table.entries ∨
      ∃ path, request = .subscribe path entry.subscriber entry.data entry.mask ∧
        (table.serve kernel request).answer = .ok (.watching entry.watch) := by
  have turns := turns_serve table kernel request
  generalize (table.serve kernel request).table = next at member turns
  generalize (table.serve kernel request).answer = answer at turns
  cases turns with
  | refused => exact .inl member
  | subscribed path data allowed new =>
      rcases List.mem_append.mp member with old | added
      · exact .inl old
      · cases List.mem_singleton.mp added
        exact .inr ⟨path, rfl, rfl⟩
  | ended => exact .inl (List.mem_filter.mp member).1

end WatchTable

namespace Service

/-- What comes of a call on subscriptions: it is refused at once, or the table of an engine serves a
request. -/
inductive Serves (s : Service) (r : Nat) (h : Handle) (request : WatchRequest Subscriber Payload) :
    Except Fault Unit × Service → Prop
  | refused (fault : Fault) : Serves s r h request (.error fault, s)
  | served {e : Engine} (found : s.engine? r h = some e)
      {outcome : WatchOutcome Subscriber Payload HostQueue}
      (serves : e.table.serve (⟨s.host, h.fd⟩ : HostQueue) request = outcome) :
      Serves s r h request
        (outcome.answer.map fun _ => (),
          ({ s with host := outcome.kernel.host } : Service).setEngine r h
            { e with table := outcome.table })

variable {s : Service} {r : Nat} {h : Handle}

/-- A subscription to a file is refused at once, or served as a request to the table. -/
theorem serves_subscribeFile (path : Path) (who : Subscriber) (data : Payload) (mask : Mask) :
    s.Serves r h (.subscribe path who data mask) (s.subscribeFile r h path who data mask) := by
  rw [subscribeFile]
  split
  · exact .refused _
  · split
    · exact .refused _
    · rename_i e found
      have served : s.Serves r h (.subscribe path who data mask) _ := .served found rfl
      simp only [WatchTable.serve] at served
      generalize e.table.subscribe (⟨s.host, h.fd⟩ : HostQueue) path who data mask = outcome
        at served ⊢
      rcases outcome with ⟨fault | watch, table, kernel⟩ <;> exact served

theorem serves_unsubscribeFile (path : Path) (who : Option Subscriber) :
    s.Serves r h (.unsubscribe path who) (s.unsubscribeFile r h path who) := by
  rw [unsubscribeFile]
  split
  · exact .refused _
  · split
    · exact .refused _
    · split
      · exact .refused _
      · rename_i e found
        have served : s.Serves r h (.unsubscribe path who) _ := .served found rfl
        simp only [WatchTable.serve] at served
        generalize e.table.unsubscribe (⟨s.host, h.fd⟩ : HostQueue) path who = outcome
          at served ⊢
        rcases outcome with ⟨fault | count, table, kernel⟩ <;> exact served

/-- A call that is granted is a request that the table of an engine grants. -/
theorem Serves.granted
    {request : WatchRequest Subscriber Payload} {after : Service}
    (serves : s.Serves r h request (.ok (), after)) :
    ∃ e answer, s.engine? r h = some e ∧
      (e.table.serve (⟨s.host, h.fd⟩ : HostQueue) request).answer = .ok answer ∧
        after =
          ({ s with
              host := (e.table.serve (⟨s.host, h.fd⟩ : HostQueue) request).kernel.host } :
            Service).setEngine r h
              { e with table := (e.table.serve (⟨s.host, h.fd⟩ : HostQueue) request).table } := by
  generalize given : ((.ok (), after) : Except Fault Unit × Service) = result at serves
  cases serves with
  | refused fault => cases given
  | @served e found outcome serves =>
      subst serves
      rw [Prod.mk.injEq] at given
      obtain ⟨answered, rfl⟩ := given
      refine ⟨e, ?_⟩
      cases granted : (e.table.serve (⟨s.host, h.fd⟩ : HostQueue) request).answer with
      | error fault =>
          rw [granted] at answered
          cases answered
      | ok answer => exact ⟨answer, found, rfl, rfl⟩

/-- Whatever is requested of a table, only the queues of the host are changed. -/
theorem requeued_serve
    (host : Host) (fd : Int) (table : WatchTable Subscriber Payload)
    (request : WatchRequest Subscriber Payload) :
    host.Requeued fd (table.serve (⟨host, fd⟩ : HostQueue) request).kernel :=
  table.serve_keeps (fun _ path mask kept => kept.addWatch path mask)
    (fun _ watch kept => kept.removeWatch watch) (.refl host fd) request

/-- Whatever is requested of a table, its host is succeeded by the one that is left. -/
theorem succeeds_serve
    (host : Host) (fd : Int) (table : WatchTable Subscriber Payload)
    (request : WatchRequest Subscriber Payload) :
    host.Succeeds (table.serve (⟨host, fd⟩ : HostQueue) request).kernel.host := by
  let kept (kernel : HostQueue) : Prop := host.Succeeds kernel.host
  have adds (kernel : HostQueue) (path : Path) (mask : Mask) (holds : kept kernel) :
      kept (HostQueue.addWatch kernel path mask).2 :=
    Host.Succeeds.addWatch holds path mask
  have removes (kernel : HostQueue) (watch : WatchId) (holds : kept kernel) :
      kept (HostQueue.removeWatch kernel watch).2 :=
    Host.Succeeds.removeWatch holds watch
  have holds : kept ⟨host, fd⟩ := .refl host
  show kept (table.serve (⟨host, fd⟩ : HostQueue) request).kernel
  exact table.serve_keeps adds removes holds request

/-! ## Where engines come from -/

/-- Where an engine comes from that is there after a step. -/
inductive Stems (s after : Service) (r : Nat) (h : Handle) (e : Engine) : Prop
  | opened (fresh : e = .fresh s.host.nextQueue) (replaces : Replaces r h (some e) s after)
      (older : s.host.nextQueue < after.host.nextQueue)
      (seats : after.host.Seats h.fd e.queue)
  | kept {old : Engine} (found : s.engine? r h = some old)
      (queue : e.queue = old.queue) (table : e.table = old.table)
  | served {old : Engine} (found : s.engine? r h = some old) (queue : e.queue = old.queue)
      (request : WatchRequest Subscriber Payload)
      {outcome : WatchOutcome Subscriber Payload HostQueue}
      (serves : old.table.serve (⟨s.host, h.fd⟩ : HostQueue) request = outcome)
      (table : e.table = outcome.table) (host : after.host = outcome.kernel.host)
      (calls : ∀ path who data mask, request = .subscribe path who data mask →
        s.subscribeFile r h path who data mask = (outcome.answer.map fun _ => (), after))

/-- An engine that is there after a step is a new one at its handle, or has the queue of the one
that was there before. -/
theorem Stems.opened_or_old
    {s after : Service} {r : Nat} {h : Handle} {e : Engine}
    (stems : Stems s after r h e) :
    (e.queue = s.host.nextQueue ∧ Replaces r h (some e) s after ∧
        s.host.nextQueue < after.host.nextQueue ∧ after.host.Seats h.fd e.queue) ∨
      ∃ old, s.engine? r h = some old ∧ e.queue = old.queue := by
  cases stems with
  | opened fresh replaces older seats =>
      subst fresh
      exact .inl ⟨rfl, replaces, older, seats⟩
  | kept found queue table => exact .inr ⟨_, found, queue⟩
  | served found queue => exact .inr ⟨_, found, queue⟩

/-- An engine that is replaced by one with its queue and its table stems from itself. -/
theorem stems_of_replaces
    {old : Engine} (new : Engine) {after : Service}
    (found : s.engine? r h = some old)
    (queue : new.queue = old.queue) (table : new.table = old.table)
    (replaces : Replaces r h (some new) s after)
    {r' : Nat} {h' : Handle} {e : Engine}
    (here : after.engine? r' h' = some e) :
    Stems s after r' h' e := by
  rw [replaces] at here
  split at here
  · rename_i same
    obtain ⟨rfl, rfl⟩ := same
    cases here
    exact .kept found queue table
  · exact .kept here rfl rfl

theorem Serves.stems
    {request : WatchRequest Subscriber Payload} {result : Except Fault Unit × Service}
    (serves : s.Serves r h request result)
    (calls : ∀ path who data mask, request = .subscribe path who data mask →
      s.subscribeFile r h path who data mask = result)
    {r' : Nat} {h' : Handle} {e : Engine}
    (here : result.2.engine? r' h' = some e) :
    Stems s result.2 r' h' e := by
  cases serves with
  | refused fault => exact .kept here rfl rfl
  | @served old found outcome serves =>
      have replaces := replaces_setEngine_withHost (h := h) (lt_of_engine? found)
        outcome.kernel.host { old with table := outcome.table }
      dsimp only at here
      rw [replaces] at here
      split at here
      · rename_i same
        obtain ⟨rfl, rfl⟩ := same
        cases here
        exact .served found rfl request serves rfl rfl calls
      · exact .kept here rfl rfl

theorem host_join (loop : Nat) : (s.join r h loop).2.host = s.host := by
  rw [join]
  split
  · rfl
  · dsimp only
    split
    · rfl
    · split <;> rfl

theorem host_detach : (s.detach r h).2.host = s.host := by
  rw [detach]
  split
  · rfl
  · exact host_cancel _

theorem stems_join
    {loop : Nat} {r' : Nat} {h' : Handle} {e : Engine}
    (here : (s.join r h loop).2.engine? r' h' = some e) :
    Stems s (s.join r h loop).2 r' h' e := by
  rw [join] at here ⊢
  split at here
  · exact .kept here rfl rfl
  · dsimp only at here ⊢
    split at here
    · rw [engine?_cancel] at here
      exact .kept here rfl rfl
    · rename_i old found
      split at here
      · rw [engine?_cancel] at here
        exact .kept here rfl rfl
      · rename_i detached
        rw [if_neg detached]
        exact stems_of_replaces (s := s) { old with source := some _ } found rfl rfl
          (replaces_setEngine (lt_of_engine? found) _) here

theorem stems_detach
    {r' : Nat} {h' : Handle} {e : Engine}
    (here : (s.detach r h).2.engine? r' h' = some e) :
    Stems s (s.detach r h).2 r' h' e := by
  rw [detach] at here ⊢
  split at here
  · exact .kept here rfl rfl
  · rename_i old found
    refine stems_of_replaces { old with source := none } found rfl rfl ?_ here
    intro r' h'
    exact (engine?_cancel _ r' h').trans (replaces_setEngine (lt_of_engine? found) _ r' h')

/-- What comes of opening an engine: nothing but another host, or an engine at a new descriptor. -/
inductive Inits (s : Service) (r : Nat) : Service → Prop
  | refused {host : Host} (succeeds : s.host.Succeeds host)
      (seats : ∀ fd id, s.host.Seats fd id → host.Seats fd id) : Inits s r { s with host }
  | granted {host : Host} (present : r < s.registries.length)
      (hears : Host.Hears (fun _ => True) s.host.openQueue.2 host) :
      Inits s r (({ s with host } : Service).setEngine r ⟨s.host.openQueue.1⟩
        (.fresh s.host.nextQueue))

theorem inits_init (exhausted : Bool) : Inits s r (s.init r exhausted).2 := by
  have untouched : Inits s r { s with host := s.host } :=
    .refused (.refl s.host) fun _ _ seats => seats
  rw [init]
  split
  · exact untouched
  · rename_i registry present
    split
    · exact untouched
    · split
      · exact untouched
      · have hears : Host.Hears (fun _ => True) s.host.openQueue.2
            (s.host.openQueue.2.prepareRoot registry.root).2 :=
          s.host.openQueue.2.prepareRoot_hears registry.root
        dsimp only
        split <;> rename_i prepared <;> rw [prepared] at hears
        · refine .refused ?_ ?_
          · exact ((Host.Succeeds.openQueue s.host).trans (.hear hears)).trans
              (.closeDescriptor _ _)
          · intro fd id seats
            exact (seats.openQueue.hear hears).closeDescriptor seats.ne_next
        · exact .granted (List.getElem?_eq_some_iff.mp present).1 hears

variable {after : Service}

/-- An engine that is there after a step was opened by it, or was there before. -/
theorem Step.stems
    (step : s.Step after)
    {e : Engine}
    (here : after.engine? r h = some e) :
    Stems s after r h e := by
  cases step with
  | host | addLoop | take | finish => exact .kept here rfl rfl
  | addRegistry root probe =>
      rw [engine?_addRegistry] at here
      exact .kept here rfl rfl
  | init r' exhausted =>
      have inits : Inits s r' (s.init r' exhausted).2 := inits_init exhausted
      generalize (s.init r' exhausted).2 = after at inits here ⊢
      cases inits with
      | refused => exact .kept here rfl rfl
      | @granted host present hears =>
          have replaces := replaces_opened present host s.host.openQueue.1
          rw [replaces] at here
          split at here
          · rename_i same
            obtain ⟨rfl, rfl⟩ := same
            cases here
            refine .opened rfl replaces ?_ ?_
            · show s.host.nextQueue < host.nextQueue
              rw [hears.nextQueue]
              exact Nat.lt_succ_self _
            · exact (Host.Seats.opened s.host).hear hears
          · exact .kept here rfl rfl
  | close r' h' =>
      rw [Service.close] at here
      split at here
      · exact .kept here rfl rfl
      · rename_i closed found
        change ((s.mapEngines r' (Assoc.erase · h')).cancel closed.source).engine? r h = some e
          at here
        rw [engine?_cancel, replaces_erase] at here
        split at here
        · cases here
        · exact .kept here rfl rfl
  | subscribe r' h' path who data mask =>
      refine (serves_subscribeFile path who data mask).stems ?_ here
      intro path' who' data' mask' equal
      cases equal
      rfl
  | unsubscribe r' h' path who =>
      refine (serves_unsubscribeFile path who).stems ?_ here
      intro path' who' data' mask' equal
      cases equal
  | join r' h' loop => exact stems_join here
  | detach r' h' => exact stems_detach here

theorem Serves.succeeds
    {request : WatchRequest Subscriber Payload} {result : Except Fault Unit × Service}
    (serves : s.Serves r h request result) :
    s.host.Succeeds result.2.host := by
  cases serves with
  | refused => exact .refl s.host
  | served found serves =>
      subst serves
      exact succeeds_serve s.host h.fd _ request

/-- Every step of a service leaves a later state of its host. -/
theorem Step.succeeds (step : s.Step after) : s.host.Succeeds after.host := by
  cases step with
  | host step => exact step.succeeds
  | addRegistry | addLoop | take | finish => exact .refl s.host
  | init r exhausted =>
      have inits : Inits s r (s.init r exhausted).2 := inits_init exhausted
      generalize (s.init r exhausted).2 = after at inits ⊢
      cases inits with
      | refused succeeds => exact succeeds
      | granted present hears => exact (Host.Succeeds.openQueue s.host).trans (.hear hears)
  | close r h =>
      rw [Service.close]
      split
      · exact .refl s.host
      · dsimp only
        rw [host_cancel]
        exact .closeDescriptor s.host h.fd
  | subscribe r h path who data mask => exact (serves_subscribeFile path who data mask).succeeds
  | unsubscribe r h path who => exact (serves_unsubscribeFile path who).succeeds
  | join r h loop =>
      rw [host_join]
      exact .refl s.host
  | detach r h =>
      rw [host_detach]
      exact .refl s.host

theorem Serves.seats
    {request : WatchRequest Subscriber Payload} {result : Except Fault Unit × Service}
    (serves : s.Serves r h request result)
    {fd : Int} {id : Nat}
    (seats : s.host.Seats fd id) :
    result.2.host.Seats fd id := by
  cases serves with
  | refused => exact seats
  | served found serves =>
      subst serves
      exact seats.requeued (requeued_serve s.host h.fd _ request)

/-- A descriptor keeps its queue, unless an engine at it is closed. -/
theorem Step.seats
    (step : s.Step after)
    {fd : Int} {id : Nat}
    (seats : s.host.Seats fd id) :
    after.host.Seats fd id ∨
      ∃ r h e, h.fd = fd ∧ s.engine? r h = some e ∧ after.engine? r h = none := by
  cases step with
  | host step => exact .inl (seats.step step)
  | addRegistry | addLoop | take | finish => exact .inl seats
  | init r exhausted =>
      have inits : Inits s r (s.init r exhausted).2 := inits_init exhausted
      generalize (s.init r exhausted).2 = after at inits ⊢
      cases inits with
      | refused succeeds kept => exact .inl (kept fd id seats)
      | granted present hears => exact .inl (seats.openQueue.hear hears)
  | close r h =>
      rw [Service.close]
      split
      · exact .inl seats
      · rename_i e found
        by_cases same : h.fd = fd
        · refine .inr ⟨r, h, e, same, found, ?_⟩
          change ((s.mapEngines r (Assoc.erase · h)).cancel e.source).engine? r h = none
          rw [engine?_cancel, replaces_erase, if_pos ⟨rfl, rfl⟩]
        · refine .inl ?_
          dsimp only
          rw [host_cancel]
          exact seats.closeDescriptor same
  | subscribe r h path who data mask =>
      exact .inl ((serves_subscribeFile path who data mask).seats seats)
  | unsubscribe r h path who => exact .inl ((serves_unsubscribeFile path who).seats seats)
  | join r h loop =>
      rw [host_join]
      exact .inl seats
  | detach r h =>
      rw [host_detach]
      exact .inl seats

end Service

end MarkerWatch
