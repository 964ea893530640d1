import MarkerWatch.Proofs.Session.Telling

/-!
# What publishing a name leads to

A name is published by emptying its marker file.  If every queue of an undisturbed session had been
read to its end, and no queue hears of what subscribers do, a dispatch on each engine then tells the
subscribers to that name, each of them once and in the order in which they subscribed.  Subscribers
with other interests may be told more often, but none is told who is neither on the marker file nor
on its directory.

Where calls of subscribers are heard of, nothing of the sort holds: a subscriber that writes the
marker when it is told of it has the dispatch read on, and all subscribers are told again.
-/

namespace MarkerWatch

/-! ## Subscriptions to names -/

namespace Service

variable {s after : Service} {r : Nat} {h : Handle}

/-- A service with one more subscription of an engine.  It is on the file that a path leads to, and
has the interest of a subscription to a name. -/
def Adds (s after : Service) (r : Nat) (h : Handle) (path : Path)
    (subscription : Subscription Subscriber Payload) : Prop :=
  ∃ e file queue,
    s.engine? r h = some e ∧
      s.host.lookUp path = .ok file ∧
        after.engine? r h = some { e with table := e.table.add subscription } ∧
          after.host.queueAt? h.fd = some (e.queue, queue) ∧
            queue.names file subscription = true

theorem Tuned.adds_subscribe
    (tuned : s.Tuned)
    {name who : String} {data : Payload}
    (granted : s.subscribe r h name (.labelled who) data = (.ok (), after)) :
    ∃ watch, s.Adds after r h (Name.resolve (s.root r) name)
      ⟨watch, Mask.defaultInterest, .labelled who, data⟩ := by
  rw [Service.subscribe] at granted
  split at granted
  · cases granted
  · rw [Service.subscribeFile] at granted
    split at granted
    · cases granted
    · split at granted
      · cases granted
      · rename_i e found
        obtain ⟨queue, behind, inTune⟩ := (tuned.engines found).inTune
        have subscribes := inTune.subscribes behind (Name.resolve (s.root r) name)
          (.labelled who) data Mask.defaultInterest
        generalize e.table.subscribe (⟨s.host, h.fd⟩ : HostQueue) (Name.resolve (s.root r) name)
          (.labelled who) data Mask.defaultInterest = outcome at subscribes granted
        cases subscribes with
        | refused fault inTune => cases granted
        | @granted file watch settled leads watched inTune =>
            cases granted
            refine ⟨watch, e, file, settled, found, leads, ?_,
              Host.queueAt?_setQueue behind settled, ?_⟩
            · rw [replaces_setEngine_withHost (lt_of_engine? found), if_pos ⟨rfl, rfl⟩]
            · rw [EventQueue.names_iff, EventQueue.idOn?, ← EventQueue.get?_ids_book]
              exact ⟨rfl, watched⟩

end Service

/-! ## Publishing -/

/-- Whom a dispatch on an engine tells of a file that was published.  The entry is the one by which
the file was found. -/
structure Engine.Announces (e : Engine) (queue : EventQueue) (file : Nat)
    (entry : Option (Nat × FileName)) (told : List (Subscription Subscriber Payload)) : Prop where
  /-- The subscriptions to names on the file are told once each, in the order of insertion. -/
  named : told.filter (queue.names file) = e.table.entries.filter (queue.names file)
  present : ∀ subscription ∈ told, subscription ∈ e.table.entries
  labelled : ∀ subscription ∈ told, ∃ label, subscription.subscriber = .labelled label
  nearby : ∀ subscription ∈ told,
    queue.idOn? file = some subscription.watch ∨
      ∃ place ∈ entry, queue.idOn? place.1 = some subscription.watch

namespace Engine

variable {e : Engine} {host : Host} {fd : Int} {queue : EventQueue} {file : Nat}
  {entry : Option (Nat × FileName)}

theorem Tuned.announces
    (tuned : e.Tuned host fd)
    (behind : host.queueAt? fd = some (e.queue, queue))
    (elsewhere : ∀ place ∈ entry, place.1 ≠ file) :
    e.Announces queue file entry
      (e.table.due (Host.emptying.flatMap (queue.tidings file entry))) where
  named := by
    obtain ⟨queue', behind', inTune⟩ := tuned.inTune
    rw [behind] at behind'
    cases behind'
    exact inTune.filter_due elsewhere
  present := fun _ member => WatchTable.mem_entries_of_mem_due member
  labelled := fun subscription member =>
    tuned.labelled subscription (WatchTable.mem_entries_of_mem_due member)
  nearby := fun _ member => WatchTable.idOn?_of_mem_due member

end Engine

namespace Session

variable {s next : Session}

/-- What publishing a name does to a session. -/
theorem publishes
    (tuned : s.service.Tuned)
    {root : Path} {name : String}
    (published : s.call (.publishAt root name) = (.done, next)) :
    ∃ host file entry,
      next = s.withHost host ∧
        s.service.host.tree.findFile (Name.resolve root name) = .ok (file, entry) ∧
          next.service.Tuned ∧
            ∀ {fd id queue}, s.service.host.queueAt? fd = some (id, queue) → queue.Ordinary →
              queue.book.WellFormed → queue.events = [] →
                host.queueAt? fd = some (id, { queue with
                  events := Host.emptying.flatMap (queue.tidings file entry) }) := by
  have tunedNext := tuned_afterService tuned root name
  change s.afterService (s.service.publishAt root name) = _ at published
  rw [published] at tunedNext
  cases outcome : s.service.publishAt root name with
  | error fault =>
      rw [outcome] at published
      cases published
  | ok service =>
      rw [outcome] at published
      cases published
      obtain ⟨host, rfl, file, entry, found, tells⟩ :=
        s.service.yields_publishAt (s.service.host.truncate_tells _) service outcome
      exact ⟨host, file, entry, rfl, found, tunedNext, tells⟩

end Session

namespace Machine

/--
In an undisturbed session a subscription to a name that is granted adds one entry to its engine.  It
has the interest of a name, and is on the file that the name leads to.

Let the queues of all engines be read to their end, with ids that words can hold.  If publishing a
name succeeds, its marker file was found.  Let no queue hear of the calls on files that subscribers
make from then on.  Then dispatches succeed on any engines in any order, one on each, and tell,
engine by engine, those whom the events concern that the queues hold.  Of an engine these are the
subscriptions to names on the marker file, each once and in the order of insertion, and no others
than such on that file or on the directory in which it was found.
-/
theorem publish_reaches_subscribers
    {m : Machine} (undisturbed : Undisturbed m)
    (counted : ∀ fd id queue,
      m.session.service.host.queueAt? fd = some (id, queue) → queue.lastId < 2 ^ 31)
    (drained : ∀ r h e, m.session.service.engine? r h = some e →
      ∀ id queue, m.session.service.host.queueAt? h.fd = some (id, queue) → queue.events = [])
    {root : Path} {name : String} {next : Session}
    (published : m.session.call (.publishAt root name) = (.done, next))
    (unheard : next.Unheard (Scripted next.behaviours))
    {order : List (Nat × HandleRef)}
    (live : ∀ place ∈ order,
      m.session.service.contains (m.session.locate place).1 (m.session.locate place).2 = true)
    (once : (order.map m.session.locate).Nodup) :
    (∀ r h subscribed who data after,
        m.session.service.subscribe r h subscribed (.labelled who) data = (.ok (), after) →
          ∃ watch, m.session.service.Adds after r h
            (Name.resolve (m.session.service.root r) subscribed)
            ⟨watch, Mask.defaultInterest, .labelled who, data⟩) ∧
      ∃ file entry last,
        m.session.service.host.tree.findFile (Name.resolve root name) = .ok (file, entry) ∧
          next.Dispatches order last ∧
            last.tellings = m.session.tellings ++ order.flatMap (fun place =>
              notes (next.service.due (m.session.locate place).1 (m.session.locate place).2)) ∧
              ∀ place ∈ order, ∃ e queue,
                m.session.service.engine? (m.session.locate place).1 (m.session.locate place).2 =
                    some e ∧
                  m.session.service.host.queueAt? (m.session.locate place).2.fd =
                      some (e.queue, queue) ∧
                    e.Announces queue file entry
                      (next.service.due (m.session.locate place).1 (m.session.locate place).2) := by
  have tuned := undisturbed.regular.tuned
  refine ⟨fun r h subscribed who data after => tuned.adds_subscribe, ?_⟩
  obtain ⟨host, file, entry, rfl, found, tunedNext, tells⟩ := Session.publishes tuned published
  obtain ⟨isFile, isEntry⟩ := m.session.service.host.tree.yields_findFile _ _ found
  have elsewhere : ∀ place ∈ entry, place.1 ≠ file := fun place listed =>
    (isEntry place listed).ne_file isFile
  have hears {place : Nat × HandleRef} (listed : place ∈ order) :
      ∃ e queue,
        m.session.service.engine? (m.session.locate place).1 (m.session.locate place).2 = some e ∧
          m.session.service.host.queueAt? (m.session.locate place).2.fd = some (e.queue, queue) ∧
            queue.Ordinary ∧ queue.book.WellFormed ∧
              host.queueAt? (m.session.locate place).2.fd = some (e.queue, { queue with
                events := Host.emptying.flatMap (queue.tidings file entry) }) := by
    obtain ⟨e, opened⟩ := Option.isSome_iff_exists.mp (live place listed)
    obtain ⟨queue, behind, inTune⟩ := (tuned.engines opened).inTune
    have wellFormed := inTune.agreement.wellFormed
    refine ⟨e, queue, opened, behind, inTune.ordinary, wellFormed, ?_⟩
    exact tells behind inTune.ordinary wellFormed (drained _ _ e opened _ queue behind)
  have readable : ∀ place ∈ order, (m.session.withHost host).Readable place := by
    intro place listed
    obtain ⟨e, queue, opened, behind, ordinary, wellFormed, hearing⟩ := hears listed
    refine ⟨e, _, opened, hearing, fun event member => ?_, Host.length_emptying_le queue _ _⟩
    obtain ⟨kind, -, member⟩ := List.mem_flatMap.mp member
    exact EventQueue.fits_of_mem_tidings ordinary wellFormed (counted _ _ queue behind) isEntry
      member
  have quiet := unheard.quiet undisturbed.regular.outward
  obtain ⟨last, dispatched, told⟩ := Session.exists_dispatches tunedNext quiet readable once
  refine ⟨file, entry, last, found, dispatched, told, fun place listed => ?_⟩
  obtain ⟨e, queue, opened, behind, -, -, hearing⟩ := hears listed
  refine ⟨e, queue, opened, behind, ?_⟩
  have openedNext : (m.session.withHost host).service.engine? (m.session.locate place).1
      (m.session.locate place).2 = some e := opened
  rw [Service.due_eq openedNext hearing]
  exact (tuned.engines opened).announces behind elsewhere

/-! ## A session -/

/-- The machine after a call. -/
def called (m : Machine) (c : Call) : Machine :=
  ⟨(m.session.call c).2, [], (m.session.call c).1⟩

theorem Undisturbed.call
    {m : Machine} (undisturbed : Undisturbed m) (idle : m.tasks = [])
    {c : Call} (noQueue : ∀ q, c ≠ .queue q)
    (kept : (m.session.service.host.queues.all fun pair => pair.2.watches.all fun watch =>
      ((m.session.call c).2.service.host.tree.inode? watch.inode).isSome) = true) :
    Undisturbed (m.called c) := by
  refine (undisturbed.start idle (.call noQueue)).step rfl fun fd id queue behind watch member => ?_
  have listed := Assoc.mem_of_get? (Host.queueAt?_iff.mp behind).2
  exact List.all_eq_true.mp (List.all_eq_true.mp kept _ listed) watch member

/-- The directory `/tmp`. -/
def markers : Path :=
  ⟨[0x2F, 0x74, 0x6D, 0x70]⟩

/-- A subscriber that looks at a marker file when it is told of an event. -/
def looking : Assoc String Behaviour :=
  [("first", ⟨[.call (.file (.status (Name.resolve markers "m")))], 1⟩)]

/-- A session in which an engine has two subscriptions to a name, and one to other events on its
marker file. -/
def subscribed : Machine :=
  let fresh : Machine := ⟨.fresh (.increasing 10) [] looking, [], .done⟩
  let rooted := fresh.called (.addRegistry markers (.fixed "6.1.0"))
  let marked := rooted.called (.file (.write (Name.resolve markers "m") ""))
  let opened := marked.called (.registry 0 (.init false))
  let first := opened.called (.registry 0 (.subscribe (.engine 0) "m" "first" (.number 1)))
  let curious := first.called (.registry 0
    (.subscribeFile (.engine 0) (Name.resolve markers "m") "curious" .none .opened))
  curious.called (.registry 0 (.subscribe (.engine 0) "m" "second" (.number 2)))

theorem script_of_looking
    {label : String} {behaviour : Behaviour}
    (found : Assoc.get? looking label = some behaviour)
    {action : Action} (member : action ∈ behaviour.script) :
    ∃ path, action = .call (.file (.status path)) := by
  rw [looking, Assoc.get?] at found
  split at found
  · cases found
    exact ⟨_, List.mem_singleton.mp member⟩
  · cases found

theorem undisturbed_subscribed : Undisturbed subscribed := by
  have outward : Outward looking := by
    intro label behaviour found action member
    obtain ⟨path, equal⟩ := script_of_looking found member
    exact ⟨_, equal⟩
  refine .call (.call (.call (.call (.call (.call (.fresh _ _ outward) rfl ?_ ?_) rfl ?_ ?_)
    rfl ?_ ?_) rfl ?_ ?_) rfl ?_ ?_) rfl ?_ ?_
  all_goals first | exact fun q equal => nomatch equal | decide

theorem publish_reaches_subscribed :
    ∃ last,
      (subscribed.session.call (.publishAt markers "m")).2.Dispatches [(0, .engine 0)] last ∧
        last.tellings =
          [.told "curious" .none, .told "first" (.number 1), .told "second" (.number 2)] := by
  have counted : ∀ pair ∈ subscribed.session.service.host.queues, pair.2.lastId < 2 ^ 31 := by
    decide
  have drained : ∀ pair ∈ subscribed.session.service.host.queues, pair.2.events = [] := by
    decide
  have listed {fd : Int} {id : Nat} {queue : EventQueue}
      (behind : subscribed.session.service.host.queueAt? fd = some (id, queue)) :
      (id, queue) ∈ subscribed.session.service.host.queues :=
    Assoc.mem_of_get? (Host.queueAt?_iff.mp behind).2
  have live : ∀ place ∈ [((0 : Nat), HandleRef.engine 0)],
      subscribed.session.service.contains (subscribed.session.locate place).1
        (subscribed.session.locate place).2 = true := by
    decide
  have published : subscribed.session.call (.publishAt markers "m") =
      (.done, (subscribed.session.call (.publishAt markers "m")).2) := rfl
  have unheard : (subscribed.session.call (.publishAt markers "m")).2.Unheard
      (Scripted (subscribed.session.call (.publishAt markers "m")).2.behaviours) := by
    refine Session.unheard_of_status _ ?_
    rintro c ⟨label, behaviour, found, -, member⟩
    obtain ⟨path, equal⟩ := script_of_looking found member
    cases equal
    exact ⟨path, rfl⟩
  obtain ⟨-, file, entry, last, -, dispatched, told, -⟩ :=
    publish_reaches_subscribers undisturbed_subscribed
      (fun fd id queue behind => counted _ (listed behind))
      (fun r h e opened id queue behind => drained _ (listed behind)) published unheard live
      (by decide)
  exact ⟨last, dispatched, told⟩

/-! ## A subscriber that is heard -/

/-- A subscriber that writes a marker file again when it is told of an event. -/
def rewriting : Assoc String Behaviour :=
  [("first", ⟨[.call (.file (.write (Name.resolve markers "m") ""))], 1⟩)]

/-- A session in which that subscriber and another one have a subscription to the name. -/
def rewritten : Machine :=
  let fresh : Machine := ⟨.fresh (.increasing 10) [] rewriting, [], .done⟩
  let rooted := fresh.called (.addRegistry markers (.fixed "6.1.0"))
  let marked := rooted.called (.file (.write (Name.resolve markers "m") ""))
  let opened := marked.called (.registry 0 (.init false))
  let first := opened.called (.registry 0 (.subscribe (.engine 0) "m" "first" (.number 1)))
  first.called (.registry 0 (.subscribe (.engine 0) "m" "second" (.number 2)))

theorem outward_rewriting : Outward rewriting := by
  intro label behaviour found action member
  rw [rewriting, Assoc.get?] at found
  split at found
  · cases found
    exact ⟨_, List.mem_singleton.mp member⟩
  · cases found

theorem undisturbed_rewritten : Undisturbed rewritten := by
  refine .call (.call (.call (.call (.call (.fresh _ _ outward_rewriting) rfl ?_ ?_) rfl ?_ ?_)
    rfl ?_ ?_) rfl ?_ ?_) rfl ?_ ?_
  all_goals first | exact fun q equal => nomatch equal | decide

/--
The write of a subscriber is heard like any other.  The session is undisturbed, its queue is
drained, its engine has two subscriptions to the name, and the subscriber leaves the registry alone;
all the same every dispatch after a publication tells both of them twice.
-/
theorem publish_tells_twice_when_rewritten :
    Undisturbed rewritten ∧
      (∀ fd id queue, rewritten.session.service.host.queueAt? fd = some (id, queue) →
        queue.lastId < 2 ^ 31 ∧ queue.events = []) ∧
      (rewritten.session.service.engine? 0 ⟨10⟩).map (·.table.entries) =
        some [⟨⟨1⟩, Mask.defaultInterest, .labelled "first", .number 1⟩,
          ⟨⟨1⟩, Mask.defaultInterest, .labelled "second", .number 2⟩] ∧
      rewritten.session.tellings = [] ∧
      ∃ next, rewritten.session.call (.publishAt markers "m") = (.done, next) ∧
        (∃ last, next.Dispatches [(0, .engine 0)] last) ∧
          ∀ last, next.Dispatches [(0, .engine 0)] last →
            last.tellings =
              [.told "first" (.number 1), .told "second" (.number 2),
                .told "first" (.number 1), .told "second" (.number 2)] := by
  have quiet : ∀ pair ∈ rewritten.session.service.host.queues,
      pair.2.lastId < 2 ^ 31 ∧ pair.2.events = [] := by
    decide
  have performed :
      (rewritten.session.call (.publishAt markers "m")).2.perform 40 (.dispatch 0 (.engine 0)) =
        some (.count 2, _) :=
    rfl
  have dispatched :
      (rewritten.session.call (.publishAt markers "m")).2.Dispatches [(0, .engine 0)] _ :=
    .cons performed (.nil _)
  refine ⟨undisturbed_rewritten, ?_, rfl, rfl, _, rfl, ⟨_, dispatched⟩, ?_⟩
  · intro fd id queue behind
    exact quiet _ (Assoc.mem_of_get? (Host.queueAt?_iff.mp behind).2)
  · intro last other
    rw [other.unique dispatched]
    rfl

end Machine

end MarkerWatch
