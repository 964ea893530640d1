import MarkerWatch.Proofs.Service.Tenure
import MarkerWatch.Proofs.Session.Publication

/-!
# Subscriptions that are ended by name

A subscription to a name is filed under the watch that the marker file has when it is made.  To end
the subscriptions to a name is to end those under the watch that the marker file has by then.  The
two watches are the same as long as the file keeps its watch; a marker file that was removed and
made again has another one.

So a subscription stays exactly if the marker file has got another watch since, and then it is still
told of the events that were queued before.  One that was ended is told of nothing unless it is made
again.
-/

namespace MarkerWatch

theorem WatchTable.mem_without_none
    {σ δ : Type} [DecidableEq σ] {table : WatchTable σ δ} {watch : WatchId}
    {entry : Subscription σ δ} :
    entry ∈ (table.without watch none).entries ↔ entry ∈ table.entries ∧ entry.watch ≠ watch := by
  simp [without, selects]

/-- Whoever is told of an event has a subscription for it. -/
theorem WatchTable.exists_of_matching
    {σ δ : Type} {table : WatchTable σ δ} {watch : WatchId} {mask : Mask} {target : σ × δ}
    (told : target ∈ table.matching watch mask) :
    ∃ entry ∈ table.entries, entry.watch = watch ∧ entry.mask.intersects mask = true ∧
      (entry.subscriber, entry.data) = target := by
  obtain ⟨entry, member, equal⟩ := List.mem_map.mp told
  obtain ⟨member, due⟩ := List.mem_filter.mp member
  obtain ⟨onWatch, asked⟩ := of_decide_eq_true due
  exact ⟨entry, member, onWatch, asked, equal⟩

namespace Service

variable {s start before after last : Service} {r : Nat} {h : Handle}

/-! ## Watches of marker files -/

/-- The watch of the file at a path, in the queue behind a handle. -/
def watchAt? (s : Service) (h : Handle) (path : Path) : Option WatchId :=
  match s.host.lookUp path, s.host.queueAt? h.fd with
  | .ok inode, some (_, queue) => Assoc.get? queue.book.ids inode
  | _, _ => none

theorem watchAt?_eq
    {path : Path} {inode id : Nat} {queue : EventQueue}
    (leads : s.host.lookUp path = .ok inode)
    (behind : s.host.queueAt? h.fd = some (id, queue)) :
    s.watchAt? h path = Assoc.get? queue.book.ids inode := by
  rw [watchAt?, leads, behind]

end Service

/-- Whoever a dispatch tells of a record has a subscription for it. -/
theorem Machine.exists_entry_of_targets
    {m : Machine} {d : Dispatch} {record : Record} {target : Subscriber × Payload}
    (told : target ∈ m.targets d record) :
    ∃ e, m.session.service.engine? d.registry d.handle = some e ∧
      ∃ entry ∈ e.table.entries, entry.watch = record.watch ∧
        entry.mask.intersects record.mask = true ∧ (entry.subscriber, entry.data) = target := by
  rw [targets] at told
  split at told
  · split at told
    · rename_i e found
      exact ⟨e, found, WatchTable.exists_of_matching told⟩
    · cases told
  · cases told

namespace Service

theorem subscribeFile_of_subscribe
    {s after : Service} {r : Nat} {h : Handle} {name : String} {who : Subscriber} {data : Payload}
    (granted : s.subscribe r h name who data = (.ok (), after)) :
    s.subscribeFile r h (Name.resolve (s.root r) name) who data Mask.defaultInterest =
      (.ok (), after) := by
  rw [subscribe] at granted
  split at granted
  · cases granted
  · exact granted

theorem unsubscribeFile_of_unsubscribe
    {s after : Service} {r : Nat} {h : Handle} {name : String} {who : Option Subscriber}
    (granted : s.unsubscribe r h name who = (.ok (), after)) :
    s.unsubscribeFile r h (Name.resolve (s.root r) name) who = (.ok (), after) := by
  rw [unsubscribe] at granted
  split at granted
  · cases granted
  · exact granted

/--
Let a name be subscribed to in any run of a service, and all subscriptions to it be ended later on
the same handle.  Those that end are under the watch `held` that the marker file has by then, so the
subscription stays exactly if it is still there and is under another watch.  In one queue it is
under `held` only if the marker file is still the file that it was made on.

From then on a record is for those who had a subscription under another watch than `held`, and for
those who have subscribed since.
-/
theorem unsubscribe_ends_watch_of_marker
    {numbering : Numbering} {loops : List LoopKind} {before granted later after : Service}
    (reached : Steps (fresh numbering loops) before)
    {r : Nat} {h : Handle} {name : String} {who : Subscriber} {data : Payload}
    (subscribed : before.subscribe r h name who data = (.ok (), granted))
    (between : Steps granted later)
    (unsubscribed : later.unsubscribe r h name none = (.ok (), after))
    {path : Path} (resolved : Name.resolve (before.root r) name = path) :
    ∃ e current entry held,
      entry.subscriber = who ∧ entry.data = data ∧ entry.mask = Mask.defaultInterest ∧
        granted.engine? r h = some e ∧ entry ∈ e.table.entries ∧
        granted.watchAt? h path = some entry.watch ∧
        later.engine? r h = some current ∧ later.watchAt? h path = some held ∧
        after.engine? r h = some { current with table := current.table.without held none } ∧
        (entry ∈ (current.table.without held none).entries ↔
          entry ∈ current.table.entries ∧ entry.watch ≠ held) ∧
        (current.queue = e.queue → entry.watch = held →
          later.host.lookUp path = granted.host.lookUp path) ∧
        ∀ (m : Machine) (d : Dispatch) (record : Record),
          Steps after m.session.service → d.registry = r → d.handle = h →
            ∀ target ∈ m.targets d record, ∃ mask, mask.intersects record.mask = true ∧
              (⟨record.watch, mask, target.1, target.2⟩ ∈ current.table.entries ∧
                  record.watch ≠ held ∨
                Grants after m.session.service r h target.1 target.2 mask) := by
  have subscribedFile := subscribeFile_of_subscribe subscribed
  have unsubscribedFile := unsubscribeFile_of_unsubscribe unsubscribed
  have first : Steps before granted := by
    have steps := (before.moves_subscribe r h name who data).steps
    rwa [subscribed] at steps
  have reachedGranted : Steps (fresh numbering loops) granted := reached.trans first
  have reachedLater : Steps (fresh numbering loops) later := reachedGranted.trans between
  obtain ⟨e, queue, inode, watch, -, opened, root, leads, behind, watched⟩ :=
    reached.seated.of_subscribeFile subscribedFile
  obtain ⟨current, queue', inode', held, found, next, leads', behind', watched', -⟩ :=
    reachedLater.seated.of_unsubscribeFile unsubscribedFile
  rw [between.root_of_engine? opened, root, resolved] at leads'
  rw [resolved] at leads
  refine ⟨_, current, ⟨watch, Mask.defaultInterest, who, data⟩, held, rfl, rfl, rfl, opened, ?_, ?_,
    found, ?_, next, WatchTable.mem_without_none, ?_, ?_⟩
  · exact List.mem_append_right _ (List.mem_singleton_self _)
  · rw [watchAt?_eq leads behind, watched]
  · rw [watchAt?_eq leads' behind', watched']
  · intro sameQueue sameWatch
    have queued := (Host.queueAt?_iff.mp behind).2
    have older := reachedGranted.seated.older opened
    have queued' := (Host.queueAt?_iff.mp behind').2
    rw [sameQueue] at queued'
    obtain ⟨old, there, succeeds⟩ := between.succeeds.exists_old older queued'
    rw [queued] at there
    cases there
    have wellFormed := reachedGranted.seated.wellFormed e.queue queue queued
    have given : queue'.book.idFor inode' = watch := by
      rw [WatchBook.idFor, watched']
      exact sameWatch.symm
    rw [leads, leads', (succeeds.file_eq wellFormed watched given).2]
  · intro m d record steps sameRegistry sameHandle target told
    obtain ⟨e', there, entry, member, onWatch, asked, rfl⟩ := Machine.exists_entry_of_targets told
    rw [sameRegistry, sameHandle] at there
    refine ⟨entry.mask, asked, ?_⟩
    rcases steps.mem_entries there member with ⟨old, here, oldMember⟩ | grants
    · rw [next] at here
      cases here
      obtain ⟨kept, different⟩ := WatchTable.mem_without_none.mp oldMember
      rw [← onWatch]
      exact .inl ⟨kept, different⟩
    · exact .inr grants

end Service

/-! ## Two sessions -/

namespace Machine

theorem steps_calls (m : Machine) (calls : List Call) :
    Service.Steps m.session.service (calls.foldl called m).session.service := by
  induction calls generalizing m with
  | nil => exact .refl
  | cons c calls ih => exact (m.session.steps_call c).trans (ih (m.called c))

/-- A machine that has opened an engine and made the marker file of a name. -/
def marked (numbering : Numbering) (behaviours : Assoc String Behaviour) : Machine :=
  [.addRegistry markers (.fixed "6.1.0"), .file (.write (Name.resolve markers "m") ""),
    .registry 0 (.init false)].foldl called ⟨.fresh numbering [] behaviours, [], .done⟩

theorem reached_marked (numbering : Numbering) (behaviours : Assoc String Behaviour) :
    Service.Steps (.fresh numbering []) (marked numbering behaviours).session.service :=
  steps_calls ⟨.fresh numbering [] behaviours, [], .done⟩ _

/-- A subscription to the name. -/
def subscribing (who : String) : Call :=
  .registry 0 (.subscribe (.engine 0) "m" who .none)

/-- A machine with two subscriptions to the name, which was then published. -/
def published : Machine :=
  [subscribing "first", subscribing "second", .registry 0 (.publish "m")].foldl called
    (marked (.increasing 10) [])

/-- Nothing is left of subscriptions that were made on the marker file that is there. -/
theorem unsubscribe_ends_kept_marker :
    (published.session.service.unsubscribe 0 ⟨10⟩ "m" none).2.engine? 0 ⟨10⟩ =
      some (.fresh 0) := by
  have subscribed : (marked (.increasing 10) []).session.service.subscribe 0 ⟨10⟩ "m"
      (.labelled "first") .none =
        (.ok (), ((marked (.increasing 10) []).called (subscribing "first")).session.service) :=
    Prod.ext (by decide +kernel) rfl
  have between : Service.Steps
      ((marked (.increasing 10) []).called (subscribing "first")).session.service
      published.session.service :=
    steps_calls _ [subscribing "second", .registry 0 (.publish "m")]
  have unsubscribed : published.session.service.unsubscribe 0 ⟨10⟩ "m" none =
      (.ok (), (published.session.service.unsubscribe 0 ⟨10⟩ "m" none).2) :=
    Prod.ext (by decide +kernel) rfl
  obtain ⟨-, current, -, held, -, -, -, -, -, -, found, heldNow, next, -⟩ :=
    Service.unsubscribe_ends_watch_of_marker (reached_marked _ _) subscribed between unsubscribed
      (by decide +kernel : Name.resolve _ "m" = Name.resolve markers "m")
  have there : published.session.service.engine? 0 ⟨10⟩ =
      some ⟨0, ⟨[⟨⟨1⟩, Mask.defaultInterest, .labelled "first", .none⟩,
        ⟨⟨1⟩, Mask.defaultInterest, .labelled "second", .none⟩]⟩, none⟩ := by
    decide +kernel
  have watched : published.session.service.watchAt? ⟨10⟩ (Name.resolve markers "m") =
      some ⟨1⟩ := by
    decide +kernel
  cases there.symm.trans found
  cases watched.symm.trans heldNow
  exact next

/-- A machine in which a name was subscribed to and published, its marker file was made again and
subscribed to once more, and the subscriptions to the name were ended. -/
def ended : Machine :=
  [subscribing "first", .registry 0 (.publish "m"), .file (.remove (Name.resolve markers "m")),
    .file (.write (Name.resolve markers "m") ""), subscribing "second",
    .registry 0 (.unsubscribe (.engine 0) "m" none)].foldl called (marked (.increasing 10) [])

/-- The subscription that was made on the first marker file stays, and a dispatch tells its
subscriber of what was queued before. -/
theorem unsubscribe_leaves_replaced_marker :
    ended.answer = .done ∧
      ended.session.service.engine? 0 ⟨10⟩ =
        some ⟨0, ⟨[⟨⟨1⟩, Mask.defaultInterest, .labelled "first", .none⟩]⟩, none⟩ ∧
      (ended.session.perform 20 (.dispatch 0 (.engine 0))).map (·.2.log) =
        some [.told "first" .none] := by
  constructor
  · rfl
  · constructor
    · decide +kernel
    · rfl

end Machine

end MarkerWatch
