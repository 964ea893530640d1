import MarkerWatch.Proofs.Host.Table
import MarkerWatch.Proofs.Service.Seat

/-!
# Engines and the ids of their watches

An engine keeps its queue for as long as it is there, and the queue gives no id to two watches.  So
a watch id in the table of an engine means one file from the subscription on, and an id that is
still to be given means no subscription.  `Service.Seated` is the invariant of all reachable
services that says so, whatever becomes of files, descriptors and other engines.
-/

namespace MarkerWatch

/-! ## Granted requests over the queue of a descriptor -/

namespace WatchTable

variable {σ δ : Type} [DecidableEq σ] {table next : WatchTable σ δ} {host : Host} {fd : Int}
  {last : HostQueue} {path : Path} {watch : WatchId}

/-- A subscription that is granted is on the watch that its file has afterwards. -/
theorem exists_of_subscribed
    (subscribable : table.Subscribable)
    (wellFormed : ∀ id queue, Assoc.get? host.queues id = some queue → queue.book.WellFormed)
    {who : σ} {data : δ} {mask : Mask}
    (granted : table.subscribe (⟨host, fd⟩ : HostQueue) path who data mask =
      (.ok watch, next, last)) :
    next = table.add ⟨watch, mask, who, data⟩ ∧
      ∃ id settled inode,
        last.host.lookUp path = .ok inode ∧ last.host.queueAt? fd = some (id, settled) ∧
          Assoc.get? settled.book.ids inode = some watch ∧ settled.book.WellFormed := by
  obtain ⟨allowed, rfl, probed, again, found, added⟩ := subscribe_granted granted
  refine ⟨rfl, ?_⟩
  let entry : Subscription σ δ := ⟨watch, mask, who, data⟩
  have stillSubscribable : (table.add entry).Subscribable := subscribable.add allowed
  have union : ((table.add entry).aggregate watch).subscribable = true := by
    have member : entry ∈ (table.add entry).entries := List.mem_append_right _ (by simp)
    have something : ((table.add entry).aggregate watch).isEmpty = false :=
      stillSubscribable.isEmpty_aggregate_of_mem member
    exact (stillSubscribable.aggregate watch).resolve_left (by simp [something])
  obtain ⟨id, queue, inode, behind, leads, rfl, rfl⟩ :=
    HostQueue.exists_of_addWatch (by decide) found
  have book := wellFormed id queue (Host.queueAt?_iff.mp behind).2
  obtain ⟨given, probedBook⟩ := EventQueue.book_watch book inode Mask.probe false
  have probedWellFormed : (queue.watch inode Mask.probe false).2.book.WellFormed := by
    rw [probedBook]
    exact book.put inode Mask.probe
  obtain ⟨id', queue', inode', behind', leads', -, rfl⟩ :=
    HostQueue.exists_of_addWatch union added
  rw [Host.lookUp_setQueue, leads] at leads'
  cases leads'
  rw [Host.queueAt?_setQueue behind] at behind'
  cases behind'
  obtain ⟨-, settledBook⟩ := EventQueue.book_watch probedWellFormed inode
    ((table.add entry).aggregate (queue.watch inode Mask.probe false).1) false
  refine ⟨id, _, inode, leads, Host.queueAt?_setQueue (Host.queueAt?_setQueue behind _) _, ?_, ?_⟩
  · rw [settledBook, probedBook, WatchBook.put_put, given]
    exact Assoc.get?_set_self _ _ _
  · rw [settledBook, probedBook, WatchBook.put_put]
    exact book.put inode _

/-- Subscriptions that are ended are those on the watch that their file has or would get. -/
theorem exists_of_unsubscribed
    (wellFormed : ∀ id queue, Assoc.get? host.queues id = some queue → queue.book.WellFormed)
    {who : Option σ} {count : Nat}
    (granted : table.unsubscribe (⟨host, fd⟩ : HostQueue) path who = (.ok count, next, last)) :
    ∃ id queue inode,
      host.lookUp path = .ok inode ∧ host.queueAt? fd = some (id, queue) ∧
        next = table.without (queue.book.idFor inode) who ∧
        table.entries.filter (selects (queue.book.idFor inode) who) ≠ [] := by
  obtain ⟨watch, probed, found, rfl, something⟩ := unsubscribe_granted granted
  obtain ⟨id, queue, inode, behind, leads, rfl, -⟩ :=
    HostQueue.exists_of_addWatch (by decide) found
  have book := wellFormed id queue (Host.queueAt?_iff.mp behind).2
  rw [(EventQueue.book_watch book inode Mask.probe false).1] at something ⊢
  exact ⟨id, queue, inode, leads, behind, rfl, something⟩

end WatchTable

namespace Host

/-- The queues of a later state are well formed where those of the earlier one were. -/
theorem Succeeds.wellFormed
    {before after : Host}
    (succeeds : before.Succeeds after)
    (wellFormed : ∀ id queue, Assoc.get? before.queues id = some queue → queue.book.WellFormed) :
    ∀ id queue, Assoc.get? after.queues id = some queue → queue.book.WellFormed := by
  intro id queue found
  rcases succeeds.queues id queue found with ⟨old, there, succeeds⟩ | ⟨new, succeeds⟩
  · exact succeeds.wellFormed (wellFormed id old there)
  · exact succeeds.wellFormed WatchBook.wellFormed_empty

/-- An old queue has come from the queue of its number. -/
theorem Succeeds.exists_old
    {before after : Host}
    (succeeds : before.Succeeds after)
    {id : Nat} {queue : EventQueue}
    (old : id < before.nextQueue)
    (found : Assoc.get? after.queues id = some queue) :
    ∃ queue', Assoc.get? before.queues id = some queue' ∧ queue'.Succeeds queue := by
  rcases succeeds.queues id queue found with there | ⟨new, -⟩
  · exact there
  · exact absurd old (Nat.not_lt.mpr new)

end Host

namespace Service

/-- A service in which every engine sits at its handle, with a queue of its own that has counted
all watches of its table. -/
structure Seated (s : Service) : Prop where
  wellFormed : ∀ id queue, Assoc.get? s.host.queues id = some queue → queue.book.WellFormed
  seats : ∀ {r h e}, s.engine? r h = some e → s.host.Seats h.fd e.queue
  older : ∀ {r h e}, s.engine? r h = some e → e.queue < s.host.nextQueue
  apart : ∀ {r h e r' h' e'}, s.engine? r h = some e → s.engine? r' h' = some e' →
    e.queue = e'.queue → r = r' ∧ h = h'
  subscribable : ∀ {r h e}, s.engine? r h = some e → e.table.Subscribable
  issued : ∀ {r h e}, s.engine? r h = some e → ∀ entry ∈ e.table.entries,
    ∀ queue, Assoc.get? s.host.queues e.queue = some queue → entry.watch.value ≤ queue.lastId

theorem seated_fresh (numbering : Numbering) (loops : List LoopKind) :
    (fresh numbering loops).Seated where
  wellFormed := by
    intro id queue found
    cases found
  seats := by
    intro r h e found
    cases found
  older := by
    intro r h e found
    cases found
  apart := by
    intro r h e r' h' e' found
    cases found
  subscribable := by
    intro r h e found
    cases found
  issued := by
    intro r h e found
    cases found

namespace Seated

variable {s after : Service} {r : Nat} {h : Handle} {e : Engine}

/-- The queue behind the descriptor of an engine is that of the engine. -/
theorem queue_eq
    (seated : s.Seated)
    (found : s.engine? r h = some e)
    {id : Nat} {queue : EventQueue}
    (behind : s.host.queueAt? h.fd = some (id, queue)) :
    id = e.queue := by
  have seat := (seated.seats found).queue
  rw [(Host.queueAt?_iff.mp behind).1] at seat
  exact Option.some.inj seat

/-- A descriptor belongs to one engine. -/
theorem fd_unique
    (seated : s.Seated)
    {r' : Nat} {h' : Handle} {e' : Engine}
    (found : s.engine? r h = some e)
    (found' : s.engine? r' h' = some e')
    (same : h.fd = h'.fd) :
    r = r' ∧ h = h' := by
  have seat := (seated.seats found).queue
  rw [same, (seated.seats found').queue] at seat
  exact seated.apart found found' (Option.some.inj seat).symm

/-- What was counted stays counted. -/
theorem issued_after
    (seated : s.Seated)
    (succeeds : s.host.Succeeds after.host)
    (found : s.engine? r h = some e)
    {entry : Subscription Subscriber Payload} (member : entry ∈ e.table.entries)
    {queue : EventQueue} (behind : Assoc.get? after.host.queues e.queue = some queue) :
    entry.watch.value ≤ queue.lastId := by
  obtain ⟨old, there, succeeds⟩ := succeeds.exists_old (seated.older found) behind
  have counted := seated.issued found entry member old there
  have lastId := succeeds.lastId
  omega

/-- What an engine has in its table after a step was counted by its queue.  A subscription that is
new is under a watch on a file in the queue. -/
theorem issued_of_stems
    (seated : s.Seated)
    (succeeds : s.host.Succeeds after.host)
    (stems : Stems s after r h e)
    (seats : after.host.Seats h.fd e.queue)
    {entry : Subscription Subscriber Payload} (member : entry ∈ e.table.entries)
    {queue : EventQueue} (behind : Assoc.get? after.host.queues e.queue = some queue) :
    entry.watch.value ≤ queue.lastId := by
  cases stems with
  | opened fresh =>
      subst fresh
      cases member
  | kept found sameQueue table =>
      rw [table] at member
      rw [sameQueue] at behind
      exact seated.issued_after succeeds found member behind
  | @served old found sameQueue request outcome serves table host calls =>
      subst serves
      rw [table] at member
      rcases WatchTable.mem_entries_serve member with before | ⟨path, rfl, answered⟩
      · rw [sameQueue] at behind
        exact seated.issued_after succeeds found before behind
      · obtain ⟨watch, same, granted⟩ := WatchTable.subscribe_of_serve answered
        cases same
        obtain ⟨-, id, settled, inode, -, there, watched, book⟩ :=
          WatchTable.exists_of_subscribed (seated.subscribable found) seated.wellFormed granted
        rw [← host] at there
        have seat := seats.queue
        rw [(Host.queueAt?_iff.mp there).1] at seat
        obtain rfl : id = e.queue := Option.some.inj seat
        rw [(Host.queueAt?_iff.mp there).2] at behind
        cases behind
        exact book.issued _ (book.mem_keys_of_get? watched)

/-- Only the engine that was opened last has the queue that came last. -/
theorem eq_of_opened
    (seated : s.Seated)
    {opened : Engine} (replaces : Replaces r h (some opened) s after)
    {r' : Nat} {h' : Handle} {e' : Engine}
    (here : after.engine? r' h' = some e')
    (last : e'.queue = s.host.nextQueue) :
    r = r' ∧ h = h' := by
  rw [replaces] at here
  split at here
  · assumption
  · exact absurd last (Nat.ne_of_lt (seated.older here))

end Seated

/-- Every step of a service leaves the engines in their seats. -/
theorem Seated.step
    {s after : Service}
    (step : s.Step after)
    (seated : s.Seated) :
    after.Seated := by
  have seats {r : Nat} {h : Handle} {e : Engine} (here : after.engine? r h = some e) :
      after.host.Seats h.fd e.queue := by
    rcases (step.stems here).opened_or_old with ⟨-, -, -, seats⟩ | ⟨old, found, queue⟩
    · exact seats
    · rw [queue]
      rcases step.seats (seated.seats found) with kept | ⟨r', h', closed, same, found', gone⟩
      · exact kept
      · obtain ⟨rfl, rfl⟩ := seated.fd_unique found' found same
        rw [gone] at here
        cases here
  constructor
  case wellFormed => exact step.succeeds.wellFormed seated.wellFormed
  case seats => exact seats
  case older =>
    intro r h e here
    rcases (step.stems here).opened_or_old with ⟨last, -, older, -⟩ | ⟨old, found, queue⟩
    · rw [last]
      exact older
    · rw [queue]
      exact Nat.lt_of_lt_of_le (seated.older found) step.succeeds.nextQueue
  case apart =>
    intro r h e r' h' e' here there same
    rcases (step.stems here).opened_or_old with ⟨last, replaces, -⟩ | ⟨old, found, queue⟩
    · exact seated.eq_of_opened replaces there (same ▸ last)
    · rcases (step.stems there).opened_or_old with ⟨last, replaces, -⟩ | ⟨old', found', queue'⟩
      · obtain ⟨sameRegistry, sameHandle⟩ := seated.eq_of_opened replaces here (same.trans last)
        exact ⟨sameRegistry.symm, sameHandle.symm⟩
      · exact seated.apart found found' (by rw [← queue, ← queue', same])
  case subscribable =>
    intro r h e here
    cases step.stems here with
    | opened fresh =>
        subst fresh
        exact WatchTable.subscribable_empty
    | kept found queue table =>
        rw [table]
        exact seated.subscribable found
    | served found queue request serves table =>
        rw [table, ← serves]
        exact (WatchTable.turns_serve _ _ request).subscribable (seated.subscribable found)
  case issued =>
    intro r h e here entry member queue behind
    exact seated.issued_of_stems step.succeeds (step.stems here) (seats here) member behind

theorem Steps.seated
    {numbering : Numbering} {loops : List LoopKind} {s : Service}
    (steps : Steps (fresh numbering loops) s) :
    s.Seated :=
  steps.induction Seated.step (seated_fresh numbering loops)

/-- Steps of a service leave a later state of its host. -/
theorem Steps.succeeds
    {s after : Service}
    (steps : Steps s after) :
    s.host.Succeeds after.host := by
  induction steps with
  | refl => exact .refl s.host
  | tail earlier last ih => exact ih.trans last.succeeds

/-! ## One engine after another -/

/-- An engine that is there later was there from the start, or was opened since. -/
theorem Steps.queue_or_opened
    {s after : Service}
    (steps : Steps s after)
    {r : Nat} {h : Handle} {e : Engine} (here : after.engine? r h = some e) :
    (∃ old, s.engine? r h = some old ∧ old.queue = e.queue) ∨ s.host.nextQueue ≤ e.queue := by
  induction steps generalizing e with
  | refl => exact .inl ⟨e, here, rfl⟩
  | tail earlier last ih =>
      rcases (last.stems here).opened_or_old with ⟨newest, -⟩ | ⟨old, found, same⟩
      · right
        rw [newest]
        exact (Steps.succeeds earlier).nextQueue
      · rw [same]
        exact ih found

namespace Seated

variable {s after : Service} {r : Nat} {h : Handle} {old e : Engine}

/-- The engine of a handle is the one that was there before, or this one is gone and another was
opened since. -/
theorem same_or_replaced
    (seated : s.Seated)
    (steps : Steps s after)
    (there : s.engine? r h = some old)
    (here : after.engine? r h = some e) :
    e.queue = old.queue ∨
      s.host.nextQueue ≤ e.queue ∧
        ∀ r' h' e', after.engine? r' h' = some e' → e'.queue ≠ old.queue := by
  have older := seated.older there
  rcases steps.queue_or_opened here with ⟨same, found, queue⟩ | opened
  · rw [there] at found
    cases found
    exact .inl queue.symm
  · refine .inr ⟨opened, ?_⟩
    intro r' h' e' elsewhere equal
    rcases steps.queue_or_opened elsewhere with ⟨same, found, queue⟩ | opened'
    · obtain ⟨rfl, rfl⟩ := seated.apart found there (queue.trans equal)
      rw [here] at elsewhere
      cases elsewhere
      omega
    · omega

/-- No single step puts another engine in the place of one. -/
theorem queue_eq_of_step
    (seated : s.Seated)
    (step : s.Step after)
    (there : s.engine? r h = some old)
    (here : after.engine? r h = some e) :
    e.queue = old.queue := by
  have seat := ((seated.step step).seats here).queue
  rcases step.seats (seated.seats there) with kept | ⟨r', h', closed, same, found, gone⟩
  · rw [kept.queue] at seat
    exact (Option.some.inj seat).symm
  · obtain ⟨rfl, rfl⟩ := seated.fd_unique found there same
    rw [here] at gone
    cases gone

/-- Where no number is given again, a handle has no other engine than its first. -/
theorem queue_eq_of_numbersFrom
    (seated : s.Seated)
    (steps : Steps s after)
    {next : Int} (numbers : s.host.NumbersFrom next) (given : h.fd < next)
    (there : s.engine? r h = some old)
    (here : after.engine? r h = some e) :
    e.queue = old.queue := by
  induction steps generalizing e with
  | refl =>
      rw [there] at here
      cases here
      rfl
  | tail earlier last ih =>
      have contained : Service.contains _ r h = true :=
        Steps.contains (.single last) (Steps.induction Step.numbersFrom earlier numbers) given
          (Option.isSome_of_eq_some here)
      obtain ⟨middle, found⟩ := Option.isSome_iff_exists.mp contained
      have seatedMiddle := Steps.induction Seated.step earlier seated
      exact (seatedMiddle.queue_eq_of_step last found here).trans (ih found)

end Seated

/-! ## Subscriptions over time -/

/-- A subscription was granted on the way from one service to another. -/
def Grants (start last : Service) (r : Nat) (h : Handle) (who : Subscriber) (data : Payload)
    (mask : Mask) : Prop :=
  ∃ before after path, Steps start before ∧
    before.subscribeFile r h path who data mask = (.ok (), after) ∧ Steps after last

section

variable {s start after last : Service} {r : Nat} {h : Handle}
  {entry : Subscription Subscriber Payload}

/-- A subscription that is there after a step was there before, or is granted by the step. -/
theorem Step.mem_entries
    (step : s.Step after)
    {e : Engine} (here : after.engine? r h = some e) (member : entry ∈ e.table.entries) :
    (∃ old, s.engine? r h = some old ∧ entry ∈ old.table.entries) ∨
      Grants s after r h entry.subscriber entry.data entry.mask := by
  cases step.stems here with
  | opened fresh =>
      subst fresh
      cases member
  | kept found queue table =>
      rw [table] at member
      exact .inl ⟨_, found, member⟩
  | served found queue request serves table host calls =>
      subst serves
      rw [table] at member
      rcases WatchTable.mem_entries_serve member with old | ⟨path, subscribes, answered⟩
      · exact .inl ⟨_, found, old⟩
      · have granted := calls path _ _ _ subscribes
        rw [answered] at granted
        exact .inr ⟨s, after, path, .refl, granted, .refl⟩

/-- A subscription that is there later was there from the start, or was granted on the way. -/
theorem Steps.mem_entries
    (steps : Steps start last)
    {e : Engine} (here : last.engine? r h = some e) (member : entry ∈ e.table.entries) :
    (∃ old, start.engine? r h = some old ∧ entry ∈ old.table.entries) ∨
      Grants start last r h entry.subscriber entry.data entry.mask := by
  induction steps generalizing e with
  | refl => exact .inl ⟨e, here, member⟩
  | tail earlier step ih =>
      rcases step.mem_entries here member with ⟨old, there, oldMember⟩ | granted
      · rcases ih there oldMember with fromStart | ⟨before, after, path, left, granted, right⟩
        · exact .inl fromStart
        · exact .inr ⟨before, after, path, left, granted, right.tail step⟩
      · obtain ⟨before, after, path, left, granted, right⟩ := granted
        exact .inr ⟨before, after, path, earlier.trans left, granted, right⟩

end

/-! ## Granted calls -/

section

variable {s after : Service} {r : Nat} {h : Handle} {path : Path}

@[simp]
theorem root_setEngine (host : Host) (e : Engine) (r' : Nat) :
    (({ s with host } : Service).setEngine r h e).root r' = s.root r' := by
  rw [root_eq_getElem?, roots_setEngine, root_eq_getElem?]
  rfl

/-- A subscription that is granted is filed under the watch that the file of its path has then. -/
theorem Seated.of_subscribeFile
    (seated : s.Seated)
    {who : Subscriber} {data : Payload} {mask : Mask}
    (granted : s.subscribeFile r h path who data mask = (.ok (), after)) :
    ∃ e queue inode watch,
      s.engine? r h = some e ∧
        after.engine? r h = some { e with table := e.table.add ⟨watch, mask, who, data⟩ } ∧
        after.root r = s.root r ∧
        after.host.lookUp path = .ok inode ∧ after.host.queueAt? h.fd = some (e.queue, queue) ∧
        Assoc.get? queue.book.ids inode = some watch := by
  have step : s.Step after := by
    have step := Step.subscribe s r h path who data mask
    rwa [granted] at step
  have serves := serves_subscribeFile (s := s) (r := r) (h := h) path who data mask
  rw [granted] at serves
  obtain ⟨e, answer, found, answered, rfl⟩ := serves.granted
  obtain ⟨watch, -, subscribed⟩ := WatchTable.subscribe_of_serve answered
  obtain ⟨next, id, queue, inode, leads, behind, watched, -⟩ :=
    WatchTable.exists_of_subscribed (seated.subscribable found) seated.wellFormed subscribed
  have there := replaces_setEngine_withHost (h := h) (lt_of_engine? found)
    (e.table.serve (⟨s.host, h.fd⟩ : HostQueue) (.subscribe path who data mask)).kernel.host
    { e with table := e.table.add ⟨watch, mask, who, data⟩ } r h
  rw [if_pos ⟨rfl, rfl⟩] at there
  rw [next] at step ⊢
  obtain rfl := (seated.step step).queue_eq there behind
  exact ⟨e, queue, inode, watch, found, there, root_setEngine _ _ r, leads, behind, watched⟩

/-- Subscriptions that are ended are those under the watch that the file of their path has now.  As
somebody is subscribed under its id, it is not one that is still to be given. -/
theorem Seated.of_unsubscribeFile
    (seated : s.Seated)
    {who : Option Subscriber}
    (granted : s.unsubscribeFile r h path who = (.ok (), after)) :
    ∃ e queue inode watch,
      s.engine? r h = some e ∧
        after.engine? r h = some { e with table := e.table.without watch who } ∧
        s.host.lookUp path = .ok inode ∧ s.host.queueAt? h.fd = some (e.queue, queue) ∧
        Assoc.get? queue.book.ids inode = some watch ∧
        e.table.entries.filter (WatchTable.selects watch who) ≠ [] := by
  have serves := serves_unsubscribeFile (s := s) (r := r) (h := h) path who
  rw [granted] at serves
  obtain ⟨e, answer, found, answered, rfl⟩ := serves.granted
  obtain ⟨count, -, unsubscribed⟩ := WatchTable.unsubscribe_of_serve answered
  obtain ⟨id, queue, inode, leads, behind, next, something⟩ :=
    WatchTable.exists_of_unsubscribed seated.wellFormed unsubscribed
  obtain rfl := seated.queue_eq found behind
  have watched : Assoc.get? queue.book.ids inode = some (queue.book.idFor inode) := by
    cases held : Assoc.get? queue.book.ids inode with
    | some watch => simp [WatchBook.idFor, held]
    | none =>
        obtain ⟨entry, member⟩ := List.exists_mem_of_ne_nil _ something
        obtain ⟨member, selected⟩ := List.mem_filter.mp member
        have counted :=
          seated.issued found entry member queue (Host.queueAt?_iff.mp behind).2
        rw [WatchTable.watch_eq_of_selects selected, WatchBook.idFor, held] at counted
        exact absurd counted (Int.not_le.mpr (Int.lt_succ _))
  have there := replaces_setEngine_withHost (h := h) (lt_of_engine? found)
    (e.table.serve (⟨s.host, h.fd⟩ : HostQueue) (.unsubscribe path who)).kernel.host
    { e with table := e.table.without (queue.book.idFor inode) who } r h
  rw [if_pos ⟨rfl, rfl⟩] at there
  rw [next]
  exact ⟨e, queue, inode, _, found, there, leads, behind, watched, something⟩

end

end Service

end MarkerWatch
