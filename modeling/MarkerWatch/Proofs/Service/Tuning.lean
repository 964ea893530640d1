import MarkerWatch.Proofs.Host.Descriptor
import MarkerWatch.Proofs.Host.Table
import MarkerWatch.Proofs.Service.Engine

/-!
# Engines in tune with their queues

Each engine has a queue of its own, behind the descriptor that its handle names, and its table is in
tune with that queue.  The calls on registries keep it so, and so do calls on files, as long as no
watched file ceases to exist.

Subscribers of such engines are known by labels, as those of a session are.
-/

namespace MarkerWatch

/-- An engine that is in tune with the queue behind a descriptor. -/
structure Engine.Tuned (e : Engine) (host : Host) (fd : Int) : Prop where
  inTune : ∃ queue, host.queueAt? fd = some (e.queue, queue) ∧ e.table.InTune queue
  labelled : ∀ entry ∈ e.table.entries, ∃ label, entry.subscriber = .labelled label

/-- Every file that was watched on a host is still there on another one. -/
def Host.Keeps (before after : Host) : Prop :=
  ∀ fd id queue, before.queueAt? fd = some (id, queue) →
    ∀ watch ∈ queue.watches, after.Has watch.inode

namespace Engine.Tuned

variable {e : Engine} {host after : Host} {fd : Int}

/-- An engine stays tuned while its queue keeps its watches, whatever events it hears of. -/
theorem of_queue
    (tuned : e.Tuned host fd)
    (carried : ∀ queue, host.queueAt? fd = some (e.queue, queue) → queue.Ordinary →
      ∃ heard, after.queueAt? fd = some (e.queue, heard) ∧
        heard.lastId = queue.lastId ∧ heard.watches = queue.watches) :
    e.Tuned after fd where
  inTune := by
    obtain ⟨queue, found, inTune⟩ := tuned.inTune
    obtain ⟨heard, found', lastId, watches⟩ := carried queue found inTune.ordinary
    exact ⟨heard, found', inTune.of_watches lastId watches⟩
  labelled := tuned.labelled

theorem of_queueAt?
    (tuned : e.Tuned host fd)
    (same : ∀ queue, host.queueAt? fd = some (e.queue, queue) →
      after.queueAt? fd = some (e.queue, queue)) :
    e.Tuned after fd :=
  tuned.of_queue fun queue found _ => ⟨queue, same queue found, rfl, rfl⟩

/-- Calls on files do not put an engine out of tune while its files last. -/
theorem hear
    {lasting : Nat → Prop}
    (tuned : e.Tuned host fd)
    (hears : Host.Hears lasting host after)
    (kept : ∀ queue, host.queueAt? fd = some (e.queue, queue) →
      ∀ watch ∈ queue.watches, lasting watch.inode) :
    e.Tuned after fd :=
  tuned.of_queue fun queue found ordinary => by
    obtain ⟨heard, hearsQueue, found'⟩ := hears.queueAt? found
    refine ⟨heard, found', hearsQueue.lastId, hearsQueue.watches fun watch member => ?_⟩
    exact ⟨(ordinary watch member).1, kept queue found watch member⟩

end Engine.Tuned

namespace Service

/-- A service in which every engine has a queue of its own and is in tune with it. -/
structure Tuned (s : Service) : Prop where
  sound : s.host.Sound
  engines : ∀ {r h e}, s.engine? r h = some e → e.Tuned s.host h.fd
  apart : ∀ {r h e r' h' e'}, s.engine? r h = some e → s.engine? r' h' = some e' →
    e.queue = e'.queue → r = r' ∧ h = h'

/-- A service without registries has no engine that could be out of tune. -/
theorem tuned_fresh (numbering : Numbering) (loops : List LoopKind) :
    (fresh numbering loops).Tuned where
  sound := Host.sound_fresh numbering
  engines := by
    intro r h e found
    cases found
  apart := by
    intro r h e r' h' e' found
    cases found

namespace Tuned

variable {s after : Service} {r : Nat} {h : Handle} {e : Engine}

/-- Only opening an engine brings a queue into play. -/
theorem of_kept
    (tuned : s.Tuned)
    (sound : after.host.Sound)
    (each : ∀ {r h e}, after.engine? r h = some e →
      e.Tuned after.host h.fd ∧ ∃ old, s.engine? r h = some old ∧ old.queue = e.queue) :
    after.Tuned where
  sound := sound
  engines := fun found => (each found).1
  apart := by
    intro r h e r' h' e' found found' same
    obtain ⟨-, old, foundOld, queue⟩ := each found
    obtain ⟨-, old', foundOld', queue'⟩ := each found'
    exact tuned.apart foundOld foundOld' (by rw [queue, queue', same])

/-- A descriptor belongs to one engine. -/
theorem fd_unique
    (tuned : s.Tuned)
    {r' : Nat} {h' : Handle} {e' : Engine}
    (found : s.engine? r h = some e)
    (found' : s.engine? r' h' = some e')
    (same : h.fd = h'.fd) :
    r = r' ∧ h = h' := by
  obtain ⟨queue, behind, -⟩ := (tuned.engines found).inTune
  obtain ⟨queue', behind', -⟩ := (tuned.engines found').inTune
  rw [same, behind'] at behind
  exact tuned.apart found found' (congrArg Prod.fst (Option.some.inj behind)).symm

/-- Engines stay tuned while every file that is watched lasts. -/
theorem hear
    (tuned : s.Tuned)
    {lasting : Nat → Prop} {host : Host}
    (hears : Host.Hears lasting s.host host)
    (kept : ∀ fd id queue, s.host.queueAt? fd = some (id, queue) →
      ∀ watch ∈ queue.watches, lasting watch.inode) :
    Tuned { s with host := host } :=
  tuned.of_kept (tuned.sound.of_descriptors hears.descriptors hears.numbering hears.nextQueue)
    fun found => ⟨(tuned.engines found).hear hears fun queue behind => kept _ _ queue behind,
      _, found, rfl⟩

/-- A read takes events off a queue, and leaves its watches in tune. -/
theorem read
    (tuned : s.Tuned) (fd : Int) (room : Nat) :
    Tuned { s with host := (s.host.read fd room).2 } := by
  refine tuned.of_kept (tuned.sound.read fd room) fun found => ⟨?_, _, found, rfl⟩
  refine (tuned.engines found).of_queue fun queue behind _ => ?_
  obtain ⟨events, behind⟩ := Host.queueAt?_read tuned.sound room behind
  exact ⟨_, behind, rfl, rfl⟩

theorem addRegistry
    (tuned : s.Tuned) (root : Path) (probe : Release.Probe) :
    (s.addRegistry root probe).Tuned := by
  refine tuned.of_kept tuned.sound fun found => ?_
  rw [engine?_addRegistry] at found
  exact ⟨tuned.engines found, _, found, rfl⟩

theorem detach (tuned : s.Tuned) (r : Nat) (h : Handle) : (s.detach r h).2.Tuned := by
  rw [Service.detach]
  split
  · exact tuned
  · rename_i e found
    refine tuned.of_kept (by rw [host_cancel]; exact tuned.sound) fun {r' h' e'} found' => ?_
    rw [engine?_cancel, replaces_setEngine (lt_of_engine? found)] at found'
    rw [host_cancel]
    split at found'
    · rename_i same
      obtain ⟨rfl, rfl⟩ := same
      cases found'
      exact ⟨⟨(tuned.engines found).inTune, (tuned.engines found).labelled⟩, e, found, rfl⟩
    · exact ⟨tuned.engines found', e', found', rfl⟩

theorem close (tuned : s.Tuned) (r : Nat) (h : Handle) : (s.close r h).Tuned := by
  rw [Service.close]
  split
  · exact tuned
  · rename_i e found
    dsimp only
    rw [host_cancel]
    obtain ⟨queue, behind, -⟩ := (tuned.engines found).inTune
    refine tuned.of_kept (tuned.sound.closeDescriptor h.fd) fun {r' h' e'} found' => ?_
    change ((s.mapEngines r (Assoc.erase · h)).cancel e.source).engine? r' h' = some e' at found'
    rw [engine?_cancel, replaces_erase] at found'
    split at found'
    · cases found'
    · rename_i other
      refine ⟨(tuned.engines found').of_queueAt? fun queue' behind' => ?_, e', found', rfl⟩
      refine Host.queueAt?_closeDescriptor (Host.queueAt?_iff.mp behind).1 ?_ ?_ behind'
      · exact fun same => other (tuned.fd_unique found found' same)
      · exact fun same => other (tuned.apart found found' same)

/-- An engine may get another table together with another state of its queue. -/
theorem retable
    (tuned : s.Tuned)
    (found : s.engine? r h = some e)
    {table : WatchTable Subscriber Payload} {settled : EventQueue}
    (inTune : table.InTune settled)
    (labelled : ∀ entry ∈ table.entries, ∃ label, entry.subscriber = .labelled label) :
    Tuned (({ s with host := s.host.setQueue e.queue settled } : Service).setEngine r h
      { e with table }) := by
  obtain ⟨queue, behind, -⟩ := (tuned.engines found).inTune
  have replaces := replaces_setEngine_withHost (h := h) (lt_of_engine? found)
    (s.host.setQueue e.queue settled) { e with table }
  refine tuned.of_kept (tuned.sound.of_descriptors rfl rfl rfl) fun {r' h' e'} found' => ?_
  rw [replaces] at found'
  split at found'
  · rename_i same
    obtain ⟨rfl, rfl⟩ := same
    cases found'
    exact ⟨⟨⟨settled, Host.queueAt?_setQueue behind settled, inTune⟩, labelled⟩, e, found, rfl⟩
  · rename_i other
    refine ⟨(tuned.engines found').of_queueAt? fun queue' behind' => ?_, e', found', rfl⟩
    refine Host.queueAt?_setQueue_of_ne (fun same => ?_) settled behind'
    exact other (tuned.apart found found' same)

/-- A subscription tunes the watch of its file anew. -/
theorem subscribeFile
    (tuned : s.Tuned) (r : Nat) (h : Handle) (path : Path) (label : String) (data : Payload)
    (mask : Mask) :
    (s.subscribeFile r h path (.labelled label) data mask).2.Tuned := by
  rw [Service.subscribeFile]
  split
  · exact tuned
  · split
    · exact tuned
    · rename_i e found
      obtain ⟨queue, behind, inTune⟩ := (tuned.engines found).inTune
      have labelled := (tuned.engines found).labelled
      have subscribes := inTune.subscribes behind path (.labelled label) data mask
      generalize e.table.subscribe (⟨s.host, h.fd⟩ : HostQueue) path (.labelled label) data mask =
        outcome at subscribes
      cases subscribes with
      | refused fault inTune => exact tuned.retable found inTune labelled
      | granted leads watched inTune =>
          refine tuned.retable found inTune fun entry member => ?_
          rcases List.mem_append.mp member with old | new
          · exact labelled entry old
          · rw [List.mem_singleton.mp new]
            exact ⟨label, rfl⟩

/-- The watch of a file is tuned anew to those who stay. -/
theorem unsubscribeFile
    (tuned : s.Tuned) (r : Nat) (h : Handle) (path : Path) (who : Option Subscriber) :
    (s.unsubscribeFile r h path who).2.Tuned := by
  rw [Service.unsubscribeFile]
  split
  · exact tuned
  · split
    · exact tuned
    · split
      · exact tuned
      · rename_i e found
        obtain ⟨queue, behind, inTune⟩ := (tuned.engines found).inTune
        obtain ⟨answer, next, settled, equal, inTune, old⟩ := inTune.unsubscribes behind path who
        rw [equal]
        exact tuned.retable found inTune fun entry member =>
          (tuned.engines found).labelled entry (old entry member)

theorem subscribe
    (tuned : s.Tuned) (r : Nat) (h : Handle) (name label : String) (data : Payload) :
    (s.subscribe r h name (.labelled label) data).2.Tuned := by
  rw [Service.subscribe]
  split
  · exact tuned
  · exact tuned.subscribeFile r h _ label data _

theorem unsubscribe
    (tuned : s.Tuned) (r : Nat) (h : Handle) (name : String) (who : Option Subscriber) :
    (s.unsubscribe r h name who).2.Tuned := by
  rw [Service.unsubscribe]
  split
  · exact tuned
  · exact tuned.unsubscribeFile r h _ who

/-! ## Opening engines -/

/-- The queue of an engine that is about to be opened is that of no other. -/
theorem queue_lt
    (tuned : s.Tuned)
    (found : s.engine? r h = some e) :
    e.queue < s.host.nextQueue := by
  obtain ⟨queue, behind, -⟩ := (tuned.engines found).inTune
  exact tuned.sound.lt_nextQueue behind

section

variable {host : Host} (tuned : s.Tuned)
  (hears : Host.Hears (fun _ => True) s.host.openQueue.2 host)

include hears in
/-- The queue of an engine that is being opened. -/
theorem exists_opened :
    ∃ heard : EventQueue,
      host.queueAt? s.host.openQueue.1 = some (s.host.nextQueue, heard) ∧
        heard.lastId = EventQueue.empty.lastId ∧ heard.watches = EventQueue.empty.watches := by
  obtain ⟨heard, hearsQueue, behind⟩ := hears.queueAt? Host.queueAt?_opened
  refine ⟨heard, behind, hearsQueue.lastId, hearsQueue.watches fun watch member => ?_⟩
  cases member

include tuned hears

/-- Engines that were there have their queues behind their descriptors also when another was
opened. -/
theorem of_opened (found : s.engine? r h = some e) : e.Tuned host h.fd := by
  have opened : e.Tuned s.host.openQueue.2 h.fd :=
    (tuned.engines found).of_queueAt? fun queue behind =>
      Host.queueAt?_openQueue tuned.sound behind
  exact opened.hear hears fun _ _ _ _ => trivial

theorem sound_opened : host.Sound :=
  tuned.sound.openQueue.of_descriptors hears.descriptors hears.numbering hears.nextQueue

/-- An engine that could not be opened has its queue closed, and the others are as they were. -/
theorem init_refused : Tuned { s with host := host.closeDescriptor s.host.openQueue.1 } := by
  obtain ⟨heard, opened, -, -⟩ := exists_opened hears
  refine tuned.of_kept ((tuned.sound_opened hears).closeDescriptor _) fun found => ?_
  refine ⟨(tuned.of_opened hears found).of_queueAt? fun queue behind => ?_, _, found, rfl⟩
  have older := tuned.queue_lt found
  refine Host.queueAt?_closeDescriptor (Host.queueAt?_iff.mp opened).1 ?_
    (Nat.ne_of_gt older) behind
  intro same
  rw [← same, opened] at behind
  exact absurd (congrArg Prod.fst (Option.some.inj behind)) (Nat.ne_of_gt older)

/-- An engine that is opened has neither subscriptions nor watches. -/
theorem init_granted (present : r < s.registries.length) :
    Tuned (({ s with host } : Service).setEngine r ⟨s.host.openQueue.1⟩
      (.fresh s.host.nextQueue)) := by
  have replaces := replaces_opened present host s.host.openQueue.1
  constructor
  · exact tuned.sound_opened hears
  · intro r' h' e' found
    rw [replaces] at found
    split at found
    · rename_i same
      obtain ⟨rfl, rfl⟩ := same
      cases found
      obtain ⟨heard, opened, lastId, watches⟩ := exists_opened hears
      refine ⟨⟨heard, opened, WatchTable.inTune_empty.of_watches lastId watches⟩, ?_⟩
      intro entry member
      cases member
    · exact tuned.of_opened hears found
  · intro r₁ h₁ e₁ r₂ h₂ e₂ found₁ found₂ same
    rw [replaces] at found₁ found₂
    split at found₁ <;> split at found₂
    · rename_i here₁ here₂
      exact ⟨here₁.1.symm.trans here₂.1, here₁.2.symm.trans here₂.2⟩
    · cases found₁
      exact absurd same (Nat.ne_of_gt (tuned.queue_lt found₂))
    · cases found₂
      exact absurd same (Nat.ne_of_lt (tuned.queue_lt found₁))
    · exact tuned.apart found₁ found₂ same

end

theorem init (tuned : s.Tuned) (r : Nat) (exhausted : Bool) : (s.init r exhausted).2.Tuned := by
  rw [Service.init]
  split
  · exact tuned
  · rename_i registry present
    split
    · exact tuned
    · split
      · exact tuned
      · have hears : Host.Hears (fun _ => True) s.host.openQueue.2
            (s.host.openQueue.2.prepareRoot registry.root).2 :=
          s.host.openQueue.2.prepareRoot_hears registry.root
        dsimp only
        split <;> rename_i prepared <;> rw [prepared] at hears
        · exact tuned.init_refused hears
        · exact tuned.init_granted hears (List.getElem?_eq_some_iff.mp present).1

end Tuned

end Service

end MarkerWatch
