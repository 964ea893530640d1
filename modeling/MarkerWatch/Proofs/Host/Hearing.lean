import MarkerWatch.Host.Root
import MarkerWatch.Marker

/-!
# What queues hear of calls on files

A call on files changes the tree and tells each queue of events.  It opens and closes no descriptor
and adds no watch.  A queue loses a watch only when the watched file ceases to exist or the watch
was to end with its first event; `EventQueue.Hears` says so for one queue and `Host.Hears` for a
host.

Both are relative to a set of lasting files.  Calls that remove nothing are heard of with every file
lasting, and every other call with those files lasting that the tree still has afterwards.
-/

namespace MarkerWatch

/-- Every value that a computation may give has a property. -/
def Yields {ε α : Type} (outcome : Except ε α) (property : α → Prop) : Prop :=
  ∀ value, outcome = .ok value → property value

namespace Yields

variable {ε α β : Type} {property : α → Prop}

/-- A value that is given without further ado has the property if it has it. -/
theorem pure {value : α} (holds : property value) :
    Yields (Pure.pure value : Except ε α) property := by
  intro other equal
  rw [← Except.ok.inj equal]
  exact holds

/-- A refusal gives no value, so any property holds of all that are given. -/
theorem throw {error : ε} : Yields (MonadExcept.throw error : Except ε α) property := by
  intro value equal
  cases equal

/-- A computation in two parts gives what its second part gives for a value of the first. -/
theorem bind
    {outcome : Except ε β} {next : β → Except ε α}
    (each : ∀ value, outcome = .ok value → Yields (next value) property) :
    Yields (outcome >>= next) property := by
  intro value equal
  cases outcome with
  | error error => cases equal
  | ok first => exact each first rfl value equal

/-- A check that may refuse to go on does not matter to what is given in the end. -/
theorem guard
    {refused : Prop} [Decidable refused] {error : ε} {next : Unit → Except ε α}
    (continued : ¬ refused → Yields (next ()) property) :
    Yields (if refused then (do let u ← MonadExcept.throw error; next u) else next ())
      property := by
  split
  · exact bind fun _ equal => by cases equal
  · rename_i permitted
    exact continued permitted

/-- A requirement that may fail does not matter either: what is given met it. -/
theorem ensure
    {required : Prop} [Decidable required] {error : ε} {next : Unit → Except ε α}
    (continued : required → Yields (next ()) property) :
    Yields (if required then next () else (do let u ← MonadExcept.throw error; next u))
      property := by
  split
  · rename_i permitted
    exact continued permitted
  · exact bind fun _ equal => by cases equal

end Yields

namespace EventQueue

/-- A queue after it was told of events, some files having ceased to exist. -/
structure Hears (lasting : Nat → Prop) (before after : EventQueue) : Prop where
  lastId : after.lastId = before.lastId
  fewer : after.watches.Sublist before.watches
  watches :
    (∀ watch ∈ before.watches, watch.once = false ∧ lasting watch.inode) →
      after.watches = before.watches

variable {lasting : Nat → Prop}

theorem Hears.refl (queue : EventQueue) : Hears lasting queue queue where
  lastId := rfl
  fewer := .refl queue.watches
  watches := fun _ => rfl

theorem Hears.trans
    {first second third : EventQueue}
    (left : Hears lasting first second)
    (right : Hears lasting second third) :
    Hears lasting first third where
  lastId := right.lastId.trans left.lastId
  fewer := right.fewer.trans left.fewer
  watches := by
    intro kept
    have same := left.watches kept
    exact (right.watches (by rw [same]; exact kept)).trans same

/-- The fewer files are known to last, the less is said of the watches that are kept. -/
theorem Hears.mono
    {before after : EventQueue} {fewer : Nat → Prop}
    (hears : Hears lasting before after)
    (sub : ∀ inode, fewer inode → lasting inode) :
    Hears fewer before after where
  lastId := hears.lastId
  fewer := hears.fewer
  watches := by
    intro kept
    exact hears.watches fun watch member =>
      ⟨(kept watch member).1, sub _ (kept watch member).2⟩

@[simp]
theorem watches_push (queue : EventQueue) (event : Event) :
    (queue.push event).watches = queue.watches := by
  rw [push]
  split <;> rfl

@[simp]
theorem lastId_push (queue : EventQueue) (event : Event) :
    (queue.push event).lastId = queue.lastId := by
  rw [push]
  split <;> rfl

@[simp]
theorem lastId_drop (queue : EventQueue) (watch : WatchId) :
    (queue.drop watch).lastId = queue.lastId :=
  lastId_push _ _

/-- A queue that drops a watch has the others left, in their order. -/
theorem watches_drop (queue : EventQueue) (watch : WatchId) :
    (queue.drop watch).watches = queue.watches.filter (·.id ≠ watch) :=
  watches_push _ _

/-- An event that is put into a queue leaves its watches alone. -/
theorem hears_push (queue : EventQueue) (event : Event) :
    Hears lasting queue (queue.push event) where
  lastId := lastId_push queue event
  fewer := by simp only [watches_push, List.Sublist.refl]
  watches := fun _ => watches_push queue event

/-- The watch that is found on a file is one of the queue, and is on that file. -/
theorem mem_of_watchOn?
    {queue : EventQueue} {inode : Nat} {watch : KernelWatch}
    (found : queue.watchOn? inode = some watch) :
    watch ∈ queue.watches ∧ watch.inode = inode := by
  rw [watchOn?] at found
  exact ⟨List.mem_of_find?_eq_some found, by simpa using List.find?_some found⟩

/-- A report drops no watch that lasts. -/
theorem hears_report
    (queue : EventQueue) (inode : Nat) (kinds extra : Mask) (cookie : Nat) (name : List UInt8) :
    Hears lasting queue (queue.report inode kinds extra cookie name) := by
  rw [report]
  split
  · exact .refl queue
  · rename_i watch found
    split
    · dsimp only
      split
      · rename_i once
        refine ⟨by rw [lastId_drop, lastId_push], ?_, fun kept => ?_⟩
        · rw [watches_drop, watches_push]
          exact List.filter_sublist
        have lasts := (kept watch (mem_of_watchOn? found).1).1
        rw [once] at lasts
        contradiction
      · exact hears_push _ _
    · exact .refl queue

/-- A queue may lose the watch on a file that has ceased to exist. -/
theorem hears_forget
    (queue : EventQueue) {inode : Nat}
    (gone : ¬ lasting inode) :
    Hears lasting queue (queue.forget inode) := by
  rw [forget]
  split
  · exact .refl queue
  · rename_i watch found
    obtain ⟨member, onInode⟩ := mem_of_watchOn? found
    refine ⟨?_, ?_, fun kept => absurd (onInode ▸ (kept watch member).2) gone⟩
    · rw [lastId_drop]
      split
      · exact lastId_push _ _
      · rfl
    · have told : (if watch.mask.intersects Mask.deleteSelf then
          queue.push ⟨watch.id, Mask.deleteSelf, 0, []⟩ else queue).watches = queue.watches := by
        split
        · exact watches_push _ _
        · rfl
      rw [watches_drop, told]
      exact List.filter_sublist

end EventQueue

namespace Host

/-- A host after a call on its files, some of which have ceased to exist. -/
structure Hears (lasting : Nat → Prop) (before after : Host) : Prop where
  descriptors : after.descriptors = before.descriptors
  numbering : after.numbering = before.numbering
  nextQueue : after.nextQueue = before.nextQueue
  queues : ∃ change : EventQueue → EventQueue,
    (∀ queue, EventQueue.Hears lasting queue (change queue)) ∧
      after.queues = before.queues.map fun (id, queue) => (id, change queue)

variable {lasting : Nat → Prop} {before after : Host}

/-- Whatever became of the tree, the queues have heard of nothing. -/
theorem hears_of_tree
    (host : Host) (tree : FileTree) (cookie : Nat) :
    Hears lasting host { host with tree := tree, nextCookie := cookie } where
  descriptors := rfl
  numbering := rfl
  nextQueue := rfl
  queues := ⟨id, fun queue => .refl queue, by simp⟩

theorem Hears.refl (host : Host) : Hears lasting host host :=
  hears_of_tree host host.tree host.nextCookie

theorem Hears.trans
    {first second third : Host}
    (left : Hears lasting first second)
    (right : Hears lasting second third) :
    Hears lasting first third where
  descriptors := right.descriptors.trans left.descriptors
  numbering := right.numbering.trans left.numbering
  nextQueue := right.nextQueue.trans left.nextQueue
  queues := by
    obtain ⟨change, heard, queues⟩ := left.queues
    obtain ⟨change', heard', queues'⟩ := right.queues
    refine ⟨change' ∘ change, fun queue => (heard queue).trans (heard' (change queue)), ?_⟩
    rw [queues', queues, List.map_map]
    rfl

theorem Hears.mono
    {fewer : Nat → Prop}
    (hears : Hears lasting before after)
    (sub : ∀ inode, fewer inode → lasting inode) :
    Hears fewer before after where
  descriptors := hears.descriptors
  numbering := hears.numbering
  nextQueue := hears.nextQueue
  queues := by
    obtain ⟨change, heard, queues⟩ := hears.queues
    exact ⟨change, fun queue => (heard queue).mono sub, queues⟩

/-- A host hears of what each of its queues is told. -/
theorem hears_tell
    (host : Host) {change : EventQueue → EventQueue}
    (heard : ∀ queue, EventQueue.Hears lasting queue (change queue)) :
    Hears lasting host (host.tell change) where
  descriptors := rfl
  numbering := rfl
  nextQueue := rfl
  queues := ⟨change, heard, rfl⟩

/-! ## Events -/

/-- Whatever was done to a file is told in the directory first, where there is one, and then on the
file. -/
theorem hears_used
    (host : Host) (inode : Nat) (entry : Option (Nat × FileName)) (kinds : List Mask) :
    Hears lasting host (host.used inode entry kinds) := by
  apply hears_tell
  intro queue
  induction kinds generalizing queue with
  | nil => exact .refl queue
  | cons kind kinds ih =>
      rw [List.foldl_cons]
      refine .trans ?_ (ih _)
      cases entry with
      | none => exact EventQueue.hears_report _ _ _ _ _ _
      | some place =>
          exact (EventQueue.hears_report _ _ _ _ _ _).trans
            (EventQueue.hears_report _ _ _ _ _ _)

/-- A change to an entry of a directory is told to those who watch the directory. -/
theorem hears_changed
    (host : Host) (directory : Nat) (name : FileName) (kind extra : Mask) (cookie : Nat) :
    Hears lasting host (host.changed directory name kind extra cookie) :=
  hears_tell host fun queue => queue.hears_report _ _ _ _ _

theorem hears_touched (host : Host) (inode : Nat) (kind extra : Mask) :
    Hears lasting host (host.touched inode kind extra) :=
  hears_tell host fun queue => queue.hears_report _ _ _ _ _

/-- A file that is discarded is no longer in the tree. -/
theorem inode?_discard (tree : FileTree) (inode : Nat) :
    (tree.discard inode).inode? inode = none := by
  rw [FileTree.discard, FileTree.inode?, Assoc.get?_erase, if_pos rfl]

/-- A file that is released ceases to last only when the tree loses it. -/
theorem hears_released
    (host : Host) {inode : Nat}
    (gone : (host.released inode).tree.inode? inode = none → ¬ lasting inode) :
    Hears lasting host (host.released inode) := by
  rw [released] at gone ⊢
  split at gone
  · rename_i last
    rw [if_pos last]
    refine (hears_of_tree host _ _).trans (hears_tell _ fun queue => ?_)
    apply queue.hears_forget
    apply gone
    change (host.tree.release inode).inode? inode = none
    rw [FileTree.release, if_pos (by simpa using last)]
    exact inode?_discard _ _
  · rename_i more
    rw [if_neg more]
    exact hears_of_tree host _ _

/-! ## Calls that remove nothing -/

theorem truncate_hears (host : Host) (path : Path) :
    Yields (host.truncate path) (Hears lasting host) :=
  .bind fun _ _ => .pure <|
    (hears_of_tree host _ _).trans (hears_used _ _ _ _)

/-- Touching a file removes nothing: one that is there is opened for writing, and else one is
made. -/
theorem touchFile_hears (host : Host) (path : Path) (mode : Nat) :
    Yields (host.touchFile path mode) (Hears lasting host) := by
  refine .bind fun place _ => ?_
  cases place with
  | present inode entry => exact .guard fun _ => .pure (hears_used _ _ _ _)
  | absent directory name =>
      exact .pure <|
        ((hears_of_tree host _ _).trans (hears_changed _ _ _ _ _ _)).trans (hears_used _ _ _ _)

theorem writeFile_hears (host : Host) (path : Path) (bytes : List UInt8) :
    Yields (host.writeFile path bytes) (Hears lasting host) := by
  refine .bind fun place _ => ?_
  cases place with
  | present inode entry =>
      exact .guard fun _ => .pure <| (hears_of_tree host _ _).trans (hears_used _ _ _ _)
  | absent directory name =>
      exact .pure <|
        ((hears_of_tree host _ _).trans (hears_changed _ _ _ _ _ _)).trans (hears_used _ _ _ _)

theorem appendFile_hears (host : Host) (path : Path) (bytes : List UInt8) :
    Yields (host.appendFile path bytes) (Hears lasting host) :=
  .bind fun _ _ => .pure <| (hears_of_tree host _ _).trans (hears_used _ _ _ _)

/-- Reading a file is heard of whether or not there are bytes to give. -/
theorem readFile_hears (host : Host) (path : Path) :
    Hears lasting host (host.readFile path).2 := by
  rw [readFile]
  split
  · exact .refl host
  · split <;> exact hears_used _ _ _ _

theorem openToRead_hears (host : Host) (path : Path) :
    Yields (host.openToRead path) (Hears lasting host) :=
  .bind fun _ _ => .pure (hears_used _ _ _ _)

theorem makeDirectory_hears (host : Host) (path : Path) :
    Yields (host.makeDirectory path) (Hears lasting host) :=
  .bind fun _ _ => .pure <| (hears_of_tree host _ _).trans (hears_changed _ _ _ _ _ _)

theorem linkSymbolically_hears (host : Host) (target path : Path) :
    Yields (host.linkSymbolically target path) (Hears lasting host) :=
  .bind fun _ _ => .bind fun _ _ => .pure <|
    (hears_of_tree host _ _).trans (hears_changed _ _ _ _ _ _)

theorem linkFile_hears (host : Host) (source path : Path) :
    Yields (host.linkFile source path) (Hears lasting host) :=
  .bind fun _ _ => .bind fun _ _ => .guard fun _ => .pure <|
    ((hears_of_tree host _ _).trans (hears_touched _ _ _ _)).trans (hears_changed _ _ _ _ _ _)

theorem setMode_hears (host : Host) (path : Path) (mode : Nat) :
    Yields (host.setMode path mode) (Hears lasting host) :=
  .bind fun _ _ => .pure <| (hears_of_tree host _ _).trans (hears_used _ _ _ _)

/-! ## Calls that remove something -/

/-- Whether a file is still there. -/
def Has (host : Host) (inode : Nat) : Prop :=
  (host.tree.inode? inode).isSome = true

/-- What is not in the tree of a host is no longer there. -/
theorem not_has_of_inode?
    {host : Host} {inode : Nat}
    (absent : host.tree.inode? inode = none) :
    ¬ host.Has inode := by
  simp [Has, absent]

/-- Removing a name of a file removes the file only when that name was its last. -/
theorem removeFile_hears (host : Host) (path : Path) :
    Yields (host.removeFile path) fun after => Hears after.Has host after := by
  refine .bind fun place _ => ?_
  split
  · refine .bind fun entry _ => ?_
    cases entry with
    | none => exact .throw
    | some inode =>
        refine .guard fun _ => .guard fun _ => .pure ?_
        refine .trans ?_ (hears_changed _ _ _ _ _ _)
        refine .trans ?_ (hears_released _ not_has_of_inode?)
        exact (hears_touched _ _ _ _).trans (hears_of_tree _ _ _)
  · exact .throw

/-- A directory that is removed was empty, and ceases to exist. -/
theorem removeDirectory_hears (host : Host) (path : Path) :
    Yields (host.removeDirectory path) fun after => Hears after.Has host after := by
  refine .bind fun place _ => ?_
  split
  · exact .throw
  · exact .throw
  · exact .throw
  · refine .bind fun entry _ => ?_
    cases entry with
    | none => exact .throw
    | some inode =>
        refine .guard fun _ => .guard fun _ => .pure ?_
        refine .trans ?_ (hears_changed _ _ _ _ _ _)
        exact (hears_of_tree _ _ _).trans (hears_released _ not_has_of_inode?)

/-- A file that is moved goes on to exist, and one that it replaces may cease to. -/
theorem moveEntry_hears
    (host : Host) (inode : Nat) (source target : Nat × FileName) (replaced : Option Nat) :
    Hears (host.moveEntry inode source target replaced).Has host
      (host.moveEntry inode source target replaced) := by
  cases replaced with
  | none =>
      refine .trans ?_ (hears_touched _ _ _ _)
      refine .trans ?_ (hears_changed _ _ _ _ _ _)
      exact (hears_of_tree host _ _).trans (hears_changed _ _ _ _ _ _)
  | some old =>
      refine .trans ?_ (hears_released _ not_has_of_inode?)
      refine .trans ?_ ((hears_touched _ _ _ _).trans (hears_touched _ _ _ _))
      refine .trans ?_ (hears_changed _ _ _ _ _ _)
      exact (hears_of_tree host _ _).trans (hears_changed _ _ _ _ _ _)

/-- A call that renames is refused, has nothing to do or moves an entry. -/
theorem rename_hears (host : Host) (source target : Path) :
    Yields (host.rename source target) fun after => Hears after.Has host after := by
  refine .bind fun left _ => .bind fun right _ => ?_
  split
  · refine .bind fun entry _ => ?_
    cases entry with
    | none => exact .throw
    | some inode =>
        refine .bind fun replaced _ => .guard fun _ => .guard fun _ => ?_
        cases replaced with
        | none => exact .pure (moveEntry_hears _ _ _ _ _)
        | some old =>
            refine .guard fun _ => ?_
            dsimp only
            split
            · exact .pure (.refl host)
            · exact .guard fun _ => .guard fun _ => .guard fun _ =>
                .pure (moveEntry_hears _ _ _ _ _)
  · exact .throw

/-! ## Calls on paths, root directories and markers -/

/-- A path with a zero byte is refused, and any other one is handed to the call. -/
theorem yields_onPath
    {α : Type} {path : Path} {call : Except Errno α} {property : α → Prop}
    (each : Yields call property) :
    Yields (onPath path call) property := by
  rw [onPath]
  split
  · exact .throw
  · intro value equal
    cases call with
    | error errno => cases equal
    | ok found => exact each value (by rw [← Except.ok.inj equal])

theorem addDirectory_hears (host : Host) (path : Path) :
    Yields (host.addDirectory path) (Hears lasting host) :=
  yields_onPath (host.makeDirectory_hears path)

/-- On the way up to the first directory that can be made nothing is done but to make it. -/
theorem climb_hears (host : Host) (missing paths : List Path) :
    Hears lasting host (host.climb missing paths).2 := by
  induction paths generalizing host missing with
  | nil => exact .refl host
  | cons path above ih =>
      rw [climb]
      split
      · rename_i next created
        exact host.addDirectory_hears path next created
      · split
        · exact ih host (path :: missing)
        · split <;> exact .refl host

/-- The directories that are missing are made one after the other, the uppermost first. -/
theorem descend_hears (host : Host) (paths : List Path) :
    Hears lasting host (host.descend paths).2 := by
  induction paths generalizing host with
  | nil => exact .refl host
  | cons path below ih =>
      rw [descend]
      split
      · rename_i next created
        exact (host.addDirectory_hears path next created).trans (ih next)
      · split
        · exact ih host
        · exact .refl host

/-- Making a directory with those above it makes directories only, and removes nothing. -/
theorem addDirectories_hears (host : Host) (path : Path) :
    Hears lasting host (host.addDirectories path).2 := by
  rw [addDirectories]
  generalize (if path.isEmpty then [] else path :: path.ancestors.drop 1) = paths
  split
  · rename_i failure next climbed
    simpa only [climbed] using (host.climb_hears [] paths : Hears lasting host _)
  · rename_i missing next climbed
    have heard : Hears lasting host next := by
      simpa only [climbed] using (host.climb_hears [] paths : Hears lasting host _)
    exact heard.trans (next.descend_hears missing)

/-- A root directory is made if need be, and then read. -/
theorem prepareRoot_hears (host : Host) (root : Path) :
    Hears lasting host (host.prepareRoot root).2 := by
  rw [prepareRoot]
  split
  · rename_i failure next prepared
    simpa only [prepared] using (host.addDirectories_hears root : Hears lasting host _)
  · rename_i next prepared
    have heard : Hears lasting host next := by
      simpa only [prepared] using (host.addDirectories_hears root : Hears lasting host _)
    split
    · exact heard
    · rename_i opened found
      exact heard.trans (yields_onPath (next.openToRead_hears root) opened found)

end Host

theorem Marker.create_hears
    {lasting : Nat → Prop} (host : Host) (path : Path) (mode : Nat) :
    Host.Hears lasting host (Marker.create host path mode).2 := by
  have first :
      Yields (if host.has path then .ok host else Host.onPath path (host.touchFile path firstMode))
        (Host.Hears lasting host) := by
    split
    · exact .pure (.refl host)
    · exact Host.yields_onPath (host.touchFile_hears path firstMode)
  rw [Marker.create]
  split
  · exact .refl host
  · rename_i touched found
    split
    · exact first touched found
    · rename_i done changed
      exact (first touched found).trans
        (Host.yields_onPath (touched.setMode_hears path mode) done changed)

theorem Marker.remove_hears (host : Host) (path : Path) :
    Yields (Marker.remove host path) fun after => Host.Hears after.Has host after := by
  intro after removed
  rw [Marker.remove] at removed
  cases found : Host.onPath path (host.removeFile path) with
  | error failure =>
      rw [found] at removed
      cases removed
  | ok next =>
      rw [found] at removed
      rw [← Except.ok.inj removed]
      exact Host.yields_onPath (host.removeFile_hears path) next found

end MarkerWatch
