import MarkerWatch.Proofs.Host.Descriptor
import MarkerWatch.Proofs.Record

/-!
# What a queue hears of a file that is emptied

A file that is emptied is opened, modified and closed.  Each of the three is heard of through the
entry by which the file was found and by the file itself, where a watch asks for it.  No two of
these events in a row are alike, so none is left out of the queue, and all of them together fit into
one read, which gives their records back.
-/

namespace MarkerWatch

/-! ## Events in a buffer -/

namespace Event

/-- The most bytes that report an event. -/
def mostBytes : Nat :=
  Record.headerLength + (FileTree.longestName + 16)

/-- An event with a name that an entry can have and a watch id that a word can hold. -/
structure Fits (event : Event) : Prop where
  name : event.name.length ≤ FileTree.longestName
  positive : 0 < event.watch.value
  word : event.watch.value < 2 ^ 31

variable {event : Event}

theorem length_paddedName_le (event : Event) :
    event.paddedName.length ≤ event.name.length + 16 := by
  rw [paddedName]
  split
  · exact Nat.zero_le _
  · rw [List.length_append, List.length_replicate]
    omega

theorem Fits.bounded (fits : event.Fits) : event.paddedName.length ≤ Record.longestName := by
  have padded := event.length_paddedName_le
  have named := fits.name
  rw [FileTree.longestName] at named
  rw [Record.longestName]
  omega

/-- The bytes that report an event are those of a packet. -/
def Fits.packet (fits : event.Fits) : Packet :=
  ⟨BitVec.ofInt 32 event.watch.value, event.mask.bits, BitVec.ofNat 32 event.cookie,
    event.paddedName, fits.bounded⟩

theorem Fits.bytes_packet (fits : event.Fits) : fits.packet.bytes = event.bytes :=
  rfl

theorem Fits.record_packet (fits : event.Fits) : fits.packet.record = event.record := by
  have watch : (BitVec.ofInt 32 event.watch.value).toInt = event.watch.value := by
    have positive := fits.positive
    have word := fits.word
    rw [BitVec.toInt_ofInt, Int.bmod_eq_of_le] <;> omega
  rw [Packet.record, record, packet, watch]

theorem Fits.length_bytes_le (fits : event.Fits) : event.bytes.length ≤ mostBytes := by
  have padded := event.length_paddedName_le
  have named := fits.name
  rw [← fits.bytes_packet, Packet.length_bytes, mostBytes]
  change Record.headerLength + event.paddedName.length ≤ _
  omega

theorem bytes_ne_nil (fits : event.Fits) : event.bytes ≠ [] := by
  rw [← fits.bytes_packet]
  exact fits.packet.bytes_ne_nil

/-- What events are reported by is decoded to their records. -/
theorem decode_flatMap
    {events : List Event}
    (fits : ∀ event ∈ events, event.Fits) :
    Record.decode (events.flatMap bytes) = events.map (.ok ·.record) := by
  induction events with
  | nil => rfl
  | cons event events ih =>
      have here := fits event List.mem_cons_self
      rw [List.flatMap_cons, ← here.bytes_packet, Record.decode_bytes_append, here.record_packet,
        ih fun other member => fits other (List.mem_cons_of_mem event member), List.map_cons]

end Event

namespace EventQueue

theorem fitting_eq
    {events : List Event} {room : Nat}
    (fits : ∀ event ∈ events, event.Fits)
    (enough : events.length * Event.mostBytes ≤ room) :
    fitting room events = events := by
  induction events generalizing room with
  | nil => rfl
  | cons event events ih =>
      have small := (fits event List.mem_cons_self).length_bytes_le
      rw [List.length_cons, Nat.succ_mul] at enough
      rw [fitting, if_pos (by omega), ih fun other member =>
        fits other (List.mem_cons_of_mem event member)]
      omega

end EventQueue

/-- One read gives all that waits in a queue, where it fits. -/
theorem Host.read_all
    {host : Host} {fd : Int} {id : Nat} {queue : EventQueue}
    (found : host.queueAt? fd = some (id, queue))
    (something : queue.events ≠ [])
    (fits : ∀ event ∈ queue.events, event.Fits)
    {room : Nat} (enough : queue.events.length * Event.mostBytes ≤ room) :
    host.read fd room =
      (.ok (queue.events.flatMap Event.bytes), host.setQueue id { queue with events := [] }) := by
  obtain ⟨descriptor, behind⟩ := queueAt?_iff.mp found
  have nonempty : queue.events.isEmpty = false := by simpa using something
  rw [read, descriptor]
  dsimp only
  rw [behind]
  dsimp only
  rw [EventQueue.fitting_eq fits enough, nonempty, List.drop_length]
  rfl

theorem Host.read_nothing
    {host : Host} {fd : Int} {id : Nat} {queue : EventQueue}
    (found : host.queueAt? fd = some (id, queue))
    (nothing : queue.events = []) (room : Nat) :
    host.read fd room = (.error .tryAgain, host) := by
  obtain ⟨descriptor, behind⟩ := queueAt?_iff.mp found
  rw [read, descriptor]
  dsimp only
  rw [behind]
  dsimp only
  rw [nothing]
  rfl

/-! ## Events in a queue -/

namespace EventQueue

/-- The id of the watch on a file. -/
def idOn? (queue : EventQueue) (inode : Nat) : Option WatchId :=
  (queue.watchOn? inode).map (·.id)

/-- What a queue hears of an event on a file, or in a directory at a name. -/
def tiding (queue : EventQueue) (name : FileName) (inode : Nat) (kind : Mask) : List Event :=
  match queue.watchOn? inode with
  | none => []
  | some watch => if watch.mask.intersects kind then [⟨watch.id, kind, 0, name⟩] else []

/-- What a queue hears of an event on a file that was found by an entry. -/
def tidings (queue : EventQueue) (inode : Nat) (entry : Option (Nat × FileName)) (kind : Mask) :
    List Event :=
  entry.elim [] (fun place => queue.tiding place.2 place.1 kind) ++ queue.tiding [] inode kind

variable {queue : EventQueue}

theorem mem_tiding
    {name : FileName} {inode : Nat} {kind : Mask} {event : Event} :
    event ∈ queue.tiding name inode kind ↔
      ∃ watch, queue.watchOn? inode = some watch ∧ watch.mask.intersects kind = true ∧
        event = ⟨watch.id, kind, 0, name⟩ := by
  rw [tiding]
  split
  · rename_i unwatched
    simp [unwatched]
  · rename_i watch watched
    split <;> rename_i asked <;> simp [watched, asked]

theorem length_tiding_le (queue : EventQueue) (name : FileName) (inode : Nat) (kind : Mask) :
    (queue.tiding name inode kind).length ≤ 1 := by
  rw [tiding]
  split
  · exact Nat.zero_le _
  · split <;> simp

/-- A report puts what is heard into the queue. -/
theorem report_eq
    (ordinary : queue.Ordinary) (inode : Nat) (kind : Mask) (name : FileName) :
    queue.report inode kind ∅ 0 name = (queue.tiding name inode kind).foldl push queue := by
  rw [report, tiding]
  cases watched : queue.watchOn? inode with
  | none => rfl
  | some watch =>
      have lasts := (ordinary watch (mem_of_watchOn? watched).1).1
      dsimp only
      rw [lasts, Mask.union_empty]
      split <;> rfl

theorem watches_foldl_push (queue : EventQueue) (events : List Event) :
    (events.foldl push queue).watches = queue.watches := by
  induction events generalizing queue with
  | nil => rfl
  | cons event events ih => rw [List.foldl_cons, ih, watches_push]

theorem tiding_congr
    {other : EventQueue}
    (same : other.watches = queue.watches) :
    other.tiding = queue.tiding := by
  funext name inode kind
  rw [tiding, tiding, watchOn?, watchOn?, same]

theorem tidings_congr
    {other : EventQueue}
    (same : other.watches = queue.watches) :
    other.tidings = queue.tidings := by
  funext inode entry kind
  rw [tidings, tidings, tiding_congr same]

/-- What is heard of several events is put into the queue one after the other. -/
theorem foldl_report
    (ordinary : queue.Ordinary)
    (inode : Nat) (entry : Option (Nat × FileName)) (kinds : List Mask) :
    kinds.foldl
        (fun queue kind =>
          let queue := match entry with
            | some (directory, name) => queue.report directory kind ∅ 0 name
            | none => queue
          queue.report inode kind ∅ 0 [])
        queue =
      (kinds.flatMap (queue.tidings inode entry)).foldl push queue := by
  induction kinds generalizing queue with
  | nil => rfl
  | cons kind kinds ih =>
      have pushed (events : List Event) : (events.foldl push queue).Ordinary := by
        intro watch member
        rw [watches_foldl_push] at member
        exact ordinary watch member
      have heard : (let queue := match entry with
            | some (directory, name) => queue.report directory kind ∅ 0 name
            | none => queue
          queue.report inode kind ∅ 0 []) = (queue.tidings inode entry kind).foldl push queue := by
        cases entry with
        | none => exact report_eq ordinary inode kind []
        | some place =>
            dsimp only
            rw [report_eq ordinary, report_eq (pushed _), tiding_congr (watches_foldl_push _ _),
              ← List.foldl_append]
            rfl
      rw [List.foldl_cons, heard, ih (pushed _), tidings_congr (watches_foldl_push _ _),
        ← List.foldl_append]
      rfl

/-- Events no two of which are alike are all put into a queue. -/
theorem foldl_push
    {events : List Event}
    (unlike : (queue.events ++ events).Pairwise fun earlier later =>
      later.isLike earlier = false) :
    events.foldl push queue = { queue with events := queue.events ++ events } := by
  induction events generalizing queue with
  | nil => rw [List.append_nil, List.foldl_nil]
  | cons event events ih =>
      have new : queue.events.getLast?.any event.isLike = false := by
        cases last : queue.events.getLast? with
        | none => rfl
        | some earlier =>
            exact (List.pairwise_append.mp unlike).2.2 earlier (List.mem_of_getLast? last) event
              List.mem_cons_self
      have pushed : queue.push event = { queue with events := queue.events ++ [event] } := by
        rw [push, new]
        rfl
      rw [List.append_cons] at unlike
      rw [List.foldl_cons, pushed, ih unlike, List.append_assoc]
      rfl

theorem kind_of_mem_tidings
    {inode : Nat} {entry : Option (Nat × FileName)} {kind : Mask} {event : Event}
    (member : event ∈ queue.tidings inode entry kind) :
    event.mask = kind := by
  rcases List.mem_append.mp member with inDirectory | onFile
  · cases entry with
    | none => cases inDirectory
    | some place =>
        obtain ⟨watch, -, -, rfl⟩ := mem_tiding.mp inDirectory
        rfl
  · obtain ⟨watch, -, -, rfl⟩ := mem_tiding.mp onFile
    rfl

theorem pairwise_tiding
    (queue : EventQueue) (name : FileName) (inode : Nat) (kind : Mask)
    {relation : Event → Event → Prop} :
    (queue.tiding name inode kind).Pairwise relation := by
  have short := queue.length_tiding_le name inode kind
  generalize queue.tiding name inode kind = events at short
  match events with
  | [] => exact .nil
  | [event] => exact List.pairwise_singleton _ _
  | first :: second :: rest =>
      rw [List.length_cons, List.length_cons] at short
      omega

/-- The watches on two files are told apart by their ids. -/
theorem id_ne
    (wellFormed : queue.book.WellFormed)
    {left right : Nat} {watch other : KernelWatch}
    (watched : queue.watchOn? left = some watch)
    (watched' : queue.watchOn? right = some other)
    (different : left ≠ right) :
    watch.id ≠ other.id := by
  intro same
  have found := queue.get?_ids_book left
  have found' := queue.get?_ids_book right
  rw [watched, Option.map_some, same] at found
  rw [watched', Option.map_some] at found'
  exact different (wellFormed.file_unique found found')

/-- Of the events that a queue hears of a file, no two are alike.  Of one kind there is at most one
event in the directory and one on the file, and these differ in their watches. -/
theorem pairwise_tidings
    (wellFormed : queue.book.WellFormed)
    {inode : Nat} {entry : Option (Nat × FileName)} {kinds : List Mask}
    (elsewhere : ∀ place ∈ entry, place.1 ≠ inode)
    (distinct : kinds.Nodup) :
    (kinds.flatMap (queue.tidings inode entry)).Pairwise fun earlier later =>
      later.isLike earlier = false := by
  rw [List.pairwise_flatMap]
  constructor
  · intro kind _
    rw [tidings, List.pairwise_append]
    refine ⟨?_, queue.pairwise_tiding _ _ _, ?_⟩
    · cases entry with
      | none => exact .nil
      | some place => exact queue.pairwise_tiding _ _ _
    · intro earlier inDirectory later onFile
      cases entry with
      | none => cases inDirectory
      | some place =>
          obtain ⟨watch, watched, -, rfl⟩ := mem_tiding.mp inDirectory
          obtain ⟨other, watched', -, rfl⟩ := mem_tiding.mp onFile
          have apart := id_ne wellFormed watched' watched (elsewhere place rfl).symm
          simp [Event.isLike, apart]
  · refine distinct.imp fun different earlier first later second => ?_
    rw [Event.isLike, kind_of_mem_tidings first, kind_of_mem_tidings second]
    simp [different.symm]

end EventQueue

/-! ## Files that are found -/

namespace FileTree

variable {tree : FileTree}

/-- A directory with a name that an entry of it can have. -/
def IsEntry (tree : FileTree) (place : Nat × FileName) : Prop :=
  tree.isDirectory place.1 = true ∧ place.2.length ≤ longestName

theorem IsEntry.ne_file
    {place : Nat × FileName} {file : Nat}
    (isEntry : tree.IsEntry place)
    (isFile : tree.isDirectory file = false) :
    place.1 ≠ file := by
  rintro rfl
  rw [isEntry.1] at isFile
  cases isFile

theorem isEntry_of_stride
    {follow : Bool} {at_ inode : Nat} {before entry : Option (Nat × FileName)}
    {names : List FileName}
    (arrived : tree.stride follow at_ before names = .arrived (.present inode entry))
    (sound : ∀ place ∈ before, tree.IsEntry place) :
    ∀ place ∈ entry, tree.IsEntry place := by
  induction names generalizing at_ before with
  | nil =>
      cases arrived
      exact sound
  | cons name rest ih =>
      rw [stride] at arrived
      split at arrived
      · cases arrived
      · rename_i parent entries found
        split at arrived
        · exact ih arrived sound
        · split at arrived
          · exact ih arrived fun place none => nomatch none
          · split at arrived
            · cases arrived
            · rename_i short
              have here : tree.IsEntry (at_, name) :=
                ⟨by rw [isDirectory, found]; rfl, Nat.not_lt.mp short⟩
              have sound : ∀ place ∈ some (at_, name), tree.IsEntry place := by
                rintro _ ⟨⟩
                exact here
              split at arrived
              · split at arrived <;> cases arrived
              · split at arrived
                · exact ih arrived sound
                · split at arrived
                  · cases arrived
                    exact sound
                  · cases arrived

theorem isEntry_of_roam
    {follow : Bool} {links directory inode : Nat} {names : List FileName}
    {entry : Option (Nat × FileName)}
    (found : tree.roam follow links directory names = .ok (.present inode entry)) :
    ∀ place ∈ entry, tree.IsEntry place := by
  induction links generalizing directory names with
  | zero => cases found
  | succ links ih =>
      rw [roam] at found
      split at found
      · rename_i place arrived
        cases found
        exact isEntry_of_stride arrived fun place none => nomatch none
      · cases found
      · exact ih found

/-- What is found at the end of a path is there, and so is the entry by which it was found.  Only a
directory has an entry that is looked up from below. -/
theorem yields_find (tree : FileTree) (follow : Bool) (path : Path) :
    Yields (tree.find follow path) fun found =>
      tree.isDirectory found.1 = false → ∀ place ∈ found.2, tree.IsEntry place := by
  refine .bind fun place walked => ?_
  cases place with
  | absent directory name => exact .throw
  | present inode entry =>
      refine .pure fun noDirectory => ?_
      cases entry with
      | none =>
          have unlisted : tree.entryOf? inode = none := by
            have none : tree.directory? inode = none := by simpa [isDirectory] using noDirectory
            rw [entryOf?, none]
          intro place found
          change place ∈ tree.entryOf? inode at found
          rw [unlisted] at found
          cases found
      | some place =>
          have roamed : Yields (tree.walk follow path) fun place =>
              ∀ inode entry, place = .present inode entry →
                ∀ place ∈ entry, tree.IsEntry place := by
            refine .bind fun _ _ place found inode entry equal => ?_
            rw [equal] at found
            exact isEntry_of_roam found
          exact roamed _ walked inode (some place) rfl

/-- A file is no directory, and the entry by which it is found is one of a directory. -/
theorem yields_findFile (tree : FileTree) (path : Path) :
    Yields (tree.findFile path) fun found =>
      tree.isDirectory found.1 = false ∧ ∀ place ∈ found.2, tree.IsEntry place := by
  refine .bind fun found equal => .guard fun isFile => ?_
  have noDirectory : tree.isDirectory found.1 = false := by simpa using isFile
  exact .pure ⟨noDirectory, tree.yields_find true path found equal noDirectory⟩

end FileTree

/-! ## Events that fit -/

namespace EventQueue

variable {queue : EventQueue}

theorem fits_of_mem_tiding
    (ordinary : queue.Ordinary) (wellFormed : queue.book.WellFormed)
    (counted : queue.lastId < 2 ^ 31)
    {name : FileName} (short : name.length ≤ FileTree.longestName)
    {inode : Nat} {kind : Mask} {event : Event}
    (member : event ∈ queue.tiding name inode kind) :
    event.Fits := by
  obtain ⟨watch, watched, -, rfl⟩ := mem_tiding.mp member
  have present := (mem_of_watchOn? watched).1
  have issued : watch.id.value ≤ queue.lastId := by
    have found := get?_ids_of_mem wellFormed present
    exact wellFormed.issued _ (wellFormed.mem_keys_of_get? found)
  exact ⟨short, (ordinary watch present).2, by dsimp only; omega⟩

theorem fits_of_mem_tidings
    (ordinary : queue.Ordinary) (wellFormed : queue.book.WellFormed)
    (counted : queue.lastId < 2 ^ 31)
    {tree : FileTree} {inode : Nat} {entry : Option (Nat × FileName)}
    (isEntry : ∀ place ∈ entry, tree.IsEntry place)
    {kind : Mask} {event : Event}
    (member : event ∈ queue.tidings inode entry kind) :
    event.Fits := by
  rcases List.mem_append.mp member with inDirectory | onFile
  · cases entry with
    | none => cases inDirectory
    | some place =>
        exact fits_of_mem_tiding ordinary wellFormed counted (isEntry place rfl).2 inDirectory
  · exact fits_of_mem_tiding ordinary wellFormed counted (Nat.zero_le _) onFile

theorem length_tidings_le
    (queue : EventQueue) (inode : Nat) (entry : Option (Nat × FileName)) (kind : Mask) :
    (queue.tidings inode entry kind).length ≤ 2 := by
  have onFile := queue.length_tiding_le [] inode kind
  rw [tidings, List.length_append]
  cases entry with
  | none =>
      change 0 + _ ≤ 2
      omega
  | some place =>
      have inDirectory := queue.length_tiding_le place.2 place.1 kind
      change (queue.tiding place.2 place.1 kind).length + _ ≤ 2
      omega

end EventQueue

/-! ## Files that are emptied -/

namespace Host

/-- What happens to a file that is emptied. -/
def emptying : List Mask :=
  [.opened, .modify, .closeWrite]

theorem queueAt?_tell
    {host : Host} {fd : Int} {id : Nat} {queue : EventQueue}
    (found : host.queueAt? fd = some (id, queue)) (change : EventQueue → EventQueue) :
    (host.tell change).queueAt? fd = some (id, change queue) := by
  rw [queueAt?_iff] at found ⊢
  refine ⟨found.1, ?_⟩
  rw [tell]
  dsimp only
  rw [get?_map, found.2]
  rfl

theorem isDirectory_setContent (tree : FileTree) (inode : Nat) (bytes : List UInt8) :
    (tree.setContent inode (.file bytes)).isDirectory inode = false := by
  have content : (tree.setContent inode (.file bytes)).inode? inode =
      (tree.inode? inode).map fun kept => { kept with content := .file bytes } := by
    rw [FileTree.inode?, FileTree.setContent, Assoc.get?_adjust, if_pos rfl]
    rfl
  rw [FileTree.isDirectory, FileTree.directory?, content]
  cases tree.inode? inode <;> rfl

/-- What a queue hears of a file that is emptied takes few bytes. -/
theorem length_emptying_le
    (queue : EventQueue) (inode : Nat) (entry : Option (Nat × FileName)) :
    (emptying.flatMap (queue.tidings inode entry)).length * Event.mostBytes ≤
      Record.bufferLength := by
  have opened := queue.length_tidings_le inode entry .opened
  have modified := queue.length_tidings_le inode entry .modify
  have closed := queue.length_tidings_le inode entry .closeWrite
  have few : (emptying.flatMap (queue.tidings inode entry)).length ≤ 6 := by
    simp only [emptying, List.flatMap_cons, List.flatMap_nil, List.length_append, List.length_nil]
    omega
  exact Nat.le_trans (Nat.mul_le_mul_right _ few) (by decide)

/-- A queue that has nothing left to read hears of a file that is emptied what its watches ask
for. -/
theorem truncate_tells (host : Host) (path : Path) :
    Yields (host.truncate path) fun after =>
      ∃ inode entry, host.tree.findFile path = .ok (inode, entry) ∧
        ∀ {fd id queue}, host.queueAt? fd = some (id, queue) → queue.Ordinary →
          queue.book.WellFormed → queue.events = [] →
            after.queueAt? fd =
              some (id, { queue with
                events := emptying.flatMap (queue.tidings inode entry) }) := by
  refine .bind fun found equal => .pure ⟨found.1, found.2, equal, ?_⟩
  intro fd id queue behind ordinary wellFormed drained
  obtain ⟨isFile, isEntry⟩ := host.tree.yields_findFile path found equal
  have elsewhere : ∀ place ∈ found.2, place.1 ≠ found.1 := fun place listed =>
    (isEntry place listed).ne_file isFile
  have unmarked : directoryMark
      { host with tree := host.tree.setContent found.1 (.file []) } found.1 = ∅ := by
    rw [directoryMark, isDirectory_setContent]
    rfl
  have sameQueue : queueAt? { host with tree := host.tree.setContent found.1 (.file []) } fd =
      some (id, queue) := behind
  have told : (emptying.flatMap (queue.tidings found.1 found.2)).foldl EventQueue.push queue =
      { queue with events := emptying.flatMap (queue.tidings found.1 found.2) } := by
    rw [EventQueue.foldl_push, drained]
    · rfl
    · rw [drained]
      exact EventQueue.pairwise_tidings wellFormed elsewhere (by decide)
  rw [← told, ← EventQueue.foldl_report ordinary]
  change (used { host with tree := host.tree.setContent found.1 (.file []) } found.1 found.2
    emptying).queueAt? fd = _
  rw [used, unmarked]
  exact queueAt?_tell sameQueue _

end Host

end MarkerWatch
