import MarkerWatch.Proofs.Assoc
import MarkerWatch.Watch.Book

/-!
# Books of watches as states

While no update is told to fail, adding a watch always succeeds and is `WatchBook.put`, and removing
a watch that is there always succeeds and is `WatchBook.discard`.  Their composition
`WatchBook.settle` leaves a file with a given mask, or without a watch when that mask is empty.

A well-formed book gives distinct ids to distinct files, keeps exactly one mask for each, and has
handed out no id above its counter.  Every book that starts empty is well formed, since putting and
discarding keep books well formed.
-/

namespace MarkerWatch.WatchBook

variable {φ : Type} [DecidableEq φ]

/-- The id that a file has, or that it would get. -/
def idFor (book : WatchBook φ) (file : φ) : WatchId :=
  (Assoc.get? book.ids file).getD ⟨book.lastId + 1⟩

/-- The book in which the watch of a file has a mask. -/
def put (book : WatchBook φ) (file : φ) (mask : Mask) : WatchBook φ :=
  { book with
    lastId := if Assoc.has book.ids file then book.lastId else book.lastId + 1
    ids := Assoc.set book.ids file (book.idFor file)
    masks := Assoc.set book.masks (book.idFor file) mask }

omit [DecidableEq φ] in
/-- The book without a watch. -/
def discard (book : WatchBook φ) (watch : WatchId) : WatchBook φ :=
  { book with
    masks := Assoc.erase book.masks watch
    ids := book.ids.filter (·.2 ≠ watch) }

/-- The book in which a file is watched for a mask, and not at all when the mask is empty. -/
def settle (book : WatchBook φ) (file : φ) (mask : Mask) : WatchBook φ :=
  if mask.isEmpty then (book.put file mask).discard (book.idFor file)
  else book.put file mask

/-! ## Calls on a quiet book -/

@[simp]
theorem failsNext_put (book : WatchBook φ) (file : φ) (mask : Mask) :
    (book.put file mask).failsNext = book.failsNext :=
  rfl

omit [DecidableEq φ] in
@[simp]
theorem failsNext_discard (book : WatchBook φ) (watch : WatchId) :
    (book.discard watch).failsNext = book.failsNext :=
  rfl

@[simp]
theorem failsNext_settle (book : WatchBook φ) (file : φ) (mask : Mask) :
    (book.settle file mask).failsNext = book.failsNext := by
  rw [settle]
  split <;> rfl

theorem add_of_quiet
    {book : WatchBook φ}
    (quiet : book.failsNext = false)
    (file : φ) (mask : Mask) :
    book.add file mask = (.ok (book.idFor file), book.put file mask) := by
  rw [add, quiet]
  cases found : Assoc.get? book.ids file with
  | none => simp [idFor, put, Assoc.has, found, quiet]
  | some watch =>
      simp [idFor, put, Assoc.has, found, Assoc.set_eq_self found, quiet]

omit [DecidableEq φ] in
theorem remove_of_quiet
    {book : WatchBook φ} {watch : WatchId}
    (quiet : book.failsNext = false)
    (watched : Assoc.has book.masks watch = true) :
    book.remove watch = (.ok (), book.discard watch) := by
  rw [remove, quiet]
  simp [watched, discard, quiet]

@[simp]
theorem idFor_put (book : WatchBook φ) (file : φ) (mask : Mask) :
    (book.put file mask).idFor file = book.idFor file := by
  simp [idFor, put]

@[simp]
theorem put_put (book : WatchBook φ) (file : φ) (first second : Mask) :
    (book.put file first).put file second = book.put file second := by
  have watched : Assoc.has (book.put file first).ids file = true := by
    simp [put, Assoc.has]
  rw [put, idFor_put, watched]
  simp [put]

/-- What a discarded watch was for plays no part. -/
theorem discard_put (book : WatchBook φ) (file : φ) (first second : Mask) :
    (book.put file first).discard (book.idFor file) =
      (book.put file second).discard (book.idFor file) := by
  simp [put, discard]

@[simp]
theorem has_masks_put (book : WatchBook φ) (file : φ) (mask : Mask) :
    Assoc.has (book.put file mask).masks (book.idFor file) = true := by
  simp [put, Assoc.has]

/-! ## Well-formed books -/

omit [DecidableEq φ] in
/-- Files have distinct ids, each with one mask, and the counter is not below any of them. -/
structure WellFormed (book : WatchBook φ) : Prop where
  filesDistinct : (Assoc.keys book.ids).Nodup
  aligned : Assoc.keys book.masks = book.ids.map (·.2)
  watchesDistinct : (Assoc.keys book.masks).Nodup
  issued : ∀ watch ∈ Assoc.keys book.masks, watch.value ≤ book.lastId

omit [DecidableEq φ] in
theorem wellFormed_empty : (empty : WatchBook φ).WellFormed where
  filesDistinct := List.nodup_nil
  aligned := rfl
  watchesDistinct := List.nodup_nil
  issued := by simp [empty, Assoc.keys]

namespace WellFormed

variable {book : WatchBook φ}

theorem mem_keys_of_get?
    (wellFormed : book.WellFormed)
    {file : φ} {watch : WatchId}
    (found : Assoc.get? book.ids file = some watch) :
    watch ∈ Assoc.keys book.masks := by
  rw [wellFormed.aligned]
  exact List.mem_map_of_mem (Assoc.mem_of_get? found)

/-- A watch belongs to one file. -/
theorem file_unique
    (wellFormed : book.WellFormed)
    {left right : φ} {watch : WatchId}
    (leftFound : Assoc.get? book.ids left = some watch)
    (rightFound : Assoc.get? book.ids right = some watch) :
    left = right := by
  have valuesDistinct : (book.ids.map (·.2)).Nodup := by
    rw [← wellFormed.aligned]
    exact wellFormed.watchesDistinct
  have pairsEqual :=
    List.inj_on_of_nodup_map valuesDistinct
      (Assoc.mem_of_get? leftFound) (Assoc.mem_of_get? rightFound) rfl
  exact congrArg Prod.fst pairsEqual

theorem exists_file
    (wellFormed : book.WellFormed)
    {watch : WatchId}
    (watched : watch ∈ Assoc.keys book.masks) :
    ∃ file, Assoc.get? book.ids file = some watch := by
  rw [wellFormed.aligned] at watched
  obtain ⟨⟨file, found⟩, member, rfl⟩ := List.mem_map.mp watched
  exact ⟨file, Assoc.get?_of_mem wellFormed.filesDistinct member⟩

/-- The id that an unwatched file would get is new. -/
theorem idFor_not_mem
    (wellFormed : book.WellFormed)
    {file : φ}
    (unwatched : Assoc.get? book.ids file = none) :
    book.idFor file ∉ Assoc.keys book.masks := by
  intro member
  have bound := wellFormed.issued _ member
  simp only [idFor, unwatched, Option.getD_none] at bound
  omega

/-- A file's watch is the one that another file has or would get only when the files are one. -/
theorem eq_idFor_iff
    (wellFormed : book.WellFormed)
    {held file : φ} {watch : WatchId}
    (found : Assoc.get? book.ids held = some watch) :
    watch = book.idFor file ↔ held = file := by
  constructor
  · intro equal
    cases other : Assoc.get? book.ids file with
    | none =>
        have member := wellFormed.mem_keys_of_get? found
        rw [equal] at member
        exact absurd member (wellFormed.idFor_not_mem other)
    | some watch' =>
        have sameWatch : watch = watch' := by simpa [idFor, other] using equal
        rw [← sameWatch] at other
        exact wellFormed.file_unique found other
  · rintro rfl
    simp [idFor, found]

end WellFormed

theorem put_of_watched
    {book : WatchBook φ} {file : φ} {watch : WatchId}
    (found : Assoc.get? book.ids file = some watch)
    (mask : Mask) :
    book.put file mask = { book with masks := Assoc.set book.masks watch mask } := by
  simp [put, idFor, Assoc.has, found, Assoc.set_eq_self found]

theorem WellFormed.put_of_unwatched
    {book : WatchBook φ}
    (wellFormed : book.WellFormed)
    {file : φ}
    (unwatched : Assoc.get? book.ids file = none)
    (mask : Mask) :
    book.put file mask =
      { book with
        lastId := book.lastId + 1
        ids := book.ids ++ [(file, book.idFor file)]
        masks := book.masks ++ [(book.idFor file, mask)] } := by
  have noMask : Assoc.get? book.masks (book.idFor file) = none := by
    rw [Assoc.get?_eq_none_iff]
    exact wellFormed.idFor_not_mem unwatched
  simp [put, Assoc.has, unwatched, Assoc.set_of_absent unwatched,
    Assoc.set_of_absent noMask]

/-- A watch put on a file replaces the mask of the one there, or is new, as are its file and its
id. -/
theorem WellFormed.put
    {book : WatchBook φ}
    (wellFormed : book.WellFormed)
    (file : φ) (mask : Mask) :
    (book.put file mask).WellFormed := by
  cases found : Assoc.get? book.ids file with
  | none =>
      have newId := wellFormed.idFor_not_mem found
      rw [wellFormed.put_of_unwatched found]
      refine ⟨?_, ?_, ?_, ?_⟩
      · have newFile := (Assoc.get?_eq_none_iff book.ids file).mp found
        simpa [Assoc.keys] using wellFormed.filesDistinct.concat newFile
      · have aligned := wellFormed.aligned
        simp only [Assoc.keys] at aligned
        simp [Assoc.keys, aligned]
      · simpa [Assoc.keys] using wellFormed.watchesDistinct.concat newId
      · intro watch member
        have bound := wellFormed.issued watch
        simp only [Assoc.keys, List.map_append, List.map_cons, List.map_nil,
          List.mem_append, List.mem_singleton] at member
        rcases member with old | new
        · have oldBound := bound old
          push_cast
          omega
        · rw [new, idFor, found]
          simp
  | some watch =>
      have watched := wellFormed.mem_keys_of_get? found
      have sameKeys :
          Assoc.keys (Assoc.set book.masks watch mask) = Assoc.keys book.masks := by
        rw [Assoc.keys_set, if_pos ((Assoc.has_iff_mem_keys _ _).mpr watched)]
      rw [put_of_watched found]
      refine ⟨wellFormed.filesDistinct, ?_, ?_, ?_⟩
      · rw [sameKeys]
        exact wellFormed.aligned
      · rw [sameKeys]
        exact wellFormed.watchesDistinct
      · rw [sameKeys]
        exact wellFormed.issued

omit [DecidableEq φ] in
theorem WellFormed.discard
    {book : WatchBook φ}
    (wellFormed : book.WellFormed)
    (watch : WatchId) :
    (book.discard watch).WellFormed := by
  refine ⟨?_, ?_, ?_, ?_⟩
  · exact wellFormed.filesDistinct.sublist (List.filter_sublist.map _)
  · rw [WatchBook.discard, Assoc.keys_erase, wellFormed.aligned, List.filter_map]
    rfl
  · rw [WatchBook.discard, Assoc.keys_erase]
    exact wellFormed.watchesDistinct.filter _
  · intro other member
    rw [WatchBook.discard, Assoc.keys_erase] at member
    exact wellFormed.issued other (List.mem_of_mem_filter member)

theorem WellFormed.settle
    {book : WatchBook φ}
    (wellFormed : book.WellFormed)
    (file : φ) (mask : Mask) :
    (book.settle file mask).WellFormed := by
  rw [WatchBook.settle]
  split
  · exact (wellFormed.put file mask).discard _
  · exact wellFormed.put file mask

/-! ## What settling changes -/

/-- Settling a file changes the mask of its watch only. -/
theorem get?_masks_settle
    (book : WatchBook φ) (file : φ) (mask : Mask) (watch : WatchId) :
    Assoc.get? (book.settle file mask).masks watch =
      if book.idFor file = watch then (if mask.isEmpty then none else some mask)
      else Assoc.get? book.masks watch := by
  rw [settle]
  by_cases same : book.idFor file = watch
  · split <;> simp [put, discard, Assoc.get?_erase, same]
  · split <;>
      simp [put, discard, Assoc.get?_erase, Assoc.get?_set_of_ne _ _ same, same]

/-- Settling a file changes the watch of that file only: files are discarded by their id, and no
other file has the id of this one. -/
theorem WellFormed.get?_ids_settle
    {book : WatchBook φ}
    (wellFormed : book.WellFormed)
    (file : φ) (mask : Mask) (other : φ) :
    Assoc.get? (book.settle file mask).ids other =
      if file = other then (if mask.isEmpty then none else some (book.idFor file))
      else Assoc.get? book.ids other := by
  have putIds :
      Assoc.get? (book.put file mask).ids other =
        if file = other then some (book.idFor file) else Assoc.get? book.ids other :=
    Assoc.get?_set book.ids file other (book.idFor file)
  rw [WatchBook.settle]
  split
  · have distinct := (wellFormed.put file mask).filesDistinct
    have filtered :=
      Assoc.get?_filter_value distinct (fun watch => decide (watch ≠ book.idFor file)) other
    rw [WatchBook.discard, filtered, putIds]
    by_cases same : file = other
    · simp [same, Option.filter]
    · rw [if_neg same, if_neg same]
      cases found : Assoc.get? book.ids other with
      | none => rfl
      | some watch =>
          have different : watch ≠ book.idFor file := by
            intro equal
            exact same ((wellFormed.eq_idFor_iff found).mp equal).symm
          simp [Option.filter, different]
  · rw [putIds]

/-- The id that a file would get does not depend on what it was watched for meanwhile. -/
theorem idFor_settle
    (book : WatchBook φ) (file : φ)
    {mask : Mask}
    (nonempty : mask.isEmpty = false) :
    (book.settle file mask).idFor file = book.idFor file := by
  rw [settle, if_neg (by simp [nonempty]), idFor_put]

/-- Settling a file a second time leaves no trace of what it was watched for in between. -/
theorem settle_settle
    (book : WatchBook φ) (file : φ)
    {first : Mask}
    (nonempty : first.isEmpty = false)
    (second : Mask) :
    (book.settle file first).settle file second = book.settle file second := by
  have watched : book.settle file first = book.put file first := by
    rw [settle, if_neg (by simp [nonempty])]
  rw [watched, settle, put_put, idFor_put, settle]

/-- Whatever a file is settled for, the counter of ids moves alike. -/
theorem lastId_settle (book : WatchBook φ) (file : φ) (first second : Mask) :
    (book.settle file first).lastId = (book.settle file second).lastId := by
  have counted (mask : Mask) :
      (book.settle file mask).lastId = (book.put file mask).lastId := by
    rw [settle]
    split <;> rfl
  rw [counted, counted]
  rfl

/-- Settling a watched file for the mask it has changes nothing. -/
theorem settle_of_watched
    {book : WatchBook φ} {file : φ} {watch : WatchId} {mask : Mask}
    (found : Assoc.get? book.ids file = some watch)
    (installed : Assoc.get? book.masks watch = some mask)
    (nonempty : mask.isEmpty = false) :
    book.settle file mask = book := by
  rw [settle, if_neg (by simp [nonempty]), put_of_watched found,
    Assoc.set_eq_self installed]

/-- Settling an unwatched file for nothing uses up an id and changes nothing else. -/
theorem WellFormed.settle_of_unwatched
    {book : WatchBook φ}
    (wellFormed : book.WellFormed)
    {file : φ}
    (unwatched : Assoc.get? book.ids file = none)
    {mask : Mask}
    (nothing : mask.isEmpty = true) :
    book.settle file mask = { book with lastId := book.lastId + 1 } := by
  have newId := wellFormed.idFor_not_mem unwatched
  have noMask : Assoc.get? book.masks (book.idFor file) = none :=
    (Assoc.get?_eq_none_iff _ _).mpr newId
  have sameMasks :
      Assoc.erase (book.put file mask).masks (book.idFor file) = book.masks := by
    rw [WatchBook.put, Assoc.erase_set, Assoc.erase_of_absent noMask]
  have sameIds :
      (book.put file mask).ids.filter (·.2 ≠ book.idFor file) = book.ids := by
    rw [wellFormed.put_of_unwatched unwatched, List.filter_append]
    have allKept : ∀ pair ∈ book.ids, decide (pair.2 ≠ book.idFor file) = true := by
      intro pair member
      rw [decide_eq_true_iff]
      intro equal
      apply newId
      rw [wellFormed.aligned, ← equal]
      exact List.mem_map_of_mem member
    rw [List.filter_eq_self.mpr allKept]
    simp
  rw [WatchBook.settle, if_pos nothing, WatchBook.discard, sameMasks, sameIds]
  simp [WatchBook.put, Assoc.has, unwatched]

end MarkerWatch.WatchBook
