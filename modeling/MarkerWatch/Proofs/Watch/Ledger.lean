import Mathlib.Data.List.Forall2
import MarkerWatch.Proofs.Watch.Agreement

/-!
# The ledger behind a watch table

A ledger notes who subscribed to which file, in the order in which it happened, and knows nothing of
watches.  A watch table knows nothing of files: it tells them apart by ids that a kernel gives out,
takes back, and never gives out again.

The two are kept together by a simulation.  Each entry of the table stands for the note at the same
place of the ledger, its watch being the present one of the note's file.  The relation survives
every request, so table and ledger answer every run alike.
-/

namespace MarkerWatch

/-- A subscription as a ledger notes it: by file. -/
structure LedgerNote (φ σ δ : Type) where
  file : φ
  subscriber : σ
  mask : Mask
  data : δ
  deriving DecidableEq, Repr

/-- Notes of subscriptions, the oldest first. -/
abbrev Ledger (φ σ δ : Type) :=
  List (LedgerNote φ σ δ)

variable {φ σ δ : Type} [DecidableEq φ] [DecidableEq σ]

namespace Ledger

/-- Whether a note is meant by a file and, where one is named, a subscriber. -/
def means (file : φ) (who : Option σ) (note : LedgerNote φ σ δ) : Bool :=
  note.file = file && who.all (· = note.subscriber)

/-- The answer of a ledger to a request, and the ledger after it. -/
def serve (fileOf : Path → φ) (ledger : Ledger φ σ δ) :
    WatchRequest σ δ → Except Fault (WatchAnswer φ) × Ledger φ σ δ
  | .subscribe path who data mask =>
    if mask.subscribable then
      if ledger.any (means (fileOf path) (some who)) then
        (.error (.alreadyExists path), ledger)
      else
        (.ok (.watching (fileOf path)), ledger ++ [⟨fileOf path, who, mask, data⟩])
    else
      (.error (.invalidArgument (.interest mask)), ledger)
  | .unsubscribe path who =>
    let ended := ledger.filter (means (fileOf path) who)
    if ended.isEmpty then (.error (.notFound path), ledger)
    else (.ok (.ended ended.length), ledger.filter (!means (fileOf path) who ·))

/-- The answers to requests served one after another, each with the ledger after it. -/
def outcomes (fileOf : Path → φ) (ledger : Ledger φ σ δ) :
    List (WatchRequest σ δ) → List (Except Fault (WatchAnswer φ) × Ledger φ σ δ)
  | [] => []
  | request :: rest =>
    let outcome := serve fileOf ledger request
    outcome :: outcomes fileOf outcome.2 rest

end Ledger

/-- The answer with what is watched replaced. -/
def WatchAnswer.map {ι κ : Type} (replace : ι → κ) : WatchAnswer ι → WatchAnswer κ
  | .watching on => .watching (replace on)
  | .ended count => .ended count

/-- The file that a watch is on. -/
def WatchBook.fileAt? (book : WatchBook φ) (watch : WatchId) : Option φ :=
  (book.ids.find? (·.2 = watch)).map (·.1)

/-- A subscription with its watch replaced by the file that it stands for. -/
def Subscription.noteAt? (book : WatchBook φ) (entry : Subscription σ δ) :
    Option (LedgerNote φ σ δ) :=
  (book.fileAt? entry.watch).map fun file => ⟨file, entry.subscriber, entry.mask, entry.data⟩

/-- The watch and the file of one subscription belong together, and all else is the same. -/
structure Subscription.StandsFor
    (book : WatchBook φ) (entry : Subscription σ δ) (note : LedgerNote φ σ δ) : Prop where
  watch : Assoc.get? book.ids note.file = some entry.watch
  subscriber : entry.subscriber = note.subscriber
  mask : entry.mask = note.mask
  data : entry.data = note.data

/--
The outcome of a request follows what a ledger says: the answers are the same, the entries are the
notes in the same order, and entries share a watch exactly when their notes share a file.
-/
structure WatchOutcome.Follows
    (outcome : WatchOutcome σ δ (FileBook φ))
    (noted : Except Fault (WatchAnswer φ) × Ledger φ σ δ) : Prop where
  answer :
    outcome.answer.map (WatchAnswer.map outcome.kernel.book.fileAt?) =
      noted.1.map (WatchAnswer.map some)
  entries :
    outcome.table.entries.map (Subscription.noteAt? outcome.kernel.book) = noted.2.map some
  watches : ∀ (i j : Nat) (left right : Subscription σ δ) (leftNote rightNote : LedgerNote φ σ δ),
    outcome.table.entries[i]? = some left → noted.2[i]? = some leftNote →
    outcome.table.entries[j]? = some right → noted.2[j]? = some rightNote →
    (left.watch = right.watch ↔ leftNote.file = rightNote.file)

/-! ## Files and watches -/

omit [DecidableEq φ] in
private theorem forall₂_imp_of_mem
    {α β : Type} {first second : α → β → Prop}
    {left : List α} {right : List β}
    (related : List.Forall₂ first left right)
    (implies : ∀ a ∈ left, ∀ b, first a b → second a b) :
    List.Forall₂ second left right := by
  induction related with
  | nil => exact .nil
  | cons head tail ih =>
      refine .cons (implies _ List.mem_cons_self _ head) (ih ?_)
      intro a member
      exact implies a (List.mem_cons_of_mem _ member)

omit [DecidableEq φ] in
private theorem forall₂_getElem?
    {α β : Type} {relation : α → β → Prop}
    {left : List α} {right : List β}
    (related : List.Forall₂ relation left right)
    {index : Nat} {a : α} {b : β}
    (leftAt : left[index]? = some a)
    (rightAt : right[index]? = some b) :
    relation a b := by
  induction related generalizing index with
  | nil => simp at leftAt
  | cons head tail ih =>
      cases index with
      | zero =>
          simp only [List.getElem?_cons_zero, Option.some.injEq] at leftAt rightAt
          rw [← leftAt, ← rightAt]
          exact head
      | succ index =>
          simp only [List.getElem?_cons_succ] at leftAt rightAt
          exact ih leftAt rightAt

omit [DecidableEq σ] in
/-- In a well-formed book a watch is on a file exactly when the file has that watch. -/
theorem WatchBook.WellFormed.fileAt?_eq_some
    {book : WatchBook φ}
    (wellFormed : book.WellFormed)
    {file : φ} {watch : WatchId}
    (found : Assoc.get? book.ids file = some watch) :
    book.fileAt? watch = some file := by
  have member := Assoc.mem_of_get? found
  cases search : book.ids.find? (·.2 = watch) with
  | none =>
      have differs := List.find?_eq_none.mp search (file, watch) member
      simp at differs
  | some pair =>
      have pairWatch : pair.2 = watch := by
        simpa using List.find?_some search
      have pairMember : (pair.1, watch) ∈ book.ids := by
        rw [← pairWatch]
        exact List.mem_of_find?_eq_some search
      have pairFound := Assoc.get?_of_mem wellFormed.filesDistinct pairMember
      rw [fileAt?, search, Option.map_some, wellFormed.file_unique pairFound found]

namespace Subscription.StandsFor

variable {book : WatchBook φ} {entry : Subscription σ δ} {note : LedgerNote φ σ δ}

omit [DecidableEq σ] in
theorem noteAt?_eq
    (standsFor : entry.StandsFor book note)
    (wellFormed : book.WellFormed) :
    entry.noteAt? book = some note := by
  obtain ⟨watch, subscriber, mask, data⟩ := standsFor
  rw [noteAt?, wellFormed.fileAt?_eq_some watch, subscriber, mask, data]
  rfl

/-- An entry is selected by a file's watch exactly when its note is meant by the file. -/
theorem selects_eq
    (standsFor : entry.StandsFor book note)
    (wellFormed : book.WellFormed)
    (file : φ) (who : Option σ) :
    WatchTable.selects (book.idFor file) who entry = Ledger.means file who note := by
  have sameFile : entry.watch = book.idFor file ↔ note.file = file :=
    wellFormed.eq_idFor_iff standsFor.watch
  simp only [WatchTable.selects, Ledger.means, sameFile, standsFor.subscriber]

omit [DecidableEq σ] in
/-- Settling a file for a table with an entry leaves what the entry stands for alone: its watch is
asked for something and stays. -/
theorem settle
    (standsFor : entry.StandsFor book note)
    (wellFormed : book.WellFormed)
    {next : WatchTable σ δ}
    (subscribable : next.Subscribable)
    (member : entry ∈ next.entries) (file : φ) :
    entry.StandsFor (book.settle file (next.aggregate (book.idFor file))) note where
  watch := by
    rw [wellFormed.get?_ids_settle]
    by_cases same : file = note.file
    · have onWatch : entry.watch = book.idFor file :=
        (wellFormed.eq_idFor_iff standsFor.watch).mpr same.symm
      have nonempty := subscribable.isEmpty_aggregate_of_mem member
      rw [if_pos same, ← onWatch, nonempty, if_neg Bool.false_ne_true]
    · rw [if_neg same]
      exact standsFor.watch
  subscriber := standsFor.subscriber
  mask := standsFor.mask
  data := standsFor.data

end Subscription.StandsFor

/-! ## The simulation -/

/-- A table agrees with its kernel, and its entries stand for the notes of a ledger in order. -/
structure Ledger.Simulates
    (ledger : Ledger φ σ δ) (table : WatchTable σ δ) (kernel : FileBook φ) : Prop where
  agreement : table.Agreement kernel.book
  entries : List.Forall₂ (Subscription.StandsFor kernel.book) table.entries ledger

namespace Ledger.Simulates

variable {ledger : Ledger φ σ δ} {table : WatchTable σ δ} {kernel : FileBook φ}

theorem filter
    (simulates : ledger.Simulates table kernel)
    (path : Path) (who : Option σ) :
    List.Forall₂ (Subscription.StandsFor kernel.book)
      (table.entries.filter (WatchTable.selects (kernel.idFor path) who))
      (ledger.filter (means (kernel.fileOf path) who)) := by
  refine List.rel_filter ?_ simulates.entries
  intro entry note standsFor
  have same :=
    standsFor.selects_eq simulates.agreement.wellFormed (kernel.fileOf path) who
  simp only [FileBook.idFor, same]

theorem filter_not
    (simulates : ledger.Simulates table kernel)
    (path : Path) (who : Option σ) :
    List.Forall₂ (Subscription.StandsFor kernel.book)
      (table.without (kernel.idFor path) who).entries
      (ledger.filter (!means (kernel.fileOf path) who ·)) := by
  refine List.rel_filter ?_ simulates.entries
  intro entry note standsFor
  have same :=
    standsFor.selects_eq simulates.agreement.wellFormed (kernel.fileOf path) who
  simp only [FileBook.idFor, same]

theorem registered_eq
    (simulates : ledger.Simulates table kernel)
    (path : Path) (who : σ) :
    table.registered (kernel.idFor path) who =
      ledger.any (means (kernel.fileOf path) (some who)) := by
  have sameCount := (simulates.filter path (some who)).length_eq
  rw [WatchTable.registered_eq_any, Bool.eq_iff_iff, List.any_eq_true, List.any_eq_true,
    ← List.length_filter_pos_iff, ← List.length_filter_pos_iff, sameCount]

omit [DecidableEq σ] in
/-- Entries that are kept still stand for their notes once their file is settled. -/
theorem settle
    (simulates : ledger.Simulates table kernel)
    {next : WatchTable σ δ} {kept : Ledger φ σ δ}
    (subscribable : next.Subscribable)
    (path : Path)
    {entries : List (Subscription σ δ)}
    (members : ∀ entry ∈ entries, entry ∈ next.entries)
    (related : List.Forall₂ (Subscription.StandsFor kernel.book) entries kept) :
    List.Forall₂
      (Subscription.StandsFor
        (kernel.settle path (next.aggregate (kernel.idFor path))).book)
      entries kept := by
  refine forall₂_imp_of_mem related ?_
  intro entry member note standsFor
  exact
    standsFor.settle simulates.agreement.wellFormed subscribable
      (members entry member) (kernel.fileOf path)

end Ledger.Simulates

/-- A ledger answers what a table answers, and simulates it afterwards. -/
structure WatchOutcome.SimulatedBy
    (outcome : WatchOutcome σ δ (FileBook φ))
    (noted : Except Fault (WatchAnswer φ) × Ledger φ σ δ) : Prop where
  answer :
    outcome.answer.map (WatchAnswer.map outcome.kernel.book.fileAt?) =
      noted.1.map (WatchAnswer.map some)
  simulates : noted.2.Simulates outcome.table outcome.kernel

namespace Ledger.Simulates

variable {ledger : Ledger φ σ δ} {table : WatchTable σ δ} {kernel : FileBook φ}

/-- A new subscription stands for a new note. -/
theorem subscribe_new
    (simulates : ledger.Simulates table kernel)
    (path : Path) (who : σ) (data : δ)
    {mask : Mask}
    (allowed : mask.subscribable = true)
    (unregistered : ledger.any (means (kernel.fileOf path) (some who)) = false) :
    (table.serve kernel (.subscribe path who data mask)).SimulatedBy
      (.ok (.watching (kernel.fileOf path)),
        ledger ++ [⟨kernel.fileOf path, who, mask, data⟩]) := by
  have agreement := simulates.agreement
  have after := agreement.serve (.subscribe path who data mask)
  have served :=
    agreement.subscribable.serve_subscribe agreement.quiet path who data allowed
  rw [simulates.registered_eq path who, unregistered, if_neg Bool.false_ne_true] at served
  rw [served] at after ⊢
  let entry : Subscription σ δ := ⟨kernel.idFor path, mask, who, data⟩
  let next := table.add entry
  have present : entry ∈ next.entries := List.mem_append_right _ List.mem_cons_self
  have nonempty : (next.aggregate (kernel.idFor path)).isEmpty = false :=
    after.subscribable.isEmpty_aggregate_of_mem present
  have found :
      Assoc.get?
          (kernel.settle path (next.aggregate (kernel.idFor path))).book.ids
          (kernel.fileOf path) =
        some (kernel.idFor path) := by
    rw [FileBook.settle, agreement.wellFormed.get?_ids_settle, if_pos rfl, nonempty]
    rfl
  have old :=
    simulates.settle after.subscribable path
      (fun entry member => List.mem_append_left _ member) simulates.entries
  have new :
      List.Forall₂
        (Subscription.StandsFor
          (kernel.settle path (next.aggregate (kernel.idFor path))).book)
        [entry] [⟨kernel.fileOf path, who, mask, data⟩] :=
    .cons ⟨found, rfl, rfl, rfl⟩ .nil
  refine ⟨?_, after, List.rel_append old new⟩
  have file := after.wellFormed.fileAt?_eq_some found
  simp only [Except.map, WatchAnswer.map]
  rw [file]

theorem subscribe
    (simulates : ledger.Simulates table kernel)
    (path : Path) (who : σ) (data : δ) (mask : Mask) :
    (table.serve kernel (.subscribe path who data mask)).SimulatedBy
      (ledger.serve kernel.fileOf (.subscribe path who data mask)) := by
  have agreement := simulates.agreement
  cases allowed : mask.subscribable with
  | false =>
      rw [WatchTable.serve_subscribe_of_refused table kernel path who data allowed]
      simp only [Ledger.serve, allowed]
      exact ⟨rfl, simulates⟩
  | true =>
      cases duplicate : ledger.any (means (kernel.fileOf path) (some who)) with
      | true =>
          have after := agreement.serve (.subscribe path who data mask)
          have served :=
            agreement.subscribable.serve_subscribe agreement.quiet path who data allowed
          rw [simulates.registered_eq path who, duplicate, if_pos rfl] at served
          rw [served] at after ⊢
          simp only [Ledger.serve, allowed, duplicate, if_true]
          refine ⟨rfl, after, ?_⟩
          exact
            simulates.settle agreement.subscribable path (fun _ member => member)
              simulates.entries
      | false =>
          simp only [Ledger.serve, allowed, duplicate, if_true, Bool.false_eq_true, if_false]
          exact simulates.subscribe_new path who data allowed duplicate

theorem unsubscribe
    (simulates : ledger.Simulates table kernel)
    (path : Path) (who : Option σ) :
    (table.serve kernel (.unsubscribe path who)).SimulatedBy
      (ledger.serve kernel.fileOf (.unsubscribe path who)) := by
  have agreement := simulates.agreement
  have after := agreement.serve (.unsubscribe path who)
  have sameCount := (simulates.filter path who).length_eq
  have survivors :=
    simulates.settle (agreement.subscribable.without (kernel.idFor path) who) path
      (fun _ member => member) (simulates.filter_not path who)
  rw [agreement.subscribable.serve_unsubscribe agreement.quiet path who] at after ⊢
  have sameTest :
      (table.entries.filter (WatchTable.selects (kernel.idFor path) who)).isEmpty =
        (ledger.filter (means (kernel.fileOf path) who)).isEmpty := by
    rw [Bool.eq_iff_iff, List.isEmpty_iff, List.isEmpty_iff, ← List.length_eq_zero_iff,
      sameCount, List.length_eq_zero_iff]
  simp only [Ledger.serve, sameTest]
  split
  · rename_i nothing
    refine ⟨rfl, after, ?_⟩
    have allKept : ledger.filter (!means (kernel.fileOf path) who ·) = ledger := by
      rw [List.isEmpty_iff, List.filter_eq_nil_iff] at nothing
      rw [List.filter_eq_self]
      intro note member
      simpa using nothing note member
    rw [allKept] at survivors
    exact survivors
  · refine ⟨?_, after, survivors⟩
    simp only [Except.map, WatchAnswer.map, sameCount]

/-- One request is answered alike, and what it leaves behind is simulated again. -/
theorem serve
    (simulates : ledger.Simulates table kernel)
    (request : WatchRequest σ δ) :
    (table.serve kernel request).SimulatedBy (ledger.serve kernel.fileOf request) := by
  cases request with
  | subscribe path who data mask => exact simulates.subscribe path who data mask
  | unsubscribe path who => exact simulates.unsubscribe path who

end Ledger.Simulates

/-! ## Whole runs -/

omit [DecidableEq σ] in
theorem WatchOutcome.SimulatedBy.follows
    {outcome : WatchOutcome σ δ (FileBook φ)}
    {noted : Except Fault (WatchAnswer φ) × Ledger φ σ δ}
    (simulated : outcome.SimulatedBy noted) :
    outcome.Follows noted where
  answer := simulated.answer
  entries := by
    have wellFormed := simulated.simulates.agreement.wellFormed
    rw [← List.forall₂_eq_eq_eq, List.forall₂_map_left_iff, List.forall₂_map_right_iff]
    exact simulated.simulates.entries.imp fun _ _ standsFor => standsFor.noteAt?_eq wellFormed
  watches := by
    intro i j left right leftNote rightNote leftAt leftNoteAt rightAt rightNoteAt
    have wellFormed := simulated.simulates.agreement.wellFormed
    have leftStands := forall₂_getElem? simulated.simulates.entries leftAt leftNoteAt
    have rightStands := forall₂_getElem? simulated.simulates.entries rightAt rightNoteAt
    have rightWatch :
        outcome.kernel.book.idFor rightNote.file = right.watch := by
      rw [WatchBook.idFor, rightStands.watch, Option.getD_some]
    rw [← rightWatch]
    exact wellFormed.eq_idFor_iff leftStands.watch

/-- A run from simulated states is simulated throughout.  No request changes which file a path leads
to. -/
theorem Ledger.Simulates.outcomes
    {ledger : Ledger φ σ δ} {table : WatchTable σ δ} {kernel : FileBook φ}
    (simulates : ledger.Simulates table kernel)
    (requests : List (WatchRequest σ δ)) :
    List.Forall₂ WatchOutcome.SimulatedBy
      (table.outcomes kernel requests) (ledger.outcomes kernel.fileOf requests) := by
  induction requests generalizing ledger table kernel with
  | nil => exact .nil
  | cons request rest ih =>
      have first := simulates.serve request
      have later := ih first.simulates
      have agreement := simulates.agreement
      rw [agreement.subscribable.fileOf_serve agreement.quiet request] at later
      exact .cons first later

omit [DecidableEq σ] in
theorem Ledger.simulates_nil (fileOf : Path → φ) :
    Ledger.Simulates ([] : Ledger φ σ δ) WatchTable.empty ⟨fileOf, WatchBook.empty⟩ where
  agreement := WatchTable.agreement_empty
  entries := .nil

/--
Every outcome of a run that starts without subscriptions and without watches follows the ledger of
the same requests, whichever paths stand for one file.
-/
theorem WatchTable.outcomes_follow_ledger
    (fileOf : Path → φ) (requests : List (WatchRequest σ δ)) :
    List.Forall₂ WatchOutcome.Follows
      (WatchTable.empty.outcomes (⟨fileOf, WatchBook.empty⟩ : FileBook φ) requests)
      (Ledger.outcomes fileOf [] requests) :=
  ((Ledger.simulates_nil fileOf).outcomes requests).imp fun _ _ simulated => simulated.follows

/-- A file whose watch was removed is watched again under another id. -/
example :
    (WatchTable.empty.outcomes
        (⟨Path.components, WatchBook.empty⟩ : FileBook Path.Components)
        [.subscribe ⟨[0x61]⟩ "x" .none Mask.delete,
          .unsubscribe ⟨[0x61]⟩ none,
          .subscribe ⟨[0x61]⟩ "x" .none Mask.delete]).map (·.table.entries) =
      [[⟨⟨1⟩, Mask.delete, "x", Payload.none⟩], [], [⟨⟨2⟩, Mask.delete, "x", Payload.none⟩]] :=
  rfl

end MarkerWatch
