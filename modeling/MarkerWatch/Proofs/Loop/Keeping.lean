import Mathlib.Data.List.Range
import MarkerWatch.Proofs.Loop.Run

/-!
# The tables of a loop in use

The tables of a loop hold what its history says.  The callback of a registration that was not
cancelled is in the loop, unless it runs; one that runs has a mark exactly if it was cancelled
meanwhile.  So the callback that ends is put back if and only if its registration is still live.

`ReadyLoop.Kept` says this, and each step of a run keeps it.
-/

namespace MarkerWatch.ReadyLoop

variable {κ : Type}

/-! ## Callbacks that run -/

/-- The callbacks that were taken out of the loop, by their numbers. -/
def taken : List (Pending κ) → Assoc Nat κ
  | [] => []
  | .running id callback :: below => (id, callback) :: taken below
  | .firing _ _ :: below => taken below
  | .readying _ _ :: below => taken below

/-! ## The tables of a loop -/

/-- The tables of a loop hold what its history says. -/
structure Kept (history : List (Event κ)) (a : Activity κ) : Prop where
  numbers : (registered history).map (·.id) = List.range' 1 a.loop.lastId
  issued : ∀ id ∈ cancellations history, id ≤ a.loop.lastId
  fds : a.loop.fds = (live history).map fun registration => (registration.id, registration.fd)
  /-- The loop has the callbacks of what is live, except for those that run. -/
  held : ∀ id callback, Assoc.get? a.loop.callbacks id = some callback ↔
    (∃ fd, ⟨id, fd, callback⟩ ∈ live history) ∧ ¬ Running history id
  running : ∀ id, Running history id ↔ id ∈ Assoc.keys (taken a.pending)
  distinct : (Assoc.keys (taken a.pending)).Nodup
  own : ∀ id callback, (id, callback) ∈ taken a.pending →
    ∃ fd, ⟨id, fd, callback⟩ ∈ registered history
  /-- A callback that runs is dropped at its end exactly if it was cancelled. -/
  marked : ∀ id, Running history id → (id ∈ a.loop.cancelled ↔ id ∈ cancellations history)
  marks : ∀ id ∈ a.loop.cancelled, id ∈ cancellations history
  waiting : ∀ waiting ran, .firing waiting ran ∈ a.pending →
    ∀ id ∈ waiting, ∃ registration ∈ registered history, registration.id = id

/-- A registration is live when it was made and was not cancelled. -/
theorem mem_live_iff {history : List (Event κ)} {registration : Registration κ} :
    registration ∈ live history ↔
      registration ∈ registered history ∧ registration.id ∉ cancellations history := by
  rw [live, List.mem_filter, decide_eq_true_eq]

theorem mem_liveFor_iff {history : List (Event κ)} {fd : Int} {id : Nat} :
    id ∈ liveFor history fd ↔ ∃ callback, ⟨id, fd, callback⟩ ∈ live history := by
  rw [liveFor, List.mem_map]
  constructor
  · rintro ⟨⟨id, fd', callback⟩, member, rfl⟩
    rw [List.mem_filter, decide_eq_true_eq] at member
    obtain ⟨member, rfl⟩ := member
    exact ⟨callback, member⟩
  · rintro ⟨callback, member⟩
    exact ⟨_, List.mem_filter.mpr ⟨member, by simp⟩, rfl⟩

namespace Kept

variable {history : List (Event κ)} {a : Activity κ}

theorem nodup_numbers (kept : Kept history a) : ((registered history).map (·.id)).Nodup := by
  rw [kept.numbers]
  exact List.nodup_range'

/-- A number is that of one registration. -/
theorem unique
    (kept : Kept history a)
    {one other : Registration κ}
    (here : one ∈ registered history)
    (there : other ∈ registered history)
    (same : one.id = other.id) :
    one = other :=
  List.inj_on_of_nodup_map kept.nodup_numbers here there same

/-- No registration has a number beyond the last one that was given out. -/
theorem le_lastId
    (kept : Kept history a)
    {registration : Registration κ}
    (member : registration ∈ registered history) :
    registration.id ≤ a.loop.lastId := by
  have numbered : registration.id ∈ (registered history).map (·.id) := List.mem_map_of_mem member
  rw [kept.numbers, List.mem_range'_1] at numbered
  omega

/-- A callback that runs was registered under its number. -/
theorem exists_of_running
    (kept : Kept history a)
    {id : Nat}
    (running : Running history id) :
    ∃ registration ∈ registered history, registration.id = id := by
  rw [kept.running, Assoc.keys, List.mem_map] at running
  obtain ⟨⟨id, callback⟩, member, rfl⟩ := running
  obtain ⟨fd, registered⟩ := kept.own id callback member
  exact ⟨_, registered, rfl⟩

theorem nodup_liveFor (kept : Kept history a) (fd : Int) : (liveFor history fd).Nodup := by
  refine kept.nodup_numbers.sublist (List.Sublist.map _ ?_)
  exact List.filter_sublist.trans List.filter_sublist

/-- A fire begins with what is live. -/
theorem due_eq (kept : Kept history a) (fd : Int) : a.loop.due fd = liveFor history fd := by
  rw [due, kept.fds, liveFor, List.filter_map, List.map_map]
  rfl

/-- The registrations that a loop counts are those that are live. -/
theorem registrations_eq (kept : Kept history a) :
    a.loop.registrations = (live history).length := by
  rw [registrations, kept.fds, List.length_map]

/-! ### Steps -/

/-- What neither changes the tables nor starts or ends a callback keeps them. -/
theorem of_same
    (kept : Kept history a)
    {next : Activity κ} {event : Event κ}
    (registration : event.registration? = none)
    (cancelled : event.cancelled? = none)
    (running : ∀ id, Running (history ++ [event]) id ↔ Running history id)
    (loop : next.loop = a.loop)
    (taken : taken next.pending = taken a.pending)
    (waiting : ∀ waiting ran, .firing waiting ran ∈ next.pending →
      ∀ id ∈ waiting, ∃ registration ∈ registered history, registration.id = id) :
    Kept (history ++ [event]) next := by
  have registered := registered_concat_of_none history registration
  have cancellations := cancellations_concat_of_none history cancelled
  have live := live_concat_of_none history registration cancelled
  constructor <;> simp only [registered, cancellations, live, running, loop, taken]
  case numbers => exact kept.numbers
  case issued => exact kept.issued
  case fds => exact kept.fds
  case held => exact kept.held
  case running => exact kept.running
  case distinct => exact kept.distinct
  case own => exact kept.own
  case marked => exact kept.marked
  case marks => exact kept.marks
  case waiting => exact waiting

theorem register
    (kept : Kept history a) (fd : Int) (callback : κ)
    {pending : List (Pending κ)}
    (taken : taken pending = taken a.pending)
    (fewer : pending ⊆ a.pending) :
    Kept (history ++ [.registered ⟨a.loop.lastId + 1, fd, callback⟩])
      ⟨(a.loop.register fd callback).2, pending⟩ := by
  have unissued : a.loop.lastId + 1 ∉ cancellations history := by
    intro member
    exact absurd (kept.issued _ member) (by omega)
  have registered : registered (history ++ [.registered ⟨a.loop.lastId + 1, fd, callback⟩]) =
      registered history ++ [⟨a.loop.lastId + 1, fd, callback⟩] :=
    registered_concat _ _
  have cancellations :
      cancellations (history ++ [.registered ⟨a.loop.lastId + 1, fd, callback⟩]) =
        cancellations history :=
    cancellations_concat_of_none history rfl
  have live : live (history ++ [.registered ⟨a.loop.lastId + 1, fd, callback⟩]) =
      live history ++ [⟨a.loop.lastId + 1, fd, callback⟩] := by
    rw [live, registered, cancellations, List.filter_append]
    congr 1
    simp [unissued]
  have running (id : Nat) :
      Running (history ++ [.registered ⟨a.loop.lastId + 1, fd, callback⟩]) id ↔
        Running history id := by
    simp [running_concat]
  have known {registration : Registration κ} (member : registration ∈ ReadyLoop.live history) :
      registration.id ≠ a.loop.lastId + 1 := by
    intro same
    have bound := kept.le_lastId (mem_live_iff.mp member).1
    omega
  have absent : Assoc.get? a.loop.fds (a.loop.lastId + 1) = none := by
    rw [Assoc.get?_eq_none_iff, kept.fds, Assoc.keys, List.map_map, List.mem_map]
    rintro ⟨registration, member, same⟩
    exact known member same
  constructor <;> simp only [registered, cancellations, live, running, taken]
  case numbers =>
    rw [List.map_append, kept.numbers]
    change _ = List.range' 1 (a.loop.lastId + 1)
    rw [List.range'_concat, Nat.one_mul, Nat.add_comm 1]
    rfl
  case issued => exact fun id member => Nat.le_succ_of_le (kept.issued id member)
  case fds =>
    rw [List.map_append, ← kept.fds]
    exact Assoc.set_of_absent absent fd
  case held =>
    intro id other
    change Assoc.get? (Assoc.set a.loop.callbacks (a.loop.lastId + 1) callback) id = some other ↔ _
    rw [Assoc.get?_set]
    split
    · rename_i new
      subst new
      constructor
      · intro same
        obtain rfl := Option.some.inj same
        refine ⟨⟨fd, List.mem_append_right _ (List.mem_singleton_self _)⟩, ?_⟩
        intro running
        obtain ⟨registration, member, same⟩ := kept.exists_of_running running
        have bound := kept.le_lastId member
        omega
      · rintro ⟨⟨fd', member⟩, -⟩
        rcases List.mem_append.mp member with old | new
        · exact absurd rfl (known old)
        · cases List.mem_singleton.mp new
          rfl
    · rename_i old
      rw [kept.held]
      simp [Ne.symm old]
  case running => exact kept.running
  case distinct => exact kept.distinct
  case own =>
    intro id other member
    obtain ⟨fd', member⟩ := kept.own id other member
    exact ⟨fd', List.mem_append_left _ member⟩
  case marked => exact kept.marked
  case marks => exact kept.marks
  case waiting =>
    intro waiting ran member id waits
    obtain ⟨registration, member, same⟩ := kept.waiting waiting ran (fewer member) id waits
    exact ⟨registration, List.mem_append_left _ member, same⟩

theorem cancel
    (kept : Kept history a)
    {id : Nat} (issued : id ≤ a.loop.lastId) :
    Kept (history ++ [.cancelled id]) ⟨a.loop.cancel id, a.pending⟩ := by
  have registered : registered (history ++ [.cancelled id]) = registered history :=
    registered_concat_of_none history rfl
  have cancellations : cancellations (history ++ [.cancelled id]) = cancellations history ++ [id] :=
    cancellations_concat _ _
  have live : live (history ++ [.cancelled id]) = (live history).filter (·.id ≠ id) := by
    rw [live, registered, cancellations, live, List.filter_filter]
    refine List.filter_congr fun registration _ => ?_
    simp [and_comm]
  have running (other : Nat) :
      Running (history ++ [.cancelled id]) other ↔ Running history other := by
    simp [running_concat]
  constructor <;> simp only [registered, cancellations, live, running, lastId_cancel]
  case numbers => exact kept.numbers
  case issued =>
    intro other member
    rcases List.mem_append.mp member with old | new
    · exact kept.issued other old
    · rwa [List.mem_singleton.mp new]
  case fds =>
    rw [fds_cancel, Assoc.erase_eq_filter, kept.fds, List.filter_map]
    rfl
  case held =>
    intro other callback
    rw [get?_callbacks_cancel]
    split
    · rename_i same
      simp [same]
    · rename_i different
      rw [kept.held]
      simp [Ne.symm different]
  case running => exact kept.running
  case distinct => exact kept.distinct
  case own => exact kept.own
  case marked =>
    intro other runs
    rw [ReadyLoop.cancel]
    split
    · rename_i held
      obtain ⟨callback, held⟩ := Option.isSome_iff_exists.mp held
      have different : other ≠ id := by
        rintro rfl
        exact ((kept.held other callback).mp held).2 runs
      simp [different, kept.marked other runs]
    · simp [kept.marked other runs, or_comm]
  case marks =>
    intro other marked
    rw [ReadyLoop.cancel] at marked
    split at marked
    · exact List.mem_append_left _ (kept.marks other marked)
    · rcases List.mem_cons.mp marked with rfl | old
      · exact List.mem_append_right _ (List.mem_singleton_self _)
      · exact List.mem_append_left _ (kept.marks other old)
  case waiting => exact kept.waiting

theorem start
    {l taken : ReadyLoop κ} {id ran : Nat} {callback : κ} {waiting : List Nat}
    {pending : List (Pending κ)}
    (kept : Kept history ⟨l, .firing (id :: waiting) ran :: pending⟩)
    (held : l.take? id = some (callback, taken)) (depth : Nat) :
    Kept (history ++ [.turned depth id (some callback)])
      ⟨taken, .running id callback :: .firing waiting (ran + 1) :: pending⟩ := by
  obtain ⟨present, rfl⟩ := take?_eq_some_iff.mp held
  obtain ⟨⟨fd, member⟩, idle⟩ := (kept.held id callback).mp present
  obtain ⟨member, uncancelled⟩ := mem_live_iff.mp member
  have registered : registered (history ++ [.turned depth id (some callback)]) =
      registered history :=
    registered_concat_of_none history rfl
  have cancellations : cancellations (history ++ [.turned depth id (some callback)]) =
      cancellations history :=
    cancellations_concat_of_none history rfl
  have live : live (history ++ [.turned depth id (some callback)]) = live history :=
    live_concat_of_none history rfl rfl
  have running (other : Nat) :
      Running (history ++ [.turned depth id (some callback)]) other ↔
        id = other ∨ Running history other := by
    simp [running_concat]
  constructor <;> simp only [registered, cancellations, live, running]
  case numbers => exact kept.numbers
  case issued => exact kept.issued
  case fds => exact kept.fds
  case held =>
    intro other callback'
    rw [Assoc.get?_erase]
    split
    · rename_i same
      simp [same]
    · rename_i different
      rw [kept.held]
      simp [different]
  case running =>
    intro other
    rw [kept.running]
    simp [ReadyLoop.taken, eq_comm]
  case distinct =>
    refine List.nodup_cons.mpr ⟨?_, kept.distinct⟩
    intro runs
    exact idle ((kept.running id).mpr runs)
  case own =>
    intro other callback' taken
    rcases List.mem_cons.mp taken with same | old
    · cases same
      exact ⟨fd, member⟩
    · exact kept.own other callback' old
  case marked =>
    rintro other (rfl | runs)
    · refine ⟨kept.marks id, fun cancelled => absurd cancelled uncancelled⟩
    · exact kept.marked other runs
  case marks => exact kept.marks
  case waiting =>
    intro waiting' ran' frame other waits
    rcases List.mem_cons.mp frame with impossible | frame
    · cases impossible
    · rcases List.mem_cons.mp frame with same | frame
      · cases same
        exact kept.waiting _ _ List.mem_cons_self other (List.mem_cons_of_mem _ waits)
      · exact kept.waiting waiting' ran' (List.mem_cons_of_mem _ frame) other waits

/-- A callback that was marked while it ran is dropped at its end, and any other one is put back. -/
theorem finish
    {l : ReadyLoop κ} {id : Nat} {callback : κ} {pending : List (Pending κ)}
    (kept : Kept history ⟨l, .running id callback :: pending⟩) :
    Kept (history ++ [.ended id]) ⟨l.finish id callback, pending⟩ := by
  have runs : Running history id := by
    rw [kept.running]
    exact List.mem_cons_self
  obtain ⟨fd, member⟩ := kept.own id callback List.mem_cons_self
  obtain ⟨gone, distinct⟩ := List.nodup_cons.mp kept.distinct
  have registered : registered (history ++ [.ended id]) = registered history :=
    registered_concat_of_none history rfl
  have cancellations : cancellations (history ++ [.ended id]) = cancellations history :=
    cancellations_concat_of_none history rfl
  have live : live (history ++ [.ended id]) = live history := live_concat_of_none history rfl rfl
  have running (other : Nat) :
      Running (history ++ [.ended id]) other ↔ Running history other ∧ id ≠ other := by
    simp [running_concat]
  constructor <;> simp only [registered, cancellations, live, running, lastId_finish]
  case numbers => exact kept.numbers
  case issued => exact kept.issued
  case fds =>
    rw [fds_finish]
    exact kept.fds
  case held =>
    intro other callback'
    have elsewhere (different : id ≠ other) :
        Assoc.get? l.callbacks other = some callback' ↔
          (∃ fd, ⟨other, fd, callback'⟩ ∈ ReadyLoop.live history) ∧
            ¬ (Running history other ∧ id ≠ other) := by
      rw [kept.held]
      simp [different]
    rw [ReadyLoop.finish]
    split
    · rename_i marked
      have cancelled := kept.marks id (List.contains_iff_mem.mp marked)
      by_cases same : id = other
      · subst same
        constructor
        · intro present
          exact absurd runs ((kept.held id callback').mp present).2
        · rintro ⟨⟨fd', live⟩, -⟩
          exact absurd cancelled (mem_live_iff.mp live).2
      · exact elsewhere same
    · rename_i unmarked
      have uncancelled : id ∉ ReadyLoop.cancellations history := by
        rw [← kept.marked id runs, ← List.contains_iff_mem]
        exact unmarked
      dsimp only
      rw [Assoc.get?_set]
      split
      · rename_i same
        subst same
        constructor
        · intro same
          obtain rfl := Option.some.inj same
          exact ⟨⟨fd, mem_live_iff.mpr ⟨member, uncancelled⟩⟩, fun both => both.2 rfl⟩
        · rintro ⟨⟨fd', live⟩, -⟩
          cases kept.unique member (mem_live_iff.mp live).1 rfl
          rfl
      · rename_i different
        exact elsewhere different
  case running =>
    intro other
    rw [kept.running]
    change (other ∈ id :: Assoc.keys (taken pending)) ∧ id ≠ other ↔ _
    rw [List.mem_cons]
    constructor
    · rintro ⟨rfl | below, different⟩
      · exact absurd rfl different
      · exact below
    · intro below
      refine ⟨.inr below, ?_⟩
      rintro rfl
      exact gone below
  case distinct => exact distinct
  case own => exact fun other callback' member => kept.own other callback' (List.mem_cons_of_mem _ member)
  case marked =>
    rintro other ⟨runs, different⟩
    rw [ReadyLoop.finish]
    split
    · simp [kept.marked other runs, Ne.symm different]
    · exact kept.marked other runs
  case marks =>
    intro other marked
    rw [ReadyLoop.finish] at marked
    split at marked
    · exact kept.marks other (List.mem_filter.mp marked).1
    · exact kept.marks other marked
  case waiting =>
    exact fun waiting ran frame => kept.waiting waiting ran (List.mem_cons_of_mem _ frame)

/-- Every step keeps the tables. -/
theorem step
    {next : Activity κ} {event : Event κ}
    (kept : Kept history a)
    (step : Step a event next) :
    Kept (history ++ [event]) next := by
  cases step with
  | ready eager pending fd callback =>
      refine kept.of_same rfl rfl (by simp [running_concat]) rfl rfl ?_
      intro waiting ran frame
      rcases List.mem_cons.mp frame with impossible | frame
      · cases impossible
      · exact kept.waiting waiting ran frame
  | registerReadied l pending fd callback =>
      exact kept.register fd callback rfl (List.subset_cons_self _ _)
  | register manual pending fd callback => exact kept.register fd callback rfl (List.Subset.refl _)
  | cancel positive issued pending => exact kept.cancel issued
  | fire l pending fd =>
      refine kept.of_same rfl rfl (by simp [running_concat]) rfl rfl ?_
      intro waiting ran frame id waits
      rcases List.mem_cons.mp frame with new | frame
      · cases new
        rw [kept.due_eq, mem_liveFor_iff] at waits
        obtain ⟨callback, member⟩ := waits
        exact ⟨_, (mem_live_iff.mp member).1, rfl⟩
      · exact kept.waiting waiting ran frame id waits
  | start held waiting ran pending => exact kept.start held _
  | skip absent waiting ran pending =>
      refine kept.of_same rfl rfl (by simp [running_concat]) rfl rfl ?_
      intro waiting' ran' frame id waits
      rcases List.mem_cons.mp frame with same | frame
      · cases same
        exact kept.waiting _ _ List.mem_cons_self id (List.mem_cons_of_mem _ waits)
      · exact kept.waiting waiting' ran' (List.mem_cons_of_mem _ frame) id waits
  | finish l id callback pending => exact kept.finish
  | «return» l ran pending =>
      refine kept.of_same rfl rfl (by simp [running_concat]) rfl rfl ?_
      exact fun waiting ran frame => kept.waiting waiting ran (List.mem_cons_of_mem _ frame)

end Kept

theorem kept_empty (kind : LoopKind) : Kept ([] : List (Event κ)) ⟨.empty kind, []⟩ where
  numbers := rfl
  issued := by simp [cancellations]
  fds := rfl
  held := by simp [empty, live, registered]
  running := by simp [not_running_nil, taken, Assoc.keys]
  distinct := List.nodup_nil
  own := by simp [taken]
  marked := by simp [not_running_nil]
  marks := by simp [empty]
  waiting := by simp

end MarkerWatch.ReadyLoop
