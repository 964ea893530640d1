import MarkerWatch.Proofs.Loop.Keeping

/-!
# What a loop owes to its registrations

A fire comes to each registration that was live when it began, once and in their order, and starts
its callback unless the registration was cancelled meanwhile or the callback runs already.  After a
cancellation the callback is not started again, and without one it is back when the fire that has
started it returns.

Apart from the tables of the loop this rests on the fires under way.  Each of them still waits for
the part of its registrations that it has not come to, and what it has started was not running when
it began.
-/

namespace MarkerWatch.ReadyLoop

variable {κ : Type}

/-! ## Fires under way -/

theorem depth_lt_append (above below : List (Pending κ)) (waiting : List Nat) (ran : Nat) :
    depth below < depth (above ++ .firing waiting ran :: below) := by
  induction above with
  | nil => exact Nat.lt_succ_self _
  | cons pending above ih =>
      cases pending with
      | firing => exact Nat.lt_succ_of_lt ih
      | running | readying => exact ih

/-- A fire under way: it still waits for what it has not come to, it has counted what it has run,
and the callbacks it has started were not running before. -/
structure Serving (a : Activity κ) (before : List (Event κ)) (depth : Nat) (fd : Int)
    (during : List (Event κ)) (above : List (Pending κ)) (waiting : List Nat) (ran : Nat)
    (below : List (Pending κ)) : Prop where
  frame : a.pending = above ++ .firing waiting ran :: below
  level : ReadyLoop.depth below = depth
  rest : turns depth during ++ waiting = liveFor before fd
  count : ran = (starts depth during).length
  fresh : ∀ id ∈ starts depth during, id ∉ Assoc.keys (taken below)

/-- Each fire that has not returned is under way. -/
def Served (history : List (Event κ)) (a : Activity κ) : Prop :=
  ∀ before depth fd during, Fire history depth fd before during [] →
    ∃ above waiting ran below, Serving a before depth fd during above waiting ran below

theorem startOf?_eq_none
    {event : Event κ} {depth : Nat}
    (other : event.turnOf? depth = none) :
    event.startOf? depth = none := by
  cases event with
  | turned depth' id started =>
      cases started with
      | none => rfl
      | some callback => exact other
  | _ => rfl

namespace Serving

variable {a next : Activity κ} {event : Event κ} {before during : List (Event κ)} {depth ran : Nat}
  {fd : Int} {above below : List (Pending κ)} {waiting : List Nat}

/-- What is not a turn of the fire leaves it as it is. -/
theorem of_other
    (serving : Serving a before depth fd during above waiting ran below)
    (other : event.turnOf? depth = none)
    {above' : List (Pending κ)}
    (frame : next.pending = above' ++ .firing waiting ran :: below) :
    Serving next before depth fd (during ++ [event]) above' waiting ran below := by
  have starts : starts depth (during ++ [event]) = starts depth during := by
    rw [starts_concat, startOf?_eq_none other, Option.toList_none, List.append_nil]
  constructor
  case frame => exact frame
  case level => exact serving.level
  case rest =>
    rw [turns_concat, other, Option.toList_none, List.append_nil]
    exact serving.rest
  case count =>
    rw [starts]
    exact serving.count
  case fresh =>
    rw [starts]
    exact serving.fresh

/-- What lies above a fire is not deeper than the fire itself, so a fire among it has another
depth. -/
theorem turnOf?_of_within
    {id : Nat} {started : Option κ}
    (level : ReadyLoop.depth below = depth) :
    (Event.turned (ReadyLoop.depth (above ++ .firing waiting ran :: below)) id started).turnOf?
      depth = none := by
  have deeper := depth_lt_append above below waiting ran
  rw [level] at deeper
  exact if_neg (Nat.ne_of_gt deeper)

end Serving

theorem Served.step
    {history : List (Event κ)} {a next : Activity κ} {event : Event κ}
    (served : Served history a)
    (kept : Kept history a)
    (step : Step a event next) :
    Served (history ++ [event]) next := by
  intro before depth fd during fire
  rcases fire.of_concat with ⟨rfl, latest, rfl⟩ | ⟨earlier, rfl, fire, unreturned⟩
  · cases step with
    | fire l pending fd' =>
        cases latest
        refine ⟨[], l.due fd, 0, pending, rfl, rfl, ?_, rfl, ?_⟩
        · exact kept.due_eq fd
        · intro id member
          cases member
    | _ => cases latest
  · obtain ⟨above, waiting, ran, below, serving⟩ := served before depth fd earlier fire
    have frame := serving.frame
    cases step with
    | ready | fire =>
        cases frame
        exact ⟨_ :: above, _, _, _, serving.of_other rfl rfl⟩
    | register | cancel => exact ⟨_, _, _, _, serving.of_other rfl frame⟩
    | registerReadied | finish =>
        cases above with
        | nil => cases frame
        | cons pending above => exact ⟨_, _, _, _, serving.of_other rfl (List.cons.inj frame).2⟩
    | @start l taken id callback held waiting' ran' pending =>
        cases above with
        | nil =>
            cases frame
            have turn : (Event.turned (ReadyLoop.depth below) id (some callback)).turnOf? depth =
                some id := if_pos serving.level
            have start : (Event.turned (ReadyLoop.depth below) id (some callback)).startOf? depth =
                some id := if_pos serving.level
            refine ⟨[_], waiting', ran + 1, below, rfl, serving.level, ?_, ?_, ?_⟩
            · rw [turns_concat, turn, Option.toList_some, List.append_assoc]
              exact serving.rest
            · rw [starts_concat, start, Option.toList_some, List.length_append, ← serving.count]
              rfl
            · intro other member
              rw [starts_concat, start, Option.toList_some, List.mem_append] at member
              rcases member with old | new
              · exact serving.fresh other old
              · obtain rfl := List.mem_singleton.mp new
                obtain ⟨present, -⟩ := take?_eq_some_iff.mp held
                intro runs
                exact ((kept.held other callback).mp present).2 ((kept.running other).mpr runs)
        | cons _ above =>
            cases frame
            refine ⟨_ :: _ :: above, _, _, _, serving.of_other ?_ rfl⟩
            exact Serving.turnOf?_of_within serving.level
    | @skip l id absent waiting' ran' pending =>
        cases above with
        | nil =>
            cases frame
            have turn : (Event.turned (κ := κ) (ReadyLoop.depth below) id none).turnOf? depth =
                some id := if_pos serving.level
            have starts : starts depth (earlier ++ [.turned (ReadyLoop.depth below) id none]) =
                starts depth earlier :=
              (starts_concat _ _ _).trans (List.append_nil _)
            refine ⟨[], waiting', ran, below, rfl, serving.level, ?_, ?_, ?_⟩
            · rw [turns_concat, turn, Option.toList_some, List.append_assoc]
              exact serving.rest
            · rw [starts]
              exact serving.count
            · rw [starts]
              exact serving.fresh
        | cons _ above =>
            cases frame
            refine ⟨_ :: above, _, _, _, serving.of_other ?_ rfl⟩
            exact Serving.turnOf?_of_within serving.level
    | «return» l ran' pending =>
        cases above with
        | nil =>
            cases frame
            exact absurd (congrArg (Event.returned · ran) serving.level) (unreturned ran)
        | cons _ above => exact ⟨above, _, _, _, serving.of_other rfl (List.cons.inj frame).2⟩

/-- A fire that returns has come to everything. -/
theorem Serving.of_return
    {l : ReadyLoop κ} {before during : List (Event κ)} {depth ran ran' : Nat} {fd : Int}
    {pending above below : List (Pending κ)} {waiting : List Nat}
    (serving :
      Serving ⟨l, .firing [] ran' :: pending⟩ before depth fd during above waiting ran below)
    (returns : ReadyLoop.depth pending = depth) :
    waiting = [] ∧ ran' = ran ∧ pending = below := by
  have frame := serving.frame
  cases above with
  | nil =>
      cases frame
      exact ⟨rfl, rfl, rfl⟩
  | cons _ above =>
      have same : pending = above ++ .firing waiting ran :: below := (List.cons.inj frame).2
      have deeper := depth_lt_append above below waiting ran
      rw [← same, returns, serving.level] at deeper
      exact absurd deeper (Nat.lt_irrefl depth)

/-! ## Runs -/

section Runs

variable {kind : LoopKind} {history : List (Event κ)} {a : Activity κ}

theorem Trace.kept (trace : Trace ⟨.empty kind, []⟩ history a) : Kept history a := by
  induction trace with
  | nil => exact kept_empty kind
  | snoc trace step ih => exact ih.step step

theorem Trace.served (trace : Trace ⟨.empty kind, []⟩ history a) : Served history a := by
  induction trace with
  | nil =>
      intro before depth fd during fire
      exact absurd fire.recorded (by simp)
  | snoc trace step ih => exact ih.step trace.kept step

/-- What a loop owes to its registrations, after a run with a history. -/
structure Orderly (history : List (Event κ)) (l : ReadyLoop κ) : Prop where
  /-- A fire comes at most once to each registration that was live for the descriptor when it began,
  in their order.  When it returns, it has come to all of them, and tells how many callbacks it has
  started. -/
  turns : ∀ depth fd before during after, Fire history depth fd before during after →
    (liveFor before fd).Nodup ∧ turns depth during <+: liveFor before fd ∧
      ∀ ran later, after = .returned depth ran :: later →
        turns depth during = liveFor before fd ∧ ran = (starts depth during).length
  /-- It starts the callback that was registered, or passes over a number that was cancelled or
  whose callback is running. -/
  starts : ∀ before depth id started after, history = before ++ .turned depth id started :: after →
    (started = none ↔ id ∈ cancellations before ∨ Running before id) ∧
      ∀ callback, started = some callback → ∃ fd, ⟨id, fd, callback⟩ ∈ live before
  /-- Once a number was cancelled, its callback is not started again. -/
  ended : ∀ before id after, history = before ++ .cancelled id :: after →
    ∀ depth callback, .turned depth id (some callback) ∉ after
  /-- A callback that was not cancelled is back when the fire that has started it returns. -/
  available : ∀ depth fd before during ran, Fire history depth fd before during [.returned depth ran] →
    ∀ id ∈ ReadyLoop.starts depth during, id ∉ cancellations history →
      ∃ callback rest, ⟨id, fd, callback⟩ ∈ live history ∧ l.take? id = some (callback, rest)
  /-- The registrations that count are those that were not cancelled. -/
  registrations : l.registrations = (live history).length

theorem Kept.take?_eq_some
    (kept : Kept history a)
    {id : Nat} {fd : Int} {callback : κ}
    (live : ⟨id, fd, callback⟩ ∈ live history)
    (idle : ¬ Running history id) :
    ∃ rest, a.loop.take? id = some (callback, rest) := by
  refine ⟨_, take?_eq_some_iff.mpr ⟨?_, rfl⟩⟩
  exact (kept.held id callback).mpr ⟨⟨fd, live⟩, idle⟩

/-- What a fire starts, it has come to. -/
theorem starts_subset_turns (depth : Nat) (during : List (Event κ)) :
    starts depth during ⊆ turns depth during := by
  intro id member
  obtain ⟨event, recorded, start⟩ := List.mem_filterMap.mp member
  refine List.mem_filterMap.mpr ⟨event, recorded, ?_⟩
  cases event with
  | turned depth' id' started =>
      cases started with
      | none => cases start
      | some callback => exact start
  | _ => cases start

theorem Kept.started_iff
    {next : Activity κ} {depth id : Nat} {started : Option κ}
    (kept : Kept history a)
    (step : Step a (.turned depth id started) next) :
    (started = none ↔ id ∈ cancellations history ∨ Running history id) ∧
      ∀ callback, started = some callback → ∃ fd, ⟨id, fd, callback⟩ ∈ live history := by
  cases step with
  | @start l taken id callback held waiting ran pending =>
      obtain ⟨present, -⟩ := take?_eq_some_iff.mp held
      obtain ⟨⟨fd, member⟩, idle⟩ := (kept.held id callback).mp present
      constructor
      · constructor
        · intro none
          cases none
        · rintro (cancelled | running)
          · exact absurd cancelled (mem_live_iff.mp member).2
          · exact absurd running idle
      · intro other same
        obtain rfl := Option.some.inj same
        exact ⟨fd, member⟩
  | @skip l id absent waiting ran pending =>
      obtain ⟨⟨id, fd, callback⟩, member, rfl⟩ :=
        kept.waiting _ _ List.mem_cons_self id List.mem_cons_self
      constructor
      · refine ⟨fun _ => ?_, fun _ => rfl⟩
        by_contra neither
        obtain ⟨uncancelled, idle⟩ := not_or.mp neither
        have live : ⟨id, fd, callback⟩ ∈ live history := mem_live_iff.mpr ⟨member, uncancelled⟩
        obtain ⟨rest, held⟩ := kept.take?_eq_some live idle
        rw [absent] at held
        cases held
      · intro other same
        cases same

theorem Trace.turns_of_fire
    (trace : Trace ⟨.empty kind, []⟩ history a)
    {depth : Nat} {fd : Int} {before during after : List (Event κ)}
    (fire : Fire history depth fd before during after) :
    turns depth during <+: liveFor before fd ∧
      ∀ ran later, after = .returned depth ran :: later →
        turns depth during = liveFor before fd ∧ ran = (starts depth during).length := by
  obtain ⟨recorded, unreturned⟩ := fire
  cases after with
  | nil =>
      obtain ⟨above, waiting, ran, below, serving⟩ :=
        trace.served before depth fd during ⟨recorded, unreturned⟩
      refine ⟨⟨waiting, serving.rest⟩, ?_⟩
      intro ran later impossible
      cases impossible
  | cons event after =>
      rw [← List.cons_append, ← List.append_assoc] at recorded
      rw [recorded] at trace
      obtain ⟨middle, next, left, step, -⟩ := trace.split
      obtain ⟨above, waiting, ran, below, serving⟩ :=
        left.served before depth fd during ⟨by rw [List.append_nil], unreturned⟩
      refine ⟨⟨waiting, serving.rest⟩, ?_⟩
      intro ran' later same
      obtain ⟨rfl, -⟩ := List.cons.inj same
      generalize level : depth = depth' at step
      cases step with
      | «return» l ran' pending =>
          subst level
          obtain ⟨rfl, rfl, -⟩ := serving.of_return rfl
          have rest := serving.rest
          rw [List.append_nil] at rest
          exact ⟨rest, serving.count⟩

theorem Trace.available_after_fire
    (trace : Trace ⟨.empty kind, []⟩ history a)
    {depth id ran : Nat} {fd : Int} {before during : List (Event κ)}
    (fire : Fire history depth fd before during [.returned depth ran])
    (started : id ∈ starts depth during)
    (uncancelled : id ∉ cancellations history) :
    ∃ callback rest, ⟨id, fd, callback⟩ ∈ live history ∧
      a.loop.take? id = some (callback, rest) := by
  obtain ⟨turns, -⟩ := trace.turns_of_fire fire
  obtain ⟨callback, member⟩ :=
    mem_liveFor_iff.mp (turns.subset (starts_subset_turns depth during started))
  obtain ⟨recorded, unreturned⟩ := fire
  have live : ⟨id, fd, callback⟩ ∈ live history := by
    refine mem_live_iff.mpr ⟨?_, uncancelled⟩
    rw [recorded, registered, List.filterMap_append]
    exact List.mem_append_left _ (mem_live_iff.mp member).1
  have idle : ¬ Running history id := by
    have whole := trace.kept
    rw [← List.cons_append, ← List.append_assoc] at recorded
    rw [recorded] at trace
    obtain ⟨middle, next, left, step, last⟩ := trace.split
    obtain ⟨above, waiting, ran', below, serving⟩ :=
      left.served before depth fd during ⟨by rw [List.append_nil], unreturned⟩
    rw [whole.running, last.eq_of_nil]
    generalize level : depth = depth' at step
    cases step with
    | «return» l ran pending =>
        obtain ⟨-, -, rfl⟩ := serving.of_return level.symm
        exact serving.fresh id started
  obtain ⟨rest, held⟩ := trace.kept.take?_eq_some live idle
  exact ⟨callback, rest, live, held⟩

/-- Whatever its users and its callbacks do, a loop is orderly. -/
theorem Trace.orderly (trace : Trace ⟨.empty kind, []⟩ history a) : Orderly history a.loop where
  turns := by
    intro depth fd before during after fire
    obtain ⟨turns, complete⟩ := trace.turns_of_fire fire
    rw [fire.recorded] at trace
    obtain ⟨middle, next, left, -, -⟩ := trace.split
    exact ⟨left.kept.nodup_liveFor fd, turns, complete⟩
  starts := by
    intro before depth id started after recorded
    rw [recorded] at trace
    obtain ⟨middle, next, left, step, -⟩ := trace.split
    exact left.kept.started_iff step
  ended := by
    intro before id after recorded depth callback member
    obtain ⟨between, later, rfl⟩ := List.append_of_mem member
    rw [← List.cons_append, ← List.append_assoc] at recorded
    rw [recorded] at trace
    obtain ⟨middle, next, left, step, -⟩ := trace.split
    obtain ⟨fd, live⟩ := (left.kept.started_iff step).2 callback rfl
    refine (mem_live_iff.mp live).2 ?_
    rw [cancellations, List.filterMap_append]
    exact List.mem_append_right _ List.mem_cons_self
  available := by
    intro depth fd before during ran fire id started uncancelled
    exact trace.available_after_fire fire started uncancelled
  registrations := trace.kept.registrations_eq

end Runs

end MarkerWatch.ReadyLoop
