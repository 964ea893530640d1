import MarkerWatch.Proofs.Loop.Ready

/-!
# Runs of a loop whose callbacks use it

A callback may do with a loop whatever its users may: register and cancel, itself included, and fire
the loop again.  So the state of a loop is not all there is to a run; what was begun and has not
ended belongs to it, the innermost first.

Each step of a run is recorded.  What a loop owes to its users is said of the record: who was
registered and not cancelled when a fire began, which registrations the fire came to, and whose
callback was running by then.
-/

namespace MarkerWatch

/-- A callback with the descriptor it is for and the number it is known by. -/
structure Registration (κ : Type) where
  id : Nat
  fd : Int
  callback : κ

namespace ReadyLoop

/-- Something that was begun with a loop and has not ended. -/
inductive Pending (κ : Type)
  /-- The loop is fired: the registrations to come to, and how many callbacks were run. -/
  | firing (waiting : List Nat) (ran : Nat)
  /-- A callback runs that was taken out of the loop. -/
  | running (id : Nat) (callback : κ)
  /-- A callback runs that is registered afterwards. -/
  | readying (fd : Int) (callback : κ)

/-- A loop in use. -/
structure Activity (κ : Type) where
  loop : ReadyLoop κ
  pending : List (Pending κ)

/-- What is recorded of a step.  A fire is known by the number of those that it is within. -/
inductive Event (κ : Type)
  | readied (fd : Int) (callback : κ)
  | registered (registration : Registration κ)
  | cancelled (id : Nat)
  | fired (depth : Nat) (fd : Int)
  /-- A fire comes to a registration, and starts its callback or passes over it. -/
  | turned (depth id : Nat) (started : Option κ)
  | ended (id : Nat)
  | returned (depth ran : Nat)

variable {κ : Type}

/-- The number of fires that have not returned. -/
def depth : List (Pending κ) → Nat
  | [] => 0
  | .firing _ _ :: below => depth below + 1
  | .running _ _ :: below => depth below
  | .readying _ _ :: below => depth below

/-- What may happen to a loop in use.  Its users may register, cancel what was registered, and fire
it at any time, whichever callbacks are running. -/
inductive Step : Activity κ → Event κ → Activity κ → Prop
  | ready {l : ReadyLoop κ} (eager : l.kind = .eager) (pending : List (Pending κ)) (fd : Int)
      (callback : κ) :
      Step ⟨l, pending⟩ (.readied fd callback) ⟨l, .readying fd callback :: pending⟩
  | registerReadied (l : ReadyLoop κ) (pending : List (Pending κ)) (fd : Int) (callback : κ) :
      Step ⟨l, .readying fd callback :: pending⟩
        (.registered ⟨(l.register fd callback).1, fd, callback⟩)
        ⟨(l.register fd callback).2, pending⟩
  | register {l : ReadyLoop κ} (manual : l.kind = .manual) (pending : List (Pending κ)) (fd : Int)
      (callback : κ) :
      Step ⟨l, pending⟩ (.registered ⟨(l.register fd callback).1, fd, callback⟩)
        ⟨(l.register fd callback).2, pending⟩
  | cancel {l : ReadyLoop κ} {id : Nat} (positive : 0 < id) (issued : id ≤ l.lastId)
      (pending : List (Pending κ)) :
      Step ⟨l, pending⟩ (.cancelled id) ⟨l.cancel id, pending⟩
  | fire (l : ReadyLoop κ) (pending : List (Pending κ)) (fd : Int) :
      Step ⟨l, pending⟩ (.fired (depth pending) fd) ⟨l, .firing (l.due fd) 0 :: pending⟩
  | start {l taken : ReadyLoop κ} {id : Nat} {callback : κ}
      (held : l.take? id = some (callback, taken)) (waiting : List Nat) (ran : Nat)
      (pending : List (Pending κ)) :
      Step ⟨l, .firing (id :: waiting) ran :: pending⟩ (.turned (depth pending) id (some callback))
        ⟨taken, .running id callback :: .firing waiting (ran + 1) :: pending⟩
  | skip {l : ReadyLoop κ} {id : Nat} (absent : l.take? id = none) (waiting : List Nat) (ran : Nat)
      (pending : List (Pending κ)) :
      Step ⟨l, .firing (id :: waiting) ran :: pending⟩ (.turned (depth pending) id none)
        ⟨l, .firing waiting ran :: pending⟩
  | finish (l : ReadyLoop κ) (id : Nat) (callback : κ) (pending : List (Pending κ)) :
      Step ⟨l, .running id callback :: pending⟩ (.ended id) ⟨l.finish id callback, pending⟩
  | return (l : ReadyLoop κ) (ran : Nat) (pending : List (Pending κ)) :
      Step ⟨l, .firing [] ran :: pending⟩ (.returned (depth pending) ran) ⟨l, pending⟩

/-- Steps one after another, with their record. -/
inductive Trace (first : Activity κ) : List (Event κ) → Activity κ → Prop
  | nil : Trace first [] first
  | snoc {middle last : Activity κ} {history : List (Event κ)} {event : Event κ}
      (trace : Trace first history middle) (step : Step middle event last) :
      Trace first (history ++ [event]) last

theorem Trace.single
    {first last : Activity κ} {event : Event κ}
    (step : Step first event last) :
    Trace first [event] last :=
  .snoc .nil step

theorem Trace.eq_of_nil
    {first last : Activity κ}
    (trace : Trace first [] last) :
    last = first := by
  generalize empty : ([] : List (Event κ)) = history at trace
  cases trace with
  | nil => rfl
  | snoc => simp at empty

theorem Trace.append
    {first middle last : Activity κ} {earlier later : List (Event κ)}
    (left : Trace first earlier middle)
    (right : Trace middle later last) :
    Trace first (earlier ++ later) last := by
  induction right with
  | nil => rwa [List.append_nil]
  | snoc trace step ih =>
      rw [← List.append_assoc]
      exact .snoc ih step

/-- An element of a list with another one at its end is the last, or one of before. -/
theorem concat_eq_append_cons
    {α : Type} {list before after : List α} {last one : α}
    (equal : list ++ [last] = before ++ one :: after) :
    (list = before ∧ last = one ∧ after = []) ∨
      ∃ between, after = between ++ [last] ∧ list = before ++ one :: between := by
  rcases List.eq_nil_or_concat after with rfl | ⟨between, latest, rfl⟩
  · obtain ⟨rfl, same⟩ := List.append_inj' equal rfl
    exact .inl ⟨rfl, List.singleton_inj.mp same, rfl⟩
  · rw [List.concat_eq_append] at equal ⊢
    rw [← List.cons_append, ← List.append_assoc] at equal
    obtain ⟨rfl, same⟩ := List.append_inj' equal rfl
    obtain rfl := List.singleton_inj.mp same
    exact .inr ⟨between, rfl, rfl⟩

/-- Each recorded event is that of a step between two parts of the trace. -/
theorem Trace.split
    {first last : Activity κ} {before after : List (Event κ)} {event : Event κ}
    (trace : Trace first (before ++ event :: after) last) :
    ∃ middle next, Trace first before middle ∧ Step middle event next ∧ Trace next after last := by
  generalize whole : before ++ event :: after = history at trace
  induction trace generalizing after with
  | nil => simp at whole
  | @snoc middle last history final trace step ih =>
      rcases concat_eq_append_cons whole.symm with ⟨rfl, rfl, rfl⟩ | ⟨between, rfl, earlier⟩
      · exact ⟨middle, last, trace, step, .nil⟩
      · obtain ⟨middle, next, left, turn, right⟩ := ih earlier.symm
        exact ⟨middle, next, left, turn, .snoc right step⟩

theorem Step.kind
    {a next : Activity κ} {event : Event κ}
    (step : Step a event next) :
    next.loop.kind = a.loop.kind := by
  cases step with
  | ready | registerReadied | register | fire | skip | «return» => rfl
  | cancel => exact kind_cancel _ _
  | finish => exact kind_finish _ _ _
  | start held =>
      obtain ⟨-, rfl⟩ := take?_eq_some_iff.mp held
      rfl

theorem Trace.kind
    {first last : Activity κ} {history : List (Event κ)}
    (trace : Trace first history last) :
    last.loop.kind = first.loop.kind := by
  induction trace with
  | nil => rfl
  | snoc trace step ih => rw [step.kind, ih]

/-! ## Histories -/

/-- The registration that an event records. -/
def Event.registration? : Event κ → Option (Registration κ)
  | .registered registration => some registration
  | _ => none

/-- The number that was cancelled in an event. -/
def Event.cancelled? : Event κ → Option Nat
  | .cancelled id => some id
  | _ => none

/-- The number that a fire of some depth comes to in an event. -/
def Event.turnOf? (depth : Nat) : Event κ → Option Nat
  | .turned depth' id _ => if depth' = depth then some id else none
  | _ => none

/-- The number whose callback is started in an event by a fire of some depth. -/
def Event.startOf? (depth : Nat) : Event κ → Option Nat
  | .turned depth' id (some _) => if depth' = depth then some id else none
  | _ => none

/-- All registrations, in their order. -/
def registered (history : List (Event κ)) : List (Registration κ) :=
  history.filterMap Event.registration?

/-- The numbers that were cancelled. -/
def cancellations (history : List (Event κ)) : List Nat :=
  history.filterMap Event.cancelled?

/-- The registrations that were not cancelled. -/
def live (history : List (Event κ)) : List (Registration κ) :=
  (registered history).filter (·.id ∉ cancellations history)

/-- The numbers of those for a descriptor. -/
def liveFor (history : List (Event κ)) (fd : Int) : List Nat :=
  ((live history).filter (·.fd = fd)).map (·.id)

/-- The numbers that a fire has come to. -/
def turns (depth : Nat) (history : List (Event κ)) : List Nat :=
  history.filterMap (Event.turnOf? depth)

/-- The numbers whose callbacks a fire has started. -/
def starts (depth : Nat) (history : List (Event κ)) : List Nat :=
  history.filterMap (Event.startOf? depth)

/-- The callback of a number was started and has not ended since. -/
def Running (history : List (Event κ)) (id : Nat) : Prop :=
  ∃ before depth callback after,
    history = before ++ .turned depth id (some callback) :: after ∧ .ended id ∉ after

/-- A fire that a history tells of: what was recorded before it, while it was under way, and since
then.  It has returned if the last part begins with that. -/
structure Fire (history : List (Event κ)) (depth : Nat) (fd : Int)
    (before during after : List (Event κ)) : Prop where
  recorded : history = before ++ .fired depth fd :: (during ++ after)
  unreturned : ∀ ran, .returned depth ran ∉ during

/-- Events in which no fire returns. -/
def Unreturning (events : List (Event κ)) : Prop :=
  ∀ depth ran, .returned depth ran ∉ events

theorem unreturning_nil : Unreturning ([] : List (Event κ)) :=
  fun _ _ => List.not_mem_nil

theorem Unreturning.append
    {earlier later : List (Event κ)}
    (left : Unreturning earlier)
    (right : Unreturning later) :
    Unreturning (earlier ++ later) := by
  intro depth ran member
  rcases List.mem_append.mp member with before | after
  · exact left depth ran before
  · exact right depth ran after

/-! ## Histories one event later -/

variable (history : List (Event κ)) (event : Event κ)

theorem registered_concat :
    registered (history ++ [event]) = registered history ++ event.registration?.toList := by
  rw [registered, List.filterMap_append]
  cases event <;> rfl

theorem cancellations_concat :
    cancellations (history ++ [event]) = cancellations history ++ event.cancelled?.toList := by
  rw [cancellations, List.filterMap_append]
  cases event <;> rfl

variable {event}

theorem registered_concat_of_none
    (unregistered : event.registration? = none) :
    registered (history ++ [event]) = registered history := by
  rw [registered_concat, unregistered, Option.toList_none, List.append_nil]

theorem cancellations_concat_of_none
    (uncancelled : event.cancelled? = none) :
    cancellations (history ++ [event]) = cancellations history := by
  rw [cancellations_concat, uncancelled, Option.toList_none, List.append_nil]

theorem live_concat_of_none
    (unregistered : event.registration? = none)
    (uncancelled : event.cancelled? = none) :
    live (history ++ [event]) = live history := by
  rw [live, registered_concat_of_none history unregistered,
    cancellations_concat_of_none history uncancelled, live]

variable (event)

theorem turns_concat (depth : Nat) :
    turns depth (history ++ [event]) = turns depth history ++ (event.turnOf? depth).toList := by
  rw [turns, List.filterMap_append, List.filterMap_cons]
  cases event.turnOf? depth <;> rfl

theorem starts_concat (depth : Nat) :
    starts depth (history ++ [event]) = starts depth history ++ (event.startOf? depth).toList := by
  rw [starts, List.filterMap_append, List.filterMap_cons]
  cases event.startOf? depth <;> rfl

/-- A callback runs since its start, or as it did before unless it has ended. -/
theorem running_concat (id : Nat) :
    Running (history ++ [event]) id ↔
      (∃ depth callback, event = .turned depth id (some callback)) ∨
        Running history id ∧ event ≠ .ended id := by
  constructor
  · rintro ⟨before, depth, callback, after, whole, unended⟩
    rcases concat_eq_append_cons whole with ⟨-, latest, -⟩ | ⟨between, rfl, earlier⟩
    · exact .inl ⟨depth, callback, latest⟩
    · rw [List.mem_append, List.mem_singleton, not_or] at unended
      exact .inr ⟨⟨before, depth, callback, between, earlier, unended.1⟩, Ne.symm unended.2⟩
  · rintro (⟨depth, callback, rfl⟩ | ⟨⟨before, depth, callback, after, rfl, unended⟩, other⟩)
    · exact ⟨history, depth, callback, [], rfl, List.not_mem_nil⟩
    · refine ⟨before, depth, callback, after ++ [event], by simp, ?_⟩
      rw [List.mem_append, List.mem_singleton, not_or]
      exact ⟨unended, Ne.symm other⟩

theorem not_running_nil (id : Nat) : ¬ Running ([] : List (Event κ)) id := by
  rintro ⟨before, depth, callback, after, whole, -⟩
  simp at whole

/-- A fire is that of the latest event, or it is one of before. -/
theorem Fire.of_concat
    {depth : Nat} {fd : Int} {before during : List (Event κ)}
    (fire : Fire (history ++ [event]) depth fd before during []) :
    (history = before ∧ event = .fired depth fd ∧ during = []) ∨
      ∃ earlier, during = earlier ++ [event] ∧ Fire history depth fd before earlier [] ∧
        ∀ ran, event ≠ .returned depth ran := by
  obtain ⟨whole, unreturned⟩ := fire
  rw [List.append_nil] at whole
  rcases concat_eq_append_cons whole with latest | ⟨earlier, rfl, equal⟩
  · exact .inl latest
  · refine .inr ⟨earlier, rfl, ⟨by rw [equal, List.append_nil], ?_⟩, ?_⟩
    · intro ran member
      exact unreturned ran (List.mem_append_left _ member)
    · rintro ran rfl
      exact unreturned ran (List.mem_append_right _ (List.mem_singleton_self _))

end ReadyLoop

end MarkerWatch
