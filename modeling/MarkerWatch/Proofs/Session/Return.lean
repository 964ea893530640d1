import MarkerWatch.Proofs.Session.Halting
import MarkerWatch.Proofs.Session.Withdrawal

/-!
# Dispatches come back

A dispatch that is under way is a task of its own, below all that was begun after it and above all
that waits for it.  It either goes on, as a task for the same descriptor with no fewer records, or
it is answered and leaves those that wait.

It cannot go on for ever.  Once nobody decides to act any more, every step leaves less than there
was before, whatever has been begun until then.
-/

namespace MarkerWatch.Machine

/-- A dispatch further on: its descriptor is read again, or the records of a buffer are taken up. -/
inductive Continues (d : Dispatch) : Task → Prop
  | read {count : Nat} (le : d.count ≤ count) : Continues d (.read { d with count })
  | records {count : Nat} (le : d.count ≤ count) (rest : List (Except RecordFault Record)) :
      Continues d (.records { d with count } rest)

/-- How a dispatch is answered: with a number of records, or with a fault. -/
inductive Returned (d : Dispatch) : Answer → Prop
  | count {count : Nat} (le : d.count ≤ count) : Returned d (.count count)
  | fault (fault : Fault) : Returned d (.fault fault)

/-- A dispatch under way: all above its task was begun after it. -/
def UnderWay (d : Dispatch) (below : List Task) (m : Machine) : Prop :=
  ∃ above task, m.tasks = above ++ task :: below ∧ Continues d task

variable {d : Dispatch} {below : List Task}

theorem UnderWay.ne_below
    {m : Machine}
    (underWay : UnderWay d below m) :
    m.tasks ≠ below := by
  obtain ⟨above, task, tasks, -⟩ := underWay
  intro same
  have lengths := congrArg List.length (same.symm.trans tasks)
  rw [List.length_append, List.length_cons] at lengths
  omega

/-- The task of a dispatch is carried out: it goes on, or it is answered. -/
theorem Continues.execute
    {m : Machine} {task : Task}
    (continues : Continues d task)
    (tasks : m.tasks = below) :
    UnderWay d below (m.execute task) ∨
      (m.execute task).tasks = below ∧ Returned d (m.execute task).answer := by
  subst tasks
  cases continues with
  | @read count le =>
      show UnderWay d m.tasks (m.read _) ∨ (m.read _).tasks = m.tasks ∧ Returned d (m.read _).answer
      rw [Machine.read]
      split
      · exact Or.inr ⟨rfl, .count le⟩
      · split
        · exact Or.inr ⟨rfl, .count le⟩
        · exact Or.inl ⟨[], _, rfl, .records le _⟩
        · split
          · exact Or.inr ⟨rfl, .count le⟩
          · split
            · exact Or.inl ⟨[], _, rfl, .read le⟩
            · exact Or.inr ⟨rfl, .fault _⟩
  | @records count le rest =>
      cases rest with
      | nil => exact Or.inl ⟨[], _, rfl, .read le⟩
      | cons item rest =>
          cases item with
          | error fault => exact Or.inr ⟨rfl, .fault _⟩
          | ok record => exact Or.inl ⟨[.tell _], _, rfl, .records (Nat.le_succ_of_le le) rest⟩

/-- A step of anything begun after a dispatch, or of the dispatch itself. -/
theorem UnderWay.step
    {m next : Machine}
    (underWay : UnderWay d below m)
    (step : Step m next) :
    UnderWay d below next ∨ next.tasks = below ∧ Returned d next.answer := by
  obtain ⟨above, task, tasks, continues⟩ := underWay
  cases above with
  | nil =>
      have noChoice (label : String) (data : Payload) (rest : List (Subscriber × Payload)) :
          task ≠ .tell ((.labelled label, data) :: rest) := by
        rintro rfl
        cases continues
      rw [step.eq_execute tasks noChoice]
      exact continues.execute rfl
  | cons first above =>
      left
      obtain ⟨later, waits⟩ := step.tasks_of_deeper tasks
      exact ⟨later, task, waits, continues⟩

/--
Let a dispatch be next, on a descriptor that is the engine of a registry or is not, and let
subscribers perform the scripts that they are bound to, or decide for themselves what to do.  If
finitely many of them ever decide to act while the dispatch is under way, and each of those does so
a finite number of times, then the dispatch is under way for finitely many steps only, and so makes
finitely many reads and notifications.  After them it is answered, and what waited for it is next.

Where all keep to their scripts, which they perform on so many notifications only, whatever is to be
done comes to an end.
-/
theorem dispatch_comes_back
    {states : Nat → Machine}
    (begun : (states 0).tasks = .read d :: below)
    (steps : ∀ n, (states n).tasks ≠ below → Step (states n) (states (n + 1)))
    {callers : Finset String}
    (few : ∀ n label, (states n).tasks ≠ below →
      Acts label (states n) (states (n + 1)) → label ∈ callers)
    (bounded : ∀ label ∈ callers,
      {n | (states n).tasks ≠ below ∧ Acts label (states n) (states (n + 1))}.Finite) :
    (∃ n,
      (∀ earlier < n, UnderWay d below (states earlier)) ∧
        (states n).tasks = below ∧ Returned d (states n).answer) ∧
      ∃ count last, (states 0).run count = some last := by
  refine ⟨?_, exists_run (states 0)⟩
  have underWay :
      ∀ n, (∀ earlier ≤ n, (states earlier).tasks ≠ below) →
        UnderWay d below (states n) := by
    intro n
    induction n with
    | zero =>
        intro _
        exact ⟨[], _, begun, .read (Nat.le_refl d.count)⟩
    | succ n ih =>
        intro away
        have before := ih fun earlier le => away earlier (Nat.le_succ_of_le le)
        rcases before.step (steps n (away n (Nat.le_succ n))) with onward | ⟨back, -⟩
        · exact onward
        · exact absurd back (away (n + 1) (Nat.le_refl _))
  have comesBack : ∃ n, (states n).tasks = below := by
    by_contra never
    have away (n : Nat) : (states n).tasks ≠ below := fun back => never ⟨n, back⟩
    have finite : (⋃ label ∈ callers,
        {n | (states n).tasks ≠ below ∧ Acts label (states n) (states (n + 1))}).Finite :=
      callers.finite_toSet.biUnion bounded
    obtain ⟨last, bound⟩ := finite.bddAbove
    have calm (n : Nat) : Calm (states (last + 1 + n)) (states (last + 1 + (n + 1))) := by
      rcases (steps _ (away (last + 1 + n))).calm_or_acts with calm | ⟨label, acts⟩
      · exact calm
      · have late := bound (Set.mem_biUnion (few _ label (away _) acts) ⟨away _, acts⟩)
        omega
    have wf : IsWellFounded Machine fun next m => Calm m next := ⟨calm_wf⟩
    obtain ⟨n, stuck⟩ :=
      WellFounded.not_rel_apply_succ (r := fun next m => Calm m next) fun n =>
        states (last + 1 + n)
    exact stuck (calm n)
  classical
  have away : ∀ earlier < Nat.find comesBack, (states earlier).tasks ≠ below :=
    fun earlier less => Nat.find_min comesBack less
  have back := Nat.find_spec comesBack
  refine ⟨Nat.find comesBack, ?_, back, ?_⟩
  · intro earlier less
    exact underWay earlier fun other le => away other (Nat.lt_of_le_of_lt le less)
  · cases found : Nat.find comesBack with
    | zero =>
        rw [found, begun] at back
        exact absurd back (List.cons_ne_self _ _)
    | succ n =>
        rw [found] at away back
        have before := underWay n fun other le => away other (Nat.lt_succ_of_le le)
        rcases before.step (steps n (away n (Nat.lt_succ_self n))) with onward | ⟨-, returned⟩
        · exact absurd back onward.ne_below
        · exact returned

/-! ## A subscriber that refills its own queue -/

/-- A subscriber that publishes its own name on its first two notifications, and dispatches. -/
def refilling : Assoc String Behaviour :=
  [("s", ⟨[.call (.registry 0 (.publish "m")), .dispatch 0 (.engine 0)], 2⟩)]

/-- A machine in which that subscriber has a subscription to a name that was published. -/
def refilled : Machine :=
  [subscribing "s", .registry 0 (.publish "m")].foldl called (marked (.increasing 10) refilling)

/-- That machine so many steps after its engine was about to be dispatched. -/
def refillingAfter (n : Nat) : Machine :=
  onward^[n] (start refilled.session (.dispatch 0 (.engine 0))).onward

theorem calm_refilling
    {n : Nat}
    (busy : (refillingAfter n).tasks ≠ []) :
    Calm (refillingAfter n) (refillingAfter (n + 1)) := by
  rw [refillingAfter, refillingAfter, Function.iterate_succ_apply']
  exact .scripted (step_onward busy)

/-- The dispatch comes back although it is refilled, and begun again, while it is under way. -/
theorem dispatch_comes_back_refilled :
    ∃ n, (refillingAfter n).tasks = [] ∧
      Returned ⟨0, ⟨10⟩, true, 0⟩ (refillingAfter n).answer := by
  obtain ⟨⟨n, -, back, returned⟩, -⟩ :=
    @dispatch_comes_back ⟨0, ⟨10⟩, true, 0⟩ [] refillingAfter rfl
      (fun n busy => (calm_refilling busy).step)
      ∅
      (fun n label busy acts => absurd (calm_refilling busy) acts.1)
      (fun label nobody => absurd nobody (Finset.notMem_empty label))
  exact ⟨n, back, returned⟩

example :
    (refilled.session.perform 60 (.dispatch 0 (.engine 0))).map (·.2.log.map LogEntry.isTold) =
      some [true, false, true, false, true, false, false] := by
  rfl

end MarkerWatch.Machine
