import Mathlib.Data.List.Nodup
import MarkerWatch.Loop.Ready
import MarkerWatch.Proofs.Assoc

/-!
# The tables of a loop

What each call on a loop does to its tables.  A loop gives out numbers in their order, so that the
registrations it holds have distinct numbers, the oldest first.
-/

namespace MarkerWatch.ReadyLoop

variable {κ : Type}

/-! ## Calls -/

theorem kind_cancel (l : ReadyLoop κ) (id : Nat) : (l.cancel id).kind = l.kind := by
  rw [cancel]
  split <;> rfl

theorem lastId_cancel (l : ReadyLoop κ) (id : Nat) : (l.cancel id).lastId = l.lastId := by
  rw [cancel]
  split <;> rfl

/-- A registration that is cancelled is no longer due, wherever its callback is. -/
theorem fds_cancel (l : ReadyLoop κ) (id : Nat) :
    (l.cancel id).fds = Assoc.erase l.fds id := by
  rw [cancel]
  split <;> rfl

/-- The callback of a registration that is cancelled is dropped if the loop holds it, and no other
one is. -/
theorem get?_callbacks_cancel (l : ReadyLoop κ) (id other : Nat) :
    Assoc.get? (l.cancel id).callbacks other =
      if id = other then none else Assoc.get? l.callbacks other := by
  rw [cancel]
  split
  · exact Assoc.get?_erase _ _ _
  · rename_i absent
    split
    · rename_i same
      rw [← same]
      simpa [Assoc.has] using absent
    · rfl

theorem kind_finish (l : ReadyLoop κ) (id : Nat) (callback : κ) :
    (l.finish id callback).kind = l.kind := by
  rw [finish]
  split <;> rfl

theorem lastId_finish (l : ReadyLoop κ) (id : Nat) (callback : κ) :
    (l.finish id callback).lastId = l.lastId := by
  rw [finish]
  split <;> rfl

/-- The end of a callback leaves alone what is registered. -/
theorem fds_finish (l : ReadyLoop κ) (id : Nat) (callback : κ) :
    (l.finish id callback).fds = l.fds := by
  rw [finish]
  split <;> rfl

/-- A callback is taken from where the loop keeps it. -/
theorem take?_eq_some_iff
    {l rest : ReadyLoop κ} {id : Nat} {callback : κ} :
    l.take? id = some (callback, rest) ↔
      Assoc.get? l.callbacks id = some callback ∧
        rest = { l with callbacks := Assoc.erase l.callbacks id } := by
  rw [take?, Option.map_eq_some_iff]
  constructor
  · rintro ⟨found, present, equal⟩
    obtain ⟨rfl, rfl⟩ := Prod.mk.inj equal
    exact ⟨present, rfl⟩
  · rintro ⟨present, rfl⟩
    exact ⟨callback, present, rfl⟩

/-! ## Numbers -/

/-- The numbers of the registrations are distinct, and later ones will be greater. -/
structure Numbered (l : ReadyLoop κ) : Prop where
  distinct : (Assoc.keys l.fds).Nodup
  issued : ∀ id ∈ Assoc.keys l.fds, id ≤ l.lastId

/-- A loop without registrations is numbered. -/
theorem numbered_empty (kind : LoopKind) : (empty kind : ReadyLoop κ).Numbered where
  distinct := List.nodup_nil
  issued := by
    intro id member
    cases member

/-- The next number is one that no registration has. -/
theorem Numbered.get?_fresh
    {l : ReadyLoop κ}
    (numbered : l.Numbered) :
    Assoc.get? l.fds (l.lastId + 1) = none := by
  rw [Assoc.get?_eq_none_iff]
  intro member
  exact absurd (numbered.issued _ member) (by omega)

/-- A registration gets a number that is greater than those before it. -/
theorem Numbered.register
    {l : ReadyLoop κ}
    (numbered : l.Numbered) (fd : Int) (callback : κ) :
    (l.register fd callback).2.Numbered := by
  have keys : Assoc.keys (l.register fd callback).2.fds =
      Assoc.keys l.fds ++ [l.lastId + 1] := by
    change Assoc.keys (Assoc.set l.fds (l.lastId + 1) fd) = _
    rw [Assoc.keys_set, Assoc.has, numbered.get?_fresh]
    rfl
  constructor
  · rw [keys, List.nodup_append]
    refine ⟨numbered.distinct, List.nodup_singleton _, ?_⟩
    intro id old id' new
    have bound := numbered.issued id old
    rw [List.mem_singleton.mp new]
    omega
  · intro id member
    rw [keys, List.mem_append, List.mem_singleton] at member
    change id ≤ l.lastId + 1
    rcases member with old | rfl
    · exact Nat.le_succ_of_le (numbered.issued id old)
    · exact Nat.le_refl _

/-- The numbers that are left stay distinct. -/
theorem Numbered.cancel
    {l : ReadyLoop κ}
    (numbered : l.Numbered) (id : Nat) :
    (l.cancel id).Numbered := by
  constructor
  · rw [fds_cancel, Assoc.keys_erase]
    exact numbered.distinct.filter _
  · rw [fds_cancel, Assoc.keys_erase, lastId_cancel]
    intro other member
    exact numbered.issued other (List.mem_filter.mp member).1

theorem Numbered.finish
    {l : ReadyLoop κ}
    (numbered : l.Numbered) (id : Nat) (callback : κ) :
    (l.finish id callback).Numbered := by
  rw [ReadyLoop.finish]
  split <;> exact ⟨numbered.distinct, numbered.issued⟩

/-- The registrations that are due are those with the descriptor that became ready. -/
theorem mem_due_iff
    {l : ReadyLoop κ}
    (numbered : l.Numbered) (fd : Int) (id : Nat) :
    id ∈ l.due fd ↔ Assoc.get? l.fds id = some fd := by
  rw [due, List.mem_map]
  constructor
  · rintro ⟨⟨id', fd'⟩, member, rfl⟩
    rw [List.mem_filter, decide_eq_true_eq] at member
    obtain ⟨member, rfl⟩ := member
    exact Assoc.get?_of_mem numbered.distinct member
  · intro found
    exact ⟨(id, fd), List.mem_filter.mpr ⟨Assoc.mem_of_get? found, by simp⟩, rfl⟩

/-- No registration is due twice. -/
theorem nodup_due
    {l : ReadyLoop κ}
    (numbered : l.Numbered) (fd : Int) :
    (l.due fd).Nodup :=
  numbered.distinct.sublist (List.filter_sublist.map _)

end MarkerWatch.ReadyLoop
