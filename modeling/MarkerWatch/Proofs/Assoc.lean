import Mathlib.Algebra.GroupWithZero.Nat
import Mathlib.Data.List.Nodup
import MarkerWatch.Assoc

/-!
# Laws of finite maps

Setting a key twice keeps the second value, and setting a key to the value it already has changes
nothing.  A key that was not there is set at the end of the list, so erasing it again gives back the
map from before, its order included.

A map whose keys are distinct holds a pair exactly when it maps its first part to its second.  In
such a map the values may be used to drop pairs.

A map of things that weigh something has a weight in total, which changes by no more than what is
set, changed or erased.
-/

namespace MarkerWatch.Assoc

variable {α β : Type} [DecidableEq α]

omit [DecidableEq α] in
@[simp]
theorem keys_cons (pair : α × β) (rest : Assoc α β) :
    keys (pair :: rest) = pair.1 :: keys rest :=
  rfl

/-- Of two values that are set at a key, the second stays. -/
@[simp]
theorem set_set (map : Assoc α β) (key : α) (first second : β) :
    set (set map key first) key second = set map key second := by
  induction map with
  | nil => simp [set]
  | cons pair rest ih =>
      by_cases same : pair.1 = key <;> simp [set, same, ih]

/-- Setting a key to the value that it has changes nothing. -/
theorem set_eq_self
    {map : Assoc α β} {key : α} {value : β}
    (found : get? map key = some value) :
    set map key value = map := by
  induction map with
  | nil => simp at found
  | cons pair rest ih =>
      by_cases same : pair.1 = key
      · have valueEq : pair.2 = value := by simpa [get?, same] using found
        simp [set, same, ← valueEq]
        rw [← same]
      · have inRest : get? rest key = some value := by simpa [get?, same] using found
        simp [set, same, ih inRest]

/-- A new key is set at the end. -/
theorem set_of_absent
    {map : Assoc α β} {key : α}
    (absent : get? map key = none) (value : β) :
    set map key value = map ++ [(key, value)] := by
  induction map with
  | nil => simp [set]
  | cons pair rest ih =>
      by_cases same : pair.1 = key
      · simp [get?, same] at absent
      · have absentInRest : get? rest key = none := by simpa [get?, same] using absent
        simp [set, same, ih absentInRest]

/-- Erasing a key forgets what was set there. -/
@[simp]
theorem erase_set (map : Assoc α β) (key : α) (value : β) :
    erase (set map key value) key = erase map key := by
  induction map with
  | nil => simp [set, erase]
  | cons pair rest ih =>
      by_cases same : pair.1 = key <;> simp [set, erase, same, ih]

/-- Erasing a key leaves the pairs of the other keys, in their order. -/
theorem erase_eq_filter (map : Assoc α β) (key : α) :
    erase map key = map.filter (·.1 ≠ key) := by
  induction map with
  | nil => rfl
  | cons pair rest ih =>
      by_cases same : pair.1 = key <;> simp [erase, same, ih]

/-- Setting a key that is there leaves every other pair in its place. -/
theorem set_eq_map
    {map : Assoc α β} {key : α}
    (distinct : (keys map).Nodup)
    (present : key ∈ keys map) (value : β) :
    set map key value = map.map fun pair => if pair.1 = key then (key, value) else pair := by
  induction map with
  | nil => cases present
  | cons pair rest ih =>
      obtain ⟨other, old⟩ := pair
      rw [keys_cons, List.nodup_cons] at distinct
      obtain ⟨absent, distinct⟩ := distinct
      rw [set, List.map_cons]
      by_cases same : other = key
      · subst same
        have untouched : rest.map (fun pair => if pair.1 = other then (other, value) else pair) =
            rest := by
          refine (List.map_congr_left fun pair member => if_neg ?_).trans (List.map_id rest)
          rintro rfl
          exact absent (List.mem_map.mpr ⟨pair, member, rfl⟩)
        rw [if_pos rfl, if_pos rfl, untouched]
      · rw [if_neg same, if_neg same, ih distinct]
        rcases List.mem_cons.mp present with here | later
        · exact absurd here.symm same
        · exact later

theorem erase_of_absent
    {map : Assoc α β} {key : α}
    (absent : get? map key = none) :
    erase map key = map := by
  induction map with
  | nil => rfl
  | cons pair rest ih =>
      by_cases same : pair.1 = key
      · simp [get?, same] at absent
      · have absentInRest : get? rest key = none := by simpa [get?, same] using absent
        simp [erase, same, ih absentInRest]

/-- What a key maps to stands in the list with it. -/
theorem mem_of_get?
    {map : Assoc α β} {key : α} {value : β}
    (found : get? map key = some value) :
    (key, value) ∈ map := by
  induction map with
  | nil => simp at found
  | cons pair rest ih =>
      by_cases same : pair.1 = key
      · have valueEq : pair.2 = value := by simpa [get?, same] using found
        rw [← same, ← valueEq]
        exact List.mem_cons_self
      · have inRest : get? rest key = some value := by simpa [get?, same] using found
        exact List.mem_cons_of_mem pair (ih inRest)

/-- A key maps to nothing exactly if it is none of the keys. -/
theorem get?_eq_none_iff (map : Assoc α β) (key : α) :
    get? map key = none ↔ key ∉ keys map := by
  induction map with
  | nil => simp [keys]
  | cons pair rest ih =>
      by_cases same : pair.1 = key
      · simp [get?, keys, same]
      · have different : key ≠ pair.1 := fun equal => same equal.symm
        simpa [get?, keys, same, different] using ih

theorem has_iff_mem_keys (map : Assoc α β) (key : α) :
    has map key = true ↔ key ∈ keys map := by
  rw [has, Option.isSome_iff_ne_none, ne_eq, get?_eq_none_iff, not_not]

/-- In a map with distinct keys, each pair of the list is what its key maps to. -/
theorem get?_of_mem
    {map : Assoc α β}
    (distinct : (keys map).Nodup)
    {key : α} {value : β}
    (member : (key, value) ∈ map) :
    get? map key = some value := by
  induction map with
  | nil => simp at member
  | cons pair rest ih =>
      rw [keys_cons, List.nodup_cons] at distinct
      rcases List.mem_cons.mp member with equal | inRest
      · subst pair
        simp [get?]
      · have different : pair.1 ≠ key := by
          intro same
          apply distinct.1
          rw [same]
          exact List.mem_map_of_mem inRest
        simpa [get?, different] using ih distinct.2 inRest

/-- A key that is set stays where it is, or is the last one if it was not there. -/
theorem keys_set (map : Assoc α β) (key : α) (value : β) :
    keys (set map key value) = if has map key then keys map else keys map ++ [key] := by
  induction map with
  | nil => simp [set, keys, has]
  | cons pair rest ih =>
      by_cases same : pair.1 = key
      · simp [set, has, get?, same]
      · have sameHas : has (pair :: rest) key = has rest key := by
          simp [has, get?, same]
        rw [sameHas, set, if_neg same, keys_cons, ih, keys_cons]
        split <;> rfl

theorem keys_erase (map : Assoc α β) (key : α) :
    keys (erase map key) = (keys map).filter (· ≠ key) := by
  rw [erase_eq_filter, keys, keys, List.filter_map]
  rfl

/-- Dropping pairs by their value drops the keys that map to such a value, and no others. -/
theorem get?_filter_value
    {map : Assoc α β}
    (distinct : (keys map).Nodup)
    (keep : β → Bool) (key : α) :
    get? (map.filter (keep ·.2)) key = (get? map key).filter keep := by
  induction map with
  | nil => rfl
  | cons pair rest ih =>
      rw [keys_cons, List.nodup_cons] at distinct
      have tail := ih distinct.2
      by_cases same : pair.1 = key
      · have absent : get? rest key = none := by
          rw [get?_eq_none_iff, ← same]
          exact distinct.1
        cases kept : keep pair.2 <;>
          simp [get?, kept, same, absent, tail, Option.filter]
      · cases kept : keep pair.2 <;> simp [get?, kept, same, tail]

/-! ## Weights -/

omit [DecidableEq α] in
/-- What the values of a map weigh together. -/
def total (weight : β → Nat) (map : Assoc α β) : Nat :=
  (map.map fun pair => weight pair.2).sum

variable (weight : β → Nat)

/-- Setting a key that is there changes the weight by what the new value weighs more than the
old. -/
theorem total_set_of_present
    {map : Assoc α β} {key : α} {old : β}
    (found : get? map key = some old) (new : β) :
    total weight (set map key new) + weight old = total weight map + weight new := by
  induction map with
  | nil => simp at found
  | cons pair rest ih =>
      by_cases same : pair.1 = key
      · have valueEq : pair.2 = old := by simpa [get?, same] using found
        simp [set, same, total, ← valueEq]
        omega
      · have inRest : get? rest key = some old := by simpa [get?, same] using found
        have tail := ih inRest
        simp only [set, same, if_false, total, List.map_cons, List.sum_cons] at tail ⊢
        omega

/-- Erasing a key adds no weight. -/
theorem total_erase_le (map : Assoc α β) (key : α) :
    total weight (erase map key) ≤ total weight map := by
  induction map with
  | nil => exact Nat.le_refl _
  | cons pair rest ih =>
      by_cases same : pair.1 = key
      · rw [erase, if_pos same]
        exact Nat.le_trans ih (Nat.le_add_left _ _)
      · rw [erase, if_neg same]
        exact Nat.add_le_add_left ih (weight pair.2)

/-- Changing the value of a key changes the weight by what the value weighs more than before. -/
theorem total_adjust
    {map : Assoc α β} {key : α} {old : β}
    (found : get? map key = some old) (change : β → β) :
    total weight (adjust map key change) + weight old = total weight map + weight (change old) := by
  induction map with
  | nil => simp at found
  | cons pair rest ih =>
      by_cases same : pair.1 = key
      · have valueEq : pair.2 = old := by simpa [get?, same] using found
        simp [adjust, same, total, ← valueEq]
        omega
      · have inRest : get? rest key = some old := by simpa [get?, same] using found
        have tail := ih inRest
        simp only [adjust, same, if_false, total, List.map_cons, List.sum_cons] at tail ⊢
        omega

/-- There is nothing to change at a key that maps to nothing. -/
theorem adjust_of_absent
    {map : Assoc α β} {key : α}
    (absent : get? map key = none) (change : β → β) :
    adjust map key change = map := by
  induction map with
  | nil => rfl
  | cons pair rest ih =>
      by_cases same : pair.1 = key
      · simp [get?, same] at absent
      · have absentInRest : get? rest key = none := by simpa [get?, same] using absent
        simp [adjust, same, ih absentInRest]

end MarkerWatch.Assoc
