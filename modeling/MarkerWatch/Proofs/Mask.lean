import MarkerWatch.Mask

/-!
# Unions of masks

The union of a list of masks has a bit exactly when some mask of the list has it.  Every law below
follows from that reading, so none depends on the order in which the union is formed.

A mask that a subscriber may ask for is not empty, hence a union of such masks is empty only when
there is nothing to unite.
-/

namespace MarkerWatch.Mask

@[simp]
theorem empty_union (mask : Mask) : ∅ ∪ mask = mask := by
  rw [eq_iff]
  simp

@[simp]
theorem union_empty (mask : Mask) : mask ∪ ∅ = mask := by
  rw [eq_iff]
  simp

/-- A union over a list, started from any mask, adds the bits of the list to that mask. -/
theorem getLsbD_foldl_union
    (masks : List Mask) (start : Mask) (bit : Nat) :
    (masks.foldl (· ∪ ·) start).bits.getLsbD bit =
      (start.bits.getLsbD bit || masks.any (·.bits.getLsbD bit)) := by
  induction masks generalizing start with
  | nil => simp
  | cons mask rest ih =>
      rw [List.foldl_cons, ih, getLsbD_union, List.any_cons, Bool.or_assoc]

/-- A union of masks has a bit exactly if one of them has it. -/
theorem getLsbD_unionOf (masks : List Mask) (bit : Nat) :
    (union masks).bits.getLsbD bit = masks.any (·.bits.getLsbD bit) := by
  rw [union, getLsbD_foldl_union, getLsbD_empty, Bool.false_or]

@[simp]
theorem union_nil : union [] = ∅ :=
  rfl

/-- Masks in two lists are united list by list. -/
@[simp]
theorem union_append (left right : List Mask) :
    union (left ++ right) = union left ∪ union right := by
  rw [eq_iff]
  intro bit
  simp only [getLsbD_unionOf, getLsbD_union, List.any_append]

@[simp]
theorem union_singleton (mask : Mask) : union [mask] = mask := by
  rw [eq_iff]
  intro bit
  simp [getLsbD_unionOf]

/-- A union of masks asks for nothing exactly if none of them does. -/
theorem isEmpty_unionOf_iff (masks : List Mask) :
    (union masks).isEmpty = true ↔ ∀ mask ∈ masks, mask.isEmpty = true := by
  simp only [isEmpty_iff, getLsbD_unionOf, List.any_eq_false, Bool.not_eq_true]
  exact ⟨fun h mask member bit => h bit mask member, fun h bit mask member => h mask member bit⟩

/-- A union asks for something as soon as a part of it does. -/
theorem isEmpty_union_of_right
    {left right : Mask}
    (nonempty : right.isEmpty = false) :
    (left ∪ right).isEmpty = false := by
  rw [← Bool.not_eq_true, isEmpty_iff] at nonempty ⊢
  intro allClear
  apply nonempty
  intro bit
  have clear := allClear bit
  rw [getLsbD_union, Bool.or_eq_false_iff] at clear
  exact clear.2

/-- A mask that a subscriber may ask for asks for something. -/
theorem isEmpty_of_subscribable
    {mask : Mask}
    (subscribable : mask.subscribable = true) :
    mask.isEmpty = false := by
  rw [Mask.subscribable, Bool.and_eq_true] at subscribable
  simpa using subscribable.1

theorem inter_comm (left right : Mask) : left ∩ right = right ∩ left := by
  rw [eq_iff]
  intro bit
  rw [getLsbD_inter, getLsbD_inter, Bool.and_comm]

/-- A mask within a mask within a third is within that one. -/
theorem contains_trans
    {large middle small : Mask}
    (upper : large.contains middle = true)
    (lower : middle.contains small = true) :
    large.contains small = true := by
  rw [contains_iff] at upper lower ⊢
  intro bit set
  exact upper bit (lower bit set)

/-- A mask within another is what both have in common. -/
theorem inter_eq_of_contains
    {large small : Mask}
    (contained : large.contains small = true) :
    small ∩ large = small := by
  rw [contains, beq_iff_eq] at contained
  rw [inter_comm, contained]

/-- A mask that a subscriber may ask for has bits of events only. -/
theorem contains_events
    {mask : Mask}
    (subscribable : mask.subscribable = true) :
    events.contains mask = true := by
  rw [Mask.subscribable, Bool.and_eq_true] at subscribable
  exact subscribable.2

/-- A mask that a subscriber may ask for has no flag in it that is not an event. -/
theorem contains_eq_false
    {mask flag : Mask}
    (subscribable : mask.subscribable = true)
    (outside : events.contains flag = false) :
    mask.contains flag = false := by
  rw [← Bool.not_eq_true]
  intro contained
  rw [contains_trans (contains_events subscribable) contained] at outside
  cases outside

/-- A mask that asks for something has that in common with itself. -/
theorem intersects_self
    {mask : Mask}
    (something : mask.isEmpty = false) :
    mask.intersects mask = true := by
  rw [intersects, inter_eq_of_contains ((contains_iff mask mask).mpr fun _ set => set), something]
  rfl

/-- A mask that may be asked for lies within the probe mask only when it is the probe mask. -/
theorem probe_contains_iff
    {mask : Mask}
    (something : mask.isEmpty = false) :
    probe.contains mask = true ↔ mask = probe := by
  have kind (bit : Nat) : probe.bits.getLsbD bit = decide (bit = 0) := by
    simp [probe, access, ofNat]
  constructor
  · intro contained
    rw [contains_iff] at contained
    obtain ⟨asked, set, -⟩ := (intersects_iff mask mask).mp (intersects_self something)
    have isFirst (bit : Nat) (set : mask.bits.getLsbD bit = true) : bit = 0 := by
      simpa [kind] using contained bit set
    rw [eq_iff]
    intro bit
    rw [kind, Bool.eq_iff_iff, decide_eq_true_eq]
    constructor
    · exact isFirst bit
    · rintro rfl
      rw [← isFirst asked set]
      exact set
  · rintro rfl
    rfl

end MarkerWatch.Mask
