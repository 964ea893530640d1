/-!
# Finite maps

Small finite maps, kept as lists of pairs in the order in which their keys were first set.  Setting
a key that is there replaces its value in place, so removing a key that was just added gives the
map from before.
-/

namespace MarkerWatch

/-- A finite map as a list of pairs. -/
abbrev Assoc (α β : Type) :=
  List (α × β)

namespace Assoc

variable {α β : Type} [DecidableEq α]

/-- The value of a key. -/
def get? : Assoc α β → α → Option β
  | [], _ => none
  | (key, value) :: rest, k => if key = k then some value else get? rest k

/-- Whether a key has a value. -/
def has (m : Assoc α β) (k : α) : Bool :=
  (get? m k).isSome

/-- The map with a key set to a value. -/
def set : Assoc α β → α → β → Assoc α β
  | [], k, v => [(k, v)]
  | (key, value) :: rest, k, v =>
    if key = k then (key, v) :: rest else (key, value) :: set rest k v

/-- The map without a key. -/
def erase : Assoc α β → α → Assoc α β
  | [], _ => []
  | (key, value) :: rest, k => if key = k then erase rest k else (key, value) :: erase rest k

/-- The map with the value of a key changed, where it has one. -/
def adjust : Assoc α β → α → (β → β) → Assoc α β
  | [], _, _ => []
  | (key, value) :: rest, k, f =>
    if key = k then (key, f value) :: rest else (key, value) :: adjust rest k f

/-- The keys of a map. -/
def keys (m : Assoc α β) : List α :=
  m.map (·.1)

@[simp]
theorem get?_nil (k : α) : get? ([] : Assoc α β) k = none :=
  rfl

@[simp]
theorem get?_set_self (m : Assoc α β) (k : α) (v : β) : get? (set m k v) k = some v := by
  induction m with
  | nil => simp [set, get?]
  | cons pair rest ih =>
    by_cases h : pair.1 = k <;> simp [set, get?, h, ih]

theorem get?_set_of_ne (m : Assoc α β) {k j : α} (v : β) (h : k ≠ j) :
    get? (set m k v) j = get? m j := by
  induction m with
  | nil => simp [set, get?, h]
  | cons pair rest ih =>
    by_cases hk : pair.1 = k
    · simp [set, get?, hk, h]
    · simp only [set, hk, if_false, get?, ih]

theorem get?_set (m : Assoc α β) (k j : α) (v : β) :
    get? (set m k v) j = if k = j then some v else get? m j := by
  by_cases h : k = j
  · subst h
    simp
  · simp [get?_set_of_ne m v h, h]

theorem get?_erase (m : Assoc α β) (k j : α) :
    get? (erase m k) j = if k = j then none else get? m j := by
  by_cases hj : k = j
  · subst hj
    induction m with
    | nil => simp [erase]
    | cons pair rest ih =>
      by_cases hk : pair.1 = k <;> simp_all [erase, get?]
  · induction m with
    | nil => simp [erase]
    | cons pair rest ih =>
      by_cases hk : pair.1 = k <;> simp_all [erase, get?]

theorem get?_adjust (m : Assoc α β) (k j : α) (f : β → β) :
    get? (adjust m k f) j = if k = j then (get? m j).map f else get? m j := by
  by_cases hj : k = j
  · subst hj
    induction m with
    | nil => simp [adjust]
    | cons pair rest ih =>
      by_cases hk : pair.1 = k <;> simp_all [adjust, get?]
  · induction m with
    | nil => simp [adjust]
    | cons pair rest ih =>
      by_cases hk : pair.1 = k <;> simp_all [adjust, get?]

end Assoc

end MarkerWatch
