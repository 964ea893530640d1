import MarkerWatch.Text.Digit

/-!
# Masks of event kinds

A mask is a set of event kinds, kept as the thirty-two bits that the kernel uses for them.  Bits
without a name are kept, since the kernel may report them.

A subscriber may ask for a mask that is not empty and lies within `Mask.events`; the four kinds that
only the kernel reports are never asked for.
-/

namespace MarkerWatch

/-- A set of event kinds. -/
structure Mask where
  bits : BitVec 32
  deriving DecidableEq, Repr

namespace Mask

/-- The mask with the given bits; bits past the thirty-second are dropped. -/
def ofNat (n : Nat) : Mask :=
  ⟨BitVec.ofNat 32 n⟩

/-- The bits of a mask as a number. -/
def toNat (m : Mask) : Nat :=
  m.bits.toNat

instance : EmptyCollection Mask := ⟨⟨0⟩⟩

instance : Union Mask := ⟨fun m n => ⟨m.bits ||| n.bits⟩⟩

instance : Inter Mask := ⟨fun m n => ⟨m.bits &&& n.bits⟩⟩

instance : SDiff Mask := ⟨fun m n => ⟨m.bits &&& ~~~n.bits⟩⟩

instance : Inhabited Mask := ⟨∅⟩

/-- The kinds in exactly one of two masks. -/
def symmDiff (m n : Mask) : Mask :=
  ⟨m.bits ^^^ n.bits⟩

/-- Whether a mask holds no kind. -/
def isEmpty (m : Mask) : Bool :=
  m == ∅

/-- Whether every kind of the second mask is in the first. -/
def contains (m n : Mask) : Bool :=
  m ∩ n == n

/-- Whether two masks share a kind. -/
def intersects (m n : Mask) : Bool :=
  !(m ∩ n).isEmpty

def access : Mask := ofNat 0x1
def modify : Mask := ofNat 0x2
def attrib : Mask := ofNat 0x4
def closeWrite : Mask := ofNat 0x8
def closeNoWrite : Mask := ofNat 0x10
def opened : Mask := ofNat 0x20
def movedFrom : Mask := ofNat 0x40
def movedTo : Mask := ofNat 0x80
def create : Mask := ofNat 0x100
def delete : Mask := ofNat 0x200
def deleteSelf : Mask := ofNat 0x400
def moveSelf : Mask := ofNat 0x800
def unmount : Mask := ofNat 0x2000
def queueOverflow : Mask := ofNat 0x4000
def ignored : Mask := ofNat 0x8000
def isDir : Mask := ofNat 0x40000000

/-- The named kinds, in the order in which they are written. -/
def flags : List (String × Mask) :=
  [("ACCESS", access), ("MODIFY", modify), ("ATTRIB", attrib), ("CLOSE_WRITE", closeWrite),
   ("CLOSE_NOWRITE", closeNoWrite), ("OPEN", opened), ("MOVED_FROM", movedFrom),
   ("MOVED_TO", movedTo), ("CREATE", create), ("DELETE", delete), ("DELETE_SELF", deleteSelf),
   ("MOVE_SELF", moveSelf), ("UNMOUNT", unmount), ("Q_OVERFLOW", queueOverflow),
   ("IGNORED", ignored), ("ISDIR", isDir)]

/-- Every named kind. -/
def named : Mask :=
  flags.foldl (fun m flag => m ∪ flag.2) ∅

/-- Every kind that a subscriber may ask for. -/
def events : Mask :=
  ofNat 0xFFF

/-- The interest of a subscription to a name: the marker was written and closed, or deleted. -/
def defaultInterest : Mask :=
  closeWrite ∪ delete

/-- The mask that stands on a watch while its id is looked up. -/
def probe : Mask :=
  access

/-- Whether a subscriber may ask for a mask. -/
def subscribable (m : Mask) : Bool :=
  !m.isEmpty && events.contains m

/-- The kind of a name, if it is the name of one. -/
def ofName? (name : String) : Option Mask :=
  flags.lookup name

/-- The names of the named kinds in a mask. -/
def names (m : Mask) : List String :=
  (flags.filter fun flag => m.contains flag.2).map (·.1)

/-- The named kinds of a mask. -/
def known (m : Mask) : Mask :=
  m ∩ named

/-- The bits of a mask that have no name. -/
def unknown (m : Mask) : Mask :=
  m \ named

/-- The named kinds that are not in a mask. -/
def complement (m : Mask) : Mask :=
  named \ m

/-- The union of masks. -/
def union (masks : List Mask) : Mask :=
  masks.foldl (· ∪ ·) ∅

/-- How messages show a mask: its named kinds, then the other bits as one number. -/
def text (m : Mask) : String :=
  if m.isEmpty then
    "EventMask(0x0)"
  else
    let rest := if m.unknown.isEmpty then [] else ["0x" ++ Text.lowerHex m.unknown.toNat]
    "EventMask(" ++ " | ".intercalate (m.names ++ rest) ++ ")"

theorem eq_iff {m n : Mask} : m = n ↔ ∀ i, m.bits.getLsbD i = n.bits.getLsbD i := by
  constructor
  · rintro rfl _
    rfl
  · intro h
    cases m
    cases n
    congr 1
    apply BitVec.eq_of_getLsbD_eq
    intro i _
    exact h i

@[simp]
theorem getLsbD_empty (i : Nat) : (∅ : Mask).bits.getLsbD i = false := by
  change (0#32).getLsbD i = false
  simp

@[simp]
theorem getLsbD_union (m n : Mask) (i : Nat) :
    (m ∪ n).bits.getLsbD i = (m.bits.getLsbD i || n.bits.getLsbD i) :=
  BitVec.getLsbD_or

@[simp]
theorem getLsbD_inter (m n : Mask) (i : Nat) :
    (m ∩ n).bits.getLsbD i = (m.bits.getLsbD i && n.bits.getLsbD i) :=
  BitVec.getLsbD_and

/-- A mask is empty when no bit is set. -/
theorem isEmpty_iff (m : Mask) : m.isEmpty = true ↔ ∀ i, m.bits.getLsbD i = false := by
  rw [isEmpty, beq_iff_eq, eq_iff]
  simp

/-- Two masks share a kind when some bit is set in both. -/
theorem intersects_iff (m n : Mask) :
    m.intersects n = true ↔ ∃ i, m.bits.getLsbD i = true ∧ n.bits.getLsbD i = true := by
  rw [intersects, Bool.not_eq_true', ← Bool.not_eq_true, isEmpty_iff]
  simp

/-- One mask contains another when every bit of the second is set in the first. -/
theorem contains_iff (m n : Mask) :
    m.contains n = true ↔ ∀ i, n.bits.getLsbD i = true → m.bits.getLsbD i = true := by
  rw [contains, beq_iff_eq, eq_iff]
  simp only [getLsbD_inter]
  exact forall_congr' fun i => by
    cases m.bits.getLsbD i <;> cases n.bits.getLsbD i <;> simp

end Mask

end MarkerWatch
