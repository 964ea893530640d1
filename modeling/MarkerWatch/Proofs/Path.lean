import MarkerWatch.Path

/-!
# Where paths lead

A path that is read name by name leads somewhere: a name `.` stays, a name `..` goes up one
directory, and any other name goes down.  Above the root of the file tree there is nothing, and
above the start of a relative path there are further names `..`.  What is left is the normal form of
the path, which knows nothing of links.

A single name that is joined to a path is read last, whatever the path looks like.  So the joined
path leads below the other one exactly when its name is neither `.` nor `..`.
-/

namespace MarkerWatch

namespace Text

/-! ## Bytes of texts -/

theorem encode_eq_flatMap (s : String) :
    encode s = s.toList.flatMap String.utf8EncodeChar := by
  rw [encode, ← String.utf8Encode_toList, List.utf8Encode]
  simp

/-- A character is written as one byte with its code, or as bytes that are not ASCII. -/
theorem toNat_of_mem_utf8EncodeChar
    {c : Char} {byte : UInt8}
    (member : byte ∈ String.utf8EncodeChar c) :
    0x80 ≤ byte.toNat ∨ c.toNat = byte.toNat := by
  have code : c.val.toNat = c.toNat := rfl
  revert member
  fun_cases String.utf8EncodeChar c with
  | case1 v single =>
      intro member
      simp only [List.mem_singleton] at member
      rw [member, UInt8.toNat_ofNat', ← code]
      omega
  | case2 | case3 | case4 =>
      intro member
      left
      simp only [List.mem_cons, List.not_mem_nil, or_false] at member
      rcases member with rfl | rfl | rfl | rfl <;> simp only [UInt8.toNat_ofNat'] <;> omega

/-- An ASCII byte in the bytes of a text is a character of the text. -/
theorem mem_of_mem_encode
    {s : String} {c : Char} {byte : UInt8}
    (ascii : byte.toNat < 0x80)
    (code : c.toNat = byte.toNat)
    (member : byte ∈ encode s) :
    c ∈ s.toList := by
  rw [encode_eq_flatMap, List.mem_flatMap] at member
  obtain ⟨other, present, member⟩ := member
  rcases toNat_of_mem_utf8EncodeChar member with long | same
  · omega
  · have equal : c = other := Char.toNat_inj.mp (code.trans same.symm)
    rw [equal]
    exact present

end Text

namespace Path

/-! ## Bytes of joined paths -/

/-- What a directory puts before relative paths is the same for all of them, and it is nothing for
the empty directory only. -/
theorem exists_front (dir : Path) :
    ∃ front, (front = [] ↔ dir.isEmpty = true) ∧
      ∀ name : Path, name.isAbsolute = false → dir.join name = ⟨front ++ name.bytes⟩ := by
  cases bare : dir.isEmpty || dir.endsInSlash with
  | true =>
      refine ⟨dir.bytes, by simp [isEmpty], fun name relative => ?_⟩
      rw [join, relative, bare]
      rfl
  | false =>
      rw [Bool.or_eq_false_iff] at bare
      refine ⟨dir.bytes ++ [slash], by simp [bare.1], fun name relative => ?_⟩
      rw [join, relative, bare.1, bare.2, List.append_assoc]
      rfl

/-- Relative paths are told apart below any directory. -/
theorem join_injective
    {dir name other : Path}
    (relative : name.isAbsolute = false)
    (otherRelative : other.isAbsolute = false)
    (same : dir.join name = dir.join other) :
    name = other := by
  obtain ⟨front, -, joined⟩ := dir.exists_front
  rw [joined name relative, joined other otherRelative, mk.injEq] at same
  exact congrArg mk (List.append_cancel_left same)

/-- A relative path is another one below a directory that is not empty. -/
theorem join_ne_self
    {dir name : Path}
    (nonempty : dir.isEmpty = false)
    (relative : name.isAbsolute = false) :
    dir.join name ≠ name := by
  obtain ⟨front, nothing, joined⟩ := dir.exists_front
  intro same
  rw [joined name relative] at same
  have empty := nothing.mp (List.append_left_eq_self.mp (congrArg bytes same))
  rw [nonempty] at empty
  cases empty

/-! ## Names of joined paths -/

theorem splitBytes_ne_nil (bytes : List UInt8) : splitBytes bytes ≠ [] := by
  cases bytes with
  | nil => exact List.cons_ne_nil _ _
  | cons byte rest =>
      rw [splitBytes]
      split
      · exact List.cons_ne_nil _ _
      · split <;> exact List.cons_ne_nil _ _

theorem splitBytes_of_not_mem
    {bytes : List UInt8}
    (single : slash ∉ bytes) :
    splitBytes bytes = [bytes] := by
  induction bytes with
  | nil => rfl
  | cons byte rest ih =>
      rw [List.mem_cons, not_or] at single
      rw [splitBytes, if_neg (Ne.symm single.1), ih single.2]

/-- A slash divides the parts before it from those after it. -/
theorem splitBytes_append (before after : List UInt8) :
    splitBytes (before ++ slash :: after) = splitBytes before ++ splitBytes after := by
  induction before with
  | nil => simp [splitBytes]
  | cons byte rest ih =>
      rw [List.cons_append, splitBytes, ih, splitBytes]
      split
      · rfl
      · cases parts : splitBytes rest with
        | nil => exact absurd parts (splitBytes_ne_nil rest)
        | cons part others => rfl

theorem names_append (before after : List UInt8) :
    names ⟨before ++ slash :: after⟩ = names ⟨before⟩ ++ names ⟨after⟩ := by
  rw [names, splitBytes_append, List.filter_append]
  rfl

theorem names_of_not_mem
    {name : List UInt8}
    (nonempty : name ≠ [])
    (single : slash ∉ name) :
    names ⟨name⟩ = [name] := by
  rw [names, splitBytes_of_not_mem single]
  simp [nonempty]

section Join

variable {dir : Path} {name : List UInt8} (nonempty : name ≠ []) (single : slash ∉ name)

include nonempty single

theorem isAbsolute_of_single : isAbsolute ⟨name⟩ = false := by
  cases name with
  | nil => exact absurd rfl nonempty
  | cons first rest =>
      rw [List.mem_cons, not_or] at single
      simp [isAbsolute, Ne.symm single.1]

/-- Nothing else than the name is read after the directory. -/
theorem names_join : (dir.join ⟨name⟩).names = dir.names ++ [name] := by
  rw [join, isAbsolute_of_single nonempty single, if_neg Bool.false_ne_true]
  rw [← names_of_not_mem nonempty single]
  split
  · rename_i bare
    rw [Bool.or_eq_true] at bare
    rcases bare with empty | closed
    · have noBytes : dir.bytes = [] := by simpa [isEmpty] using empty
      have noNames : dir.names = [] := by
        rw [names, noBytes]
        rfl
      rw [noBytes, noNames]
      rfl
    · obtain ⟨before, ends⟩ : ∃ before, dir.bytes = before ++ [slash] :=
        List.getLast?_eq_some_iff.mp (by simpa [endsInSlash] using closed)
      have sameNames : dir.names = names ⟨before⟩ := by
        have split := names_append before []
        rw [← ends] at split
        exact split.trans (List.append_nil _)
      rw [sameNames, ends, List.append_assoc, List.singleton_append, names_append]
  · exact names_append dir.bytes name

theorem isAbsolute_join : (dir.join ⟨name⟩).isAbsolute = dir.isAbsolute := by
  have relative := isAbsolute_of_single nonempty single
  rw [join, relative, if_neg Bool.false_ne_true]
  cases bytes : dir.bytes with
  | nil => simpa [isAbsolute, isEmpty, bytes] using relative
  | cons first rest => split <;> simp [isAbsolute, bytes]

end Join

/-! ## Normal forms -/

namespace Components

/-- One directory up, where there is one. -/
def up (c : Components) : Components :=
  match c.names.getLast? with
  | none => if c.absolute then c else ⟨false, [above]⟩
  | some last =>
    if last = above then ⟨c.absolute, c.names ++ [above]⟩ else ⟨c.absolute, c.names.dropLast⟩

/-- Where a name leads. -/
def enter (c : Components) (name : List UInt8) : Components :=
  if name = here then c
  else if name = above then c.up
  else ⟨c.absolute, c.names ++ [name]⟩

/-- Strictly below a directory: one goes down from it, by at least one name, and never up. -/
def Below (c dir : Components) : Prop :=
  c.absolute = dir.absolute ∧
    ∃ names, names ≠ [] ∧ above ∉ names ∧ c.names = dir.names ++ names

theorem not_below_self (c : Components) : ¬ c.Below c := by
  rintro ⟨-, names, nonempty, -, same⟩
  exact nonempty (by simpa using same)

/-- Going up adds a name `..`, or leads to a directory that was passed on the way. -/
theorem names_up (c : Components) :
    c.up.names = c.names ++ [above] ∨ c.up.names <+: c.names := by
  rw [up]
  split
  · rename_i nothing
    split
    · exact Or.inr List.prefix_rfl
    · left
      rw [List.getLast?_eq_none_iff.mp nothing]
      rfl
  · split
    · exact Or.inl rfl
    · exact Or.inr (List.dropLast_prefix _)

theorem not_up_below (c : Components) : ¬ c.up.Below c := by
  rintro ⟨-, names, nonempty, noneUp, same⟩
  rcases c.names_up with further | passed
  · rw [further] at same
    apply noneUp
    rw [← List.append_cancel_left same]
    exact List.mem_singleton_self _
  · have shorter := passed.length_le
    rw [same, List.length_append] at shorter
    have something := List.length_pos_iff.mpr nonempty
    omega

/-- A name leads below a directory unless it stays there or goes up. -/
theorem enter_below_iff (c : Components) (name : List UInt8) :
    (c.enter name).Below c ↔ name ≠ here ∧ name ≠ above := by
  rw [enter]
  split
  · rename_i stays
    exact ⟨fun below => absurd below c.not_below_self, fun other => absurd stays other.1⟩
  · rename_i leaves
    split
    · rename_i upwards
      exact ⟨fun below => absurd below c.not_up_below, fun other => absurd upwards other.2⟩
    · rename_i downwards
      refine ⟨fun _ => ⟨leaves, downwards⟩, fun _ => ⟨rfl, [name], List.cons_ne_nil _ _, ?_, rfl⟩⟩
      simpa using Ne.symm downwards

end Components

/-- Where a path leads, read from its start. -/
def normal (p : Path) : Components :=
  p.components.names.foldl Components.enter ⟨p.isAbsolute, []⟩

theorem foldl_enter_filter (names : List (List UInt8)) (start : Components) :
    (names.filter (· != here)).foldl Components.enter start =
      names.foldl Components.enter start := by
  induction names generalizing start with
  | nil => rfl
  | cons name rest ih =>
      by_cases stays : name = here
      · rw [List.filter_cons_of_neg (by simp [stays]), ih, List.foldl_cons, Components.enter,
          if_pos stays]
      · rw [List.filter_cons_of_pos (by simp [stays]), List.foldl_cons, ih, List.foldl_cons]

/-- Names that do not count for a spelling do not count for where it leads. -/
theorem normal_eq_foldl (p : Path) :
    p.normal = p.names.foldl Components.enter ⟨p.isAbsolute, []⟩ := by
  rw [normal, components]
  cases p.isAbsolute with
  | true => exact foldl_enter_filter p.names _
  | false =>
      cases p.names with
      | nil => rfl
      | cons first rest => exact foldl_enter_filter rest _

/-- A single name that is joined to a path is entered from where the path leads. -/
theorem normal_join
    {dir : Path} {name : List UInt8}
    (nonempty : name ≠ [])
    (single : slash ∉ name) :
    (dir.join ⟨name⟩).normal = dir.normal.enter name := by
  rw [normal_eq_foldl, normal_eq_foldl, isAbsolute_join nonempty single,
    names_join nonempty single, List.foldl_append]
  rfl

end Path

end MarkerWatch
