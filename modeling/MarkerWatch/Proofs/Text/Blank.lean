import MarkerWatch.Text.Blank

/-!
# What is left between white space

To trim a text is to take away white space from its front and then from its end.  What is left does
not depend on that order: it is the only part of the text that has white space on both sides and
none at its own ends.
-/

namespace MarkerWatch.Text

variable {cs body before after : List Char}

/-- The body of a text lies between white space, and has none at its own ends. -/
structure Trims (cs body : List Char) : Prop where
  between : ∃ before after, (∀ c ∈ before, isBlank c = true) ∧ (∀ c ∈ after, isBlank c = true) ∧
    cs = before ++ body ++ after
  first : ∀ c, body.head? = some c → isBlank c = false
  last : ∀ c, body.getLast? = some c → isBlank c = false

theorem trimLeft_append
    (blank : ∀ c ∈ before, isBlank c = true) :
    trimLeft (before ++ cs) = trimLeft cs :=
  List.dropWhile_append_of_pos blank

theorem trimLeft_of_visible
    (visible : ∀ c, cs.head? = some c → isBlank c = false) :
    trimLeft cs = cs := by
  cases cs with
  | nil => rfl
  | cons c rest => rw [trimLeft, List.dropWhile_cons_of_neg (by simp [visible c rfl])]

theorem trimRight_append
    (blank : ∀ c ∈ after, isBlank c = true) :
    trimRight (cs ++ after) = trimRight cs := by
  rw [trimRight, List.reverse_append, trimLeft_append (by simpa using blank), trimRight]

theorem trimRight_of_visible
    (visible : ∀ c, cs.getLast? = some c → isBlank c = false) :
    trimRight cs = cs := by
  rw [trimRight, trimLeft_of_visible (by simpa using visible), List.reverse_reverse]

/-- Leading white space and the rest. -/
theorem exists_eq_append_trimLeft (cs : List Char) :
    ∃ before, (∀ c ∈ before, isBlank c = true) ∧ cs = before ++ trimLeft cs :=
  ⟨cs.takeWhile isBlank, List.all_eq_true.mp List.all_takeWhile,
    List.takeWhile_append_dropWhile.symm⟩

/-- The rest and trailing white space. -/
theorem exists_eq_trimRight_append (cs : List Char) :
    ∃ after, (∀ c ∈ after, isBlank c = true) ∧ cs = trimRight cs ++ after := by
  obtain ⟨before, blank, split⟩ := exists_eq_append_trimLeft cs.reverse
  refine ⟨before.reverse, by simpa using blank, ?_⟩
  rw [trimRight, ← List.reverse_append, ← split, List.reverse_reverse]

theorem trims_trimChars (cs : List Char) : Trims cs (trimChars cs) where
  between := by
    obtain ⟨before, blankBefore, front⟩ := exists_eq_append_trimLeft cs
    obtain ⟨after, blankAfter, back⟩ := exists_eq_trimRight_append (trimLeft cs)
    refine ⟨before, after, blankBefore, blankAfter, ?_⟩
    rw [trimChars, List.append_assoc, ← back, ← front]
  first := head?_trimChars cs
  last := getLast?_trimChars cs

/-- A text has one body, which is what trimming leaves. -/
theorem trims_iff : Trims cs body ↔ body = trimChars cs := by
  constructor
  · rintro ⟨⟨before, after, blankBefore, blankAfter, rfl⟩, first, last⟩
    rw [trimChars, List.append_assoc, trimLeft_append blankBefore]
    cases body with
    | nil =>
        rw [List.nil_append, ← List.append_nil after, trimLeft_append blankAfter]
        rfl
    | cons c rest =>
        have visible : ∀ d, (c :: rest ++ after).head? = some d → isBlank d = false := first
        rw [trimLeft_of_visible visible, trimRight_append blankAfter, trimRight_of_visible last]
  · rintro rfl
    exact trims_trimChars cs

/-- Nothing is left exactly when there is nothing but white space. -/
theorem trimChars_eq_nil_iff : trimChars cs = [] ↔ ∀ c ∈ cs, isBlank c = true := by
  rw [eq_comm, ← trims_iff]
  constructor
  · rintro ⟨⟨before, after, blankBefore, blankAfter, rfl⟩, -, -⟩ c member
    simp only [List.append_nil, List.mem_append] at member
    exact member.elim (blankBefore c) (blankAfter c)
  · intro blank
    exact ⟨⟨cs, [], blank, nofun, by simp⟩, nofun, nofun⟩

end MarkerWatch.Text
