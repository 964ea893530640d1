/-!
# White space

The code points with the Unicode property White_Space, and the removal of such characters from
both ends of a text.  Settings, release strings and filter strings are all read after this removal.

The two statements at the end say that nothing is left to remove: a trimmed text neither starts nor
ends with white space.
-/

namespace MarkerWatch.Text

/-- The code points with the property White_Space. -/
def isBlank (c : Char) : Bool :=
  let n := c.toNat
  (9 ≤ n && n ≤ 13) || n == 0x20 || n == 0x85 || n == 0xA0 || n == 0x1680 ||
    (0x2000 ≤ n && n ≤ 0x200A) || n == 0x2028 || n == 0x2029 || n == 0x202F || n == 0x205F ||
    n == 0x3000

/-- The characters without leading white space. -/
def trimLeft (cs : List Char) : List Char :=
  cs.dropWhile isBlank

/-- The characters without trailing white space. -/
def trimRight (cs : List Char) : List Char :=
  (trimLeft cs.reverse).reverse

/-- The characters without white space at either end. -/
def trimChars (cs : List Char) : List Char :=
  trimRight (trimLeft cs)

/-- A text without white space at either end. -/
def trim (s : String) : String :=
  String.ofList (trimChars s.toList)

/-- A text is blank when it holds nothing but white space. -/
def blank (s : String) : Bool :=
  s.toList.all isBlank

@[simp]
theorem toList_trim (s : String) : (trim s).toList = trimChars s.toList := by
  simp [trim]

/-- What is left after removing leading white space does not start with any. -/
theorem head?_trimLeft (cs : List Char) (c : Char) (h : (trimLeft cs).head? = some c) :
    isBlank c = false := by
  induction cs with
  | nil => simp [trimLeft] at h
  | cons d rest ih =>
    by_cases hd : isBlank d
    · exact ih (by simpa [trimLeft, hd] using h)
    · have : d = c := by simpa [trimLeft, hd] using h
      subst this
      simpa using hd

/-- A text that starts with a visible character keeps it when its end is trimmed. -/
theorem head?_trimRight_of_head? (cs : List Char) (c : Char) (h : cs.head? = some c)
    (hc : isBlank c = false) : (trimRight cs).head? = some c := by
  obtain ⟨rest, rfl⟩ : ∃ rest, cs = c :: rest := by
    cases cs with
    | nil => simp at h
    | cons d rest => exact ⟨rest, by simpa using h⟩
  have key : ∀ ds : List Char,
      List.dropWhile isBlank (ds ++ [c]) = List.dropWhile isBlank ds ++ [c] := by
    intro ds
    induction ds with
    | nil => simp [hc]
    | cons d ds ih =>
      by_cases hd : isBlank d
      · simp [hd, ih]
      · simp [hd]
  simp [trimRight, trimLeft, key]

/-- A trimmed text does not start with white space. -/
theorem head?_trimChars (cs : List Char) (c : Char) (h : (trimChars cs).head? = some c) :
    isBlank c = false := by
  cases hleft : (trimLeft cs).head? with
  | none =>
    have : trimLeft cs = [] := by simpa using hleft
    rw [trimChars, this] at h
    simp [trimRight, trimLeft] at h
  | some d =>
    have hd := head?_trimLeft cs d hleft
    have := head?_trimRight_of_head? (trimLeft cs) d hleft hd
    rw [trimChars, this] at h
    have : d = c := by simpa using h
    exact this ▸ hd

/-- A trimmed text does not end with white space. -/
theorem getLast?_trimChars (cs : List Char) (c : Char) (h : (trimChars cs).getLast? = some c) :
    isBlank c = false := by
  refine head?_trimLeft (trimLeft cs).reverse c ?_
  simpa [trimChars, trimRight] using h

end MarkerWatch.Text
