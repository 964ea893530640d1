import MarkerWatch.Name
import MarkerWatch.Proofs.Path

/-!
# Scoped names

A scoped name is a dot, the text of its scope, an underscore and the name.  The text of a scope holds
no underscore, so it ends at the first one, whatever the name looks like; and what stands there is
either a process number, which starts with a digit and can be read back, or the scope of the system,
which starts with a letter.  So a scoped name gives both its scope and its name.

Neither the dot nor the text of a scope holds a slash.  A scoped name is therefore a path of its own
exactly if the name is, and below a root directory otherwise.
-/

namespace MarkerWatch.Name

/-- What a name is scoped to. -/
inductive Scope
  | process (pid : Nat)
  | system
  deriving DecidableEq, Repr

/-- An accepted name within a scope. -/
def Scope.scoped : Scope → String → Except Fault String
  | .process pid, name => ofProcess pid name
  | .system, name => ofSystem name

/-- How a scope is written. -/
def Scope.text : Scope → String
  | .process pid => toString pid
  | .system => systemScope

variable {scope other : Scope} {name second full : String}

/-! ## The text of a scope -/

theorem Scope.toList_text_process (pid : Nat) :
    (Scope.process pid).text.toList = Nat.toDigits 10 pid := by
  rw [text, Nat.toString_eq_repr, Nat.toList_repr]

/-- A scope is written in digits and letters. -/
theorem Scope.not_mem_text
    {c : Char} (scope : Scope)
    (noDigit : c.isDigit = false)
    (noLetter : c ∉ systemScope.toList) :
    c ∉ scope.text.toList := by
  cases scope with
  | process pid =>
      rw [toList_text_process]
      intro member
      rw [Nat.isDigit_of_mem_toDigits (by decide) (by decide) member] at noDigit
      cases noDigit
  | system => exact noLetter

/-- No process number reads like the scope of the system. -/
theorem Scope.text_process_ne_system (pid : Nat) : (Scope.process pid).text ≠ systemScope := by
  intro same
  have letter : 'S' ∈ Nat.toDigits 10 pid := by
    rw [← toList_text_process, same]
    decide
  exact absurd (Nat.isDigit_of_mem_toDigits (by decide) (by decide) letter) (by decide)

theorem Scope.text_injective (same : scope.text = other.text) : scope = other := by
  cases scope with
  | process pid =>
      cases other with
      | process pid' =>
          have digits : Nat.toDigits 10 pid = Nat.toDigits 10 pid' := by
            rw [← toList_text_process, ← toList_text_process, same]
          have number := congrArg (Nat.ofDigitChars 10 · 0) digits
          simp only [Nat.ofDigitChars_ten_toDigits] at number
          rw [number]
      | system => exact absurd same (text_process_ne_system pid)
  | system =>
      cases other with
      | process pid => exact absurd same.symm (text_process_ne_system pid)
      | system => rfl

/-! ## The text of a scoped name -/

theorem check_eq_ok_iff : check name = .ok () ↔ name ≠ "" ∧ Char.ofNat 0 ∉ name.toList := by
  rw [check, ne_eq, ← String.toList_eq_nil_iff, ← List.isEmpty_iff, ← List.contains_iff_mem]
  cases name.toList.isEmpty <;> cases name.toList.contains (Char.ofNat 0) <;> simp

/-- A name is accepted in every scope or in none. -/
theorem scoped_eq_ok_iff :
    scope.scoped name = .ok full ↔
      (name ≠ "" ∧ Char.ofNat 0 ∉ name.toList) ∧ full = inScope scope.text name := by
  have shape : scope.scoped name = (check name).map fun _ => inScope scope.text name := by
    cases scope <;> rfl
  rw [shape, ← check_eq_ok_iff]
  cases check name with
  | error fault => exact ⟨nofun, nofun⟩
  | ok _ =>
      exact ⟨fun same => ⟨rfl, (Except.ok.inj same).symm⟩, fun all => congrArg _ all.2.symm⟩

theorem toList_inScope :
    (inScope scope.text name).toList = '.' :: (scope.text.toList ++ '_' :: name.toList) := by
  simp [inScope]

/-- Two lists that are divided by the first occurrence of a separator have equal parts. -/
theorem append_cons_inj_of_not_mem
    {α : Type} {separator : α} {front front' rest rest' : List α}
    (first : separator ∉ front) (first' : separator ∉ front')
    (same : front ++ separator :: rest = front' ++ separator :: rest') :
    front = front' ∧ rest = rest' := by
  induction front generalizing front' with
  | nil =>
      cases front' with
      | nil => exact ⟨rfl, (List.cons.inj same).2⟩
      | cons a front' => exact absurd (by rw [(List.cons.inj same).1]; simp) first'
  | cons a front ih =>
      cases front' with
      | nil => exact absurd (by rw [← (List.cons.inj same).1]; simp) first
      | cons b front' =>
          obtain ⟨rfl, later⟩ := List.cons.inj same
          rw [List.mem_cons, not_or] at first first'
          obtain ⟨rfl, rfl⟩ := ih first.2 first'.2 later
          exact ⟨rfl, rfl⟩

/-- A scoped name gives its scope and its name. -/
theorem inScope_injective
    (same : inScope scope.text name = inScope other.text second) :
    scope = other ∧ name = second := by
  have lists := congrArg String.toList same
  rw [toList_inScope, toList_inScope, List.cons.injEq] at lists
  have noUnderscore (scope : Scope) : '_' ∉ scope.text.toList :=
    scope.not_mem_text (by decide) (by decide)
  have ⟨scopes, names⟩ :=
    append_cons_inj_of_not_mem (noUnderscore scope) (noUnderscore other) lists.2
  exact ⟨Scope.text_injective (String.toList_injective scopes), String.toList_injective names⟩

/-! ## The path of a scoped name -/

/-- A scope adds no slash. -/
theorem isPath_inScope : isPath (inScope scope.text name) = true ↔ '/' ∈ name.toList := by
  have noSlash : '/' ∉ scope.text.toList := scope.not_mem_text (by decide) (by decide)
  rw [isPath, List.contains_iff_mem, toList_inScope]
  simp [noSlash]

theorem isAbsolute_inScope : (Path.ofString (inScope scope.text name)).isAbsolute = false := by
  rw [Path.isAbsolute, Path.bytes_ofString, Text.encode_eq_flatMap, toList_inScope]
  rfl

/-- A scoped name lies below the root directory exactly if the name does. -/
theorem resolve_inScope_iff
    {root : Path}
    (nonempty : root.isEmpty = false) :
    resolve root (inScope scope.text name) = root.join (Path.ofString (inScope scope.text name)) ↔
      '/' ∉ name.toList := by
  have slash : isPath (inScope scope.text name) = true ↔ '/' ∈ name.toList := isPath_inScope
  rw [resolve, ← slash, Bool.not_eq_true]
  split
  · rename_i own
    rw [own]
    refine ⟨fun same => absurd same.symm ?_, nofun⟩
    exact Path.join_ne_self nonempty isAbsolute_inScope
  · rename_i bare
    exact ⟨fun _ => by simpa using bare, fun _ => rfl⟩

/--
A scope accepts the names that are not empty and hold no zero character.  Two scoped names are equal
only if their scopes and their names are.  Below a root directory that is not empty, a scoped name
has its path in the directory exactly if the name holds no slash, and then different scopes or names
have paths of different bytes.
-/
theorem scoped_names_apart :
    (∀ (scope : Scope) (name : String),
      (∃ full, scope.scoped name = .ok full) ↔ name ≠ "" ∧ Char.ofNat 0 ∉ name.toList) ∧
      (∀ (scope other : Scope) (name second full : String),
        scope.scoped name = .ok full → other.scoped second = .ok full →
          scope = other ∧ name = second) ∧
      ∀ root : Path, root.isEmpty = false →
        (∀ (scope : Scope) (name full : String), scope.scoped name = .ok full →
          (resolve root full = root.join (Path.ofString full) ↔ '/' ∉ name.toList)) ∧
        ∀ (scope other : Scope) (name second full full' : String),
          scope.scoped name = .ok full → other.scoped second = .ok full' →
            '/' ∉ name.toList → '/' ∉ second.toList → (scope, name) ≠ (other, second) →
              (resolve root full).bytes ≠ (resolve root full').bytes := by
  refine ⟨fun scope name => ?_, ?_, fun root nonempty => ⟨?_, ?_⟩⟩
  · simp only [scoped_eq_ok_iff, exists_and_left, exists_eq, and_true]
  · intro scope other name second full accepted accepted'
    have same := (scoped_eq_ok_iff.mp accepted).2.symm.trans (scoped_eq_ok_iff.mp accepted').2
    exact inScope_injective same
  · intro scope name full accepted
    obtain ⟨-, rfl⟩ := scoped_eq_ok_iff.mp accepted
    exact resolve_inScope_iff nonempty
  · intro scope other name second full full' accepted accepted' bare bare' different same
    obtain ⟨-, rfl⟩ := scoped_eq_ok_iff.mp accepted
    obtain ⟨-, rfl⟩ := scoped_eq_ok_iff.mp accepted'
    rw [(resolve_inScope_iff nonempty).mpr bare, (resolve_inScope_iff nonempty).mpr bare'] at same
    have paths := Path.join_injective isAbsolute_inScope isAbsolute_inScope (congrArg Path.mk same)
    obtain ⟨rfl, rfl⟩ := inScope_injective (Path.ofString_injective paths)
    exact different rfl

/-- Names that look like the scoped names of other scopes, below a root with a final slash. -/
theorem scoped_names_apart_of_lookalikes :
    let root := Path.ofString "/srv/noti/"
    (Scope.process 1).scoped "2_SYS_x" = .ok ".1_2_SYS_x" ∧
      (Scope.process 12).scoped "SYS_x" = .ok ".12_SYS_x" ∧
      Scope.system.scoped "a/x" = .ok ".SYS_a/x" ∧
      ¬ resolve root ".SYS_a/x" = root.join (Path.ofString ".SYS_a/x") ∧
      resolve root ".1_2_SYS_x" = root.join (Path.ofString ".1_2_SYS_x") ∧
      (resolve root ".1_2_SYS_x").bytes ≠ (resolve root ".12_SYS_x").bytes := by
  intro root
  have first : (Scope.process 1).scoped "2_SYS_x" = .ok ".1_2_SYS_x" := by rfl
  have second : (Scope.process 12).scoped "SYS_x" = .ok ".12_SYS_x" := by rfl
  have third : Scope.system.scoped "a/x" = .ok ".SYS_a/x" := by rfl
  have ⟨below, apart⟩ := scoped_names_apart.2.2 root rfl
  refine ⟨first, second, third, ?_, ?_, ?_⟩
  · exact fun same => (below _ _ _ third).mp same (by decide)
  · exact (below _ _ _ first).mpr (by decide)
  · exact apart _ _ _ _ _ _ first second (by decide) (by decide) (by decide)

end MarkerWatch.Name
