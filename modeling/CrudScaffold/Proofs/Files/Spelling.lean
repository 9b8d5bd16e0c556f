import CrudScaffold.Proofs.Files.Actions

/-!
# Texts of paths

A text is cut at its slashes into the steps of a path, and the slashes in front are its root. Paths
behind one another have their steps behind one another. The text of a path is read as the path
itself (`Path.ofText_text`), so a text that was read and shown once stays as it is from then on.
-/

namespace CrudScaffold.Path

/-! ### Steps -/

/-- The steps in a text without slashes are the text, if it is one. -/
theorem stepsOf_eq {text : List Char} (plain : '/' ∉ text) :
    stepsOf text = [String.ofList text].filter isPathStep := by
  rw [stepsOf, List.splitOn_eq_singleton plain, List.map_singleton]

/-- A slash separates a step from what follows. -/
theorem stepsOf_append {front : List Char} (plain : '/' ∉ front) (back : List Char) :
    stepsOf (front ++ '/' :: back) = [String.ofList front].filter isPathStep ++ stepsOf back := by
  rw [stepsOf, List.splitOn_append_cons_self, List.splitOn_eq_singleton plain, stepsOf,
    List.map_append, List.filter_append, List.map_singleton]

/-- A text that starts with no slash starts at the working directory. -/
theorem rootOf_eq {text : List Char} (plain : text.head? ≠ some '/') : rootOf text = .relative := by
  unfold rootOf
  cases text with
  | nil => rfl
  | cons c rest =>
    have other : c ≠ '/' := fun same => plain (by rw [same]; rfl)
    rw [List.takeWhile_cons_of_neg (by simpa using other)]
    rfl

/-- So does the path that it names. -/
theorem root_ofText {text : String} (plain : text.toList.head? ≠ some '/') :
    (ofText text).root = .relative := rootOf_eq plain

/-- A text without slashes is at most a step, from the working directory. -/
theorem ofText_plain {name : String} (slash : '/' ∉ name.toList) :
    (ofText name).root = .relative ∧ (ofText name).steps = [name].filter isPathStep := by
  have text := stepsOf_eq slash
  rw [String.ofList_toList] at text
  exact ⟨root_ofText fun first => slash (List.mem_of_mem_head? first), text⟩

/-- The steps in a text with a slash in it. -/
theorem steps_ofText_slash {front : String} (plain : '/' ∉ front.toList) (back : String) :
    (ofText (front ++ "/" ++ back)).steps = [front].filter isPathStep ++ (ofText back).steps := by
  have text : (front ++ "/" ++ back).toList = front.toList ++ '/' :: back.toList := by
    simp [String.toList_append]
  change stepsOf _ = _
  rw [text, stepsOf_append plain, String.ofList_toList]
  rfl

/-- A path from the working directory adds its steps. -/
theorem steps_append {base path : Path} (relative : path.root = .relative) :
    (base ++ path).steps = base.steps ++ path.steps := by
  change (join base path).steps = _
  unfold join
  rw [relative]

/-- And it starts where the other one does. -/
theorem root_append {base path : Path} (relative : path.root = .relative) :
    (base ++ path).root = base.root := by
  change (join base path).root = _
  unfold join
  rw [relative]

/-- A step that two paths do not have is not in the one behind the other. -/
theorem notMem_append {base path : Path} {step : String} (first : step ∉ base.steps)
    (second : step ∉ path.steps) : step ∉ (base ++ path).steps := by
  change step ∉ (join base path).steps
  unfold join
  split
  · exact fun member => (List.mem_append.mp member).elim first second
  · exact second

/-! ### Reading what was shown -/

/-- A path is told by its root and its steps. -/
theorem eq_of_root_of_steps {path other : Path} (root : path.root = other.root)
    (steps : path.steps = other.steps) : path = other := by
  cases path
  cases other
  cases root
  cases steps
  rfl

/-- A step has a first character, and no slash. -/
theorem of_isPathStep {step : String} (valid : isPathStep step = true) :
    step.toList ≠ [] ∧ '/' ∉ step.toList := by
  simp only [isPathStep, Bool.and_eq_true, bne_iff_ne, Bool.not_eq_true',
    List.contains_eq_mem, decide_eq_false_iff_not] at valid
  exact ⟨fun empty => valid.1.1 (String.toList_eq_nil_iff.mp empty), valid.2⟩

/-- Steps with slashes between them are read as these steps. -/
theorem stepsOf_intercalate {steps : List String} (valid : ∀ step ∈ steps, isPathStep step = true) :
    stepsOf (['/'].intercalate (steps.map String.toList)) = steps := by
  induction steps with
  | nil => rfl
  | cons step steps ih =>
    obtain ⟨first, others⟩ := List.forall_mem_cons.mp valid
    have one : [String.ofList step.toList].filter isPathStep = [step] := by
      rw [String.ofList_toList, List.filter_cons_of_pos first, List.filter_nil]
    have plain := (of_isPathStep first).2
    cases steps with
    | nil => rw [List.map_singleton, List.intercalate_singleton, stepsOf_eq plain, one]
    | cons next steps =>
      have rest := ih others
      rw [List.map_cons] at rest
      rw [List.map_cons, List.map_cons, List.intercalate_cons_cons, List.append_assoc,
        List.singleton_append, stepsOf_append plain, one, rest]
      rfl

/-- Steps with slashes between them do not start with one. -/
theorem head?_intercalate {steps : List String} (valid : ∀ step ∈ steps, isPathStep step = true) :
    (['/'].intercalate (steps.map String.toList)).head? ≠ some '/' := by
  cases steps with
  | nil => exact nofun
  | cons step steps =>
    obtain ⟨some, plain⟩ := of_isPathStep (valid step List.mem_cons_self)
    obtain ⟨c, rest, letters⟩ := List.exists_cons_of_ne_nil some
    have other : c ≠ '/' := fun same => plain (by rw [letters, same]; exact List.mem_cons_self)
    cases steps with
    | nil =>
      rw [List.map_singleton, List.intercalate_singleton, letters]
      exact fun same => other (Option.some.inj same)
    | cons next steps =>
      rw [List.map_cons, List.map_cons, List.intercalate_cons_cons, letters]
      exact fun same => other (Option.some.inj same)

/-- The slashes of a root in front of a text without one are read as the root. -/
theorem rootOf_text_append (root : PathRoot) {text : List Char} (plain : text.head? ≠ some '/') :
    rootOf (root.text.toList ++ text) = root := by
  have none : text.takeWhile (· == '/') = [] := by
    cases text with
    | nil => rfl
    | cons c rest =>
      have other : c ≠ '/' := fun same => plain (by rw [same]; rfl)
      exact List.takeWhile_cons_of_neg (by simpa using other)
  cases root with
  | relative => exact rootOf_eq plain
  | slash =>
    change rootOf ('/' :: text) = _
    rw [rootOf, List.takeWhile_cons_of_pos (by decide), none]
    rfl
  | doubleSlash =>
    change rootOf ('/' :: '/' :: text) = _
    rw [rootOf, List.takeWhile_cons_of_pos (by decide), List.takeWhile_cons_of_pos (by decide),
      none]
    rfl

/-- The slashes of a root are no steps. -/
theorem stepsOf_text_append (root : PathRoot) (text : List Char) :
    stepsOf (root.text.toList ++ text) = stepsOf text := by
  cases root with
  | relative => rfl
  | slash => exact stepsOf_append List.not_mem_nil text
  | doubleSlash =>
    exact (stepsOf_append List.not_mem_nil ('/' :: text)).trans
      (stepsOf_append List.not_mem_nil text)

/-- The text of a path is read as the path. -/
theorem ofText_text (path : Path) : ofText path.text = path := by
  by_cases named : path.root ≠ .relative ∨ path.steps ≠ []
  · have chars := toList_text path named
    apply eq_of_root_of_steps
    · change rootOf path.text.toList = _
      rw [chars, rootOf_text_append _ (head?_intercalate path.steps_valid)]
    · change stepsOf path.text.toList = _
      rw [chars, stepsOf_text_append, stepsOf_intercalate path.steps_valid]
  · rw [not_or, not_not, not_not] at named
    have here : path = current := eq_of_root_of_steps named.1 named.2
    rw [here]
    decide

end CrudScaffold.Path
