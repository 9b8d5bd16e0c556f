import CrudScaffold.Proofs.Schema.Model

/-!
# What the line of a field tells

The line of a field in a model tells the field (`Field.modelLine_eq_iff`). Up to the default its
parts are told apart from the left: each mark that may be left out starts unlike all that can follow
it. The default may be any text, also one that looks like what may stand behind it, so it is told
from the mark of the database from the right: without a mark the line ends with the parenthesis of
the default, and each mark ends with another letter.
-/

namespace CrudScaffold

open Text

/-! ### The parts of a line -/

/-- What stands at the end of the line of a field: the default, and the mark of the database. -/
def Field.modelEnd (field : Field) : List Char :=
  field.modelDefault.toList ++ field.modelMark.toList

/-- The end of the line of a field with the mark of an identifier in front of it. -/
def Field.behindUnique (field : Field) : List Char :=
  (if field.isId then " @id".toList else []) ++ field.modelEnd

/-- The same with the mark of a unique field in front of it. -/
def Field.behindOptional (field : Field) : List Char :=
  (if field.unique then " @unique".toList else []) ++ field.behindUnique

/-- The same with the mark of an optional field in front of it: all that follows the type. -/
def Field.behindType (field : Field) : List Char :=
  (if field.optional then ['?'] else []) ++ field.behindOptional

section

variable {field other : Field}

/-- The line of a field is its name, its scalar type, and what follows the type. -/
theorem Field.modelLine_toList (field : Field) :
    field.modelLine.toList =
      field.name.toList ++ ' ' :: (field.type.column.base.toList ++ field.behindType) := by
  have mark (flag : Bool) (text : String) :
      (if flag then text else "").toList = if flag then text.toList else [] := by
    cases flag <;> rfl
  rw [modelLine_eq, modelFront, behindType, behindOptional, behindUnique, modelEnd]
  simp only [String.toList_append, mark, List.append_assoc]
  rfl

/-- The marks of the database. -/
def nativeMarks : List (List Char) :=
  [[], " @db.Text".toList, " @db.Date".toList, " @db.Uuid".toList]

/-- The mark on the line of a field is one of them. -/
theorem Field.modelMark_mem (field : Field) : field.modelMark.toList ∈ nativeMarks := by
  unfold modelMark
  cases field.type <;> decide

/-- The default on the line of a field that has one, or has none. -/
theorem Field.modelDefault_toList (filled : field.defaultValue ≠ some "") :
    field.modelDefault.toList =
      (field.defaultValue.map fun value => " @default(".toList ++ (value.toList ++ [')'])).getD
        [] := by
  unfold modelDefault
  cases found : field.defaultValue with
  | none => rfl
  | some value =>
    have solid : value ≠ "" := fun empty => filled (by rw [found, empty])
    dsimp only
    rw [if_neg (by simpa using solid)]
    simp [String.toList_append]

/-! ### Telling the parts apart -/

/-- The end of a line starts like a default or like a mark, where there is any. -/
theorem Field.modelEnd_starts (field : Field) :
    field.modelEnd = [] ∨ ∃ rest, field.modelEnd = ' ' :: '@' :: 'd' :: rest := by
  have mark := field.modelMark_mem
  simp only [nativeMarks, List.mem_cons, List.not_mem_nil, or_false] at mark
  have marked : field.modelMark.toList = [] ∨
      ∃ rest, field.modelMark.toList = ' ' :: '@' :: 'd' :: rest := by
    rcases mark with same | same | same | same
    · exact .inl same
    all_goals exact .inr ⟨_, same⟩
  unfold modelEnd modelDefault
  split
  · split
    · exact marked
    · exact .inr ⟨_, by simp only [String.toList_append, List.append_assoc]; rfl⟩
  · exact marked

/-- The end of a line does not start like the mark of an identifier. -/
theorem Field.not_id_prefix_modelEnd (field : Field) : ¬ " @id".toList <+: field.modelEnd := by
  rcases field.modelEnd_starts with same | ⟨rest, same⟩ <;> simp [same]

/-- What follows the mark of a unique field does not start like that mark. -/
theorem Field.not_unique_prefix_behindUnique (field : Field) :
    ¬ " @unique".toList <+: field.behindUnique := by
  unfold behindUnique
  rcases field.modelEnd_starts with same | ⟨rest, same⟩ <;> cases field.isId <;> simp [same]

/-- What follows the type and the mark of an optional field starts with a space, where there is any.
-/
theorem Field.behindOptional_starts (field : Field) :
    field.behindOptional = [] ∨ ∃ rest, field.behindOptional = ' ' :: rest := by
  unfold behindOptional behindUnique
  rcases field.modelEnd_starts with same | ⟨rest, same⟩ <;> cases field.isId <;>
    cases field.unique <;> simp [same]

/-- What follows the type starts with no word character. -/
theorem Field.behindType_starts (field : Field) :
    ∀ c back, field.behindType = c :: back → isWordChar c = false := by
  unfold behindType
  intro c back
  rcases field.behindOptional_starts with same | ⟨rest, same⟩ <;> cases field.optional <;>
    simp only [same, Bool.false_eq_true, if_false, if_true, List.nil_append, List.append_nil,
      List.singleton_append, List.cons.injEq, reduceCtorEq, false_implies]
  all_goals
    rintro ⟨rfl, -⟩
    decide

/-- A mark that may be left out is told from what follows, if nothing that follows starts with it. -/
theorem optional_append_inj {mark rest more : List Char} {here there : Bool}
    (apart : ¬ mark <+: rest) (apart' : ¬ mark <+: more)
    (same : (if here then mark else []) ++ rest = (if there then mark else []) ++ more) :
    here = there ∧ rest = more := by
  cases here <;> cases there
  · exact ⟨rfl, same⟩
  · exact absurd ⟨more, same.symm⟩ apart
  · exact absurd ⟨rest, same⟩ apart'
  · exact ⟨rfl, List.append_cancel_left same⟩

/-- Word characters in front of one that is none are told from what follows. -/
theorem wordChars_append_inj {word word' rest more : List Char}
    (letters : ∀ c ∈ word, isWordChar c) (letters' : ∀ c ∈ word', isWordChar c)
    (stop : ∀ c back, rest = c :: back → isWordChar c = false)
    (stop' : ∀ c back, more = c :: back → isWordChar c = false)
    (same : word ++ rest = word' ++ more) : word = word' ∧ rest = more := by
  have first := takeWord_wordChars_append letters stop
  have second := takeWord_wordChars_append letters' stop'
  rw [same, second] at first
  exact ⟨(Prod.mk.inj first).1.symm, (Prod.mk.inj first).2.symm⟩

/-- Marks of the database are told apart by the last character, also behind a default. -/
theorem nativeMarks_apart : ∀ mark ∈ nativeMarks, ∀ more ∈ nativeMarks,
    (')' :: mark).getLast? = (')' :: more).getLast? → mark = more := by
  decide

/-- The end of a line tells the default and the mark. -/
theorem Field.modelEnd_inj (filled : field.defaultValue ≠ some "")
    (filled' : other.defaultValue ≠ some "") (same : field.modelEnd = other.modelEnd) :
    field.defaultValue = other.defaultValue ∧ field.modelMark = other.modelMark := by
  have mark := field.modelMark_mem
  have mark' := other.modelMark_mem
  have apart {value rest : List Char} : ∀ mark ∈ nativeMarks,
      mark ≠ " @default(".toList ++ (value ++ [')']) ++ rest := by
    simp [nativeMarks]
  unfold modelEnd at same
  rw [modelDefault_toList filled, modelDefault_toList filled'] at same
  cases found : field.defaultValue with
  | none =>
    cases found' : other.defaultValue with
    | none =>
      rw [found, found'] at same
      exact ⟨rfl, String.toList_inj.mp same⟩
    | some value' =>
      rw [found, found'] at same
      exact absurd same (apart _ mark)
  | some value =>
    cases found' : other.defaultValue with
    | none =>
      rw [found, found'] at same
      exact absurd same.symm (apart _ mark')
    | some value' =>
      rw [found, found'] at same
      have behind : value.toList ++ ')' :: field.modelMark.toList =
          value'.toList ++ ')' :: other.modelMark.toList := by
        simpa using same
      have last := congrArg List.getLast? behind
      rw [List.getLast?_append_cons, List.getLast?_append_cons] at last
      have marks := nativeMarks_apart _ mark _ mark' last
      rw [marks] at behind
      have values := List.append_cancel_right behind
      exact ⟨by rw [String.toList_inj.mp values], String.toList_inj.mp marks⟩

/-- The scalar type and the mark tell the kind of a field. -/
theorem Field.type_inj (base : field.type.column.base = other.type.column.base)
    (mark : field.modelMark = other.modelMark) : field.type = other.type := by
  unfold modelMark at mark
  generalize field.type = type at base mark
  generalize other.type = type' at base mark
  revert base mark
  cases type <;> cases type' <;> decide

/-- The line of a field tells its name, its type, its flags and its default, whatever text the
default is. -/
theorem Field.modelLine_eq_iff (word : isWord field.name.toList = true)
    (word' : isWord other.name.toList = true) (filled : field.defaultValue ≠ some "")
    (filled' : other.defaultValue ≠ some "") :
    field.modelLine = other.modelLine ↔
      field.name = other.name ∧ field.type = other.type ∧ field.optional = other.optional ∧
        field.unique = other.unique ∧ field.isId = other.isId ∧
        field.defaultValue = other.defaultValue := by
  have base (type : FieldType) : ∀ c ∈ type.column.base.toList, isWordChar c := by
    have word : isWord type.column.base.toList := by cases type <;> decide
    exact fun c member => isWordChar_of_mem word member
  have space (rest : List Char) : ∀ c back, ' ' :: rest = c :: back → isWordChar c = false := by
    intro c back same
    obtain ⟨rfl, -⟩ := List.cons.inj same
    decide
  have question (field : Field) : ¬ ['?'] <+: field.behindOptional := by
    rcases field.behindOptional_starts with same | ⟨rest, same⟩ <;> simp [same]
  constructor
  · intro same
    have line := congrArg String.toList same
    rw [modelLine_toList, modelLine_toList] at line
    obtain ⟨name, typed⟩ := wordChars_append_inj (fun c => isWordChar_of_mem word)
      (fun c => isWordChar_of_mem word') (space _) (space _) line
    obtain ⟨scalar, marks⟩ := wordChars_append_inj (base _) (base _) field.behindType_starts
      other.behindType_starts (List.cons.inj typed).2
    obtain ⟨optional, marks⟩ := optional_append_inj (question _) (question _) marks
    obtain ⟨unique, marks⟩ := optional_append_inj field.not_unique_prefix_behindUnique
      other.not_unique_prefix_behindUnique marks
    obtain ⟨identifies, final⟩ := optional_append_inj field.not_id_prefix_modelEnd
      other.not_id_prefix_modelEnd marks
    obtain ⟨value, native⟩ := modelEnd_inj filled filled' final
    have type := type_inj (String.toList_inj.mp scalar) native
    exact ⟨String.toList_inj.mp name, type, optional, unique, identifies, value⟩
  · rintro ⟨name, type, optional, unique, identifies, value⟩
    rw [modelLine, modelLine, name, type, optional, unique, identifies, value]

end

/-- A default that looks like a default with a mark of the database behind it. -/
theorem Field.modelLine_eq_iff_marked :
    let plain : Field := { name := "note", type := .string, defaultValue := some "x) @db.Text" }
    let marked : Field := { name := "note", type := .text, defaultValue := some "x" }
    plain.modelLine = "note String @default(x) @db.Text)" ∧
    marked.modelLine = "note String @default(x) @db.Text" ∧
    isWord plain.name.toList = true ∧ isWord marked.name.toList = true ∧
    plain.defaultValue ≠ some "" ∧ marked.defaultValue ≠ some "" ∧
    plain.modelLine ≠ marked.modelLine := by
  intro plain marked
  refine ⟨by decide, by decide, by decide, by decide, by decide, by decide, fun same => ?_⟩
  have parts := (@Field.modelLine_eq_iff plain marked (by decide) (by decide) (by decide)
    (by decide)).mp same
  exact absurd parts.2.1 (by decide)

end CrudScaffold
