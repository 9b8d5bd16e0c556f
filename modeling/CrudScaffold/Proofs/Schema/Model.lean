import CrudScaffold.Proofs.Definition.Printing
import CrudScaffold.Proofs.Name.Words
import CrudScaffold.Proofs.Schema.Declaration
import CrudScaffold.Proofs.Text.Newlines

/-!
# Models and declarations

The model of an entity from a definition declares the entity and nothing else. A brace behind its
first line can only come from a default, and a default stands in parentheses on its line, while the
lines that open a model hold none (`Sheltered`). So appending a model to a schema adds one name, and
no text at the seam looks like a declaration or hides one.
-/

namespace CrudScaffold

open Text

/-! ### Sheltered braces -/

/-- A text in which every brace stands behind an opening parenthesis of its line. -/
def Sheltered (text : List Char) : Prop :=
  ∀ front after, text = front ++ '\x7b' :: after →
    ∃ early late, front = early ++ '(' :: late ∧ '\n' ∉ late

/-- No word character opens a parenthesis. -/
theorem parenthesis_notMem_of_isWord {word : List Char} (letters : isWord word) : '(' ∉ word :=
  fun member => absurd (isWordChar_of_mem letters member) (by decide)

/-- Nothing opens a model of a word when a parenthesis was opened on the line. -/
theorem not_opens_of_parenthesis {early late name : List Char} (line : '\n' ∉ late)
    (word : isWord name) : ¬ Opens (early ++ '(' :: late) name := by
  rintro ⟨before, blanks, gap, space, starts, blank, -, gapped, spaced, same⟩
  have solid {text : List Char} (blank : isBlankText text = true) : '(' ∉ text := fun member =>
    absurd (List.all_eq_true.mp blank '(' member) (by decide)
  have outside : '(' ∉ blanks ++ ("model".toList ++ (gap ++ (name ++ space))) := by
    simp only [List.mem_append, not_or]
    exact ⟨solid blank, by decide, solid gapped, parenthesis_notMem_of_isWord word, solid spaced⟩
  rcases List.append_eq_append_iff.mp same with ⟨middle, lines, rest⟩ | ⟨middle, -, rest⟩
  · cases middle with
    | nil =>
      rw [List.nil_append] at rest
      exact outside (by rw [← rest]; exact List.mem_cons_self)
    | cons c middle =>
      obtain ⟨rfl, back⟩ := List.cons.inj rest
      rcases starts with rfl | feed
      · simp at lines
      · have last : (middle.getLast?).or (some '(') = some '\n' := by
          rw [lines, List.getLast?_append, List.getLast?_cons] at feed
          cases ends : middle.getLast? <;> simp_all
        cases ends : middle.getLast? with
        | none => simp [ends] at last
        | some d =>
          rw [ends] at last
          obtain rfl := Option.some.inj last
          exact line (by rw [back]; exact List.mem_append_left _ (List.mem_of_getLast? ends))
  · exact outside (by rw [rest]; simp)

/-- A line of a model body: one line, on which every brace stands behind a parenthesis. -/
structure BodyLine (line : List Char) : Prop where
  /-- It holds no line feed. -/
  noFeed : '\n' ∉ line
  /-- It holds no carriage return. -/
  noReturn : '\r' ∉ line
  /-- A brace stands behind a parenthesis. -/
  sheltered : ∀ front after, line = front ++ '\x7b' :: after → '(' ∈ front

/-- A sheltered text stays so behind a line. -/
theorem BodyLine.sheltered_append {line : List Char} (body : BodyLine line) {rest : List Char}
    (sheltered : Sheltered rest) : Sheltered (line ++ '\n' :: rest) := by
  intro front after same
  rcases List.append_eq_append_iff.mp same with ⟨middle, rfl, back⟩ | ⟨middle, rfl, back⟩
  · cases middle with
    | nil => exact absurd (List.cons.inj back).1 (by decide)
    | cons c middle =>
      obtain ⟨rfl, below⟩ := List.cons.inj back
      obtain ⟨early, late, rfl, unbroken⟩ := sheltered middle after below
      exact ⟨line ++ '\n' :: early, late, by simp, unbroken⟩
  · cases middle with
    | nil => exact absurd (List.cons.inj back).1 (by decide)
    | cons c middle =>
      obtain ⟨rfl, -⟩ := List.cons.inj back
      obtain ⟨early, late, rfl⟩ := List.append_of_mem (body.sheltered front middle rfl)
      exact ⟨early, late, rfl, fun member => body.noFeed (by simp [member])⟩

/-- The lines of a model body, one below the other, are sheltered. -/
theorem sheltered_lines {lines : List (List Char)} (body : ∀ line ∈ lines, BodyLine line) :
    Sheltered (lines.flatMap (· ++ ['\n'])) := by
  induction lines with
  | nil =>
    intro front after same
    exact absurd same.symm (by simp)
  | cons line lines ih =>
    obtain ⟨first, others⟩ := List.forall_mem_cons.mp body
    rw [List.flatMap_cons, List.append_assoc]
    exact first.sheltered_append (ih others)

/-! ### The lines of a model -/

/-- A character that neither opens a body nor ends a line of a file. -/
def isPlain (c : Char) : Bool := c != '\x7b' && c != '\n' && c != '\r'

/-- A line of plain characters is one of a body. -/
theorem bodyLine_of_plain {line : List Char} (plain : line.all isPlain = true) : BodyLine line := by
  have each := List.all_eq_true.mp plain
  refine ⟨fun member => ?_, fun member => ?_, fun front after same => ?_⟩
  · exact absurd (each '\n' member) (by decide)
  · exact absurd (each '\r' member) (by decide)
  · exact absurd (each '\x7b' (by simp [same])) (by decide)

/-- A line that is plain up to a parenthesis is one of a body, whatever stands behind it. -/
theorem bodyLine_of_parenthesis {front back : List Char} (plain : front.all isPlain = true)
    (noFeed : '\n' ∉ back) (noReturn : '\r' ∉ back) : BodyLine (front ++ '(' :: back) := by
  have start := bodyLine_of_plain plain
  refine ⟨?_, ?_, fun early late same => ?_⟩
  · simp [start.noFeed, noFeed]
  · simp [start.noReturn, noReturn]
  · rcases List.append_eq_append_iff.mp same with ⟨middle, rfl, rest⟩ | ⟨middle, rfl, rest⟩
    · cases middle with
      | nil => exact absurd (List.cons.inj rest).1 (by decide)
      | cons c middle =>
        obtain ⟨rfl, -⟩ := List.cons.inj rest
        simp
    · cases middle with
      | nil => exact absurd (List.cons.inj rest).1 (by decide)
      | cons c middle =>
        obtain ⟨rfl, -⟩ := List.cons.inj rest
        rw [List.all_append, List.all_cons] at plain
        exact absurd plain (by simp [isPlain])

/-- A word is plain. -/
theorem plain_of_isWordChar {text : List Char} (letters : ∀ c ∈ text, isWordChar c = true) :
    text.all isPlain = true := by
  rw [List.all_eq_true]
  intro c member
  have letter := letters c member
  simp only [isPlain, Bool.and_eq_true, bne_iff_ne]
  refine ⟨⟨?_, ?_⟩, ?_⟩ <;> rintro rfl <;> exact absurd letter (by decide)

/-- What stands in front of the default on the line of a field. -/
def Field.modelFront (field : Field) : String :=
  field.name ++ " " ++ field.type.column.base ++ (if field.optional then "?" else "") ++
    (if field.unique then " @unique" else "") ++ (if field.isId then " @id" else "")

/-- The mark of the database on the line of a field. -/
def Field.modelMark (field : Field) : String :=
  match field.type.column.native with
  | some mark => " " ++ mark
  | none => ""

/-- The default on the line of a field. -/
def Field.modelDefault (field : Field) : String :=
  match field.defaultValue with
  | some value => if value.isEmpty then "" else " @default(" ++ value ++ ")"
  | none => ""

/-- The parts of the line of a field. -/
theorem Field.modelLine_eq (field : Field) :
    field.modelLine = field.modelFront ++ field.modelDefault ++ field.modelMark := rfl

/-- A field that can be written has a line of a body. -/
theorem Field.Writable.bodyLine {field : Field} (writable : field.Writable) :
    BodyLine ("  " ++ field.modelLine).toList := by
  have front : ("  " ++ field.modelFront).toList.all isPlain = true := by
    have name := plain_of_isWordChar (fun c => isWordChar_of_mem (c := c) writable.word)
    have base : field.type.column.base.toList.all isPlain = true := by
      cases field.type <;> decide
    unfold modelFront
    simp only [String.toList_append, List.all_append, name, base, Bool.true_and, Bool.and_true]
    cases field.optional <;> cases field.unique <;> cases field.isId <;> decide
  have mark : field.modelMark.toList.all isPlain = true := by
    unfold modelMark
    cases field.type <;> decide
  have unbroken {text : List Char} (plain : ∀ c ∈ text, isLineBreak c = false) :
      '\n' ∉ text ∧ '\r' ∉ text :=
    ⟨fun member => absurd (plain _ member) (by decide),
      fun member => absurd (plain _ member) (by decide)⟩
  have markLine := bodyLine_of_plain mark
  rw [modelLine_eq]
  unfold modelDefault
  split
  next value found =>
    obtain ⟨some, -, plain⟩ := writable.default value found
    obtain ⟨noFeed, noReturn⟩ := unbroken plain
    rw [if_neg (by simpa using some)]
    have line : ("  " ++ (field.modelFront ++ (" @default(" ++ value ++ ")") ++
        field.modelMark)).toList = (("  " ++ field.modelFront).toList ++ " @default".toList) ++
          '(' :: (value.toList ++ ')' :: field.modelMark.toList) := by
      simp [String.toList_append]
    rw [line]
    refine bodyLine_of_parenthesis ?_ ?_ ?_
    · rw [List.all_append, front]
      decide
    · simp [noFeed, markLine.noFeed]
    · simp [noReturn, markLine.noReturn]
  · refine bodyLine_of_plain ?_
    rw [String.toList_append, String.toList_append, String.toList_append, List.all_append,
      List.all_append, List.all_append, mark]
    rw [String.toList_append, List.all_append] at front
    simpa using front

/-- The name of a relationship has no other characters than the name of its field. -/
theorem mem_of_dropFirstId? {name short : List Char} (dropped : dropFirstId? name = some short)
    {c : Char} (member : c ∈ short) : c ∈ name := by
  fun_induction dropFirstId? name generalizing short with
  | case1 => contradiction
  | case2 rest =>
    obtain rfl := Option.some.inj dropped
    simp [member]
  | case3 d rest _ ih =>
    obtain ⟨shorter, below, rfl⟩ := Option.map_eq_some_iff.mp dropped
    rcases List.mem_cons.mp member with rfl | member
    · exact List.mem_cons_self
    · exact List.mem_cons_of_mem _ (ih below member)

/-- A relationship that a field gives rise to has a line of a body. -/
theorem Field.Writable.relationship_bodyLine {field : Field} (writable : field.Writable)
    {relationship : Relationship} (found : field.relationship? = some relationship) :
    BodyLine ("  " ++ relationship.modelLine).toList := by
  obtain ⟨short, dropped, found⟩ := Option.bind_eq_some_iff.mp found
  obtain ⟨target, targeted, found⟩ := Option.bind_eq_some_iff.mp found
  obtain ⟨cardinality, -, found⟩ := Option.bind_eq_some_iff.mp found
  obtain rfl := Option.some.inj found
  have name : short.all isPlain = true := plain_of_isWordChar fun c member =>
    isWordChar_of_mem writable.word (mem_of_dropFirstId? dropped member)
  have other : target.toList.all isPlain = true := plain_of_isWordChar fun c member =>
    isWordChar_of_mem (writable.target target targeted) member
  refine bodyLine_of_plain ?_
  unfold Relationship.modelLine
  dsimp only
  split
  · simp only [String.toList_append, String.toList_ofList, List.all_append, name, other,
      Bool.true_and, Bool.and_true]
    decide
  · simp only [String.toList_append, String.toList_ofList, List.all_append, name, other,
      Bool.true_and, Bool.and_true]
    split <;> decide

/-- The line of the table is one of a body. -/
theorem Entity.tableLine_bodyLine {entity : Entity} (word : isWord entity.name.toList) :
    BodyLine entity.tableLine.toList := by
  have absent {c : Char} (other : isWordChar c = false) : c ∉ entity.name.toList := fun member =>
    absurd (isWordChar_of_mem word member) (by simp [other])
  have noFeed := Name.notMem_tableName (absent (show isWordChar '\n' = false by decide))
    (by decide) (by decide)
  have noReturn := Name.notMem_tableName (absent (show isWordChar '\r' = false by decide))
    (by decide) (by decide)
  have line : entity.tableLine.toList = "  @@map".toList ++
      '(' :: ('"' :: ((Name.tableName entity.name).toList ++ "\")".toList)) := by
    unfold tableLine
    simp [String.toList_append]
  rw [line]
  refine bodyLine_of_parenthesis (by decide) ?_ ?_
  · simp [noFeed]
  · simp [noReturn]

/-! ### The whole model -/

/-- The lines of a model behind the first. -/
def Entity.bodyLines (entity : Entity) : List String :=
  (entity.fields.map fun field => "  " ++ field.modelLine) ++
    (entity.relationships.map fun relationship => "  " ++ relationship.modelLine) ++
    ["", entity.tableLine, "\x7d"]

/-- Lines with a line feed behind each. -/
theorem intercalate_append_feed {lines : List (List Char)} (some : lines ≠ []) :
    ['\n'].intercalate lines ++ ['\n'] = lines.flatMap (· ++ ['\n']) := by
  induction lines with
  | nil => contradiction
  | cons line lines ih =>
    cases lines with
    | nil => simp
    | cons next lines =>
      have rest := ih (by simp)
      rw [List.intercalate_cons_cons, List.append_assoc, rest]
      simp only [List.flatMap_cons, List.append_assoc]

/-- A model is its first line and the lines of its body. -/
theorem Entity.model_toList (entity : Entity) :
    entity.model.toList =
      (("model ".toList ++ (entity.name.toList ++ [' '])) ++ '\x7b' :: '\n' ::
        (entity.bodyLines.map String.toList).flatMap (· ++ ['\n'])) := by
  have lines : entity.modelLines = entity.modelHeader :: entity.bodyLines := by
    unfold modelLines bodyLines
    simp
  rw [model, String.toList_append, String.toList_intercalate]
  change ['\n'].intercalate _ ++ ['\n'] = _
  rw [intercalate_append_feed (by simp [lines]), lines, List.map_cons, List.flatMap_cons,
    modelHeader]
  simp [String.toList_append]

/-- An entity from a definition has a sheltered body. -/
theorem Entity.Writable.bodyLines {entity : Entity} (writable : entity.Writable)
    (word : isWord entity.name.toList) :
    ∀ line ∈ entity.bodyLines.map String.toList, BodyLine line := by
  intro line member
  obtain ⟨text, inside, rfl⟩ := List.mem_map.mp member
  unfold Entity.bodyLines at inside
  rw [List.mem_append, List.mem_append] at inside
  rcases inside with (ofField | ofRelationship) | last
  · obtain ⟨field, among, rfl⟩ := List.mem_map.mp ofField
    exact (writable.fields field among).bodyLine
  · obtain ⟨relationship, among, rfl⟩ := List.mem_map.mp ofRelationship
    rw [← writable.derived] at among
    obtain ⟨field, inside, found⟩ := List.mem_filterMap.mp among
    exact (writable.fields field inside).relationship_bodyLine found
  · simp only [List.mem_cons, List.not_mem_nil, or_false] at last
    rcases last with rfl | rfl | rfl
    · exact bodyLine_of_plain (by decide)
    · exact entity.tableLine_bodyLine word
    · exact bodyLine_of_plain (by decide)

/-- The line that opens the model of an entity opens it. -/
theorem Entity.opens_modelHeader (entity : Entity) {lines : List Char}
    (whole : lines = [] ∨ lines.getLast? = some '\n') :
    Opens (lines ++ ("model ".toList ++ (entity.name.toList ++ [' ']))) entity.name.toList := by
  refine ⟨lines, [], [' '], [' '], whole, rfl, by simp, by decide, by decide, ?_⟩
  rfl

/-- A model that starts on a line of its own declares its entity. -/
theorem Entity.declares_append_model (entity : Entity) {lines : List Char}
    (whole : lines = [] ∨ lines.getLast? = some '\n') :
    Declares (lines ++ entity.model.toList) entity.name.toList := by
  rw [Entity.model_toList, ← List.append_assoc]
  exact declares_iff.mpr ⟨_, _, rfl, entity.opens_modelHeader whole⟩

/-- The model of an entity from a definition declares the entity and nothing else, whatever lines
stand above it. -/
theorem Entity.Writable.declares_append_model_iff {entity : Entity} (writable : entity.Writable)
    (named : isWord entity.name.toList) {lines : List Char}
    (whole : lines = [] ∨ lines.getLast? = some '\n') {name : List Char} (word : isWord name) :
    Declares (lines ++ entity.model.toList) name ↔
      Declares lines name ∨ name = entity.name.toList := by
  constructor
  · intro declared
    rcases declares_append_iff.mp declared with before | ⟨front, after, same, opens⟩
    · exact .inl before
    have own (same : front = "model ".toList ++ (entity.name.toList ++ [' '])) :
        name = entity.name.toList := by
      rw [same] at opens
      have header := entity.opens_modelHeader whole
      exact (opens.lastWord_eq word).symm.trans (header.lastWord_eq named)
    rw [Entity.model_toList] at same
    rcases List.append_eq_append_iff.mp same with ⟨middle, rfl, rest⟩ | ⟨middle, header, rest⟩
    · cases middle with
      | nil =>
        -- the brace of the first line
        exact .inr (own (List.append_nil _))
      | cons c middle =>
        obtain ⟨rfl, below⟩ := List.cons.inj rest
        cases middle with
        | nil => exact absurd (List.cons.inj below).1 (by decide)
        | cons d middle =>
          -- a brace of the body
          obtain ⟨rfl, body⟩ := List.cons.inj below
          obtain ⟨early, late, rfl, line⟩ :=
            sheltered_lines (writable.bodyLines named) middle after body
          refine absurd opens ?_
          have whole : lines ++ (("model ".toList ++ (entity.name.toList ++ [' '])) ++
              '\x7b' :: '\n' :: (early ++ '(' :: late)) =
                (lines ++ (("model ".toList ++ (entity.name.toList ++ [' '])) ++
                  '\x7b' :: '\n' :: early)) ++ '(' :: late := by
            simp
          rw [whole]
          exact not_opens_of_parenthesis line word
    · -- no brace stands in front of that of the first line
      cases middle with
      | nil => exact .inr (own (by rw [header, List.append_nil]))
      | cons c middle =>
        obtain ⟨rfl, -⟩ := List.cons.inj rest
        have plain := plain_of_isWordChar fun c => isWordChar_of_mem (c := c) named
        have brace : '\x7b' ∈ "model ".toList ++ (entity.name.toList ++ [' ']) := by
          rw [header]
          simp
        rw [List.mem_append, List.mem_append] at brace
        rcases brace with first | name | last
        · exact absurd first (by decide)
        · exact absurd (List.all_eq_true.mp plain _ name) (by decide)
        · exact absurd last (by decide)
  · rintro (before | rfl)
    · exact before.append _
    · exact entity.declares_append_model whole

/-- A schema has a model of a name exactly if, at the start of one of its lines, blanks, the word
`model`, at least one blank, the name, blanks and an opening brace follow on each other. So the
model of an entity that was put behind whole lines is there, whatever the entity. -/
theorem hasModel_iff_exists (schema name : String) :
    (hasModel schema name = true ↔
      ∃ before blanks gap space after : String,
        (before = "" ∨ before.toList.getLast? = some '\n') ∧ isBlankText blanks.toList = true ∧
        gap ≠ "" ∧ isBlankText gap.toList = true ∧ isBlankText space.toList = true ∧
        schema = before ++ blanks ++ "model" ++ gap ++ name ++ space ++ "\x7b" ++ after) ∧
    ((schema = "" ∨ schema.toList.getLast? = some '\n') →
      ∀ entity : Entity, hasModel (schema ++ entity.model) entity.name = true) := by
  constructor
  · exact hasModel_iff.trans declares_toList_iff
  · intro whole entity
    have lines : schema.toList = [] ∨ schema.toList.getLast? = some '\n' := by
      rwa [String.toList_eq_nil_iff]
    have declared : Declares (schema.toList ++ entity.model.toList) entity.name.toList :=
      entity.declares_append_model lines
    rw [hasModel_iff, String.toList_append]
    exact declared

/-- The name may start with a line feed, which is then none of the blanks in front of it. -/
example : hasModel "enum E \x7b\x7d\n\tmodel \n\nUser \x7b" "\nUser" = true := by
  decide +kernel

end CrudScaffold
