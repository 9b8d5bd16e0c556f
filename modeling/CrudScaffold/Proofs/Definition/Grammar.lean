import CrudScaffold.Proofs.Definition.FieldLine
import CrudScaffold.Proofs.Definition.Row

/-!
# The grammar of a field line

A field line is a word, a colon, a known type, perhaps a question mark, and a row whose segments are
the written forms of modifiers (`Field.DeclaredBy`). A line that is none is refused for the first of
five reasons (`Field.Refused`): its form, its type, text before the first segment, or the first
segment that is no modifier, where a relation is told apart from everything else. One of the two
holds of every line, and reading tells which (`Field.parse_complete`).
-/

namespace CrudScaffold

open Text

/-- A text with blanks around it. -/
def Spaced (text whole : List Char) : Prop :=
  ∃ before after, whole = before ++ text ++ after ∧ isBlankText before ∧ isBlankText after

/-- The text of the arguments of a relation: a word and the name of a cardinality, with a comma
between them and blanks around both. -/
structure RelationText (target : String) (cardinality : Cardinality) (arguments : List Char) :
    Prop where
  /-- The target is a word. -/
  word : isWord target.toList
  /-- The two stand left and right of a comma. -/
  sides : ∃ left right, arguments = left ++ ',' :: right ∧ Spaced target.toList left ∧
    Spaced cardinality.token.toList right

/-- The written forms of a modifier. -/
inductive Modifier.WrittenAs : Modifier → List Char → Prop
  | unique : WrittenAs .unique "@unique".toList
  | id : WrittenAs .id "@id".toList
  | default {gap : List Char} (value : String) (blank : isBlankText gap) :
      WrittenAs (.default value) ("@default".toList ++ (gap ++ '(' :: (value.toList ++ [')'])))
  | relation {gap arguments : List Char} {target : String} {cardinality : Cardinality}
      (blank : isBlankText gap) (inside : RelationText target cardinality arguments) :
      WrittenAs (.relation target cardinality)
        ("@relation".toList ++ (gap ++ '(' :: (arguments ++ [')'])))

/-- The word behind the `@` of a segment is a given one. -/
def NamedBy (word : String) (segment : List Char) : Prop :=
  ∃ rest, segment = '@' :: (word.toList ++ rest) ∧
    ∀ c more, rest = c :: more → isWordChar c = false

/-- Trimming removes the blanks around a trimmed text. -/
theorem Spaced.trim {text whole : List Char} (spaced : Spaced text whole)
    (trimmed : Text.trim text = text) : Text.trim whole = text := by
  obtain ⟨before, after, rfl, front, back⟩ := spaced
  rw [trim_append_blank back, trim_blank_append front, trimmed]

/-- A text stands between blanks in every text that trims to it. -/
theorem Spaced.of_trim (whole : List Char) : Spaced (Text.trim whole) whole :=
  exists_trim whole

/-- A character other than a blank stands in a text with blanks around it only if it stands in the
text. -/
theorem Spaced.mem {text whole : List Char} (spaced : Spaced text whole) {c : Char}
    (solid : isBlank c = false) (member : c ∈ whole) : c ∈ text := by
  obtain ⟨before, after, rfl, front, back⟩ := spaced
  have absent {gap : List Char} (blank : isBlankText gap) : c ∉ gap := fun inside => by
    rw [List.all_eq_true.mp blank c inside] at solid
    contradiction
  rcases List.mem_append.mp member with inside | behind
  · exact (List.mem_append.mp inside).resolve_left (absent front)
  · exact absurd behind (absent back)

/-- The name of a cardinality is the only one that names it. -/
theorem Cardinality.ofToken?_eq_some_iff {name : String} {cardinality : Cardinality} :
    Cardinality.ofToken? name = some cardinality ↔ name = cardinality.token := by
  constructor
  · intro found
    have same := List.find?_some found
    exact (beq_iff_eq.mp same).symm
  · rintro rfl
    exact Cardinality.ofToken?_token cardinality

/-- The arguments of a relation are found exactly in their text. -/
theorem relationArguments?_eq_some_iff {arguments : List Char} {target : String}
    {cardinality : Cardinality} :
    relationArguments? arguments = some (target, cardinality) ↔
      RelationText target cardinality arguments := by
  constructor
  · intro found
    refine ⟨isWord_of_relationArguments? found, ?_⟩
    unfold relationArguments? at found
    split at found
    · rename_i first second pieces
      split at found
      · obtain ⟨kind, known, same⟩ := Option.map_eq_some_iff.mp found
        obtain ⟨rfl, rfl⟩ := Prod.mk.inj same
        have token := Cardinality.ofToken?_eq_some_iff.mp known
        obtain ⟨left, others, cut, rfl, rest⟩ := List.map_eq_cons_iff.mp pieces
        obtain ⟨right, rfl, rfl⟩ := List.map_eq_singleton_iff.mp rest
        refine ⟨left, right, ?_, ?_, ?_⟩
        · have whole : [','].intercalate (arguments.splitOn ',') = arguments :=
            List.intercalate_splitOn ','
          rw [cut] at whole
          simpa [List.intercalate] using whole.symm
        · rw [String.toList_ofList]
          exact .of_trim left
        · rw [← token, String.toList_ofList]
          exact .of_trim right
      · contradiction
    · contradiction
  · rintro ⟨word, left, right, rfl, first, second⟩
    have comma : ',' ∉ left := fun member => by
      have := isWordChar_of_mem word (first.mem (by decide) member)
      revert this
      decide
    have comma' : ',' ∉ right := fun member =>
      cardinality.token_chars.1 (second.mem (by decide) member)
    have pieces : (left ++ ',' :: right).splitOn ',' = [left, right] := by
      rw [List.splitOn_append_cons_self, List.splitOn_eq_singleton comma,
        List.splitOn_eq_singleton comma']
      rfl
    rw [relationArguments?, pieces, List.map_cons, List.map_singleton,
      first.trim (trim_wordChars fun c member => isWordChar_of_mem word member),
      second.trim cardinality.token_chars.2]
    simp [word, Cardinality.ofToken?_token]

/-- A text in parentheses, with blanks in front, is trimmed to the two parentheses and the text
between them. -/
theorem parenthesized?_trim {gap : List Char} (blank : isBlankText gap) (value : List Char) :
    parenthesized? (trim (gap ++ '(' :: (value ++ [')']))) = some value := by
  rw [trim_blank_append blank, trim_parenthesized]
  exact parenthesized?_eq_some_iff.mpr rfl

/-- Parentheses behind blanks do not start with a word character. -/
theorem not_isWordChar_of_gap {gap : List Char} (blank : isBlankText gap) (rest : List Char) :
    ∀ c more, gap ++ '(' :: rest = c :: more → isWordChar c = false := by
  intro c more same
  cases gap with
  | nil =>
    obtain ⟨rfl, -⟩ := List.cons.inj same
    decide
  | cons d gap =>
    obtain ⟨rfl, -⟩ := List.cons.inj same
    rw [isBlankText_cons, Bool.and_eq_true] at blank
    exact isWordChar_of_isBlank blank.1

/-- A written form of a modifier is read as the modifier. -/
theorem Modifier.WrittenAs.parse {modifier : Modifier} {segment : List Char}
    (written : modifier.WrittenAs segment) (line : List Char) :
    Modifier.parse line segment = .ok modifier := by
  refine Modifier.parse_eq_ok_iff.mpr ?_
  cases written with
  | unique => exact ⟨_, rfl, by decide, by decide⟩
  | id => exact ⟨_, rfl, by decide, by decide⟩
  | @default gap value blank =>
    have read : takeWord ("default".toList ++ (gap ++ '(' :: (value.toList ++ [')']))) = _ :=
      takeWord_wordChars_append (fun _ => isWordChar_of_mem (by decide))
        (not_isWordChar_of_gap blank _)
    refine ⟨"default".toList ++ (gap ++ '(' :: (value.toList ++ [')'])), rfl,
      congrArg Prod.fst read, ?_⟩
    rw [read]
    exact parenthesized?_trim blank _
  | @relation gap arguments target cardinality blank inside =>
    have read : takeWord ("relation".toList ++ (gap ++ '(' :: (arguments ++ [')']))) = _ :=
      takeWord_wordChars_append (fun _ => isWordChar_of_mem (by decide))
        (not_isWordChar_of_gap blank _)
    refine ⟨"relation".toList ++ (gap ++ '(' :: (arguments ++ [')'])), rfl,
      congrArg Prod.fst read, ?_⟩
    rw [read, parenthesized?_trim blank]
    exact relationArguments?_eq_some_iff.mpr inside

/-- The text behind a word of a trimmed segment, if it trims to a text in parentheses. -/
theorem exists_gap_of_parenthesized? {front tail value : List Char}
    (trimmed : trim (front ++ tail) = front ++ tail)
    (inside : parenthesized? (trim tail) = some value) :
    ∃ gap, tail = gap ++ '(' :: (value ++ [')']) ∧ isBlankText gap := by
  obtain ⟨gap, after, parts, blank, behind⟩ := exists_trim tail
  rw [parenthesized?_eq_some_iff.mp inside] at parts
  rw [parts, ← List.append_assoc] at trimmed
  obtain rfl := eq_nil_of_trim_append behind trimmed
  exact ⟨gap, by rw [parts, List.append_nil], blank⟩

/-- A trimmed segment that is read as a modifier is a written form of it. -/
theorem Modifier.writtenAs_of_parse {line segment : List Char} {modifier : Modifier}
    (trimmed : trim segment = segment) (read : Modifier.parse line segment = .ok modifier) :
    modifier.WrittenAs segment := by
  obtain ⟨rest, rfl, told⟩ := Modifier.parse_eq_ok_iff.mp read
  obtain ⟨name, tail, cut⟩ : ∃ name tail, takeWord rest = (name, tail) := ⟨_, _, rfl⟩
  obtain ⟨rfl, -⟩ := takeWord_eq_iff.mp cut
  rw [← List.cons_append] at trimmed
  cases modifier with
  | unique =>
    simp only [Modifier.Reads, cut] at told
    obtain ⟨rfl, blank⟩ := told
    obtain rfl := eq_nil_of_trim_append (trim_eq_nil_iff.mp blank) trimmed
    exact .unique
  | id =>
    simp only [Modifier.Reads, cut] at told
    obtain ⟨rfl, blank⟩ := told
    obtain rfl := eq_nil_of_trim_append (trim_eq_nil_iff.mp blank) trimmed
    exact .id
  | default value =>
    simp only [Modifier.Reads, cut] at told
    obtain ⟨rfl, inside⟩ := told
    obtain ⟨gap, rfl, blank⟩ := exists_gap_of_parenthesized? trimmed inside
    exact .default value blank
  | relation target cardinality =>
    simp only [Modifier.Reads, cut] at told
    obtain ⟨rfl, found⟩ := told
    obtain ⟨arguments, inside, known⟩ := Option.bind_eq_some_iff.mp found
    obtain ⟨gap, rfl, blank⟩ := exists_gap_of_parenthesized? trimmed inside
    exact .relation blank (relationArguments?_eq_some_iff.mp known)

/-- A text behind an `@` that is no modifier is a fault of the segment if it is called a relation
and a fault of the line otherwise. -/
theorem Modifier.fault_of_parse {line rest : List Char} {fault : DefinitionFault}
    (refused : Modifier.parse line ('@' :: rest) = .error fault) :
    fault = if (takeWord rest).1 = "relation".toList then .relation (String.ofList ('@' :: rest))
      else .fieldFormat (String.ofList line) := by
  obtain ⟨name, tail, cut⟩ : ∃ name tail, takeWord rest = (name, tail) := ⟨_, _, rfl⟩
  simp only [Modifier.parse, cut] at refused ⊢
  split at refused
  · cases refused
  · split at refused
    · cases refused
    · split at refused
      · rename_i named
        split at refused
        · cases refused
        · rw [named, if_neg (by decide)]
          exact (Except.error.inj refused).symm
      · split at refused
        · rename_i named
          split at refused
          · cases refused
          · rw [if_pos named]
            exact (Except.error.inj refused).symm
        · rename_i other
          rw [if_neg other]
          exact (Except.error.inj refused).symm

/-- The word behind the `@` of a segment is the one that is taken from it. -/
theorem namedBy_iff {word : String} (chars : ∀ c ∈ word.toList, isWordChar c) {rest : List Char} :
    NamedBy word ('@' :: rest) ↔ (takeWord rest).1 = word.toList := by
  constructor
  · rintro ⟨tail, same, stop⟩
    obtain rfl := (List.cons.inj same).2
    rw [takeWord_wordChars_append chars stop]
  · intro named
    obtain ⟨whole, -, stop⟩ := takeWord_eq_iff.mp (Prod.ext named rfl)
    exact ⟨_, congrArg _ whole, stop⟩

/-- A segment of a row that is no modifier. -/
def Unwritten (segment : List Char) : Prop := ∀ modifier : Modifier, ¬modifier.WrittenAs segment

/-- A segment that is no modifier is refused with a fault that its name decides. -/
theorem Unwritten.parse {segment : List Char} (unwritten : Unwritten segment)
    (started : ∃ body, segment = '@' :: body) (trimmed : trim segment = segment)
    (line : List Char) :
    (NamedBy "relation" segment →
      Modifier.parse line segment = .error (.relation (String.ofList segment))) ∧
    (¬NamedBy "relation" segment →
      Modifier.parse line segment = .error (.fieldFormat (String.ofList line))) := by
  obtain ⟨body, rfl⟩ := started
  cases read : Modifier.parse line ('@' :: body) with
  | ok modifier => exact absurd (Modifier.writtenAs_of_parse trimmed read) (unwritten modifier)
  | error fault =>
    obtain rfl := Modifier.fault_of_parse read
    rw [namedBy_iff fun _ => isWordChar_of_mem (by decide)]
    exact ⟨fun named => by rw [if_pos named], fun other => by rw [if_neg other]⟩

/-- The parts of a line whose type is known. -/
structure FieldLine.Typed (parts : FieldLine) (type : FieldType) (line : List Char) : Prop where
  /-- The line has the form of a field declaration. -/
  isOf : parts.IsOf line
  /-- The word in the place of the type is the name of a type. -/
  known : String.ofList parts.type = type.token

/-- A line declares a field: it is made of a name, a known type and a row of modifiers, and the
field is what they say. -/
def Field.DeclaredBy (line : List Char) (field : Field) : Prop :=
  ∃ (parts : FieldLine) (type : FieldType) (pieces : List (List Char))
    (modifiers : List Modifier), parts.Typed type line ∧ Row parts.row pieces ∧
    List.Forall₂ (fun piece modifier => modifier.WrittenAs piece) pieces modifiers ∧
    field = modifiers.foldl Field.apply
      { name := String.ofList parts.name, type, optional := parts.optional }

/-- Why a line is refused. -/
inductive Field.Refused (line : List Char) : DefinitionFault → Prop
  /-- The line has not the form of a field declaration. -/
  | form (formless : ∀ parts : FieldLine, ¬parts.IsOf line) :
      Refused line (.fieldFormat (String.ofList line))
  /-- There is no such type. -/
  | type {parts : FieldLine} (isOf : parts.IsOf line)
      (unknown : ∀ type : FieldType, String.ofList parts.type ≠ type.token) :
      Refused line (.fieldType (String.ofList parts.type) (String.ofList line))
  /-- Something stands before the first segment. -/
  | stray {parts : FieldLine} {type : FieldType} (typed : parts.Typed type line)
      (stray : Stray parts.row) : Refused line (.fieldFormat (String.ofList line))
  /-- The first segment that is no modifier is not called a relation. -/
  | modifier {parts : FieldLine} {type : FieldType} {before later : List (List Char)}
      {segment : List Char} (typed : parts.Typed type line)
      (row : Row parts.row (before ++ segment :: later))
      (each : ∀ piece ∈ before, ∃ modifier : Modifier, modifier.WrittenAs piece)
      (unwritten : Unwritten segment) (other : ¬NamedBy "relation" segment) :
      Refused line (.fieldFormat (String.ofList line))
  /-- The first segment that is no modifier is called a relation. -/
  | relation {parts : FieldLine} {type : FieldType} {before later : List (List Char)}
      {segment : List Char} (typed : parts.Typed type line)
      (row : Row parts.row (before ++ segment :: later))
      (each : ∀ piece ∈ before, ∃ modifier : Modifier, modifier.WrittenAs piece)
      (unwritten : Unwritten segment) (named : NamedBy "relation" segment) :
      Refused line (.relation (String.ofList segment))

/-- The name of a type is the only one that names it. -/
theorem FieldType.ofToken?_eq_some_iff {name : String} {type : FieldType} :
    FieldType.ofToken? name = some type ↔ name = type.token := by
  constructor
  · intro found
    have same := List.find?_some found
    exact (beq_iff_eq.mp same).symm
  · rintro rfl
    exact FieldType.ofToken?_token type

/-- With a known type the modifiers decide what a line is read as. -/
theorem FieldLine.Typed.parseChars {parts : FieldLine} {type : FieldType} {line : List Char}
    (typed : parts.Typed type line) :
    Field.parseChars line = ((segments parts.row).mapM (Modifier.parse line)).map fun modifiers =>
      modifiers.foldl Field.apply
        { name := String.ofList parts.name, type, optional := parts.optional } := by
  unfold Field.parseChars
  rw [typed.isOf.split?]
  dsimp only
  rw [FieldType.ofToken?_eq_some_iff.mpr typed.known]
  cases (segments parts.row).mapM (Modifier.parse line) <;> rfl

/-- A declared field is read. -/
theorem Field.DeclaredBy.parseChars {line : List Char} {field : Field}
    (declared : Field.DeclaredBy line field) : Field.parseChars line = .ok field := by
  obtain ⟨parts, type, pieces, modifiers, typed, row, each, rfl⟩ := declared
  have read : pieces.mapM (Modifier.parse line) = .ok modifiers :=
    mapM_eq_ok_iff.mpr (each.imp fun piece modifier written => written.parse line)
  rw [typed.parseChars, row.segments, read]
  rfl

/-- The first segment that is no modifier decides what a line with a known type is refused with. -/
theorem FieldLine.Typed.parseChars_eq_error {parts : FieldLine} {type : FieldType}
    {line segment : List Char} {before later : List (List Char)} {fault : DefinitionFault}
    (typed : parts.Typed type line) (cut : segments parts.row = before ++ segment :: later)
    (each : ∀ piece ∈ before, ∃ modifier : Modifier, modifier.WrittenAs piece)
    (refused : Modifier.parse line segment = .error fault) :
    Field.parseChars line = .error fault := by
  have stop : (segments parts.row).mapM (Modifier.parse line) = .error fault :=
    mapM_eq_error_iff.mpr ⟨before, segment, later, cut, fun piece member =>
      (each piece member).imp fun modifier written => written.parse line, refused⟩
  rw [typed.parseChars, stop]
  rfl

/-- A line is refused for the reason that holds of it. -/
theorem Field.Refused.parseChars {line : List Char} {fault : DefinitionFault}
    (refused : Field.Refused line fault) : Field.parseChars line = .error fault := by
  cases refused with
  | form formless =>
    have none : FieldLine.split? line = none := by
      cases found : FieldLine.split? line with
      | none => rfl
      | some parts => exact absurd (FieldLine.isOf_of_split? found) (formless parts)
    unfold Field.parseChars
    rw [none]
    rfl
  | @type parts isOf unknown =>
    have none : FieldType.ofToken? (String.ofList parts.type) = none := by
      cases found : FieldType.ofToken? (String.ofList parts.type) with
      | none => rfl
      | some type => exact absurd (FieldType.ofToken?_eq_some_iff.mp found) (unknown type)
    unfold Field.parseChars
    rw [isOf.split?]
    dsimp only
    rw [none]
    rfl
  | stray typed stray =>
    obtain ⟨c, rest, later, cut, other⟩ := stray.segments
    have refused : Modifier.parse line (c :: rest) =
        .error (.fieldFormat (String.ofList line)) := by
      unfold Modifier.parse
      dsimp only
      split
      · rename_i same
        exact absurd (List.cons.inj same).1 other
      · rfl
    rw [← List.nil_append (_ :: later)] at cut
    exact typed.parseChars_eq_error cut (List.forall_mem_nil _) refused
  | modifier typed row each unwritten other =>
    obtain ⟨body, started, trimmed⟩ :=
      row.exists_of_mem (List.mem_append_right _ List.mem_cons_self)
    exact typed.parseChars_eq_error row.segments each
      ((unwritten.parse ⟨body, started⟩ trimmed line).2 other)
  | relation typed row each unwritten named =>
    obtain ⟨body, started, trimmed⟩ :=
      row.exists_of_mem (List.mem_append_right _ List.mem_cons_self)
    exact typed.parseChars_eq_error row.segments each
      ((unwritten.parse ⟨body, started⟩ trimmed line).1 named)

/-- The segments of a row are modifiers, or there is a first that is none. -/
theorem written_or_unwritten (pieces : List (List Char)) :
    (∃ modifiers, List.Forall₂ (fun piece modifier => Modifier.WrittenAs modifier piece) pieces
      modifiers) ∨
    ∃ before segment later, pieces = before ++ segment :: later ∧
      (∀ piece ∈ before, ∃ modifier : Modifier, modifier.WrittenAs piece) ∧
      Unwritten segment := by
  induction pieces with
  | nil => exact .inl ⟨[], .nil⟩
  | cons piece pieces ih =>
    by_cases written : ∃ modifier : Modifier, modifier.WrittenAs piece
    · obtain ⟨modifier, first⟩ := written
      rcases ih with ⟨modifiers, others⟩ | ⟨before, segment, later, rfl, each, unwritten⟩
      · exact .inl ⟨modifier :: modifiers, .cons first others⟩
      · exact .inr ⟨piece :: before, segment, later, rfl,
          List.forall_mem_cons.mpr ⟨⟨modifier, first⟩, each⟩, unwritten⟩
    · exact .inr ⟨[], piece, pieces, rfl, List.forall_mem_nil _, not_exists.mp written⟩

/-- Every line declares a field or is refused for a reason. -/
theorem Field.declaredBy_or_refused (line : List Char) :
    (∃ field, Field.DeclaredBy line field) ∨ ∃ fault, Field.Refused line fault := by
  by_cases formed : ∃ parts : FieldLine, parts.IsOf line
  · obtain ⟨parts, isOf⟩ := formed
    by_cases known : ∃ type : FieldType, String.ofList parts.type = type.token
    · obtain ⟨type, known⟩ := known
      have typed : parts.Typed type line := ⟨isOf, known⟩
      rcases row_or_stray parts.row with ⟨pieces, row⟩ | stray
      · rcases written_or_unwritten pieces with
          ⟨modifiers, each⟩ | ⟨before, segment, later, rfl, each, unwritten⟩
        · exact .inl ⟨_, parts, type, pieces, modifiers, typed, row, each, rfl⟩
        · by_cases named : NamedBy "relation" segment
          · exact .inr ⟨_, .relation typed row each unwritten named⟩
          · exact .inr ⟨_, .modifier typed row each unwritten named⟩
      · exact .inr ⟨_, .stray typed stray⟩
    · exact .inr ⟨_, .type isOf (not_exists.mp known)⟩
  · exact .inr ⟨_, .form (not_exists.mp formed)⟩

/-- A line is read as a field exactly when it declares the field, and it is refused with a fault
exactly for the reason that the fault stands for. -/
theorem Field.parse_complete (line : String) :
    (∀ field, Field.parse line = .ok field ↔ Field.DeclaredBy line.toList field) ∧
    (∀ fault, Field.parse line = .error fault ↔ Field.Refused line.toList fault) := by
  constructor
  · intro field
    refine ⟨fun read => ?_, fun declared => declared.parseChars⟩
    rcases Field.declaredBy_or_refused line.toList with ⟨other, declared⟩ | ⟨fault, refused⟩
    · have same := read.symm.trans declared.parseChars
      exact Except.ok.inj same ▸ declared
    · exact absurd (read.symm.trans refused.parseChars) (by simp)
  · intro fault
    refine ⟨fun read => ?_, fun refused => refused.parseChars⟩
    rcases Field.declaredBy_or_refused line.toList with ⟨field, declared⟩ | ⟨other, refused⟩
    · exact absurd (read.symm.trans declared.parseChars) (by simp)
    · have same := read.symm.trans refused.parseChars
      exact Except.error.inj same ▸ refused

end CrudScaffold
