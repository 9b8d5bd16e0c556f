import CrudScaffold.Definition.FieldList
import CrudScaffold.Proofs.Definition.Content
import CrudScaffold.Proofs.Definition.Modifier
import CrudScaffold.Proofs.Traversal

/-!
# Reading and writing one field

A field line is a word, a colon, a type, perhaps a question mark, and a row of modifiers. Every
field that was read can be written (`Field.writable_of_parseChars`), and every field that can be
written is read back from its line (`Field.Writable.parseChars`). The default stands last on that
line, since it may leave a quote or a parenthesis open.
-/

namespace CrudScaffold

open Text

/-- A text without line breaks that has no blanks at its ends. -/
structure LinePiece (text : List Char) : Prop where
  /-- The ends are not blank. -/
  trimmed : trim text = text
  /-- No character breaks the line. -/
  unbroken : ∀ c ∈ text, isLineBreak c = false

/-- A trimmed text is a piece of a line if a search finds no line break in it. -/
theorem LinePiece.of_any {text : List Char} (trimmed : trim text = text)
    (none : text.any isLineBreak = false) : LinePiece text :=
  ⟨trimmed, unbroken_of_any none⟩

/-- The empty text is a piece of a line. -/
theorem LinePiece.nil : LinePiece [] := ⟨rfl, fun _ member => absurd member List.not_mem_nil⟩

/-- Two pieces of a line behind each other are one. -/
theorem LinePiece.append {left right : List Char} (first : LinePiece left)
    (second : LinePiece right) : LinePiece (left ++ right) :=
  ⟨trim_append first.trimmed second.trimmed, fun c member =>
    (List.mem_append.mp member).elim (first.unbroken c) (second.unbroken c)⟩

/-- Pieces of a line behind each other are one. -/
theorem LinePiece.flatten {pieces : List (List Char)} (all : ∀ piece ∈ pieces, LinePiece piece) :
    LinePiece pieces.flatten := by
  induction pieces with
  | nil => exact .nil
  | cons piece pieces ih =>
    obtain ⟨first, others⟩ := List.forall_mem_cons.mp all
    exact first.append (ih others)

/-- A word is a piece of a line. -/
theorem LinePiece.word {text : List Char} (word : ∀ c ∈ text, isWordChar c) : LinePiece text :=
  ⟨trim_wordChars word, fun c member => isLineBreak_of_isWordChar (word c member)⟩

/-- No word character is a mark. -/
theorem isMark_of_isWordChar {c : Char} (word : isWordChar c) : Nesting.isMark c = false := by
  by_contra other
  have mark : Nesting.isMark c = true := by simpa using other
  simp only [Nesting.isMark, Bool.or_eq_true, beq_iff_eq] at mark
  rcases mark with ((rfl | rfl) | rfl) | rfl <;> revert word <;> decide

/-- The text inside the parentheses of a relation holds neither a mark nor an `@`, and no line
break. -/
theorem relationArguments_chars {target : List Char} (word : isWord target)
    (cardinality : Cardinality) : ∀ c ∈ target ++ ',' :: cardinality.token.toList,
      Nesting.isMark c = false ∧ c ≠ '@' ∧ isLineBreak c = false := by
  have token : (',' :: cardinality.token.toList).all
      (fun c => !Nesting.isMark c && (c != '@' && !isLineBreak c)) = true := by
    cases cardinality <;> decide
  intro c member
  rcases List.mem_append.mp member with inside | after
  · have char := isWordChar_of_mem word inside
    refine ⟨isMark_of_isWordChar char, ?_, isLineBreak_of_isWordChar char⟩
    rintro rfl
    revert char
    decide
  · simpa using List.all_eq_true.mp token c after

/-- A modifier other than a default is quiet and closes what it opens. -/
theorem Modifier.body_closed {modifier : Modifier} (writable : modifier.Writable)
    (other : ∀ value, modifier ≠ .default value) :
    Nesting.outside.quiet modifier.body = true ∧ Nesting.outside.run modifier.body = .outside := by
  cases modifier with
  | unique => decide
  | id => decide
  | default value => exact absurd rfl (other value)
  | relation target cardinality =>
    have chars := relationArguments_chars writable cardinality
    have opened : Nesting.outside.run "relation(".toList = ⟨1, none⟩ := by decide
    have inside : Nesting.run ⟨1, none⟩ (target.toList ++ ',' :: cardinality.token.toList) =
        ⟨1, none⟩ := Nesting.run_of_not_mark fun c member => (chars c member).1
    have parts : (Modifier.relation target cardinality).body =
        "relation(".toList ++ ((target.toList ++ ',' :: cardinality.token.toList) ++ [')']) := rfl
    constructor
    · rw [parts, Nesting.quiet_append, Nesting.quiet_append, opened, inside,
        Nesting.quiet_of_not_at fun member => (chars _ member).2.1 rfl]
      decide
    · rw [parts, Nesting.run_append, Nesting.run_append, opened, inside]
      rfl

/-- A written modifier is quiet, whatever a default leaves open. -/
theorem Modifier.body_quiet {modifier : Modifier} (writable : modifier.Writable) :
    Nesting.outside.quiet modifier.body = true := by
  by_cases other : ∀ value, modifier ≠ .default value
  · exact (Modifier.body_closed writable other).1
  · obtain ⟨value, rfl⟩ : ∃ value, modifier = .default value := by simpa using other
    have opened : Nesting.outside.run "default(".toList = ⟨1, none⟩ := by decide
    have closing : (Nesting.run ⟨1, none⟩ value.toList).quiet [')'] = true :=
      Nesting.quiet_of_not_at (by decide)
    have parts : (Modifier.default value).body = "default(".toList ++ (value.toList ++ [')']) := rfl
    rw [parts, Nesting.quiet_append, Nesting.quiet_append, opened, writable.1, closing]
    decide

/-- A written modifier is a piece of a line. -/
theorem Modifier.linePiece_body {modifier : Modifier} (writable : modifier.Writable) :
    LinePiece ('@' :: modifier.body) := by
  have arguments {value : List Char} (unbroken : ∀ c ∈ value, isLineBreak c = false) :
      LinePiece ('(' :: (value ++ [')'])) := by
    refine ⟨trim_parenthesized value, ?_⟩
    simp only [List.mem_cons, List.mem_append, List.not_mem_nil, or_false]
    rintro c (rfl | inside | rfl)
    · decide
    · exact unbroken c inside
    · decide
  cases modifier with
  | unique => exact .of_any (by decide) (by decide)
  | id => exact .of_any (by decide) (by decide)
  | default value =>
    have word : LinePiece "@default".toList := .of_any (by decide) (by decide)
    exact word.append (arguments writable.2)
  | relation target cardinality =>
    have word : LinePiece "@relation".toList := .of_any (by decide) (by decide)
    exact word.append
      (arguments fun c member => (relationArguments_chars writable cardinality c member).2.2)

/-- A text is a single line if it holds no line feed, or only one at its end, which is no part of
the line. -/
theorem singleLine?_eq_some_iff {text line : List Char} :
    singleLine? text = some line ↔ '\n' ∉ line ∧ (text = line ∨ text = line ++ ['\n']) := by
  have feed {left right : List Char} (same : left ++ ['\n'] = right) : '\n' ∈ right :=
    same ▸ List.mem_append_right left List.mem_cons_self
  unfold singleLine?
  split
  · rename_i last
    obtain ⟨front, rfl⟩ := List.getLast?_eq_some_iff.mp last
    rw [List.dropLast_concat]
    constructor
    · intro found
      split at found
      · contradiction
      · rename_i unbroken
        obtain rfl := Option.some.inj found
        exact ⟨by simpa using unbroken, .inr rfl⟩
    · rintro ⟨unbroken, same | same⟩
      · exact absurd (feed same) unbroken
      · obtain rfl := List.append_cancel_right same
        rw [if_neg (by simpa using unbroken)]
  · rename_i other
    constructor
    · intro found
      split at found
      · contradiction
      · rename_i unbroken
        obtain rfl := Option.some.inj found
        exact ⟨by simpa using unbroken, .inl rfl⟩
    · rintro ⟨unbroken, rfl | rfl⟩
      · rw [if_neg (by simpa using unbroken)]
      · exact absurd List.getLast?_concat other

/-- The question mark of a field that may be absent. -/
def optionalMark (optional : Bool) : List Char := if optional then ['?'] else []

/-- The text of the parts of a field line. -/
def FieldLine.text (parts : FieldLine) : List Char :=
  parts.name ++ ':' :: (parts.type ++ (optionalMark parts.optional ++ parts.row))

/-- A line has the form of a field declaration with these parts. -/
structure FieldLine.IsOf (parts : FieldLine) (line : List Char) : Prop where
  /-- The name is a word. -/
  name : isWord parts.name
  /-- What stands in the place of the type is a word. -/
  type : isWord parts.type
  /-- The row stays on one line. -/
  unbroken : '\n' ∉ parts.row
  /-- The type is as long as it can be, and a question mark behind it is no part of the row. -/
  longest : parts.optional = false →
    ∀ c rest, parts.row = c :: rest → isWordChar c = false ∧ c ≠ '?'
  /-- The line is made of its parts; one line feed may end it. -/
  whole : line = parts.text ∨ line = parts.text ++ ['\n']

/-- The parts that are found are those of the line. -/
theorem FieldLine.isOf_of_split? {line : List Char} {parts : FieldLine}
    (found : FieldLine.split? line = some parts) : parts.IsOf line := by
  obtain ⟨name, behind, first⟩ : ∃ name behind, takeWord line = (name, behind) := ⟨_, _, rfl⟩
  obtain ⟨rfl, named, -⟩ := takeWord_eq_iff.mp first
  simp only [FieldLine.split?, first] at found
  split at found
  · rename_i rest
    obtain ⟨type, tail, second⟩ : ∃ type tail, takeWord rest = (type, tail) := ⟨_, _, rfl⟩
    obtain ⟨rfl, typed, stop⟩ := takeWord_eq_iff.mp second
    simp only [second] at found
    split at found
    · contradiction
    · rename_i some
      simp only [Bool.or_eq_true, List.isEmpty_iff, not_or] at some
      have name_word := isWord_iff.mpr ⟨some.1, named⟩
      have type_word := isWord_iff.mpr ⟨some.2, typed⟩
      split at found
      · rename_i behind
        obtain ⟨row, single, rfl⟩ := Option.map_eq_some_iff.mp found
        obtain ⟨unbroken, same⟩ := singleLine?_eq_some_iff.mp single
        refine ⟨name_word, type_word, unbroken, fun absent => Bool.noConfusion absent, ?_⟩
        rcases same with rfl | rfl
        · exact .inl rfl
        · exact .inr (by simp [FieldLine.text, optionalMark])
      · rename_i unmarked
        obtain ⟨row, single, rfl⟩ := Option.map_eq_some_iff.mp found
        obtain ⟨unbroken, same⟩ := singleLine?_eq_some_iff.mp single
        refine ⟨name_word, type_word, unbroken, ?_, ?_⟩
        · rintro - c more rfl
          rcases same with rfl | rfl
          · exact ⟨stop c more rfl, fun mark => unmarked more (by rw [mark])⟩
          · exact ⟨stop c _ rfl, fun mark => unmarked _ (by rw [mark]; rfl)⟩
        · rcases same with rfl | rfl
          · exact .inl rfl
          · exact .inr (by simp [FieldLine.text, optionalMark])
  · contradiction

/-- In a line that starts with a name and a type, what follows decides whether the parts are
found. -/
theorem FieldLine.split?_eq_map {name type tail : List Char} (named : isWord name)
    (typed : isWord type) (optional : Bool) (stop : optional = false →
      ∀ c rest, tail = c :: rest → isWordChar c = false ∧ c ≠ '?') :
    FieldLine.split? (name ++ ':' :: (type ++ (optionalMark optional ++ tail))) =
      (singleLine? tail).map fun row => { name, type, optional, row } := by
  have first : takeWord (name ++ ':' :: (type ++ (optionalMark optional ++ tail))) =
      (name, ':' :: (type ++ (optionalMark optional ++ tail))) :=
    takeWord_wordChars_append (fun c member => isWordChar_of_mem named member)
      fun c rest same => by
        obtain ⟨rfl, -⟩ := List.cons.inj same
        decide
  have second : takeWord (type ++ (optionalMark optional ++ tail)) =
      (type, optionalMark optional ++ tail) :=
    takeWord_wordChars_append (fun c member => isWordChar_of_mem typed member)
      fun c rest same => by
        cases optional with
        | true =>
          obtain ⟨rfl, -⟩ := List.cons.inj same
          decide
        | false => exact (stop rfl c rest same).1
  have some : (name.isEmpty || type.isEmpty) = false := by
    simp [ne_nil_of_isWord named, ne_nil_of_isWord typed]
  simp only [FieldLine.split?, first, second, some, Bool.false_eq_true, if_false]
  cases optional with
  | true => simp only [optionalMark, if_true, List.singleton_append]
  | false =>
    simp only [optionalMark, Bool.false_eq_true, if_false, List.nil_append]
    split
    · exact absurd rfl (stop rfl _ _ rfl).2
    · rfl

/-- The parts of a line are found. -/
theorem FieldLine.IsOf.split? {line : List Char} {parts : FieldLine} (isOf : parts.IsOf line) :
    FieldLine.split? line = some parts := by
  obtain ⟨name, type, optional, row⟩ := parts
  obtain ⟨named, typed, unbroken, longest, whole⟩ := isOf
  dsimp only at named typed unbroken longest
  rcases whole with rfl | rfl
  · have single : singleLine? row = some row := singleLine?_eq_some_iff.mpr ⟨unbroken, .inl rfl⟩
    rw [FieldLine.text, FieldLine.split?_eq_map named typed optional longest, single]
    rfl
  · have single : singleLine? (row ++ ['\n']) = some row :=
      singleLine?_eq_some_iff.mpr ⟨unbroken, .inr rfl⟩
    have stop : optional = false → ∀ c rest, row ++ ['\n'] = c :: rest →
        isWordChar c = false ∧ c ≠ '?' := by
      intro plain c rest starts
      cases row with
      | nil =>
        obtain ⟨rfl, -⟩ := List.cons.inj starts
        decide
      | cons d row =>
        obtain ⟨rfl, -⟩ := List.cons.inj starts
        exact longest plain d row rfl
    have ended := FieldLine.split?_eq_map named typed optional stop
    rw [single] at ended
    simpa [FieldLine.text] using ended

/-- A field line without a line feed consists of its parts. -/
theorem FieldLine.of_split? {line : List Char} {parts : FieldLine} (unbroken : '\n' ∉ line)
    (found : FieldLine.split? line = some parts) :
    isWord parts.name ∧ isWord parts.type ∧
      line = parts.name ++ ':' :: (parts.type ++ (optionalMark parts.optional ++ parts.row)) := by
  have isOf := FieldLine.isOf_of_split? found
  refine ⟨isOf.name, isOf.type, isOf.whole.resolve_right fun ended => unbroken ?_⟩
  exact ended ▸ List.mem_append_right _ List.mem_cons_self

/-- The line of a name, a type and a row of modifiers is read as these. -/
theorem FieldLine.split?_text {name type row : List Char} (named : isWord name)
    (typed : isWord type) (optional : Bool) (unbroken : '\n' ∉ row)
    (started : ∀ c rest, row = c :: rest → c = '@') :
    FieldLine.split? (name ++ ':' :: (type ++ (optionalMark optional ++ row))) =
      some { name, type, optional, row } := by
  refine FieldLine.IsOf.split? ⟨named, typed, unbroken, fun _ c rest same => ?_, .inl rfl⟩
  obtain rfl := started c rest same
  decide

/-- A line is read as a field exactly when its parts are: the type is known, and every segment is a
modifier, which applies after those before it. -/
theorem Field.parseChars_eq_ok_iff {line : List Char} {field : Field} :
    Field.parseChars line = .ok field ↔ ∃ parts type modifiers,
      FieldLine.split? line = some parts ∧
      FieldType.ofToken? (String.ofList parts.type) = some type ∧
      (segments parts.row).mapM (Modifier.parse line) = .ok modifiers ∧
      modifiers.foldl Field.apply
        { name := String.ofList parts.name, type, optional := parts.optional } = field := by
  constructor
  · intro read
    unfold Field.parseChars at read
    split at read
    · nomatch read
    · rename_i parts found
      split at read
      · nomatch read
      · rename_i type known
        cases row : (segments parts.row).mapM (Modifier.parse line) with
        | error fault =>
          rw [row] at read
          nomatch read
        | ok modifiers =>
          rw [row] at read
          exact ⟨parts, type, modifiers, found, known, row, Except.ok.inj read⟩
  · rintro ⟨parts, type, modifiers, found, known, row, rfl⟩
    unfold Field.parseChars
    rw [found]
    dsimp only
    rw [known]
    dsimp only
    rw [row]
    rfl

/-- A field that a definition can hold. -/
structure Field.Writable (field : Field) : Prop where
  /-- The name is a word. -/
  word : isWord field.name.toList
  /-- A default is not empty, and a modifier can hold it. -/
  default : ∀ value, field.defaultValue = some value →
    value ≠ "" ∧ (Modifier.default value).Writable
  /-- A target has a cardinality and a cardinality a target. -/
  relation : field.relationTarget.isSome = field.relationType.isSome
  /-- A target is a word. -/
  target : ∀ target, field.relationTarget = some target → isWord target.toList

/-- A modifier that can be written leaves a field that can. -/
theorem Field.Writable.apply {field : Field} (writable : field.Writable) {modifier : Modifier}
    (more : modifier.Writable) : (field.apply modifier).Writable := by
  cases modifier with
  | unique => exact ⟨writable.word, writable.default, writable.relation, writable.target⟩
  | id => exact ⟨writable.word, writable.default, writable.relation, writable.target⟩
  | default value =>
    refine ⟨writable.word, fun other same => ?_, writable.relation, writable.target⟩
    simp only [Field.apply] at same
    split at same
    · contradiction
    · rename_i some
      obtain rfl := Option.some.inj same
      exact ⟨by simpa using some, more⟩
  | relation target cardinality =>
    refine ⟨writable.word, writable.default, rfl, fun other same => ?_⟩
    obtain rfl := Option.some.inj same
    exact more

/-- Modifiers that can be written leave a field that can. -/
theorem Field.Writable.foldl {field : Field} (writable : field.Writable)
    {modifiers : List Modifier} (all : ∀ modifier ∈ modifiers, modifier.Writable) :
    (modifiers.foldl Field.apply field).Writable := by
  induction modifiers generalizing field with
  | nil => exact writable
  | cons modifier modifiers ih =>
    obtain ⟨first, others⟩ := List.forall_mem_cons.mp all
    exact ih (writable.apply first) others

/-- A field that was read from a line can be written. -/
theorem Field.writable_of_parseChars {line : List Char} {field : Field}
    (unbroken : ∀ c ∈ line, isLineBreak c = false) (read : Field.parseChars line = .ok field) :
    field.Writable := by
  obtain ⟨parts, type, modifiers, found, -, row, rfl⟩ := Field.parseChars_eq_ok_iff.mp read
  have feed : '\n' ∉ line := fun member => absurd (unbroken '\n' member) (by decide)
  obtain ⟨word, -, whole⟩ := FieldLine.of_split? feed found
  refine Field.Writable.foldl ⟨?_, ?_, rfl, ?_⟩ fun modifier member => ?_
  · rwa [String.toList_ofList]
  · exact fun _ same => nomatch same
  · exact fun _ same => nomatch same
  · obtain ⟨segment, placed, meaning⟩ := exists_of_mem_of_mapM row member
    refine Modifier.writable_of_parse placed (fun c here => unbroken c ?_) meaning
    rw [whole]
    simp [here]

/-- The modifiers of the line of a field other than a default, in their order. -/
def Field.closedModifiers (field : Field) : List Modifier :=
  (if field.unique then [.unique] else []) ++ (if field.isId then [.id] else []) ++
    (match field.relationTarget, field.relationType with
      | some target, some cardinality => [.relation target cardinality]
      | _, _ => [])

/-- The modifiers of the line of a field. -/
def Field.modifiers (field : Field) : List Modifier :=
  field.closedModifiers ++ (field.defaultValue.map Modifier.default).toList

/-- The text of a row of modifiers. -/
def writeRow (modifiers : List Modifier) : List Char :=
  (modifiers.map fun modifier => '@' :: modifier.body).flatten

/-- The text of two rows is the text of the first and that of the second. -/
theorem writeRow_append (left right : List Modifier) :
    writeRow (left ++ right) = writeRow left ++ writeRow right := by
  rw [writeRow, List.map_append, List.flatten_append]
  rfl

/-- The text of a row of one modifier. -/
theorem writeRow_singleton (modifier : Modifier) : writeRow [modifier] = '@' :: modifier.body := by
  rw [writeRow, List.map_singleton, List.flatten_singleton]

/-- The text of a row of one relation, part by part. -/
theorem writeRow_relation (target : String) (cardinality : Cardinality) :
    writeRow [.relation target cardinality] = "@relation(".toList ++ (target.toList ++
      (",".toList ++ (cardinality.token.toList ++ ")".toList))) := by
  have inside := List.append_assoc target.toList (',' :: cardinality.token.toList) [')']
  rw [writeRow_singleton]
  change "@relation(".toList ++ (target.toList ++ ',' :: cardinality.token.toList ++ [')']) = _
  rw [inside]
  rfl

/-- The text of a row of one default, part by part. -/
theorem writeRow_default (value : String) :
    writeRow [.default value] = "@default(".toList ++ (value.toList ++ ")".toList) := by
  rw [writeRow_singleton]
  rfl

/-- The line of a field by its parts. -/
theorem Field.definition_toList (field : Field) :
    field.definition.toList = field.name.toList ++ ':' :: (field.type.token.toList ++
      (optionalMark field.optional ++ writeRow field.modifiers)) := by
  obtain ⟨name, type, optional, unique, isId, value, target, cardinality⟩ := field
  have mark : (if optional then "?" else "").toList = optionalMark optional := by
    cases optional <;> rfl
  have single : (if unique then "@unique" else "").toList =
      writeRow (if unique then [.unique] else []) := by
    cases unique <;> rfl
  have identifies : (if isId then "@id" else "").toList =
      writeRow (if isId then [.id] else []) := by
    cases isId <;> rfl
  unfold Field.definition
  rw [Field.modifiers, Field.closedModifiers, writeRow_append, writeRow_append, writeRow_append]
  rcases target with _ | target <;> rcases cardinality with _ | cardinality <;>
    rcases value with _ | value <;> dsimp only [Option.map, Option.toList] <;>
    repeat rw [String.toList_append]
  all_goals rw [mark, single, identifies]
  all_goals try rw [writeRow_relation]
  all_goals try rw [writeRow_default]
  all_goals simp only [List.append_assoc]
  all_goals rfl

/-- The modifiers other than a default can be written, and none of them is a default. -/
theorem Field.Writable.closed {field : Field} (writable : field.Writable) :
    ∀ modifier ∈ field.closedModifiers,
      modifier.Writable ∧ ∀ value, modifier ≠ .default value := by
  intro modifier member
  rw [Field.closedModifiers, List.mem_append, List.mem_append] at member
  rcases member with (member | member) | member
  · split at member
    · rw [List.mem_singleton.mp member]
      exact ⟨trivial, fun _ same => nomatch same⟩
    · exact absurd member List.not_mem_nil
  · split at member
    · rw [List.mem_singleton.mp member]
      exact ⟨trivial, fun _ same => nomatch same⟩
    · exact absurd member List.not_mem_nil
  · split at member
    · rename_i target _ found _
      rw [List.mem_singleton.mp member]
      exact ⟨writable.target target found, fun _ same => nomatch same⟩
    · exact absurd member List.not_mem_nil

/-- The modifiers of a field that can be written can be written. -/
theorem Field.Writable.modifiers {field : Field} (writable : field.Writable) :
    ∀ modifier ∈ field.modifiers, modifier.Writable := by
  intro modifier member
  rcases List.mem_append.mp member with closed | last
  · exact (writable.closed modifier closed).1
  · obtain ⟨value, found, rfl⟩ := Option.map_eq_some_iff.mp (Option.mem_toList.mp last)
    exact (writable.default value found).2

/-- A row of modifiers is cut where it was put together: all of them close what they open, except
perhaps a default at the end. -/
theorem cutsInto_writeRow {closed : List Modifier} {last : Option Modifier}
    (all : ∀ modifier ∈ closed, modifier.Writable ∧ ∀ value, modifier ≠ .default value)
    (final : ∀ modifier ∈ last, modifier.Writable) :
    CutsInto (writeRow (closed ++ last.toList))
      ((closed ++ last.toList).map fun modifier => '@' :: modifier.body) := by
  induction closed with
  | nil =>
    cases last with
    | none => rfl
    | some modifier =>
      rw [Option.toList_some, List.nil_append, writeRow_singleton]
      exact CutsInto.last (Modifier.body_quiet (final modifier rfl))
  | cons modifier closed ih =>
    obtain ⟨⟨writable, other⟩, others⟩ := List.forall_mem_cons.mp all
    obtain ⟨quiet, closes⟩ := Modifier.body_closed writable other
    exact (ih others).cons quiet closes

/-- The segments of the row of a field are its modifiers. -/
theorem Field.Writable.segments {field : Field} (writable : field.Writable) :
    segments (writeRow field.modifiers) =
      field.modifiers.map fun modifier => '@' :: modifier.body := by
  have cut : CutsInto (writeRow field.modifiers)
      (field.modifiers.map fun modifier => '@' :: modifier.body) :=
    cutsInto_writeRow writable.closed fun modifier member =>
      writable.modifiers modifier (List.mem_append_right _ (Option.mem_toList.mpr member))
  refine cut.segments fun piece member => ?_
  obtain ⟨modifier, inside, rfl⟩ := List.mem_map.mp member
  have piece := Modifier.linePiece_body (writable.modifiers modifier inside)
  exact ⟨List.cons_ne_nil _ _, piece.trimmed⟩

/-- The modifiers of a field give the field back. -/
theorem Field.Writable.foldl_modifiers {field : Field} (writable : field.Writable) :
    field.modifiers.foldl Field.apply
      { name := field.name, type := field.type, optional := field.optional } = field := by
  obtain ⟨-, default, relation, -⟩ := writable
  obtain ⟨name, type, optional, unique, isId, value, target, cardinality⟩ := field
  have single : (if unique then [Modifier.unique] else []).foldl Field.apply
      { name, type, optional } = { name, type, optional, unique } := by
    cases unique <;> rfl
  have identifies : (if isId then [Modifier.id] else []).foldl Field.apply
      { name, type, optional, unique } = { name, type, optional, unique, isId } := by
    cases isId <;> rfl
  rw [Field.modifiers, Field.closedModifiers, List.foldl_append, List.foldl_append,
    List.foldl_append, single, identifies]
  have last (field : Field) (empty : field.defaultValue = none) :
      (value.map Modifier.default).toList.foldl Field.apply field =
        { field with defaultValue := value } := by
    cases value with
    | none => exact congrArg (fun value => { field with defaultValue := value }) empty
    | some value =>
      have some : value.isEmpty = false := by simpa using (default value rfl).1
      change { field with defaultValue := if value.isEmpty then none else .some value } = _
      rw [some]
      rfl
  cases target with
  | none =>
    cases cardinality with
    | none => exact last _ rfl
    | some cardinality => nomatch relation
  | some target =>
    cases cardinality with
    | none => nomatch relation
    | some cardinality => exact last _ rfl

/-- The row of a field that can be written is a piece of a line. -/
theorem Field.Writable.linePiece_row {field : Field} (writable : field.Writable) :
    LinePiece (writeRow field.modifiers) :=
  LinePiece.flatten fun piece member => by
    obtain ⟨modifier, inside, rfl⟩ := List.mem_map.mp member
    exact Modifier.linePiece_body (writable.modifiers modifier inside)

/-- A row of modifiers is empty or starts with an `@`. -/
theorem writeRow_starts {modifiers : List Modifier} {c : Char} {rest : List Char}
    (same : writeRow modifiers = c :: rest) : c = '@' := by
  cases modifiers with
  | nil => nomatch same
  | cons modifier modifiers => exact (List.cons.inj same).1.symm

/-- The line of a field that can be written is a line of its own. -/
theorem Field.Writable.solidLine {field : Field} (writable : field.Writable) :
    SolidLine field.definition.toList := by
  have type : LinePiece field.type.token.toList := by
    cases field.type <;> exact .of_any (by decide) (by decide)
  have mark : LinePiece (optionalMark field.optional) := by
    cases field.optional <;> exact .of_any (by decide) (by decide)
  have name : LinePiece field.name.toList :=
    .word fun c member => isWordChar_of_mem writable.word member
  have colon : LinePiece [':'] := .of_any (by decide) (by decide)
  have line : LinePiece field.definition.toList := by
    rw [Field.definition_toList]
    exact name.append (colon.append (type.append (mark.append writable.linePiece_row)))
  refine ⟨?_, line.trimmed, line.unbroken⟩
  rw [Field.definition_toList]
  exact List.append_ne_nil_of_left_ne_nil (ne_nil_of_isWord writable.word) _

/-- A field that can be written is read back from its line. -/
theorem Field.Writable.parseChars {field : Field} (writable : field.Writable) :
    Field.parseChars field.definition.toList = .ok field := by
  refine Field.parseChars_eq_ok_iff.mpr
    ⟨⟨field.name.toList, field.type.token.toList, field.optional, writeRow field.modifiers⟩,
      field.type, field.modifiers, ?_, ?_, ?_, ?_⟩
  · rw [Field.definition_toList]
    refine FieldLine.split?_text writable.word ?_ field.optional ?_ ?_
    · cases field.type <;> decide
    · intro member
      have feed := writable.linePiece_row.unbroken '\n' member
      revert feed
      decide
    · exact fun c rest same => writeRow_starts same
  · rw [String.ofList_toList, FieldType.ofToken?_token]
  · rw [writable.segments]
    exact mapM_map_eq_ok fun modifier member =>
      Modifier.parse_body (writable.modifiers modifier member) _
  · rw [String.ofList_toList]
    exact writable.foldl_modifiers

end CrudScaffold
