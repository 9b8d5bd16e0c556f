import CrudScaffold.Proofs.Definition.Document
import CrudScaffold.Proofs.Definition.FieldLine

/-!
# Writing and reading documents

What a document defines can be written again: the name of an entity is a line of its own, and so is
every field. Lines with single line feeds between them stay one block, and two line feeds divide the
blocks, so reading the written document gives the same entities.
-/

namespace CrudScaffold

open Text

/-- No line feed is ahead of a character that is not blank. -/
theorem newlineAhead_of_startsSolid {text : List Char} (solid : StartsSolid text) :
    newlineAhead text = false := by
  cases text with
  | nil => rfl
  | cons c rest => rw [newlineAhead_cons, solid c rest rfl, Bool.false_and]

/-- A text without line feeds is pending as a whole. -/
theorem blockContents_append_of_not_mem {text : List Char} (plain : '\n' ∉ text)
    (pending rest : List Char) :
    blockContents pending (text ++ rest) = blockContents (pending ++ text) rest := by
  induction text generalizing pending with
  | nil => rw [List.nil_append, List.append_nil]
  | cons c text ih =>
    rw [List.mem_cons, not_or] at plain
    rw [List.cons_append, blockContents_cons pending (fun both => plain.1 both.1.symm),
      ih plain.2, List.append_assoc, List.singleton_append]

/-- A solid line holds no line feed. -/
theorem SolidLine.not_mem {line : List Char} (solid : SolidLine line) : '\n' ∉ line :=
  fun member => absurd (solid.unbroken '\n' member) (by decide)

/-- A solid line starts with a character that is not blank, whatever follows it. -/
theorem SolidLine.startsSolid {line : List Char} (solid : SolidLine line) (rest : List Char) :
    StartsSolid (line ++ rest) := by
  have first := startsSolid_trim line
  rw [solid.trimmed] at first
  cases line with
  | nil => exact absurd rfl solid.some
  | cons d line =>
    intro c rest' same
    exact first c line (congrArg (· :: line) (List.cons.inj same).1)

/-- Solid lines with line feeds between them are pending as a whole. -/
theorem blockContents_intercalate {lines : List (List Char)}
    (solid : ∀ line ∈ lines, SolidLine line) (pending : List Char) :
    blockContents pending (['\n'].intercalate lines) =
      blockContents (pending ++ ['\n'].intercalate lines) [] := by
  induction lines generalizing pending with
  | nil => exact congrArg (blockContents · []) (List.append_nil pending).symm
  | cons line lines ih =>
    obtain ⟨first, others⟩ := List.forall_mem_cons.mp solid
    cases lines with
    | nil =>
      have whole := blockContents_append_of_not_mem first.not_mem pending []
      rw [List.append_nil] at whole
      rw [List.intercalate_singleton, whole]
    | cons next lines =>
      have ahead : newlineAhead (['\n'].intercalate (next :: lines)) = false := by
        refine newlineAhead_of_startsSolid ?_
        have starts := (others next List.mem_cons_self).startsSolid
        cases lines with
        | nil => rw [List.intercalate_singleton, ← List.append_nil next]; exact starts []
        | cons another lines =>
          rw [List.intercalate_cons_cons, List.append_assoc]
          exact starts _
      rw [List.intercalate_cons_cons, List.append_assoc, List.singleton_append,
        blockContents_append_of_not_mem first.not_mem, blockContents_cons _ (by simp [ahead]),
        ih others]
      simp only [List.append_assoc, List.singleton_append]

/-- Solid lines with line feeds between them are one block. -/
theorem blockContents_lines {lines : List (List Char)} (some : lines ≠ [])
    (solid : ∀ line ∈ lines, SolidLine line) :
    blockContents [] (['\n'].intercalate lines) = [lines] := by
  rw [blockContents_intercalate solid, List.nil_append, blockContents_nil,
    contentLines_intercalate solid]
  simp [some]

/-- An entity that a definition can hold. -/
structure Entity.Writable (entity : Entity) : Prop where
  /-- The name is a line of its own. -/
  name : SolidLine entity.name.toList
  /-- The fields can be written. -/
  fields : ∀ field ∈ entity.fields, field.Writable
  /-- Everything else follows from the name and the fields. -/
  derived : Entity.ofFields entity.name entity.fields = entity

/-- An entity that was read from solid lines can be written. -/
theorem Entity.writable_of_ofLines {lines : List (List Char)} {entity : Entity}
    (solid : ∀ line ∈ lines, SolidLine line) (read : Entity.ofLines lines = .ok entity) :
    entity.Writable := by
  cases lines with
  | nil => nomatch read
  | cons name lines =>
    obtain ⟨first, others⟩ := List.forall_mem_cons.mp solid
    obtain ⟨fields, parts, rfl⟩ := Entity.ofLines_eq_ok_iff.mp read
    refine ⟨?_, fun field member => ?_, rfl⟩
    · change SolidLine (String.ofList name).toList
      rwa [String.toList_ofList]
    · obtain ⟨line, inside, same⟩ := exists_of_mem_of_mapM parts member
      exact Field.writable_of_parseChars (others line inside).unbroken same

/-- The lines of an entity. -/
def Entity.lines (entity : Entity) : List (List Char) :=
  entity.name.toList :: entity.fields.map fun field => field.definition.toList

/-- The lines of an entity that can be written are solid. -/
theorem Entity.Writable.solidLines {entity : Entity} (writable : entity.Writable) :
    ∀ line ∈ entity.lines, SolidLine line := by
  refine List.forall_mem_cons.mpr ⟨writable.name, fun line member => ?_⟩
  obtain ⟨field, inside, rfl⟩ := List.mem_map.mp member
  exact (writable.fields field inside).solidLine

/-- An entity that can be written is read back from its lines. -/
theorem Entity.Writable.ofLines {entity : Entity} (writable : entity.Writable) :
    Entity.ofLines entity.lines = .ok entity := by
  have fields : (entity.fields.map fun field => field.definition.toList).mapM Field.parseChars =
      .ok entity.fields :=
    mapM_map_eq_ok fun field member => (writable.fields field member).parseChars
  refine Entity.ofLines_eq_ok_iff.mpr ⟨entity.fields, fields, ?_⟩
  rw [String.ofList_toList]
  exact writable.derived

/-- The block of an entity consists of its lines. -/
theorem Entity.definition_toList (entity : Entity) :
    entity.definition.toList = ['\n'].intercalate entity.lines := by
  rw [Entity.definition, String.toList_intercalate, List.map_cons, List.map_map]
  rfl

/-- The blocks of a written document are the lines of its entities. -/
theorem blockContents_definitionDocument {entities : List Entity}
    (writable : ∀ entity ∈ entities, entity.Writable) :
    blockContents [] (definitionDocument entities).toList = entities.map Entity.lines := by
  rw [definitionDocument, String.toList_intercalate, List.map_map]
  induction entities with
  | nil => rfl
  | cons entity entities ih =>
    obtain ⟨first, others⟩ := List.forall_mem_cons.mp writable
    have block : blockContents [] entity.definition.toList = [entity.lines] := by
      rw [Entity.definition_toList]
      exact blockContents_lines (List.cons_ne_nil _ _) first.solidLines
    cases entities with
    | nil =>
      rw [List.map_singleton, List.intercalate_singleton]
      exact block
    | cons next entities =>
      have separator : IsSeparator "\n\n".toList := ⟨by decide, by decide⟩
      rw [List.map_cons, List.map_cons, List.intercalate_cons_cons,
        blockContents_append_separator separator, Function.comp_apply, block]
      exact congrArg (entity.lines :: ·) (ih others)

/-- The entity that a definition gives can be written. -/
theorem Entity.writable_of_parse {text : String} {entity : Entity}
    (read : Entity.parse text = .ok entity) : entity.Writable := by
  rw [Entity.parse, Entity.parseBlock_eq] at read
  exact Entity.writable_of_ofLines (fun line => solidLine_of_mem_contentLines) read

/-- The entities that a document defines can be written. -/
theorem Entity.writable_of_parseDocument {text : String} {entities : List Entity}
    (read : Entity.parseDocument text = .ok entities) : ∀ entity ∈ entities, entity.Writable := by
  intro entity member
  rw [Entity.parseDocument_eq] at read
  obtain ⟨lines, inside, same⟩ := exists_of_mem_of_mapM read member
  obtain ⟨block, -, rfl⟩ := List.mem_map.mp (List.mem_filter.mp inside).1
  exact Entity.writable_of_ofLines (fun line => solidLine_of_mem_contentLines) same

/-- What a document defines can be written again, and reading what is written gives it back. -/
theorem Entity.parseDocument_definitionDocument {text : String} {entities : List Entity}
    (read : Entity.parseDocument text = .ok entities) :
    Entity.parseDocument (definitionDocument entities) = .ok entities := by
  have writable := Entity.writable_of_parseDocument read
  rw [Entity.parseDocument_eq, blockContents_definitionDocument writable]
  exact mapM_map_eq_ok fun entity member => (writable entity member).ofLines

/-- A default with an open quote, an open parenthesis and an `@` is kept as it is, though it is
written behind the other modifiers. -/
theorem Entity.parseDocument_definitionDocument_open_default :
    Entity.parseDocument "Tag\r\n note:string?@id@default(a(@id'@x)" = .ok
      [Entity.ofFields "Tag"
        [{ name := "note", type := .string, optional := true, isId := true,
           defaultValue := some "a(@id'@x" }]] ∧
    Entity.parseDocument (definitionDocument [Entity.ofFields "Tag"
        [{ name := "note", type := .string, optional := true, isId := true,
           defaultValue := some "a(@id'@x" }]]) = .ok
      [Entity.ofFields "Tag"
        [{ name := "note", type := .string, optional := true, isId := true,
           defaultValue := some "a(@id'@x" }]] := by
  have read : Entity.parseDocument "Tag\r\n note:string?@id@default(a(@id'@x)" = .ok
      [Entity.ofFields "Tag"
        [{ name := "note", type := .string, optional := true, isId := true,
           defaultValue := some "a(@id'@x" }]] := by
    rfl
  exact ⟨read, Entity.parseDocument_definitionDocument read⟩

end CrudScaffold
