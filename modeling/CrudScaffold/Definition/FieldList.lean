import CrudScaffold.Definition.FieldLine
import CrudScaffold.Entity.Derivation
import CrudScaffold.Text.Lines

/-!
# Blocks, documents and field lists

A block defines one entity: its first line that is not blank is the name, every further one declares
a field. A document is a row of blocks with blank lines between them. Relationships and policies are
not written; they follow from the fields and the name.

On a command line the fields of an entity are given in one argument, separated by commas. A comma
inside parentheses belongs to its field; a parenthesis that closes nothing is ignored.
-/

namespace CrudScaffold

/-- The entity of a name and its fields, with everything that follows from the two. -/
def Entity.ofFields (name : String) (fields : List Field) : Entity :=
  { name, fields
    relationships := deriveRelationships fields
    policies := defaultPolicies name }

/-- The trimmed lines of a text that are not blank. -/
def contentLines (text : List Char) : List (List Char) :=
  ((Text.splitLines text).map Text.trim).filter (· ≠ [])

/-- Read the block of one entity. -/
def Entity.parseBlock (block : List Char) : Except DefinitionFault Entity :=
  match contentLines block with
  | [] => .error .empty
  | name :: lines => do
    let fields ← lines.mapM Field.parseChars
    return Entity.ofFields (String.ofList name) fields

/-- Read a text that defines one entity. -/
def Entity.parse (text : String) : Except DefinitionFault Entity := Entity.parseBlock text.toList

/-- Read a document. The first block with a fault decides the answer. -/
def Entity.parseDocument (text : String) : Except DefinitionFault (List Entity) :=
  (Text.blocks text.toList).mapM Entity.parseBlock

/-- The block of an entity. -/
def Entity.definition (entity : Entity) : String :=
  "\n".intercalate (entity.name :: entity.fields.map Field.definition)

/-- The document of a list of entities. -/
def definitionDocument (entities : List Entity) : String :=
  "\n\n".intercalate (entities.map Entity.definition)

/-- The pieces between the commas outside parentheses, at a depth of open parentheses. -/
def cutFields : (depth : Nat) → List Char → List (List Char)
  | _, [] => [[]]
  | depth, c :: rest =>
    if c = ',' && depth == 0 then [] :: cutFields depth rest
    else
      let deeper := if c = '(' then depth + 1 else if c = ')' then depth - 1 else depth
      Text.consBlock c (cutFields deeper rest)

/-- The declarations of a field list, trimmed, without the blank ones. -/
def splitFieldList (list : String) : List String :=
  (((cutFields 0 list.toList).map Text.trim).filter (· ≠ [])).map String.ofList

/-- Read the entity of a name and a field list: the same as a text with the name on its first line
and one declaration on each further one. -/
def Entity.ofFieldList (name list : String) : Except DefinitionFault Entity :=
  Entity.parse ("\n".intercalate (Text.trimmed name :: splitFieldList list))

end CrudScaffold
