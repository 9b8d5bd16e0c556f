/-!
# Faults of a definition

The four ways in which the text of a definition fails to be one, each with the piece of text that is
at fault.
-/

namespace CrudScaffold

/-- Why a definition is refused. -/
inductive DefinitionFault
  /-- There is no line. -/
  | empty
  /-- The line is no field declaration. -/
  | fieldFormat (line : String)
  /-- The line declares a field of an unknown type. -/
  | fieldType (type line : String)
  /-- The arguments of a relation modifier are not a target and a cardinality. -/
  | relation (modifier : String)
deriving DecidableEq, Repr

namespace DefinitionFault

/-- The words for a fault. -/
def message : DefinitionFault → String
  | .empty => "Empty DSL input"
  | .fieldFormat line => "Invalid field format: " ++ line
  | .fieldType type _ => "Invalid field type: " ++ type
  | .relation modifier => "Invalid relation: " ++ modifier

/-- The line or modifier at fault. -/
def excerpt? : DefinitionFault → Option String
  | .empty => none
  | .fieldFormat line => some line
  | .fieldType _ line => some line
  | .relation modifier => some modifier

end DefinitionFault

end CrudScaffold
