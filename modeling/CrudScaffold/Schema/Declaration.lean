import CrudScaffold.Schema.Model
import CrudScaffold.Text.Blank

/-!
# Declarations in a schema

Whether the text of a schema already declares a model of some name. A declaration starts on a line
of its own: blanks, the word `model`, at least one blank, the name, blanks, and an opening brace.
The blanks may run over several lines, and the name may be any text, even one that starts or ends
with blanks. `Declares` says this as a property of the text; `hasModel` decides it.
-/

namespace CrudScaffold

/-- A schema declares a model of a name: the text is some part that is empty or ends with a line
feed, then a declaration, then anything. -/
def Declares (schema name : List Char) : Prop :=
  ∃ before blanks gap space after : List Char,
    (before = [] ∨ before.getLast? = some '\n') ∧
    blanks.all Text.isBlank ∧ gap ≠ [] ∧ gap.all Text.isBlank ∧ space.all Text.isBlank ∧
    schema = before ++ blanks ++ "model".toList ++ gap ++ name ++ space ++ '\x7b' :: after

/-- Whether a text is blanks and an opening brace, and perhaps more. -/
def opensBody (text : List Char) : Bool := (Text.trimStart text).head? = some '\x7b'

/-- Whether a text starts with a name behind which a body opens. -/
def namesModel (name text : List Char) : Bool :=
  name.isPrefixOf text && opensBody (text.drop name.length)

/-- Whether a text starts with at least one blank and, behind some of its first blanks, with a name
behind which a body opens. The name may take some of the blanks, so every choice is tried. -/
def namesModelAfterBlanks (name : List Char) : List Char → Bool
  | [] => false
  | c :: rest => Text.isBlank c && (namesModel name rest || namesModelAfterBlanks name rest)

/-- Whether a declaration starts here. -/
def startsDeclaration (name text : List Char) : Bool :=
  let content := Text.trimStart text
  "model".toList.isPrefixOf content && namesModelAfterBlanks name (content.drop 5)

/-- Whether a declaration starts behind some line feed of a text. -/
def declaresBelow (name : List Char) : List Char → Bool
  | [] => false
  | c :: rest => c = '\n' && startsDeclaration name rest || declaresBelow name rest

/-- Whether a schema declares a model of a name. -/
def hasModel (schema name : String) : Bool :=
  startsDeclaration name.toList schema.toList || declaresBelow name.toList schema.toList

/-- A schema with a fragment behind it: an empty line stands between them, the line feeds at the
end of the schema aside. A blank schema is replaced. -/
def appendFragment (schema fragment : String) : String :=
  if Text.isBlankText schema.toList then fragment
  else
    String.ofList (schema.toList.reverse.dropWhile (· == '\n')).reverse ++ "\n\n" ++ fragment

/-- A schema after the model of an entity was added, or none if it has one of that name. -/
def appendModel? (schema : String) (entity : Entity) : Option String :=
  if hasModel schema entity.name then none else some (appendFragment schema entity.model)

end CrudScaffold
