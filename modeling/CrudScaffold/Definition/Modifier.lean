import CrudScaffold.Definition.Fault
import CrudScaffold.Entity.Basic
import CrudScaffold.Text.Blank
import CrudScaffold.Text.Word

/-!
# Modifiers

What follows the type of a field is a row of modifiers: `@unique`, `@id`, `@default(...)` and
`@relation(Target,kind)`. `segments` cuts the row at every `@` that stands outside parentheses and
quotes, and `Modifier.parse` reads one segment. A parenthesis that closes nothing is ignored, and a
quote that is never closed reaches to the end.
-/

namespace CrudScaffold

/-- Where the reader of a row of modifiers stands. -/
structure Nesting where
  /-- The number of open parentheses. -/
  depth : Nat := 0
  /-- The quote that is open. -/
  quote : Option Char := none
deriving DecidableEq, Repr

namespace Nesting

/-- Outside parentheses and quotes. -/
def outside : Nesting := {}

/-- The place behind a character. -/
def step (place : Nesting) (c : Char) : Nesting :=
  match place.quote with
  | some quote => if c = quote then { place with quote := none } else place
  | none =>
    if c = '\'' || c = '"' then { place with quote := some c }
    else if c = '(' then { place with depth := place.depth + 1 }
    else if c = ')' then { place with depth := place.depth - 1 }
    else place

/-- Whether a character at this place starts a new modifier. -/
def startsModifier (place : Nesting) (c : Char) : Bool :=
  c = '@' && place.depth == 0 && place.quote.isNone

end Nesting

/-- Cut a text before every character that starts a modifier. The first piece is what precedes
them all. -/
def cutModifiers : Nesting → List Char → List (List Char)
  | _, [] => [[]]
  | place, c :: rest =>
    match cutModifiers (place.step c) rest with
    | [] => [[c]]
    | piece :: pieces =>
      if place.startsModifier c then [] :: (c :: piece) :: pieces else (c :: piece) :: pieces

/-- The segments of a row of modifiers, trimmed, without the blank ones. -/
def segments (row : List Char) : List (List Char) :=
  ((cutModifiers .outside row).map Text.trim).filter (· ≠ [])

/-- What one modifier declares about its field. -/
inductive Modifier
  | unique
  | id
  /-- The value of a new record; an empty one is none. -/
  | default (value : String)
  | relation (target : String) (cardinality : Cardinality)
deriving DecidableEq, Repr

/-- The text between a parenthesis at the start and one at the end. -/
def parenthesized? : List Char → Option (List Char)
  | '(' :: rest => if rest.getLast? = some ')' then some rest.dropLast else none
  | _ => none

/-- The target and the cardinality that the arguments of a relation name. -/
def relationArguments? (arguments : List Char) : Option (String × Cardinality) :=
  match (arguments.splitOn ',').map Text.trim with
  | [target, kind] =>
    if Text.isWord target then
      (Cardinality.ofToken? (String.ofList kind)).map fun cardinality =>
        (String.ofList target, cardinality)
    else none
  | _ => none

/-- Read one segment of the line `line`. A relation with bad arguments is a fault of the segment,
everything else that is no modifier a fault of the line. -/
def Modifier.parse (line segment : List Char) : Except DefinitionFault Modifier :=
  let refused := .error (.fieldFormat (String.ofList line))
  match segment with
  | '@' :: rest =>
    let (name, tail) := Text.takeWord rest
    let arguments := Text.trim tail
    if name = "unique".toList && arguments.isEmpty then .ok .unique
    else if name = "id".toList && arguments.isEmpty then .ok .id
    else if name = "default".toList then
      match parenthesized? arguments with
      | some value => .ok (.default (String.ofList value))
      | none => refused
    else if name = "relation".toList then
      match (parenthesized? arguments).bind relationArguments? with
      | some (target, cardinality) => .ok (.relation target cardinality)
      | none => .error (.relation (String.ofList segment))
    else refused
  | _ => refused

/-- A field after one more modifier; a later default or relation replaces an earlier one. -/
def Field.apply (field : Field) : Modifier → Field
  | .unique => { field with unique := true }
  | .id => { field with isId := true }
  | .default value => { field with defaultValue := if value.isEmpty then none else some value }
  | .relation target cardinality =>
    { field with relationTarget := some target, relationType := some cardinality }

end CrudScaffold
