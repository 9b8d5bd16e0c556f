import CrudScaffold.Name.Words

/-!
# Plural and singular

The plural of an English noun by its ending, and the way back for the endings that the plural
produces. The ending is judged in lower case; what is kept or cut is the text as it was given.
-/

namespace CrudScaffold.Name

/-- Whether a text ends with one of the given endings. -/
def endsWithAny (endings : List String) (text : List Char) : Bool :=
  endings.any fun ending => ending.toList.isSuffixOf text

/-- The plural: a `y` behind no vowel becomes `ies`, a hissing ending takes `es`, and every other
text takes `s`. An empty text stays empty. -/
def pluralChars (value : List Char) : List Char :=
  let ending := Text.lower value
  if value.isEmpty then value
  else if endsWithAny ["y"] ending && !endsWithAny ["ay", "ey", "iy", "oy", "uy"] ending then
    value.dropLast ++ "ies".toList
  else if endsWithAny ["s", "sh", "ch", "x", "z"] ending then value ++ "es".toList
  else value ++ "s".toList

/-- The singular: `ies` behind at least one character becomes `y`, `es` behind a hissing sound is
cut, and so is an `s` that is not doubled. -/
def singularChars (value : List Char) : List Char :=
  let ending := Text.lower value
  if endsWithAny ["ies"] ending && 3 < value.length then
    value.take (value.length - 3) ++ ['y']
  else if endsWithAny ["ses", "shes", "ches", "xes", "zes"] ending then
    value.take (value.length - 2)
  else if endsWithAny ["s"] ending && !endsWithAny ["ss"] ending then value.dropLast
  else value

/-- The plural of a name. -/
def pluralize (name : String) : String := String.ofList (pluralChars name.toList)

/-- The singular of a name. -/
def singularize (name : String) : String := String.ofList (singularChars name.toList)

/-- The name of the table that holds the records of an entity. -/
def tableName (entityName : String) : String := snakeCase (pluralize entityName)

end CrudScaffold.Name
