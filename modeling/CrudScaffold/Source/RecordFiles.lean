import CrudScaffold.Source.ModuleFiles

/-!
# The classes of records

Three files with classes that describe the records of an entity: what is sent to make one, what is
sent to change one, and what is answered. The first and the last have a property for each field,
with an empty line between two properties.
-/

namespace CrudScaffold.Source

/-- A member of the field in hand. -/
def fieldPlace (key : String) : Template := .value (.member "field" key) .done

/-- A text for a field whose value may be absent. -/
def ifOptional (content : String) : Template := .mark (.member "field" "optional") content .done

/-- The declaration of the property of a field. -/
def propertyLine : Template := .concat [
  "  ", fieldPlace "name", ifOptional "?", ": ", fieldPlace "ts_type", ";\n"]

/-- The line that imports the validators that are in use. -/
def validatorImport : Template := .concat [
  "import \x7b ", .joined (.named "validators") ", " .done, " \x7d from 'class-validator';\n"]

/-- A line for each decorator of a field. -/
def decoratorLines : Template :=
  .each "decorator" (.member "field" "decorators") "" (.concat ["  ", place "decorator", "\n"])
    .done

/-- What is sent to make a record. -/
def createFile : Template := .concat [
  "import \x7b ApiProperty \x7d from '@nestjs/swagger';\n",
  .given (.named "validators") validatorImport .done,
  "\n",
  "export class Create", namePascal, "Dto \x7b\n",
  .each "field" (.named "create_fields") "\n" (.concat [decoratorLines, propertyLine]) .done,
  "\x7d\n"]

/-- What is sent to change a record. -/
def updateFile : Template := .concat [
  "import \x7b PartialType \x7d from '@nestjs/swagger';\n",
  "import \x7b Create", namePascal, "Dto \x7d from './create-", nameKebab, ".dto';\n",
  "\n",
  "export class Update", namePascal, "Dto extends PartialType(Create", namePascal,
    "Dto) \x7b\x7d\n"]

/-- The line that describes a field of a record. -/
def descriptionLine : Template := .concat [
  "  @ApiProperty(\x7b description: '", fieldPlace "name", "'", ifOptional ", required: false",
  " \x7d)\n"]

/-- A record. -/
def recordFile : Template := .concat [
  "import \x7b ApiProperty \x7d from '@nestjs/swagger';\n",
  "\n",
  "export class ", namePascal, " \x7b\n",
  .each "field" (.named "fields") "\n" (.concat [descriptionLine, propertyLine]) .done,
  "\x7d\n"]

end CrudScaffold.Source
