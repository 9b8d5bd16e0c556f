import CrudScaffold.Text.Blank
import CrudScaffold.Text.Case

/-!
# The words of a name and its spellings

A name such as `BlogPost`, `blogPost`, `blog_post`, `blog-post` or `blog post` is a list of words,
and all its spellings are made from that list. Hyphens, underscores and blanks separate words. A new
word also starts at an ASCII capital that small letters follow and at a capital behind a small
letter or a digit, so that a run of capitals stays together: `HTTPRequest` is `http` and `request`.

There are four ways to write the words of a name: separated by underscores or hyphens, or joined
with capitals at the starts of the words, where the first word may be left small.
-/

namespace CrudScaffold.Name

/-- The ASCII capitals. -/
def isCapital (c : Char) : Bool := 'A' ≤ c && c ≤ 'Z'

/-- The ASCII small letters. -/
def isSmall (c : Char) : Bool := 'a' ≤ c && c ≤ 'z'

/-- The ASCII small letters and digits. -/
def isSmallOrDigit (c : Char) : Bool := isSmall c || ('0' ≤ c && c ≤ '9')

/-- The characters between words. -/
def isSeparator (c : Char) : Bool := c == '-' || c == '_' || Text.isBlank c

/-- Whether a text starts with a capital. -/
def startsCapital : List Char → Bool
  | [] => false
  | c :: _ => isCapital c

/-- Whether a text starts with a capital and a small letter. -/
def startsCapitalized : List Char → Bool
  | capital :: small :: _ => isCapital capital && isSmall small
  | _ => false

/-- Where the reader of a name stands: at a character that may precede a capitalized word, at the
capital of such a word, or among the small letters behind that capital. -/
inductive Stage
  | outside
  | capital
  | small
deriving DecidableEq, Repr

/-- Put a space between a character and a capitalized word. The small letters of the word are
passed over, so that none of them is the character before the next word. -/
def spaceCapitalized : Stage → List Char → List Char
  | _, [] => []
  | stage, c :: rest =>
    if stage = .capital then c :: spaceCapitalized .small rest
    else if stage = .small && isSmall c then c :: spaceCapitalized .small rest
    else if c != '\n' && startsCapitalized rest then c :: ' ' :: spaceCapitalized .capital rest
    else c :: spaceCapitalized .outside rest

/-- Put a space between a small letter or digit and a capital. -/
def spaceHumps : List Char → List Char
  | [] => []
  | c :: rest =>
    if isSmallOrDigit c && startsCapital rest then c :: ' ' :: spaceHumps rest
    else c :: spaceHumps rest

/-- The words of a name as they are written. -/
def pieces (name : List Char) : List (List Char) :=
  ((spaceHumps (spaceCapitalized .outside (Text.trim name))).splitOnP isSeparator).filter (· ≠ [])

/-- The words of a name in lower case. -/
def words (name : List Char) : List (List Char) := (pieces name).map Text.lower

/-! ### Spellings -/

/-- A word with its first character in upper case. -/
def capitalize : List Char → List Char
  | [] => []
  | c :: rest => Text.upperChar c ++ rest

/-- A text with its first character in lower case. -/
def uncapitalize : List Char → List Char
  | [] => []
  | c :: rest => Text.lower [c] ++ rest

/-- The words with a separator between them. -/
def separated (separator : Char) (name : List Char) : List Char :=
  [separator].intercalate (words name)

/-- The words joined, each with a capital. -/
def joined (name : List Char) : List Char := (words name).flatMap capitalize

/-- `blog_post` -/
def snakeCase (name : String) : String := String.ofList (separated '_' name.toList)

/-- `blog-post` -/
def kebabCase (name : String) : String := String.ofList (separated '-' name.toList)

/-- `BlogPost` -/
def pascalCase (name : String) : String := String.ofList (joined name.toList)

/-- `blogPost` -/
def camelCase (name : String) : String := String.ofList (uncapitalize (joined name.toList))

end CrudScaffold.Name
