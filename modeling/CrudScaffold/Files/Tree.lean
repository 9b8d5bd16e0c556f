import CrudScaffold.Files.Fault
import CrudScaffold.Text.Utf8

/-!
# Trees of files

A tree says what stands at each location: a file with its bytes, a directory, or nothing. A path is
followed from the working directory or the root, one step at a time, and every step has to start at
a directory; only then is something read, written or made at the location that was reached. A
refused action leaves the tree as it was.
-/

namespace CrudScaffold

/-- A location: the names on the way to it from the root. -/
abbrev Location := List String

/-- What stands at a location. -/
inductive Entry
  | file (content : List UInt8)
  | directory
deriving DecidableEq, Repr

/-- The kinds of entry. -/
inductive EntryKind
  | file
  | directory
deriving DecidableEq, Repr

/-- The kind of an entry. -/
def Entry.kind : Entry → EntryKind
  | .file _ => .file
  | .directory => .directory

/-- Files and directories, and a working directory. The first entry of a location counts. -/
structure Tree where
  /-- The working directory. -/
  base : Location
  /-- What stands where. The root is a directory without an entry. -/
  entries : List (Location × Entry)
deriving Repr

namespace Tree

/-- The directories on the way to a location. -/
def waysTo (location : Location) : List Location :=
  (List.range location.length).map fun count => location.take (count + 1)

/-- The tree that holds nothing but its working directory and what leads to it. -/
def empty (base : Location) : Tree := ⟨base, (waysTo base).map fun way => (way, .directory)⟩

/-- What stands at a location. -/
def entry? (tree : Tree) : Location → Option Entry
  | [] => some .directory
  | location => tree.entries.lookup location

/-- Put an entry at a location, whatever stood there. -/
def put (tree : Tree) (location : Location) (entry : Entry) : Tree :=
  { tree with
    entries := (location, entry) :: tree.entries.filter fun held => held.1 != location }

/-- The longest name of a file, in bytes. -/
def nameLimit : Nat := 255

/-- The longest path, in bytes. -/
def pathLimit : Nat := 4095

/-- The number of bytes of a text. -/
def byteCount (text : String) : Nat := (Text.encodeUtf8 text.toList).length

/-- Follow steps from a location. Each step starts at a directory; the last one may lead to a
location where nothing stands. -/
def follow (tree : Tree) : Location → List String → Except FileRefusal Location
  | here, [] => .ok here
  | here, step :: steps =>
    match tree.entry? here with
    | none => .error .missing
    | some (.file _) => .error .notDirectory
    | some .directory =>
      if step = ".." then follow tree here.dropLast steps
      else if nameLimit < byteCount step then .error .nameTooLong
      else follow tree (here ++ [step]) steps

/-- The location where a path starts. -/
def start (tree : Tree) (path : Path) : Location :=
  match path.root with
  | .relative => tree.base
  | _ => []

/-- The location that a path leads to. -/
def locate (tree : Tree) (path : Path) : Except FileRefusal Location :=
  if path.text.toList.contains '\x00' then .error .nullCharacter
  else if pathLimit < byteCount path.text then .error .nameTooLong
  else follow tree (tree.start path) path.steps

/-- What stands at the end of a path. -/
def status (tree : Tree) (path : Path) : Except FileRefusal EntryKind :=
  match tree.locate path with
  | .error reason => .error reason
  | .ok location =>
    match tree.entry? location with
    | some entry => .ok entry.kind
    | none => .error .missing

/-- The bytes of a file. -/
def read (tree : Tree) (path : Path) : Except FileRefusal (List UInt8) :=
  match tree.locate path with
  | .error reason => .error reason
  | .ok location =>
    match tree.entry? location with
    | some (.file content) => .ok content
    | some .directory => .error .isDirectory
    | none => .error .missing

/-- The tree after bytes were written to a file, which is made if it is not there. -/
def write (tree : Tree) (path : Path) (content : List UInt8) : Except FileRefusal Tree :=
  match tree.locate path with
  | .error reason => .error reason
  | .ok location =>
    match tree.entry? location with
    | some .directory => .error .isDirectory
    | _ => .ok (tree.put location (.file content))

/-- The tree after a directory was made in one that is there. -/
def makeDirectory (tree : Tree) (path : Path) : Except FileRefusal Tree :=
  match tree.locate path with
  | .error reason => .error reason
  | .ok location =>
    match tree.entry? location with
    | some _ => .error .alreadyThere
    | none => .ok (tree.put location .directory)

/-- The tree without a file. -/
def removeFile (tree : Tree) (path : Path) : Except FileRefusal Tree :=
  match tree.locate path with
  | .error reason => .error reason
  | .ok location =>
    match tree.entry? location with
    | some (.file _) =>
      .ok { tree with entries := tree.entries.filter fun held => held.1 != location }
    | some .directory => .error .isDirectory
    | none => .error .missing

/-- The files below a location, each by the steps to it from there. -/
def filesBelow (tree : Tree) (location : Location) : List (List String × List UInt8) :=
  tree.entries.filterMap fun
    | (place, .file content) =>
      if location.isPrefixOf place then some (place.drop location.length, content) else none
    | _ => none

/-- The entries below a location, each by the steps to it from there. -/
def namesBelow (tree : Tree) (location : Location) : List (List String) :=
  (tree.entries.map Prod.fst).filterMap fun place =>
    if location.isPrefixOf place && place != location then some (place.drop location.length)
    else none

end Tree

end CrudScaffold
