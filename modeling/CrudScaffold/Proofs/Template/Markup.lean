import CrudScaffold.Proofs.Template.Parts
import CrudScaffold.Text.Blank
import CrudScaffold.Text.Word

/-!
# Templates as marked-up text

A template file is text with marks in it. Double braces hold a place, at which a value is put.
Braces with percent signs hold a tag, which opens or closes a part that stands under a condition or
is repeated for the elements of a value. Within a repeated part the name `loop` tells whether the
element is the last one.

A tag that has a line for itself leaves no trace of the line: blanks in front of it do not count if
nothing else stands before it on the line, and a line feed right behind it does not count either.
Places have no such rule. The text is cut into pieces by these rules (`Markup.scan`), what stands in
a mark is read word by word (`Markup.tokens`), and parts are nested (`Markup.nest`).

Main statement: a part that is repeated, and that ends with a text unless the element is the last
one, is the parts with that text between them (`Markup.render_between`).
-/

namespace CrudScaffold

open Text

namespace Markup

/-! ### Pieces -/

/-- A piece of a marked-up text. -/
inductive Piece
  /-- A text that stands for itself. -/
  | text (content : List Char)
  /-- What stands between double braces. -/
  | place (code : List Char)
  /-- What stands between braces with percent signs. -/
  | tag (code : List Char)
deriving DecidableEq, Repr

/-- Where a scan is. -/
inductive Stage
  /-- In text, which starts a line if nothing but a tag and its line feed stands before it. -/
  | text (fresh : Bool)
  /-- Between double braces. -/
  | place
  /-- Between braces with percent signs. -/
  | tag

/-- Whether a character can stand in front of a tag without a trace. -/
def isIndent (c : Char) : Bool := isBlank c && c != '\n'

/-- The text in front of a tag, its last character first, without the blanks that do not count. -/
def withoutIndent (fresh : Bool) (held : List Char) : List Char :=
  match held.dropWhile isIndent with
  -- only blanks were read: they count unless they start the line
  | [] => if fresh then [] else held
  | c :: rest => if c = '\n' then c :: rest else held

/-- The piece of a text, its last character first, if there is any. -/
def textPiece (held : List Char) : List Piece :=
  if held.isEmpty then [] else [.text held.reverse]

/-- Cut a text into pieces. What has been read of the piece in hand is held, its last character
first. Comments are not part of the notation. -/
def scan : Stage → (held : List Char) → List Char → Option (List Piece)
  | .text _, held, '\x7b' :: '\x7b' :: rest =>
    (scan .place [] rest).map (textPiece held ++ ·)
  | .text fresh, held, '\x7b' :: '%' :: rest =>
    (scan .tag [] rest).map (textPiece (withoutIndent fresh held) ++ ·)
  | .text _, _, '\x7b' :: '#' :: _ => none
  | .place, held, '\x7d' :: '\x7d' :: rest =>
    (scan (.text false) [] rest).map (.place held.reverse :: ·)
  -- the line feed behind a tag does not count, and what follows starts a line
  | .tag, held, '%' :: '\x7d' :: '\n' :: rest =>
    (scan (.text true) [] rest).map (.tag held.reverse :: ·)
  | .tag, held, '%' :: '\x7d' :: rest =>
    (scan (.text false) [] rest).map (.tag held.reverse :: ·)
  | stage, held, c :: rest => scan stage (c :: held) rest
  | .text _, held, [] => some (textPiece held)
  | _, _, [] => none

/-! ### Marks -/

/-- A word of what stands in a mark. -/
inductive Token
  | name (text : List Char)
  | quoted (text : List Char)
  | sign (c : Char)
deriving DecidableEq, Repr

/-- The name of letters, the last one first, if there are any. -/
def nameToken (held : List Char) : List Token :=
  if held.isEmpty then [] else [.name held.reverse]

/-- The words of a mark. What has been read of a quotation is held apart from what has been read of
a name; both have their last character first. -/
def tokens : (quotation : Option (List Char)) → (held : List Char) → List Char →
    Option (List Token)
  | some quotation, _, '\'' :: rest => (tokens none [] rest).map (.quoted quotation.reverse :: ·)
  | some quotation, held, c :: rest => tokens (some (c :: quotation)) held rest
  | some _, _, [] => none
  | none, held, [] => some (nameToken held)
  | none, held, c :: rest =>
    if isWordChar c then tokens none (c :: held) rest
    else
      (if c = '\'' then tokens (some []) [] rest
      else if isBlank c then tokens none [] rest
      else (tokens none [] rest).map (.sign c :: ·)).map (nameToken held ++ ·)

/-- A name, or a member of one. -/
def lookup? : List Token → Option Lookup
  | [.name name] => some (.named (String.ofList name))
  | [.name name, .sign '.', .name key] =>
    some (.member (String.ofList name) (String.ofList key))
  | _ => none

/-- What is put at a place. -/
inductive Expression
  /-- The text of a value. -/
  | value (source : Lookup)
  /-- The texts of the elements of a value, with a separator between them. -/
  | joined (source : Lookup) (separator : String)
  /-- One text if a condition holds, and another one otherwise. -/
  | choice (condition : Lookup) (holding failing : String)
deriving DecidableEq, Repr

/-- Read what stands at a place. -/
def expression? : List Token → Option Expression
  | .quoted holding :: .name ['i', 'f'] :: rest =>
    match rest.reverse with
    | .quoted failing :: .name ['e', 'l', 's', 'e'] :: condition =>
      (lookup? condition.reverse).map (.choice · (String.ofList holding) (String.ofList failing))
    | _ => none
  | [.name name, .sign '|', .name ['j', 'o', 'i', 'n'], .sign '(', .quoted separator, .sign ')'] =>
    some (.joined (.named (String.ofList name)) (String.ofList separator))
  | others => (lookup? others).map .value

/-- What a tag does. -/
inductive Tag
  /-- Open a part that stands only if a condition holds, or only if it fails. -/
  | given (condition : Lookup) (holding : Bool)
  | endGiven
  /-- Open a part that is repeated for the elements of a value. -/
  | each (name : String) (source : Lookup)
  | endEach
deriving DecidableEq, Repr

/-- Read a tag. -/
def tag? : List Token → Option Tag
  | [.name ['e', 'n', 'd', 'i', 'f']] => some .endGiven
  | [.name ['e', 'n', 'd', 'f', 'o', 'r']] => some .endEach
  | .name ['i', 'f'] :: .name ['n', 'o', 't'] :: condition =>
    (lookup? condition).map (.given · false)
  | .name ['i', 'f'] :: condition => (lookup? condition).map (.given · true)
  | .name ['f', 'o', 'r'] :: .name name :: .name ['i', 'n'] :: source =>
    (lookup? source).map (.each (String.ofList name))
  | _ => none

end Markup

/-! ### Nesting -/

/-- A marked-up text that has been read. Each constructor but the first holds what follows it. -/
inductive Markup
  | done
  | text (content : String) (next : Markup)
  | place (expression : Markup.Expression) (next : Markup)
  | given (condition : Lookup) (holding : Bool) (body next : Markup)
  | each (name : String) (source : Lookup) (body next : Markup)
deriving DecidableEq, Repr

namespace Markup

/-- What closes a level of nested parts. -/
inductive Closing
  | endOfText
  | endGiven
  | endEach
deriving DecidableEq, Repr

/-- Nest the parts of a text, from its end: the levels that are open there, the innermost first,
each with what closes it and with what has been read of it. -/
def nest : List Piece → Option (List (Closing × Markup))
  | [] => some [(.endOfText, .done)]
  | .text content :: rest => do
    match ← nest rest with
    | (closing, next) :: outer => some ((closing, .text (String.ofList content) next) :: outer)
    | [] => none
  | .place code :: rest => do
    let expression ← expression? (← tokens none [] code)
    match ← nest rest with
    | (closing, next) :: outer => some ((closing, .place expression next) :: outer)
    | [] => none
  | .tag code :: rest => do
    -- what follows is nested already, so a tag that opens a part takes the innermost level
    match ← tag? (← tokens none [] code), ← nest rest with
    | .endGiven, levels => some ((.endGiven, .done) :: levels)
    | .endEach, levels => some ((.endEach, .done) :: levels)
    | .given condition holding, (.endGiven, body) :: (closing, next) :: outer =>
      some ((closing, .given condition holding body next) :: outer)
    | .each name source, (.endEach, body) :: (closing, next) :: outer =>
      some ((closing, .each name source body next) :: outer)
    | _, _ => none

/-- Read a marked-up text. -/
def read (text : String) : Option Markup := do
  match ← nest (← scan (.text true) [] text.toList) with
  | [(.endOfText, markup)] => some markup
  | _ => none

/-! ### Rendering -/

/-- The text of what stands at a place. -/
def Expression.render (scope : List (String × Json)) :
    Expression → Except TemplateFault String
  | .value source => do
    let value ← source.find scope
    return value.shown
  | .joined source separator => do
    let elements ← source.elements scope
    return separator.intercalate (elements.map Json.shown)
  | .choice condition holding failing => do
    let value ← condition.find scope
    return if value.isTruthy then holding else failing

/-- Items, each with whether it is the last one. -/
def lasts {α : Type} : List α → List (α × Bool)
  | [] => []
  | item :: items => (item, items.isEmpty) :: lasts items

/-- The scope of a part that is repeated, for one of the elements. -/
def inLoop (scope : List (String × Json)) (name : String) (element : Json × Bool) :
    List (String × Json) :=
  ("loop", .object [("last", .bool element.2)]) :: (name, element.1) :: scope

/-- The text of a marked-up text whose names have the values of a scope. -/
def render (scope : List (String × Json)) : Markup → Except TemplateFault String
  | .done => .ok ""
  | .text content next => do
    let rest ← next.render scope
    return content ++ rest
  | .place expression next => do
    let front ← expression.render scope
    let rest ← next.render scope
    return front ++ rest
  | .given condition holding body next => do
    let value ← condition.find scope
    let part ← if value.isTruthy = holding then body.render scope else pure ""
    let rest ← next.render scope
    return part ++ rest
  | .each name source body next => do
    let elements ← source.elements scope
    let parts ← (lasts elements).mapM fun element => body.render (inLoop scope name element)
    let rest ← next.render scope
    return String.join parts ++ rest

section

variable {scope : List (String × Json)} {next : Markup} {front rest : String}

/-- A value that is a text is put as it is. -/
theorem Expression.render_value {source : Lookup} {content : String}
    (found : source.find scope = .ok (.string content)) :
    (Expression.value source).render scope = .ok content := by
  rw [Expression.render, found]
  rfl

/-- One of two texts is put. -/
theorem Expression.render_choice {condition : Lookup} {holds : Bool} (holding failing : String)
    (found : condition.find scope = .ok (.bool holds)) :
    (Expression.choice condition holding failing).render scope =
      .ok (if holds then holding else failing) := by
  rw [Expression.render, found]
  rfl

/-- Values that are texts are put with the separator between them. -/
theorem Expression.render_joined {source : Lookup} {contents : List String} (separator : String)
    (found : source.elements scope = .ok (contents.map .string)) :
    (Expression.joined source separator).render scope =
      .ok (separator.intercalate contents) := by
  rw [Expression.render, found]
  show Except.ok (separator.intercalate ((contents.map Json.string).map Json.shown)) = _
  rw [Json.map_shown]

/-- A text renders to itself and to what follows. -/
theorem render_text (content : String) (behind : next.render scope = .ok rest) :
    (Markup.text content next).render scope = .ok (content ++ rest) := by
  rw [render, behind]
  rfl

/-- A place renders to what is put there and to what follows. -/
theorem render_place {expression : Expression} (put : expression.render scope = .ok front)
    (behind : next.render scope = .ok rest) :
    (Markup.place expression next).render scope = .ok (front ++ rest) := by
  rw [render, put, behind]
  rfl

/-- A part under a condition renders where the condition holds or fails as it has to. -/
theorem render_given {condition : Lookup} {value : Json} {holding : Bool} {body : Markup}
    (found : condition.find scope = .ok value) (inside : body.render scope = .ok front)
    (behind : next.render scope = .ok rest) :
    (Markup.given condition holding body next).render scope =
      .ok ((if value.isTruthy = holding then front else "") ++ rest) := by
  rw [render, found, inside, behind]
  by_cases stands : value.isTruthy = holding
  · simp [bind, Except.bind, pure, Except.pure, stands]
  · simp [bind, Except.bind, pure, Except.pure, stands]

end

/-- Texts with a separator behind each but the last are the texts with the separator between
them. -/
theorem join_lasts {α : Type} (text : α → String) (separator : String) (items : List α) :
    String.join ((lasts items).map fun item =>
      text item.1 ++ if item.2 then "" else separator) =
        separator.intercalate (items.map text) := by
  induction items with
  | nil => rfl
  | cons item items ih =>
    cases items with
    | nil =>
      show String.join [text item ++ ""] = separator.intercalate [text item]
      rw [String.join_cons, String.join_nil, String.append_empty, String.append_empty,
        String.intercalate_singleton]
    | cons next items =>
      have rest : String.join ((lasts (item :: next :: items)).map fun item =>
          text item.1 ++ if item.2 then "" else separator) =
            (text item ++ separator) ++ separator.intercalate ((next :: items).map text) := by
        rw [← ih]
        exact String.join_cons
      rw [rest]
      exact String.intercalate_cons_cons.symm

/-- Items that are made from others are the last ones where the others are. -/
theorem lasts_map {α β : Type} (make : α → β) (items : List α) :
    lasts (items.map make) = (lasts items).map fun item => (make item.1, item.2) := by
  induction items with
  | nil => rfl
  | cons item items ih =>
    rw [List.map_cons, lasts, ih, lasts, List.map_cons, List.isEmpty_map]

/-- A part that is repeated, and ends with a text unless the element is the last one, puts that text
between the texts of the elements. -/
theorem render_between {α : Type} {scope : List (String × Json)} {name : String}
    {source : Lookup} {body next : Markup} {items : List α} {make : α → Json}
    {text : α → String} {separator rest : String}
    (found : source.elements scope = .ok (items.map make))
    (each : ∀ item last, body.render (inLoop scope name (make item, last)) =
      .ok (text item ++ if last then "" else separator))
    (behind : next.render scope = .ok rest) :
    (Markup.each name source body next).render scope =
      .ok (separator.intercalate (items.map text) ++ rest) := by
  have parts : (lasts (items.map make)).mapM
      (fun element => body.render (inLoop scope name element)) =
        .ok ((lasts items).map fun item => text item.1 ++ if item.2 then "" else separator) := by
    rw [lasts_map, mapM_eq_ok_iff, List.forall₂_map_left_iff, List.forall₂_map_right_iff,
      List.forall₂_same]
    exact fun item _ => each item.1 item.2
  rw [render, found, behind]
  show ((lasts (items.map make)).mapM (fun element => body.render (inLoop scope name element)) >>=
    fun parts => Except.ok (String.join parts ++ rest)) = _
  rw [parts]
  show Except.ok (String.join _ ++ rest) = _
  rw [join_lasts]

end Markup

end CrudScaffold
