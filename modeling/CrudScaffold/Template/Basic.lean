import CrudScaffold.Template.Value

/-!
# Templates

A template is text with places in it: for a value, for a part that stands only under a condition,
and for a part that is repeated for the elements of a value. Rendering looks values up by name and
stops at the first name or member that is not there, so that no file is ever written with a gap.
-/

namespace CrudScaffold

/-- Where a template takes a value from. -/
inductive Lookup
  /-- The value of a name. -/
  | named (name : String)
  /-- A member of the value of a name. -/
  | member (name key : String)
deriving DecidableEq, Repr

/-- A text with places. Each constructor but the first holds what follows it. -/
inductive Template
  | done
  | text (content : String) (next : Template)
  /-- The text of a value. -/
  | value (source : Lookup) (next : Template)
  /-- The texts of the elements of a value, with a separator between them. -/
  | joined (source : Lookup) (separator : String) (next : Template)
  /-- A text if a condition holds, and nothing otherwise. -/
  | mark (condition : Lookup) (content : String) (next : Template)
  /-- A part that stands only if a condition holds. -/
  | given (condition : Lookup) (body next : Template)
  /-- A part for each element of a value, which a name stands for, and a text between the parts. -/
  | each (name : String) (source : Lookup) (between : String) (body next : Template)
deriving Repr

/-- Why a template gives no text. -/
inductive TemplateFault
  | undefinedName (name : String)
  | undefinedMember (owner key : String)
  | notIterable (kind : String)
  | unknownTemplate (name : String)
  | unknownFilter (name : String)
deriving DecidableEq, Repr

/-- The words for a fault. -/
def TemplateFault.message : TemplateFault → String
  | .undefinedName name => Text.quoted name ++ " is undefined"
  | .undefinedMember owner key => Text.quoted owner ++ " has no attribute " ++ Text.quoted key
  | .notIterable kind => Text.quoted kind ++ " object is not iterable"
  | .unknownTemplate name => name
  | .unknownFilter name => "No filter named " ++ Text.quoted name ++ "."

namespace Lookup

/-- The value that a lookup finds among named values. -/
def find (scope : List (String × Json)) : Lookup → Except TemplateFault Json
  | .named name =>
    match Json.member? scope name with
    | some value => .ok value
    | none => .error (.undefinedName name)
  | .member name key =>
    match Json.member? scope name with
    | none => .error (.undefinedName name)
    | some (.object members) =>
      match Json.member? members key with
      | some value => .ok value
      | none => .error (.undefinedMember (Json.object members).ownerName key)
    | some owner => .error (.undefinedMember owner.ownerName key)

/-- The elements of the value that a lookup finds. -/
def elements (scope : List (String × Json)) (source : Lookup) :
    Except TemplateFault (List Json) := do
  let value ← source.find scope
  match value.elements? with
  | some elements => .ok elements
  | none => .error (.notIterable value.kindName)

end Lookup

namespace Template

/-- One template behind another. -/
def append : Template → Template → Template
  | .done, after => after
  | .text content next, after => .text content (append next after)
  | .value source next, after => .value source (append next after)
  | .joined source separator next, after => .joined source separator (append next after)
  | .mark condition content next, after => .mark condition content (append next after)
  | .given condition body next, after => .given condition body (append next after)
  | .each name source between body next, after =>
    .each name source between body (append next after)

instance : Append Template := ⟨append⟩

instance : Coe String Template := ⟨fun content => .text content .done⟩

/-- Templates in a row. -/
def concat (parts : List Template) : Template := parts.foldr append .done

/-- The text of a template whose names have the values of a scope. -/
def render (scope : List (String × Json)) : Template → Except TemplateFault String
  | .done => .ok ""
  | .text content next => do
    let rest ← next.render scope
    return content ++ rest
  | .value source next => do
    let value ← source.find scope
    let rest ← next.render scope
    return value.shown ++ rest
  | .joined source separator next => do
    let elements ← source.elements scope
    let rest ← next.render scope
    return separator.intercalate (elements.map Json.shown) ++ rest
  | .mark condition content next => do
    let value ← condition.find scope
    let rest ← next.render scope
    return (if value.isTruthy then content else "") ++ rest
  | .given condition body next => do
    let value ← condition.find scope
    let part ← if value.isTruthy then body.render scope else pure ""
    let rest ← next.render scope
    return part ++ rest
  | .each name source between body next => do
    let elements ← source.elements scope
    let parts ← elements.mapM fun element => body.render ((name, element) :: scope)
    let rest ← next.render scope
    return between.intercalate parts ++ rest

/-- Rendering a row of two templates is rendering both. -/
theorem render_append (scope : List (String × Json)) (first second : Template) :
    (first ++ second).render scope =
      (do
        let front ← first.render scope
        let back ← second.render scope
        return front ++ back) := by
  change (append first second).render scope = _
  induction first with
  | done =>
    simp only [append, render]
    cases second.render scope <;> simp [bind, Except.bind, pure, Except.pure]
  | text content next ih =>
    simp only [append, render, ih]
    cases next.render scope <;> cases second.render scope <;>
      simp [bind, Except.bind, pure, Except.pure, String.append_assoc]
  | value source next ih =>
    simp only [append, render, ih]
    cases source.find scope <;> cases next.render scope <;> cases second.render scope <;>
      simp [bind, Except.bind, pure, Except.pure, String.append_assoc]
  | joined source separator next ih =>
    simp only [append, render, ih]
    cases source.elements scope <;> cases next.render scope <;> cases second.render scope <;>
      simp [bind, Except.bind, pure, Except.pure, String.append_assoc]
  | mark condition content next ih =>
    simp only [append, render, ih]
    cases condition.find scope <;> cases next.render scope <;> cases second.render scope <;>
      simp [bind, Except.bind, pure, Except.pure, String.append_assoc]
  | given condition body next _ ih =>
    simp only [append, render, ih]
    cases condition.find scope with
    | error fault => rfl
    | ok value =>
      by_cases holds : value.isTruthy <;> cases body.render scope <;> cases next.render scope <;>
        cases second.render scope <;>
        simp [bind, Except.bind, pure, Except.pure, String.append_assoc, holds]
  | each name source between body next _ ih =>
    simp only [append, render, ih]
    cases source.elements scope with
    | error fault => rfl
    | ok elements =>
      cases parts : elements.mapM fun element => body.render ((name, element) :: scope) <;>
        cases next.render scope <;> cases second.render scope <;>
        simp [bind, Except.bind, pure, Except.pure, String.append_assoc, parts]

end Template

end CrudScaffold
