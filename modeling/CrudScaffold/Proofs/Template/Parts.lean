import CrudScaffold.Proofs.Traversal
import CrudScaffold.Template.Basic

/-!
# Templates part by part

What each part of a template renders to, and templates in a row (`Template.render_concat`).
-/

namespace CrudScaffold

/-- Texts are shown as they are. -/
theorem Json.map_shown (contents : List String) :
    (contents.map Json.string).map Json.shown = contents := by
  rw [List.map_map]
  exact List.map_id contents

/-- Texts with nothing between them are the texts in a row. -/
theorem intercalate_empty (texts : List String) : "".intercalate texts = String.join texts := by
  induction texts with
  | nil => rfl
  | cons text texts ih =>
    cases texts with
    | nil =>
      rw [String.intercalate_singleton, String.join_cons, String.join_nil, String.append_empty]
    | cons next texts =>
      rw [String.join_cons, ← ih, String.intercalate_cons_cons, String.append_empty]

namespace Template

variable {scope : List (String × Json)}

/-- Templates in a row render to their texts in a row. -/
theorem render_concat {parts : List Template} {texts : List String}
    (each : List.Forall₂ (fun part text => part.render scope = .ok text) parts texts) :
    (concat parts).render scope = .ok (String.join texts) := by
  induction each with
  | nil => rfl
  | @cons part text parts texts first _ ih =>
    have split : (concat (part :: parts)).render scope = (do
        let front ← part.render scope
        let back ← (concat parts).render scope
        return front ++ back) := render_append scope part (concat parts)
    rw [split, first, ih, String.join_cons]
    rfl

/-- A text renders to itself. -/
theorem render_text (content : String) :
    (content : Template).render scope = .ok content := by
  rw [render, render]
  show Except.ok (content ++ "") = _
  rw [String.append_empty]

/-- A place of a text renders to the text. -/
theorem render_value {source : Lookup} {content : String}
    (found : source.find scope = .ok (.string content)) :
    (Template.value source .done).render scope = .ok content := by
  rw [render, found, render]
  show Except.ok (content ++ "") = _
  rw [String.append_empty]

/-- A mark renders to its text or to nothing. -/
theorem render_mark {condition : Lookup} {holds : Bool} (content : String)
    (found : condition.find scope = .ok (.bool holds)) :
    (Template.mark condition content .done).render scope =
      .ok (if holds then content else "") := by
  rw [render, found, render]
  show Except.ok ((if holds then content else "") ++ "") = _
  rw [String.append_empty]

/-- A part under a condition renders to its text or to nothing. -/
theorem render_given {condition : Lookup} {value : Json} {body : Template} {content : String}
    (found : condition.find scope = .ok value) (inside : body.render scope = .ok content) :
    (Template.given condition body .done).render scope =
      .ok (if value.isTruthy then content else "") := by
  rw [render, found, inside, render]
  by_cases holds : value.isTruthy = true
  · simp [bind, Except.bind, pure, Except.pure, holds]
  · simp [bind, Except.bind, pure, Except.pure, holds]

/-- A place of texts renders to them with the separator between them. -/
theorem render_joined {source : Lookup} {separator : String} {contents : List String}
    (found : source.elements scope = .ok (contents.map .string)) :
    (Template.joined source separator .done).render scope =
      .ok (separator.intercalate contents) := by
  rw [render, found, render]
  show Except.ok (separator.intercalate ((contents.map Json.string).map Json.shown) ++ "") = _
  rw [Json.map_shown, String.append_empty]

/-- A part that is repeated renders to the texts for the elements, with the text between them. -/
theorem render_each {α : Type} {name between rest : String} {source : Lookup}
    {body next : Template} {items : List α} {make : α → Json} {text : α → String}
    (found : source.elements scope = .ok (items.map make))
    (each : ∀ item, body.render ((name, make item) :: scope) = .ok (text item))
    (behind : next.render scope = .ok rest) :
    (Template.each name source between body next).render scope =
      .ok (between.intercalate (items.map text) ++ rest) := by
  have parts : (items.map make).mapM (fun element => body.render ((name, element) :: scope)) =
      .ok (items.map text) := by
    rw [mapM_eq_ok_iff, List.forall₂_map_left_iff, List.forall₂_map_right_iff, List.forall₂_same]
    exact fun item _ => each item
  rw [render, found, behind]
  show ((items.map make).mapM (fun element => body.render ((name, element) :: scope)) >>=
    fun parts => Except.ok (between.intercalate parts ++ rest)) = _
  rw [parts]
  rfl

end Template

end CrudScaffold
