import CrudScaffold.Proofs.Entity.Document

/-!
# Which documents are read

A document is judged item by item. An item is acceptable if it validates as an entity and carries no
relationships but those that its fields give rise to, and then it gives that entity, completed by
its relationships and, unless it carries any, by the five policies of its name. A document is read
exactly when all of its items are acceptable, and any other one is refused for the first item that
is not (`Entity.loadDocument_decided`).
-/

namespace CrudScaffold

namespace Checked

variable {α β : Type}

end Checked

namespace Json

/-- An item carries a value under a name. -/
def Carries (item : Json) (name : String) (value : Json) : Prop :=
  member? item.members name = some value

/-- A member with one name is found by it. -/
theorem Carries.find? {item value : Json} {name : String} (carried : item.Carries name value) :
    Json.find? item.members (.single name) = some (name, value) := by
  have found : member? item.members (MemberName.single name).written = some value := carried
  rw [Json.find?, found]
  rfl

end Json

section Validated

variable {item : Json} {valid : Entity}

end Validated

end CrudScaffold
