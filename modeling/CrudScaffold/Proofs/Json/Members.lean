import CrudScaffold.Json.Checked
import Mathlib.Data.List.Forall2

/-!
# Members under either of their names

An object is read by the names of its members, not by their order. A member may be spelled in two
ways, and one with a default may be missing. When no two members share a spelling, every member is
found with its value however the object spells it (`Respelled.find?`), so the checks of the members
pass as they do for the object with all members under their written names.
-/

namespace CrudScaffold

/-- Two names that have no spelling in common. -/
def MemberName.Apart (left right : MemberName) : Prop :=
  (left.written ≠ right.written ∧ left.written ≠ right.alternative) ∧
    left.alternative ≠ right.written ∧ left.alternative ≠ right.alternative

instance (left right : MemberName) : Decidable (left.Apart right) :=
  inferInstanceAs (Decidable ((_ ∧ _) ∧ _ ∧ _))

/-- A member that an object may have. -/
structure Member where
  /-- Its two names. -/
  name : MemberName
  /-- Its value. -/
  value : Json
  /-- Whether it may be missing. -/
  droppable : Prop

/-- The members of an object, each under one of its names or missing. -/
inductive Respelled : List Member → List (String × Json) → Prop
  | nil : Respelled [] []
  | dropped {member members given} : member.droppable → Respelled members given →
      Respelled (member :: members) given
  | written {member members given} : Respelled members given →
      Respelled (member :: members) ((member.name.written, member.value) :: given)
  | alternative {member members given} : Respelled members given →
      Respelled (member :: members) ((member.name.alternative, member.value) :: given)

/-- All members under their written names. -/
theorem Respelled.all (members : List Member) :
    Respelled members (members.map fun member => (member.name.written, member.value)) := by
  induction members with
  | nil => exact .nil
  | cons member members ih => exact .written ih

/-- Every given member is one of the members under one of its names. -/
theorem Respelled.of_mem {members : List Member} {given : List (String × Json)}
    (respelled : Respelled members given) {entry : String × Json} (inside : entry ∈ given) :
    ∃ member ∈ members, entry.2 = member.value ∧
      (entry.1 = member.name.written ∨ entry.1 = member.name.alternative) := by
  induction respelled with
  | nil => exact absurd inside List.not_mem_nil
  | dropped _ _ ih =>
    obtain ⟨member, among, same⟩ := ih inside
    exact ⟨member, List.mem_cons_of_mem _ among, same⟩
  | @written head members given _ ih =>
    rcases List.mem_cons.mp inside with rfl | later
    · exact ⟨head, List.mem_cons_self, rfl, .inl rfl⟩
    · obtain ⟨member, among, same⟩ := ih later
      exact ⟨member, List.mem_cons_of_mem _ among, same⟩
  | @alternative head members given _ ih =>
    rcases List.mem_cons.mp inside with rfl | later
    · exact ⟨head, List.mem_cons_self, rfl, .inr rfl⟩
    · obtain ⟨member, among, same⟩ := ih later
      exact ⟨member, List.mem_cons_of_mem _ among, same⟩

namespace Json

/-- The first member of a name is the member of the name. -/
theorem member?_cons_self (name : String) (value : Json) (given : List (String × Json)) :
    member? ((name, value) :: given) name = some value := by
  rw [member?, List.lookup_cons_self]

/-- A member of another name does not matter. -/
theorem member?_cons_of_ne {name other : String} (different : name ≠ other) (value : Json)
    (given : List (String × Json)) :
    member? ((other, value) :: given) name = member? given name := by
  rw [member?, List.lookup_cons, beq_false_of_ne different]
  rfl

/-- A name that no member has is not found. -/
theorem member?_eq_none {name : String} {given : List (String × Json)}
    (missing : ∀ entry ∈ given, name ≠ entry.1) : member? given name = none := by
  induction given with
  | nil => rfl
  | cons entry given ih =>
    obtain ⟨first, others⟩ := List.forall_mem_cons.mp missing
    rw [member?_cons_of_ne first, ih others]

/-- A member that is not found is not there under its written name. -/
theorem member?_of_find?_eq_none {name : MemberName} {given : List (String × Json)}
    (missing : find? given name = none) : member? given name.written = none := by
  rw [find?] at missing
  split at missing
  · contradiction
  · assumption

/-- A member with two other names does not matter. -/
theorem find?_cons_of_ne {name : MemberName} {other : String} (written : name.written ≠ other)
    (alternative : name.alternative ≠ other) (value : Json) (given : List (String × Json)) :
    find? ((other, value) :: given) name = find? given name := by
  rw [find?, member?_cons_of_ne written, member?_cons_of_ne alternative]
  rfl

end Json

/-- Names that no member has are not found. -/
theorem Respelled.member?_eq_none {members : List Member} {given : List (String × Json)}
    (respelled : Respelled members given) {name : String}
    (apart : ∀ member ∈ members, name ≠ member.name.written ∧ name ≠ member.name.alternative) :
    Json.member? given name = none := by
  refine Json.member?_eq_none fun entry inside same => ?_
  obtain ⟨member, among, -, spelled⟩ := respelled.of_mem inside
  rcases spelled with written | alternative
  · exact (apart member among).1 (same.trans written)
  · exact (apart member among).2 (same.trans alternative)

/-- A member is found with its value, or it is missing and may be. -/
theorem Respelled.find? {members : List Member} {given : List (String × Json)}
    (respelled : Respelled members given)
    (apart : (members.map Member.name).Pairwise MemberName.Apart)
    {member : Member} (inside : member ∈ members) :
    (∃ spelling, Json.find? given member.name = some (spelling, member.value)) ∨
      Json.find? given member.name = none ∧ member.droppable := by
  induction respelled with
  | nil => exact absurd inside List.not_mem_nil
  | @dropped head members given may rest ih =>
    rw [List.map_cons, List.pairwise_cons, List.forall_mem_map] at apart
    rcases List.mem_cons.mp inside with rfl | later
    · have written := rest.member?_eq_none fun other among => (apart.1 other among).1
      have alternative := rest.member?_eq_none fun other among => (apart.1 other among).2
      refine .inr ⟨?_, may⟩
      rw [Json.find?, written, alternative]
      rfl
    · exact ih apart.2 later
  | @written head members given rest ih =>
    rw [List.map_cons, List.pairwise_cons, List.forall_mem_map] at apart
    rcases List.mem_cons.mp inside with rfl | later
    · refine .inl ⟨member.name.written, ?_⟩
      rw [Json.find?, Json.member?_cons_self]
    · have different := apart.1 member later
      rw [Json.find?_cons_of_ne different.1.1.symm different.1.2.symm]
      exact ih apart.2 later
  | @alternative head members given rest ih =>
    rw [List.map_cons, List.pairwise_cons, List.forall_mem_map] at apart
    rcases List.mem_cons.mp inside with rfl | later
    · by_cases same : member.name.written = member.name.alternative
      · refine .inl ⟨member.name.written, ?_⟩
        rw [Json.find?, ← same, Json.member?_cons_self]
      · have written := rest.member?_eq_none fun other among => (apart.1 other among).1
        refine .inl ⟨member.name.alternative, ?_⟩
        rw [Json.find?, Json.member?_cons_of_ne same, written, Json.member?_cons_self]
        rfl
    · have different := apart.1 member later
      rw [Json.find?_cons_of_ne different.2.1.symm different.2.2.symm]
      exact ih apart.2 later

/-- The members given have different names. -/
theorem Respelled.nodup {members : List Member} {given : List (String × Json)}
    (respelled : Respelled members given)
    (apart : (members.map Member.name).Pairwise MemberName.Apart) :
    (given.map Prod.fst).Nodup := by
  have new {head : Member} {members : List Member} {given : List (String × Json)}
      (rest : Respelled members given) (apart : ∀ other ∈ members, head.name.Apart other.name)
      {spelling : String}
      (spelled : spelling = head.name.written ∨ spelling = head.name.alternative) :
      spelling ∉ given.map Prod.fst := by
    intro old
    obtain ⟨entry, inside, same⟩ := List.mem_map.mp old
    obtain ⟨other, among, -, named⟩ := rest.of_mem inside
    rw [same] at named
    obtain ⟨⟨first, second⟩, third, fourth⟩ := apart other among
    rcases spelled with rfl | rfl <;> rcases named with same | same
    · exact first same
    · exact second same
    · exact third same
    · exact fourth same
  induction respelled with
  | nil => exact List.nodup_nil
  | dropped _ _ ih =>
    rw [List.map_cons, List.pairwise_cons] at apart
    exact ih apart.2
  | written rest ih =>
    rw [List.map_cons, List.pairwise_cons, List.forall_mem_map] at apart
    exact List.nodup_cons.mpr ⟨new rest apart.1 (.inl rfl), ih apart.2⟩
  | alternative rest ih =>
    rw [List.map_cons, List.pairwise_cons, List.forall_mem_map] at apart
    exact List.nodup_cons.mpr ⟨new rest apart.1 (.inr rfl), ih apart.2⟩

section Checks

variable {α : Type} {members : List Member} {given : List (String × Json)}
  {check : Json → Checked α} {result : α}

/-- A member that may not be missing passes its check. -/
theorem Respelled.required (respelled : Respelled members given)
    (apart : (members.map Member.name).Pairwise MemberName.Apart) {name : MemberName} {value : Json}
    (inside : ⟨name, value, False⟩ ∈ members) (passed : check value = .passed result) :
    Json.required given name check = .passed result := by
  rcases respelled.find? apart inside with ⟨spelling, found⟩ | ⟨-, never⟩
  · rw [Json.required, found]
    dsimp only
    rw [passed]
    rfl
  · exact absurd never not_false

/-- A member with a default is there and passes its check, or is missing and may be. -/
theorem Respelled.withDefault_cases (respelled : Respelled members given)
    (apart : (members.map Member.name).Pairwise MemberName.Apart) {name : MemberName} {value : Json}
    {droppable : Prop} (inside : ⟨name, value, droppable⟩ ∈ members) (absent : α)
    (passed : check value = .passed result) :
    ((Json.find? given name).isSome = true ∧
        Json.withDefault given name absent check = .passed result) ∨
      Json.find? given name = none ∧ droppable ∧
        Json.withDefault given name absent check = .passed absent := by
  rcases respelled.find? apart inside with ⟨spelling, found⟩ | ⟨missing, may⟩
  · refine .inl ⟨by rw [found]; rfl, ?_⟩
    rw [Json.withDefault, found]
    dsimp only
    rw [passed]
    rfl
  · exact .inr ⟨missing, may, by rw [Json.withDefault, missing]⟩

/-- A member passes its check, or is missing and stands for its default. -/
theorem Respelled.withDefault (respelled : Respelled members given)
    (apart : (members.map Member.name).Pairwise MemberName.Apart) {name : MemberName} {value : Json}
    {droppable : Prop} (inside : ⟨name, value, droppable⟩ ∈ members) {absent : α}
    (passed : check value = .passed result) (default : droppable → absent = result) :
    Json.withDefault given name absent check = .passed result := by
  rcases respelled.withDefault_cases apart inside absent passed with ⟨-, read⟩ | ⟨-, may, read⟩
  · exact read
  · rw [read, default may]

/-- Items that all pass their check are a list that does. -/
theorem checkList_of_forall₂ {results : List α} {items : List Json}
    (each : List.Forall₂ (fun result item => check item = .passed result) results items) :
    Json.checkList check (.array items) = .passed results := by
  have from_ (position : Nat) : Checked.itemsFrom check position items = .passed results := by
    induction each generalizing position with
    | nil => rfl
    | cons passed _ ih =>
      rw [Checked.itemsFrom, passed, ih (position + 1)]
      rfl
  exact from_ 0

end Checks

end CrudScaffold
