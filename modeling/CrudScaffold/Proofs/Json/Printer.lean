import CrudScaffold.Proofs.Json.Layout

/-!
# What is written is read back

Values without numbers are plain if the members of each object have different names. Both writers
lay plain values out, so what they write is read as the value again, for any text in its strings.
-/

namespace CrudScaffold.Json

/-- A value without numbers, in which so many arrays and objects stand within each other and the
members of each object have different names. -/
inductive Plain : (room : Nat) → Json → Prop
  | null (room) : Plain room .null
  | bool (room value) : Plain room (.bool value)
  | string (room text) : Plain room (.string text)
  | array {room items} : (∀ item ∈ items, Plain room item) → Plain (room + 1) (.array items)
  | object {room members} : (members.map Prod.fst).Nodup →
      (∀ member ∈ members, Plain room member.2) → Plain (room + 1) (.object members)

/-- Texts that may be absent are plain. -/
theorem Plain.ofOption (room : Nat) (text : Option String) : Plain room (.ofOption text) := by
  cases text with
  | none => exact .null room
  | some text => exact .string room text

/-- The name of the value null is read as it. -/
theorem scalar_null : Scalar .null "null".toList :=
  ⟨⟨'n', "ull".toList, rfl, by decide⟩, fun _ _ => rfl⟩

/-- The names of the truth values are read as them. -/
theorem scalar_bool (value : Bool) :
    Scalar (.bool value) (if value then "true" else "false").toList := by
  cases value with
  | true => exact ⟨⟨'t', "rue".toList, rfl, by decide⟩, fun _ _ => rfl⟩
  | false => exact ⟨⟨'f', "alse".toList, rfl, by decide⟩, fun _ _ => rfl⟩

/-- A value ends at the end of the text, or at one of these characters. -/
theorem Ends.cases {tail : List Char} (ends : Ends tail) :
    tail = [] ∨ ∃ c rest, tail = c :: rest ∧ c ∈ [' ', '\t', '\n', '\r', ',', ']', '\x7d'] := by
  cases tail with
  | nil => exact .inl rfl
  | cons c rest =>
    refine .inr ⟨c, rest, rfl, ?_⟩
    have first := ends c rest rfl
    simpa only [isSpace, Bool.or_eq_true, beq_iff_eq, or_assoc, List.mem_cons] using first

/-- No space is a gap. -/
theorem isGap_nil : IsGap [] := fun _ member => absurd member List.not_mem_nil

/-- One space is a gap. -/
theorem isGap_space : IsGap [' '] := by
  intro c member
  rw [List.mem_singleton.mp member]
  rfl

/-- The break before a line is a gap. -/
theorem isGap_newLine (depth : Nat) : IsGap (newLine depth) := by
  intro c member
  rcases List.mem_cons.mp member with rfl | inside
  · rfl
  · rw [List.eq_of_mem_replicate inside]
    rfl

/-- Items on one line are laid out. -/
theorem itemsLayout_compact {room : Nat} {item : Json} {items : List Json}
    (each : ∀ other ∈ item :: items, Layout .ascii room other (writeCompact other)) :
    ItemsLayout .ascii room (item :: items) (writeCompact item ++ writeCompactItems items) := by
  induction items generalizing item with
  | nil => exact .last (each item List.mem_cons_self) isGap_nil
  | cons next items ih =>
    obtain ⟨first, others⟩ := List.forall_mem_cons.mp each
    have whole := ItemsLayout.next first isGap_nil isGap_space (ih others)
    exact whole

/-- Members on one line are laid out. -/
theorem membersLayout_compact {room : Nat} {name : String} {value : Json}
    {members : List (String × Json)}
    (each : ∀ member ∈ (name, value) :: members,
      Layout .ascii room member.2 (writeCompact member.2)) :
    MembersLayout .ascii room ((name, value) :: members)
      (writeString .ascii name ++ ':' :: ' ' :: writeCompact value ++
        writeCompactMembers members) := by
  induction members generalizing name value with
  | nil =>
    have whole : MembersLayout .ascii room [(name, value)] _ :=
      .last isGap_space (each (name, value) List.mem_cons_self) isGap_nil
    rw [List.append_assoc]
    exact whole
  | cons next members ih =>
    obtain ⟨first, others⟩ := List.forall_mem_cons.mp each
    have whole : MembersLayout .ascii room ((name, value) :: next :: members) _ :=
      .next isGap_space first isGap_nil isGap_space (ih others)
    rw [List.append_assoc, writeCompactMembers]
    simp only [List.append_assoc, List.cons_append] at whole ⊢
    exact whole

/-- An object on one line is laid out if the values of its members are. -/
theorem layout_compact_object {room : Nat} {members : List (String × Json)}
    (distinct : (members.map Prod.fst).Nodup)
    (each : ∀ member ∈ members, Layout .ascii room member.2 (writeCompact member.2)) :
    Layout .ascii (room + 1) (.object members) (writeCompact (.object members)) := by
  cases members with
  | nil =>
    have whole : Layout .ascii (room + 1) (.object []) _ := .emptyObject isGap_nil
    exact whole
  | cons member members =>
    have whole := Layout.object isGap_nil distinct (membersLayout_compact each)
    change Layout .ascii _ _ ('\x7b' :: writeString .ascii member.1 ++
      ':' :: ' ' :: writeCompact member.2 ++ writeCompactMembers members)
    simp only [List.append_assoc, List.cons_append] at whole ⊢
    exact whole

/-- What is written on one line is a layout. -/
theorem Plain.layout_compact {room : Nat} {value : Json} (plain : Plain room value) :
    Layout .ascii room value (writeCompact value) := by
  induction plain with
  | null room => exact .scalar scalar_null
  | bool room value =>
    cases value with
    | true => exact .scalar (scalar_bool true)
    | false => exact .scalar (scalar_bool false)
  | string room text => exact .string room text
  | @array room items each ih =>
    cases items with
    | nil =>
      have whole : Layout .ascii (room + 1) (.array []) _ := .emptyArray isGap_nil
      exact whole
    | cons item items =>
      have whole := Layout.array isGap_nil (itemsLayout_compact ih)
      exact whole
  | object distinct _ ih => exact layout_compact_object distinct ih

/-- Items on lines of their own are laid out. -/
theorem itemsLayout_indented {room depth : Nat} {item : Json} {items : List Json}
    (each : ∀ other ∈ item :: items, Layout .unicode room other (writeIndented (depth + 1) other)) :
    ItemsLayout .unicode room (item :: items)
      (writeIndented (depth + 1) item ++ writeIndentedItems depth items) := by
  induction items generalizing item with
  | nil => exact .last (each item List.mem_cons_self) (isGap_newLine depth)
  | cons next items ih =>
    obtain ⟨first, others⟩ := List.forall_mem_cons.mp each
    have whole := ItemsLayout.next first isGap_nil (isGap_newLine (depth + 1)) (ih others)
    rw [writeIndentedItems]
    simp only [List.append_assoc, List.cons_append] at whole ⊢
    exact whole

/-- Members on lines of their own are laid out. -/
theorem membersLayout_indented {room depth : Nat} {name : String} {value : Json}
    {members : List (String × Json)}
    (each : ∀ member ∈ (name, value) :: members,
      Layout .unicode room member.2 (writeIndented (depth + 1) member.2)) :
    MembersLayout .unicode room ((name, value) :: members)
      (writeString .unicode name ++ ':' :: ' ' :: writeIndented (depth + 1) value ++
        writeIndentedMembers depth members) := by
  induction members generalizing name value with
  | nil =>
    have whole : MembersLayout .unicode room [(name, value)] _ :=
      .last isGap_space (each (name, value) List.mem_cons_self) (isGap_newLine depth)
    rw [List.append_assoc]
    exact whole
  | cons next members ih =>
    obtain ⟨first, others⟩ := List.forall_mem_cons.mp each
    have whole : MembersLayout .unicode room ((name, value) :: next :: members) _ :=
      .next isGap_space first isGap_nil (isGap_newLine (depth + 1)) (ih others)
    rw [List.append_assoc, writeIndentedMembers]
    simp only [List.append_assoc, List.cons_append] at whole ⊢
    exact whole

/-- What is written on lines is a layout. -/
theorem Plain.layout_indented {room : Nat} {value : Json} (plain : Plain room value)
    (depth : Nat) : Layout .unicode room value (writeIndented depth value) := by
  induction plain generalizing depth with
  | null room => exact .scalar scalar_null
  | bool room value =>
    cases value with
    | true => exact .scalar (scalar_bool true)
    | false => exact .scalar (scalar_bool false)
  | string room text => exact .string room text
  | @array room items each ih =>
    cases items with
    | nil =>
      have whole : Layout .unicode (room + 1) (.array []) _ := .emptyArray isGap_nil
      exact whole
    | cons item items =>
      have whole := Layout.array (isGap_newLine (depth + 1))
        (itemsLayout_indented fun other member => ih other member (depth + 1))
      change Layout .unicode _ _ ('[' :: newLine (depth + 1) ++
        writeIndented (depth + 1) item ++ writeIndentedItems depth items)
      simp only [List.append_assoc, List.cons_append] at whole ⊢
      exact whole
  | @object room members distinct each ih =>
    cases members with
    | nil =>
      have whole : Layout .unicode (room + 1) (.object []) _ := .emptyObject isGap_nil
      exact whole
    | cons member members =>
      have whole := Layout.object (isGap_newLine (depth + 1)) distinct
        (membersLayout_indented fun other inside => ih other inside (depth + 1))
      change Layout .unicode _ _ ('\x7b' :: newLine (depth + 1) ++
        writeString .unicode member.1 ++ ':' :: ' ' :: writeIndented (depth + 1) member.2 ++
        writeIndentedMembers depth members)
      simp only [List.append_assoc, List.cons_append] at whole ⊢
      exact whole

/-- A plain value is read back from one line. -/
theorem Plain.read_compact {value : Json} (plain : Plain nestingLimit value) :
    Json.read (compact value) = .ok value := by
  have read := read_layout isGap_nil plain.layout_compact isGap_nil
  rwa [List.nil_append, List.append_nil] at read

/-- A plain value is read back from indented lines. -/
theorem Plain.read_indented {value : Json} (plain : Plain nestingLimit value) :
    Json.read (indented value) = .ok value := by
  have read := read_layout isGap_nil (plain.layout_indented 0) isGap_nil
  rwa [List.nil_append, List.append_nil] at read

end CrudScaffold.Json
