import CrudScaffold.Proofs.Definition.Commas
import CrudScaffold.Proofs.Definition.FieldLine

/-!
# Field lists and field lines

A field list is cut at the commas outside parentheses, whatever is quoted. The row of modifiers on
a line is cut with quotes in view, and its last modifier may leave a parenthesis open. The two
readings of the same declarations therefore agree when parentheses alone keep them apart
(`Separable`), and a declaration may stand in every list exactly when it holds no outer comma and
closes its parentheses (`CommaSafe`).
-/

namespace CrudScaffold

open Text

/-- Strings made of lists of characters are given ones exactly when the lists are theirs. -/
theorem map_ofList_eq_iff {lines : List (List Char)} {texts : List String} :
    lines.map String.ofList = texts ↔ lines = texts.map String.toList := by
  have forth : String.toList ∘ String.ofList = id := funext fun _ => String.toList_ofList
  have back : String.ofList ∘ String.toList = id := funext fun _ => String.ofList_toList
  constructor
  · rintro rfl
    rw [List.map_map, forth, List.map_id]
  · rintro rfl
    rw [List.map_map, back, List.map_id]

/-- The declarations of a field list by its characters. -/
theorem splitFieldList_eq (list : String) :
    splitFieldList list = (solidLines (cutFields 0 list.toList)).map String.ofList := rfl

/-- A name that stands on one line and is not blank. -/
structure EntityName (name : String) : Prop where
  /-- There is something on the line. -/
  some : trim name.toList ≠ []
  /-- It is one line. -/
  unbroken : ∀ c ∈ name.toList, isLineBreak c = false

/-- The name without the blanks at its ends is a name. -/
theorem EntityName.trimmed {name : String} (named : EntityName name) :
    EntityName (trimmed name) := by
  refine ⟨?_, fun c member => ?_⟩
  · rw [Text.trimmed, String.toList_ofList, trim_trim]
    exact named.some
  · rw [Text.trimmed, String.toList_ofList] at member
    exact named.unbroken c ((trim_isInfix _).subset member)

/-- A name and solid lines below it are the content of their text. -/
theorem Entity.parse_lines {name : String} (named : EntityName name) {lines : List String}
    (solid : ∀ line ∈ lines, SolidLine line.toList) :
    Entity.parse ("\n".intercalate (name :: lines)) =
      Entity.ofLines (trim name.toList :: lines.map String.toList) := by
  have first : contentLines name.toList = [trim name.toList] := by
    rw [contentLines_line named.unbroken]
    simp [named.some]
  have others : contentLines (['\n'].intercalate (lines.map String.toList)) =
      lines.map String.toList :=
    contentLines_intercalate (List.forall_mem_map.mpr solid)
  rw [Entity.parse, Entity.parseBlock_eq, String.toList_intercalate, List.map_cons]
  change Entity.ofLines (contentLines (['\n'].intercalate _)) = _
  cases lines with
  | nil => rw [List.map_nil, List.intercalate_singleton, first]
  | cons line lines =>
    rw [List.map_cons, List.intercalate_cons_cons, List.append_assoc, List.singleton_append,
      contentLines_append_break (by decide), first, ← List.map_cons, others]
    rfl

/-- A text that declares a field: it is trimmed, stands on one line and is read as a field. -/
structure Declaration (text : String) : Prop where
  /-- No blank stands at its ends. -/
  trimmed : trim text.toList = text.toList
  /-- It is one line. -/
  unbroken : ∀ c ∈ text.toList, isLineBreak c = false
  /-- It is read as a field. -/
  accepted : ∃ field, Field.parse text = .ok field

/-- A declaration is a solid line. -/
theorem Declaration.solidLine {text : String} (declared : Declaration text) :
    SolidLine text.toList := by
  refine ⟨fun empty => ?_, declared.trimmed, declared.unbroken⟩
  obtain ⟨field, read⟩ := declared.accepted
  rw [Field.parse, empty] at read
  nomatch read

/-- A field list of declarations is read as the lines that it is cut into. -/
theorem Entity.ofFieldList_eq {name : String} (named : EntityName name)
    {declarations : List String} (declared : ∀ text ∈ declarations, Declaration text) :
    Entity.ofFieldList name (",".intercalate declarations) =
      Entity.ofLines (trim name.toList ::
        solidLines (cutFields 0 ([','].intercalate (declarations.map String.toList)))) := by
  have list : (",".intercalate declarations).toList =
      [','].intercalate (declarations.map String.toList) := String.toList_intercalate
  have unbroken : ∀ c ∈ [','].intercalate (declarations.map String.toList),
      isLineBreak c = false := by
    intro c member
    obtain comma | ⟨line, inside, here⟩ := mem_intercalate member
    · rw [List.mem_singleton.mp comma]
      decide
    · obtain ⟨text, among, rfl⟩ := List.mem_map.mp inside
      exact (declared text among).unbroken c here
  have solid : ∀ line ∈ splitFieldList (",".intercalate declarations),
      SolidLine line.toList := by
    intro line member
    rw [splitFieldList_eq, list] at member
    obtain ⟨piece, inside, rfl⟩ := List.mem_map.mp member
    obtain ⟨cut, some⟩ := List.mem_filter.mp inside
    obtain ⟨whole, among, rfl⟩ := List.mem_map.mp cut
    rw [String.toList_ofList]
    exact ⟨by simpa using some, trim_trim whole, fun c here =>
      unbroken c (subset_of_mem_cutFields among ((trim_isInfix whole).subset here))⟩
  rw [Entity.ofFieldList, Entity.parse_lines named.trimmed solid,
    ← map_ofList_eq_iff.mp (splitFieldList_eq _).symm, list, Text.trimmed, String.toList_ofList,
    trim_trim]

/-- A text that ends with a comma does so before the blanks at its end. -/
theorem getLast?_of_append_blank {text gap : List Char} (blank : isBlankText gap)
    (last : (text ++ gap).getLast? = some ',') : text.getLast? = some ',' := by
  rw [List.getLast?_append] at last
  cases ends : gap.getLast? with
  | none =>
    rw [ends] at last
    exact last
  | some c =>
    rw [ends] at last
    obtain rfl : c = ',' := Option.some.inj last
    have comma : isBlank ',' := List.all_eq_true.mp blank ',' (List.mem_of_getLast? ends)
    exact absurd comma (by decide)

/-- A text that ends with a comma still does when it is trimmed. -/
theorem getLast?_trim {text : List Char} (last : text.getLast? = some ',') :
    (trim text).getLast? = some ',' := by
  obtain ⟨before, after, parts, first, second⟩ := exists_trim text
  rw [parts] at last
  have kept := getLast?_of_append_blank second last
  rw [List.getLast?_append] at kept
  cases ends : (trim text).getLast? with
  | some c =>
    rw [ends] at kept
    exact kept
  | none =>
    rw [ends] at kept
    have comma : isBlank ',' := List.all_eq_true.mp first ',' (List.mem_of_getLast? kept)
    exact absurd comma (by decide)

/-- No modifier ends with a comma. -/
theorem Modifier.getLast?_ne_comma {line segment : List Char} {modifier : Modifier}
    (read : Modifier.parse line segment = .ok modifier) : segment.getLast? ≠ some ',' := by
  obtain ⟨rest, rfl, told⟩ := Modifier.parse_eq_ok_iff.mp read
  obtain ⟨before, after, parts, first, second⟩ := exists_trim (takeWord rest).2
  have whole : '@' :: rest =
      '@' :: (takeWord rest).1 ++ before ++ trim (takeWord rest).2 ++ after := by
    conv_lhs => rw [← takeWord_append rest, parts]
    simp only [List.append_assoc, List.cons_append]
  have closed {arguments value : List Char} (found : parenthesized? arguments = some value)
      (front : List Char) : (front ++ arguments).getLast? = some ')' := by
    rw [parenthesized?_eq_some_iff.mp found, ← List.cons_append, ← List.append_assoc,
      List.getLast?_concat]
  intro last
  rw [whole] at last
  have kept := getLast?_of_append_blank second last
  cases modifier with
  | unique =>
    rw [told.2, List.append_nil, told.1] at kept
    exact absurd (getLast?_of_append_blank first kept) (by decide)
  | id =>
    rw [told.2, List.append_nil, told.1] at kept
    exact absurd (getLast?_of_append_blank first kept) (by decide)
  | default value =>
    rw [closed told.2] at kept
    exact absurd kept (by decide)
  | relation target cardinality =>
    obtain ⟨arguments, found, -⟩ := Option.bind_eq_some_iff.mp told.2
    rw [closed found] at kept
    exact absurd kept (by decide)

/-- The last character of a text is the last one of a piece. -/
theorem exists_piece_getLast? (place : Nesting) (text : List Char) {c : Char}
    (last : text.getLast? = some c) :
    ∃ piece ∈ cutModifiers place text, piece.getLast? = some c := by
  induction text generalizing place with
  | nil => nomatch last
  | cons d text ih =>
    rw [cutModifiers]
    cases rest : cutModifiers (place.step d) text with
    | nil => exact absurd rest (cutModifiers_ne_nil _ _)
    | cons first others =>
      have found : ∃ piece ∈ (d :: first) :: others, piece.getLast? = some c := by
        cases text with
        | nil =>
          obtain ⟨rfl, rfl⟩ := List.cons.inj rest
          exact ⟨[d], List.mem_cons_self, last⟩
        | cons e text =>
          obtain ⟨piece, member, ends⟩ := ih (place.step d) last
          rw [rest, List.mem_cons] at member
          rcases member with rfl | later
          · refine ⟨d :: piece, List.mem_cons_self, ?_⟩
            rw [List.getLast?_cons, ends]
            rfl
          · exact ⟨piece, List.mem_cons_of_mem _ later, ends⟩
      dsimp only
      obtain ⟨piece, member, ends⟩ := found
      split
      · exact ⟨piece, List.mem_cons_of_mem _ member, ends⟩
      · exact ⟨piece, member, ends⟩

/-- No row of modifiers ends with a comma. -/
theorem getLast?_ne_comma_of_row {line row : List Char} {modifiers : List Modifier}
    (read : (segments row).mapM (Modifier.parse line) = .ok modifiers) :
    row.getLast? ≠ some ',' := by
  intro last
  obtain ⟨piece, member, final⟩ := exists_piece_getLast? .outside row last
  have kept := getLast?_trim final
  have segment : trim piece ∈ segments row := by
    refine List.mem_filter.mpr ⟨List.mem_map_of_mem member, ?_⟩
    simpa using List.ne_nil_of_mem (List.mem_of_getLast? kept)
  obtain ⟨modifier, meaning⟩ := exists_result_of_mapM read segment
  exact Modifier.getLast?_ne_comma meaning kept

/-- No word holds a comma. -/
theorem comma_notMem_of_isWord {word : List Char} (text : isWord word) : ',' ∉ word := by
  intro member
  have char := isWordChar_of_mem text member
  revert char
  decide

/-- A line that declares a field does not start with a comma, since it starts with a word. -/
theorem Field.head?_ne_comma {line : List Char} {field : Field}
    (unbroken : ∀ c ∈ line, isLineBreak c = false) (read : Field.parseChars line = .ok field) :
    line.head? ≠ some ',' := by
  obtain ⟨parts, -, -, found, -, -, -⟩ := Field.parseChars_eq_ok_iff.mp read
  have feed : '\n' ∉ line := fun member => absurd (unbroken '\n' member) (by decide)
  obtain ⟨named, -, whole⟩ := FieldLine.of_split? feed found
  intro first
  cases name : parts.name with
  | nil => exact ne_nil_of_isWord named name
  | cons c rest =>
    rw [whole, name] at first
    obtain rfl : c = ',' := Option.some.inj first
    exact comma_notMem_of_isWord named (by rw [name]; exact List.mem_cons_self)

/-- A line that declares a field does not end with a comma, wherever it ends. -/
theorem Field.getLast?_ne_comma {line : List Char} {field : Field}
    (unbroken : ∀ c ∈ line, isLineBreak c = false) (read : Field.parseChars line = .ok field) :
    line.getLast? ≠ some ',' := by
  obtain ⟨parts, -, modifiers, found, -, row, -⟩ := Field.parseChars_eq_ok_iff.mp read
  have feed : '\n' ∉ line := fun member => absurd (unbroken '\n' member) (by decide)
  obtain ⟨-, typed, whole⟩ := FieldLine.of_split? feed found
  intro last
  rw [whole, List.getLast?_append, List.getLast?_cons, List.getLast?_append,
    List.getLast?_append] at last
  cases ends : parts.row.getLast? with
  | some c =>
    rw [ends] at last
    obtain rfl : c = ',' := Option.some.inj last
    exact getLast?_ne_comma_of_row row ends
  | none =>
    rw [ends] at last
    cases mark : parts.optional with
    | true =>
      rw [mark] at last
      have question : '?' = ',' := Option.some.inj last
      exact absurd question (by decide)
    | false =>
      rw [mark] at last
      cases final : parts.type.getLast? with
      | none =>
        rw [final] at last
        have colon : ':' = ',' := Option.some.inj last
        exact absurd colon (by decide)
      | some c =>
        rw [final] at last
        obtain rfl : c = ',' := Option.some.inj last
        exact comma_notMem_of_isWord typed (List.mem_of_getLast? final)

/-- An entity has as many fields as there are lines below its name. -/
theorem Entity.length_of_ofLines {name : List Char} {lines : List (List Char)} {entity : Entity}
    (read : Entity.ofLines (name :: lines) = .ok entity) :
    entity.fields.length = lines.length := by
  obtain ⟨fields, parts, rfl⟩ := Entity.ofLines_eq_ok_iff.mp read
  exact (mapM_eq_ok_iff.mp parts).length_eq.symm

/-- Declarations are read as fields. -/
theorem exists_fields {declarations : List String}
    (declared : ∀ text ∈ declarations, Declaration text) :
    ∃ fields, (declarations.map String.toList).mapM Field.parseChars = .ok fields :=
  exists_mapM_eq_ok (List.forall_mem_map.mpr fun text member => (declared text member).accepted)

/-- What stands before the first outer comma of a text leaves a line, unless the comma comes
first. -/
theorem solidLines_front_ne_nil {piece rest : List Char}
    (starts : StartsSolid (piece ++ ',' :: rest))
    (first : (piece ++ ',' :: rest).head? ≠ some ',') : solidLines [piece] ≠ [] := by
  cases piece with
  | nil => exact absurd rfl first
  | cons c piece =>
    exact List.ne_nil_of_mem (trim_mem_solidLines List.mem_cons_self List.mem_cons_self
      (starts c _ rfl))

/-- What stands behind an outer comma of a text leaves a line, unless the text ends with a comma. -/
theorem solidLines_back_ne_nil {piece rest : List Char}
    (stops : StartsSolid (piece ++ ',' :: rest).reverse)
    (last : (piece ++ ',' :: rest).getLast? ≠ some ',') : solidLines (cutFields 0 rest) ≠ [] := by
  rcases List.eq_nil_or_concat' rest with rfl | ⟨others, c, rfl⟩
  · exact absurd List.getLast?_concat last
  · have ends : isBlank c = false := stops c (piece ++ ',' :: others).reverse (by simp)
    have different : c ≠ ',' := by
      rintro rfl
      have whole : piece ++ ',' :: (others ++ [',']) = (piece ++ ',' :: others) ++ [','] := by
        rw [List.append_assoc, List.cons_append]
      exact last (by rw [whole, List.getLast?_concat])
    have member : c ∈ [','].intercalate (cutFields 0 (others ++ [c])) := by
      rw [intercalate_cutFields]
      exact List.mem_concat_self
    obtain comma | ⟨line, among, inside⟩ := mem_intercalate member
    · exact absurd (List.mem_singleton.mp comma) different
    · exact List.ne_nil_of_mem (trim_mem_solidLines among inside ends)

/-- A declaration with an outer comma is cut into more than one. -/
theorem Declaration.two_pieces {text : String} (declared : Declaration text)
    (comma : hasOuterComma 0 text.toList = true) :
    2 ≤ (solidLines (cutFields 0 text.toList)).length := by
  obtain ⟨field, read⟩ := declared.accepted
  have notFirst := Field.head?_ne_comma declared.unbroken read
  have notLast := Field.getLast?_ne_comma declared.unbroken read
  have starts := startsSolid_trim text.toList
  have stops := startsSolid_reverse_trim text.toList
  rw [declared.trimmed] at starts stops
  cases cut : cutFields 0 text.toList with
  | nil => exact absurd cut (cutFields_ne_nil _ _)
  | cons piece pieces =>
    obtain ⟨plain, ⟨-, same⟩ | ⟨rest, same, -, rfl⟩⟩ := of_cutFields cut
    · rw [same, plain] at comma
      contradiction
    · rw [same] at notFirst notLast starts stops
      have front := List.length_pos_iff.mpr (solidLines_front_ne_nil starts notFirst)
      have back := List.length_pos_iff.mpr (solidLines_back_ne_nil stops notLast)
      rw [solidLines_cons, List.length_append]
      omega

/-- The two forms of a name and its declarations give the same entity. -/
def FormsAgree (name : String) (declarations : List String) : Prop :=
  ∃ entity, Entity.parse ("\n".intercalate (name :: declarations)) = .ok entity ∧
    Entity.ofFieldList name (",".intercalate declarations) = .ok entity

/-- The two forms agree exactly when the pieces of the list are read as the declared fields. -/
theorem formsAgree_iff {name : String} (named : EntityName name) {declarations : List String}
    (declared : ∀ text ∈ declarations, Declaration text) :
    FormsAgree name declarations ↔
      (solidLines (cutFields 0 ([','].intercalate (declarations.map String.toList)))).mapM
          Field.parseChars = (declarations.map String.toList).mapM Field.parseChars := by
  rw [FormsAgree, Entity.parse_lines named fun text member => (declared text member).solidLine,
    Entity.ofFieldList_eq named declared]
  simp only [Entity.ofLines_eq_ok_iff]
  constructor
  · rintro ⟨entity, ⟨fields, lines, rfl⟩, others, list, same⟩
    have equal : others = fields := congrArg Entity.fields same
    rw [lines, list, equal]
  · intro same
    obtain ⟨fields, read⟩ := exists_fields declared
    exact ⟨_, ⟨fields, read, rfl⟩, fields, same.trans read, rfl⟩

/-- The two forms agree if parentheses keep the declarations apart. -/
theorem formsAgree_of_separable {name : String} (named : EntityName name)
    {declarations : List String} (declared : ∀ text ∈ declarations, Declaration text)
    (apart : Separable (declarations.map String.toList)) : FormsAgree name declarations := by
  have solid : ∀ line ∈ declarations.map String.toList, SolidLine line :=
    List.forall_mem_map.mpr fun text member => (declared text member).solidLine
  rw [formsAgree_iff named declared, (solidLines_cutFields_iff solid).mpr apart]

/-- If the two forms agree, the list is cut into as many pieces as there are declarations. -/
theorem FormsAgree.length {name : String} (named : EntityName name)
    {declarations : List String} (declared : ∀ text ∈ declarations, Declaration text)
    (agree : FormsAgree name declarations) :
    (solidLines (cutFields 0 ([','].intercalate (declarations.map String.toList)))).length =
      declarations.length := by
  obtain ⟨entity, lines, list⟩ := agree
  rw [Entity.parse_lines named fun text member => (declared text member).solidLine] at lines
  rw [Entity.ofFieldList_eq named declared] at list
  rw [← Entity.length_of_ofLines list, Entity.length_of_ofLines lines, List.length_map]

/-- A declaration whose two forms agree holds no outer comma. -/
theorem FormsAgree.hasOuterComma_eq_false {name text : String} (named : EntityName name)
    (declared : Declaration text) (agree : FormsAgree name [text]) :
    hasOuterComma 0 text.toList = false := by
  by_contra comma
  have one := agree.length named (List.forall_mem_singleton.mpr declared)
  rw [List.map_singleton, List.intercalate_singleton] at one
  have two := declared.two_pieces (by simpa using comma)
  rw [one] at two
  exact Nat.not_succ_le_self 1 two

/-- A declaration whose two forms agree also when it is given twice closes its parentheses. -/
theorem FormsAgree.depthAfter_eq_zero {name text : String} (named : EntityName name)
    (declared : Declaration text) (plain : hasOuterComma 0 text.toList = false)
    (agree : FormsAgree name [text, text]) : depthAfter 0 text.toList = 0 := by
  by_contra deep
  have both : ∀ other ∈ [text, text], Declaration other := by simpa using declared
  have two := agree.length named both
  rw [List.map_cons, List.map_singleton, cutFields_open plain deep] at two
  have fewer : (solidLines [text.toList ++ ',' :: text.toList]).length ≤ 1 :=
    (List.length_filter_le _ _).trans (List.length_map _).le
  rw [two] at fewer
  exact Nat.not_succ_le_self 1 fewer

/-- The two forms of declarations agree exactly when the pieces of the list are read as the declared
fields. The pieces are the declarations themselves exactly when parentheses alone keep these apart,
and all lists drawn from the declarations agree exactly when each of them holds no outer comma and
closes its parentheses. -/
theorem Entity.ofFieldList_intercalate {name : String} (named : EntityName name)
    {declarations : List String} (declared : ∀ text ∈ declarations, Declaration text) :
    (FormsAgree name declarations ↔
      (splitFieldList (",".intercalate declarations)).mapM Field.parse =
        declarations.mapM Field.parse) ∧
    (splitFieldList (",".intercalate declarations) = declarations ↔
      Separable (declarations.map String.toList)) ∧
    ((∀ drawn, (∀ text ∈ drawn, text ∈ declarations) → FormsAgree name drawn) ↔
      ∀ text ∈ declarations, CommaSafe text.toList) := by
  have solid : ∀ line ∈ declarations.map String.toList, SolidLine line :=
    List.forall_mem_map.mpr fun text member => (declared text member).solidLine
  have pieces : splitFieldList (",".intercalate declarations) =
      (solidLines (cutFields 0 ([','].intercalate (declarations.map String.toList)))).map
        String.ofList := by
    rw [splitFieldList_eq, String.toList_intercalate]
    rfl
  have read : Field.parse ∘ String.ofList = Field.parseChars :=
    funext fun line => congrArg Field.parseChars String.toList_ofList
  have lines : (declarations.map String.toList).mapM Field.parseChars =
      declarations.mapM Field.parse := List.mapM_map ..
  refine ⟨?_, ?_, fun agree text member => ?_, fun safe drawn among => ?_⟩
  · rw [formsAgree_iff named declared, pieces, lines, List.mapM_map, read]
  · rw [pieces, map_ofList_eq_iff, solidLines_cutFields_iff solid]
  · have plain := (agree [text] (List.forall_mem_singleton.mpr member)).hasOuterComma_eq_false named
      (declared text member)
    have twice : ∀ other ∈ [text, text], other ∈ declarations := by simpa using member
    exact ⟨plain, (agree [text, text] twice).depthAfter_eq_zero named (declared text member) plain⟩
  · exact formsAgree_of_separable named (fun text member => declared text (among text member))
      (separable_of_commaSafe (List.forall_mem_map.mpr fun text member =>
        safe text (among text member)))

/-- Commas inside parentheses divide nothing, and a parenthesis in quotes may stay open at the end
of a field list, but not everywhere. -/
theorem Entity.ofFieldList_intercalate_relation :
    EntityName " Post " ∧
    (∀ text ∈ ["authorId:uuid@relation(User,many-to-one)", "mood:string@default(\":(\")"],
      Declaration text) ∧
    FormsAgree " Post "
      ["authorId:uuid@relation(User,many-to-one)", "mood:string@default(\":(\")"] ∧
    ¬∀ drawn, (∀ text ∈ drawn, text ∈ ["authorId:uuid@relation(User,many-to-one)",
      "mood:string@default(\":(\")"]) → FormsAgree " Post " drawn := by
  have named : EntityName " Post " := ⟨by decide, unbroken_of_any (by decide)⟩
  have declared : ∀ text ∈ ["authorId:uuid@relation(User,many-to-one)",
      "mood:string@default(\":(\")"], Declaration text :=
    List.forall_mem_cons.mpr ⟨⟨by decide, unbroken_of_any (by decide), _, rfl⟩,
      List.forall_mem_singleton.mpr ⟨by decide, unbroken_of_any (by decide), _, rfl⟩⟩
  have apart : Separable (["authorId:uuid@relation(User,many-to-one)",
      "mood:string@default(\":(\")"].map String.toList) := ⟨by decide, by decide⟩
  obtain ⟨fields, pieces, drawn⟩ := Entity.ofFieldList_intercalate named declared
  refine ⟨named, declared, fields.mpr ?_, fun agree => ?_⟩
  · rw [pieces.mpr apart]
  · have safe := drawn.mp agree "mood:string@default(\":(\")" (by simp)
    exact absurd safe.2 (by decide)

/-- The two forms do not always agree: a quoted parenthesis that a line does not count takes the
next declaration of a field list in. -/
theorem not_formsAgree_quoted_parenthesis :
    ¬∀ name declarations, EntityName name → (∀ text ∈ declarations, Declaration text) →
      FormsAgree name declarations := by
  intro always
  have declared : ∀ text ∈ ["mood:string@default(\":(\")", "title:string"], Declaration text :=
    List.forall_mem_cons.mpr ⟨⟨by decide, unbroken_of_any (by decide), _, rfl⟩,
      List.forall_mem_singleton.mpr ⟨by decide, unbroken_of_any (by decide), _, rfl⟩⟩
  obtain ⟨entity, -, read⟩ := always "Post" ["mood:string@default(\":(\")", "title:string"]
    ⟨by decide, unbroken_of_any (by decide)⟩ declared
  have refused : Entity.ofFieldList "Post"
      (",".intercalate ["mood:string@default(\":(\")", "title:string"]) =
      .error (.fieldFormat "mood:string@default(\":(\"),title:string") := rfl
  rw [refused] at read
  nomatch read

end CrudScaffold
