import CrudScaffold.Proofs.Json.Strings
import Mathlib.Data.List.TakeWhile

/-!
# Layouts of a value

A layout of a value is a text that writes it: strings are written character by character, members
have different names, and any space may stand between the parts. `room` counts the arrays and
objects that may stand within each other. Every layout is read as the value it writes
(`read_layout`), so a writer is right as soon as what it writes is a layout.
-/

namespace CrudScaffold.Json

/-- Space between parts. -/
def IsGap (gap : List Char) : Prop := ∀ c ∈ gap, isSpace c = true

/-- The places where a value without parts may end: before space, before the end of what holds it,
and at the end of the text. -/
def Ends (tail : List Char) : Prop :=
  ∀ c rest, tail = c :: rest → isSpace c = true ∨ c ∈ [',', ']', '\x7d']

/-- A character at which a value without parts starts. -/
def startsScalar (c : Char) : Bool :=
  !(isSpace c || ['"', '[', ']', '\x7b', '\x7d', '\uFEFF'].contains c)

/-- A text that is read as a value without parts wherever it may end. -/
structure Scalar (value : Json) (text : List Char) : Prop where
  /-- It does not start like anything else. -/
  starts : ∃ c rest, text = c :: rest ∧ startsScalar c = true
  /-- It is read as the value. -/
  reads : ∀ tail, Ends tail → readScalar (text ++ tail) = .ok (value, tail)

mutual

/-- A text that writes a value. -/
inductive Layout (charset : Charset) : (room : Nat) → Json → List Char → Prop
  | scalar {room value text} : Scalar value text → Layout charset room value text
  | string (room text) : Layout charset room (.string text) (writeString charset text)
  | emptyArray {room gap} : IsGap gap →
      Layout charset (room + 1) (.array []) ('[' :: (gap ++ [']']))
  | array {room gap items text} : IsGap gap → ItemsLayout charset room items text →
      Layout charset (room + 1) (.array items) ('[' :: (gap ++ text))
  | emptyObject {room gap} : IsGap gap →
      Layout charset (room + 1) (.object []) ('\x7b' :: (gap ++ ['\x7d']))
  | object {room gap members text} : IsGap gap → (members.map Prod.fst).Nodup →
      MembersLayout charset room members text →
      Layout charset (room + 1) (.object members) ('\x7b' :: (gap ++ text))

/-- A text that writes the items of an array and closes it. -/
inductive ItemsLayout (charset : Charset) : (room : Nat) → List Json → List Char → Prop
  | last {room item text gap} : Layout charset room item text → IsGap gap →
      ItemsLayout charset room [item] (text ++ (gap ++ [']']))
  | next {room item items text gap gap' rest} : Layout charset room item text → IsGap gap →
      IsGap gap' → ItemsLayout charset room items rest →
      ItemsLayout charset room (item :: items) (text ++ (gap ++ ',' :: (gap' ++ rest)))

/-- A text that writes the members of an object and closes it. -/
inductive MembersLayout (charset : Charset) :
    (room : Nat) → List (String × Json) → List Char → Prop
  | last {room name value text gap gap'} : IsGap gap → Layout charset room value text →
      IsGap gap' → MembersLayout charset room [(name, value)]
        (writeString charset name ++ ':' :: (gap ++ (text ++ (gap' ++ ['\x7d']))))
  | next {room name value members text gap gap' gap'' rest} : IsGap gap →
      Layout charset room value text → IsGap gap' → IsGap gap'' →
      MembersLayout charset room members rest →
      MembersLayout charset room ((name, value) :: members)
        (writeString charset name ++ ':' :: (gap ++ (text ++ (gap' ++ ',' :: (gap'' ++ rest)))))

end

/-- Space is passed over up to a character that is none. -/
theorem skipSpace_gap {gap : List Char} (space : IsGap gap) {c : Char} (solid : isSpace c = false)
    (rest : List Char) : skipSpace (gap ++ c :: rest) = c :: rest := by
  rw [skipSpace, List.dropWhile_append_of_pos space, List.dropWhile_cons_of_neg (by simp [solid])]

/-- Space in front of the end of an array or object ends a value. -/
theorem ends_gap {gap : List Char} (space : IsGap gap) {c : Char} (closing : c ∈ [',', ']', '\x7d'])
    (rest : List Char) : Ends (gap ++ c :: rest) := by
  intro d more same
  cases gap with
  | nil =>
    rw [← (List.cons.inj same).1]
    exact .inr closing
  | cons e gap =>
    rw [← (List.cons.inj same).1]
    exact .inl (space e List.mem_cons_self)

/-- The character at which a layout starts: none of space, and none that closes anything. -/
theorem Layout.starts {charset : Charset} {room : Nat} {value : Json} {text : List Char}
    (layout : Layout charset room value text) :
    ∃ c rest, text = c :: rest ∧ isSpace c = false ∧ c ≠ ']' ∧ c ≠ '\uFEFF' := by
  cases layout with
  | scalar scalar =>
    obtain ⟨c, rest, same, start⟩ := scalar.starts
    refine ⟨c, rest, same, ?_⟩
    simp only [startsScalar, Bool.not_eq_true', Bool.or_eq_false_iff] at start
    refine ⟨start.1, ?_, ?_⟩
    · rintro rfl
      exact absurd start.2 (by decide)
    · rintro rfl
      exact absurd start.2 (by decide)
  | string text => exact ⟨'"', _, rfl, by decide, by decide, by decide⟩
  | emptyArray space => exact ⟨'[', _, rfl, by decide, by decide, by decide⟩
  | array space items => exact ⟨'[', _, rfl, by decide, by decide, by decide⟩
  | emptyObject space => exact ⟨'\x7b', _, rfl, by decide, by decide, by decide⟩
  | object space distinct members => exact ⟨'\x7b', _, rfl, by decide, by decide, by decide⟩

/-- The character at which the first item starts. -/
theorem ItemsLayout.starts {charset : Charset} {room : Nat} {items : List Json} {text : List Char}
    (layout : ItemsLayout charset room items text) :
    ∃ c rest, text = c :: rest ∧ isSpace c = false ∧ c ≠ ']' := by
  cases layout with
  | last first space =>
    obtain ⟨c, rest, rfl, solid, some, -⟩ := first.starts
    exact ⟨c, _, rfl, solid, some⟩
  | next first space further others =>
    obtain ⟨c, rest, rfl, solid, some, -⟩ := first.starts
    exact ⟨c, _, rfl, solid, some⟩

/-- Members start with the quote of a name. -/
theorem MembersLayout.starts {charset : Charset} {room : Nat} {members : List (String × Json)}
    {text : List Char} (layout : MembersLayout charset room members text) :
    ∃ rest, text = '"' :: rest := by
  cases layout with
  | last => exact ⟨_, rfl⟩
  | next => exact ⟨_, rfl⟩

/-- Space in front of a value is passed over. -/
theorem Layout.skipSpace {charset : Charset} {room : Nat} {value : Json} {text gap : List Char}
    (layout : Layout charset room value text) (space : IsGap gap) (rest : List Char) :
    skipSpace (gap ++ (text ++ rest)) = text ++ rest := by
  obtain ⟨c, more, rfl, solid, -⟩ := layout.starts
  exact skipSpace_gap space solid (more ++ rest)

/-- Space in front of items is passed over. -/
theorem ItemsLayout.skipSpace {charset : Charset} {room : Nat} {items : List Json}
    {text gap : List Char} (layout : ItemsLayout charset room items text) (space : IsGap gap)
    (rest : List Char) : skipSpace (gap ++ (text ++ rest)) = text ++ rest := by
  obtain ⟨c, more, rfl, solid, -⟩ := layout.starts
  exact skipSpace_gap space solid (more ++ rest)

/-- Space in front of members is passed over. -/
theorem MembersLayout.skipSpace {charset : Charset} {room : Nat} {members : List (String × Json)}
    {text gap : List Char} (layout : MembersLayout charset room members text) (space : IsGap gap)
    (rest : List Char) : skipSpace (gap ++ (text ++ rest)) = text ++ rest := by
  obtain ⟨more, rfl⟩ := layout.starts
  exact skipSpace_gap space (by decide) (more ++ rest)

/-- A new member goes to the end. -/
theorem insertMember_new {name : String} {value : Json} {members : List (String × Json)}
    (new : name ∉ members.map Prod.fst) :
    insertMember name value members = members ++ [(name, value)] := by
  induction members with
  | nil => rfl
  | cons member members ih =>
    rw [List.map_cons, List.mem_cons, not_or] at new
    rw [insertMember, if_neg (Ne.symm new.1), ih new.2, List.cons_append]

/-- Members with different names stay as they are. -/
theorem ofMembers_of_nodup {members : List (String × Json)}
    (distinct : (members.map Prod.fst).Nodup) : ofMembers members = members := by
  have grown (kept : List (String × Json)) (apart : ((kept ++ members).map Prod.fst).Nodup) :
      members.foldl (fun kept member => insertMember member.1 member.2 kept) kept =
        kept ++ members := by
    clear distinct
    induction members generalizing kept with
    | nil => exact (List.append_nil kept).symm
    | cons member members ih =>
      have new : member.1 ∉ kept.map Prod.fst := by
        rw [List.map_append, List.nodup_append] at apart
        exact fun old => apart.2.2 _ old _ List.mem_cons_self rfl
      have whole : kept ++ member :: members = kept ++ [member] ++ members := by simp
      rw [List.foldl_cons, insertMember_new new, whole]
      exact ih (kept ++ [member]) (by rwa [whole] at apart)
  exact grown [] (by simpa using distinct)

/-- A value is read as one without parts if it starts like one. -/
theorem readValue_scalar {c : Char} (start : startsScalar c = true) (calls depth : Nat)
    (rest : List Char) : readValue (calls + 1) depth (c :: rest) = readScalar (c :: rest) := by
  have other {d : Char} (special : startsScalar d = false) : c ≠ d := by
    rintro rfl
    rw [start] at special
    contradiction
  rw [readValue]
  · exact fun _ same => other (by decide) (List.cons.inj same).1
  · exact fun _ same => other (by decide) (List.cons.inj same).1
  · exact fun _ same => other (by decide) (List.cons.inj same).1

/-- A written string is read as a value. -/
theorem readValue_string (charset : Charset) (calls depth : Nat) (text : String)
    (tail : List Char) :
    readValue (calls + 1) depth (writeString charset text ++ tail) = .ok (.string text, tail) := by
  rw [writeString_append, readValue, readString_written]
  change Except.ok (Json.string (String.ofList text.toList), tail) = _
  rw [String.ofList_toList]

/-- An array with items is read by reading these. -/
theorem readValue_array {gap items : List Char} (space : IsGap gap) {c : Char} {rest : List Char}
    (start : items = c :: rest) (solid : isSpace c = false) (some : c ≠ ']') {calls depth : Nat}
    (shallow : depth < nestingLimit) :
    readValue (calls + 1) depth ('[' :: (gap ++ items)) =
      (do
        let (items, rest) ← readItems calls (depth + 1) items
        return (.array items, rest)) := by
  rw [readValue, if_neg (by omega), start, skipSpace_gap space solid]
  split
  · rename_i same
    exact absurd (List.cons.inj same).1 some
  · rfl

/-- An object with members is read by reading these. -/
theorem readValue_object {gap members : List Char} (space : IsGap gap) {c : Char}
    {rest : List Char} (start : members = c :: rest) (solid : isSpace c = false) (some : c ≠ '\x7d')
    {calls depth : Nat} (shallow : depth < nestingLimit) :
    readValue (calls + 1) depth ('\x7b' :: (gap ++ members)) =
      (do
        let (members, rest) ← readMembers calls (depth + 1) members
        return (.object (ofMembers members), rest)) := by
  rw [readValue, if_neg (by omega), start, skipSpace_gap space solid]
  split
  · rename_i same
    exact absurd (List.cons.inj same).1 some
  · rfl

/-- An item with a bracket behind it is the last one. -/
theorem readItems_last {calls depth : Nat} {text rest tail : List Char} {item : Json}
    (first : readValue calls depth text = .ok (item, rest))
    (closes : skipSpace rest = ']' :: tail) :
    readItems (calls + 1) depth text = .ok ([item], tail) := by
  simp only [readItems, first, bind, Except.bind, closes]
  rfl

/-- An item with a comma behind it has others behind that. -/
theorem readItems_next {calls depth : Nat} {text rest more tail : List Char} {item : Json}
    {items : List Json} (first : readValue calls depth text = .ok (item, rest))
    (comma : skipSpace rest = ',' :: more)
    (others : readItems calls depth (skipSpace more) = .ok (items, tail)) :
    readItems (calls + 1) depth text = .ok (item :: items, tail) := by
  simp only [readItems, first, bind, Except.bind, comma, others]
  rfl

/-- A member with a brace behind it is the last one. -/
theorem readMembers_last {charset : Charset} {calls depth : Nat} {name : String}
    {text rest tail : List Char} {value : Json}
    (first : readValue calls depth (skipSpace text) = .ok (value, rest))
    (closes : skipSpace rest = '\x7d' :: tail) :
    readMembers (calls + 1) depth (writeString charset name ++ ':' :: text) =
      .ok ([(name, value)], tail) := by
  have colon : skipSpace (':' :: text) = ':' :: text := rfl
  simp only [writeString_append, readMembers, readString_written, bind, Except.bind, colon, first,
    closes, String.ofList_toList]
  rfl

/-- A member with a comma behind it has others behind that. -/
theorem readMembers_next {charset : Charset} {calls depth : Nat} {name : String}
    {text rest more tail : List Char} {value : Json} {members : List (String × Json)}
    (first : readValue calls depth (skipSpace text) = .ok (value, rest))
    (comma : skipSpace rest = ',' :: more)
    (others : readMembers calls depth (skipSpace more) = .ok (members, tail)) :
    readMembers (calls + 1) depth (writeString charset name ++ ':' :: text) =
      .ok ((name, value) :: members, tail) := by
  have colon : skipSpace (':' :: text) = ':' :: text := rfl
  simp only [writeString_append, readMembers, readString_written, bind, Except.bind, colon, first,
    comma, others, String.ofList_toList]
  rfl

mutual

/-- A layout is read as its value, wherever a value may end. -/
theorem readValue_layout {charset : Charset} {room : Nat} {value : Json} {text : List Char}
    (layout : Layout charset room value text) {calls depth : Nat} {tail : List Char}
    (enough : 2 * text.length ≤ calls) (shallow : depth + room ≤ nestingLimit)
    (ends : Ends tail) : readValue calls depth (text ++ tail) = .ok (value, tail) := by
  cases calls with
  | zero =>
    obtain ⟨c, rest, rfl, -⟩ := layout.starts
    rw [List.length_cons] at enough
    omega
  | succ calls =>
    cases layout with
    | scalar scalar =>
      obtain ⟨c, rest, rfl, start⟩ := scalar.starts
      rw [List.cons_append, readValue_scalar start, ← List.cons_append]
      exact scalar.reads tail ends
    | string _ written => exact readValue_string charset calls depth written tail
    | emptyArray space =>
      rw [List.cons_append, List.append_assoc, List.singleton_append, readValue,
        if_neg (by omega), skipSpace_gap space (by decide)]
      rfl
    | array space items =>
      rw [List.length_cons, List.length_append] at enough
      obtain ⟨c, rest, start, solid, some⟩ := items.starts
      rw [List.cons_append, List.append_assoc,
        readValue_array space (by rw [start]; rfl) solid some (by omega),
        readItems_layout items (by omega) (by omega)]
      rfl
    | emptyObject space =>
      rw [List.cons_append, List.append_assoc, List.singleton_append, readValue,
        if_neg (by omega), skipSpace_gap space (by decide)]
      rfl
    | object space distinct members =>
      rw [List.length_cons, List.length_append] at enough
      obtain ⟨rest, start⟩ := members.starts
      rw [List.cons_append, List.append_assoc,
        readValue_object space (by rw [start]; rfl) (by decide) (by decide) (by omega),
        readMembers_layout members (by omega) (by omega)]
      change Except.ok (Json.object (ofMembers _), tail) = _
      rw [ofMembers_of_nodup distinct]

/-- Items are read as the items they write, up to the bracket that closes them. -/
theorem readItems_layout {charset : Charset} {room : Nat} {items : List Json} {text : List Char}
    (layout : ItemsLayout charset room items text) {calls depth : Nat} {tail : List Char}
    (enough : 2 * text.length ≤ calls) (shallow : depth + room ≤ nestingLimit) :
    readItems calls depth (text ++ tail) = .ok (items, tail) := by
  cases calls with
  | zero =>
    obtain ⟨c, rest, rfl, -⟩ := layout.starts
    rw [List.length_cons] at enough
    omega
  | succ calls =>
    cases layout with
    | last first space =>
      simp only [List.length_append, List.length_singleton] at enough
      simp only [List.append_assoc, List.singleton_append]
      exact readItems_last
        (readValue_layout first (by omega) shallow (ends_gap space (by decide) tail))
        (skipSpace_gap space (by decide) tail)
    | next first space further others =>
      simp only [List.length_append, List.length_cons] at enough
      simp only [List.append_assoc, List.cons_append]
      refine readItems_next
        (readValue_layout first (by omega) shallow (ends_gap space (by decide) _))
        (skipSpace_gap space (by decide) _) ?_
      rw [others.skipSpace further]
      exact readItems_layout others (by omega) shallow

/-- Members are read as the members they write, up to the brace that closes them. -/
theorem readMembers_layout {charset : Charset} {room : Nat} {members : List (String × Json)}
    {text : List Char} (layout : MembersLayout charset room members text) {calls depth : Nat}
    {tail : List Char} (enough : 2 * text.length ≤ calls) (shallow : depth + room ≤ nestingLimit) :
    readMembers calls depth (text ++ tail) = .ok (members, tail) := by
  cases calls with
  | zero =>
    obtain ⟨rest, rfl⟩ := layout.starts
    rw [List.length_cons] at enough
    omega
  | succ calls =>
    cases layout with
    | last space first closing =>
      simp only [List.length_append, List.length_cons] at enough
      simp only [List.append_assoc, List.cons_append]
      refine readMembers_last ?_ (skipSpace_gap closing (by decide) tail)
      rw [first.skipSpace space]
      exact readValue_layout first (by omega) shallow (ends_gap closing (by decide) tail)
    | next space first closing further others =>
      simp only [List.length_append, List.length_cons] at enough
      simp only [List.append_assoc, List.cons_append]
      apply readMembers_next
      · rw [first.skipSpace space]
        exact readValue_layout first (by omega) shallow (ends_gap closing (by decide) _)
      · exact skipSpace_gap closing (by decide) _
      · rw [others.skipSpace further]
        exact readMembers_layout others (by omega) shallow

end

/-- Space at the end of a text is passed over. -/
theorem skipSpace_end {gap : List Char} (space : IsGap gap) : skipSpace gap = [] :=
  List.dropWhile_eq_nil_iff.mpr space

/-- A layout with space around it is read as its value. -/
theorem read_layout {charset : Charset} {value : Json} {before text after : List Char}
    (first : IsGap before) (layout : Layout charset nestingLimit value text)
    (last : IsGap after) : read (String.ofList (before ++ (text ++ after))) = .ok value := by
  have ends : Ends after := fun c rest same =>
    .inl (last c (by rw [same]; exact List.mem_cons_self))
  have mark : (before ++ (text ++ after)).head? ≠ some '\uFEFF' := by
    obtain ⟨c, rest, start, -, -, plain⟩ := layout.starts
    cases before with
    | nil =>
      rw [start]
      exact fun same => plain (Option.some.inj same)
    | cons d before =>
      intro same
      have blank := first d List.mem_cons_self
      rw [Option.some.inj same] at blank
      revert blank
      decide
  rw [read, String.toList_ofList, readWhole, if_neg mark, layout.skipSpace first,
    readValue_layout layout (by simp only [List.length_append]; omega) (by omega) ends]
  simp only [bind, Except.bind, skipSpace_end last]
  rfl

end CrudScaffold.Json
