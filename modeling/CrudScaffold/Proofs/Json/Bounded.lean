import CrudScaffold.Json.Bounded.Reader
import CrudScaffold.Proofs.Json.Printer

/-!
# Indented objects are read within bounds

The reader within bounds takes what the indented layout writes: strings character by character, the
truth values by their names, and objects member by member, each on a line of its own. A value is
read back from its text if it is wherever it may end (`Reads`); an object is if its members are
(`reads_object`), so records of texts and flags are read back whole (`read_indented`).
-/

namespace CrudScaffold

namespace Text

/-- Every written hexadecimal digit has a value. -/
theorem isSome_hexValue?_of_mem {width number : Nat} {c : Char}
    (member : c ∈ hexDigits width number) : (hexValue? c).isSome = true := by
  induction width generalizing number with
  | zero => exact absurd member List.not_mem_nil
  | succ width ih =>
    rcases List.mem_append.mp member with front | last
    · exact ih front
    · rw [List.mem_singleton.mp last, hexValue?_digitChar (Nat.mod_lt number (by decide))]
      rfl

end Text

namespace Json.Bounded

/-! ### Strings -/

/-- No text has fewer bytes than characters. -/
theorem length_le_byteLength (text : List Char) : text.length ≤ BoundedFault.byteLength text := by
  induction text with
  | nil => exact Nat.le_refl _
  | cons c text ih =>
    have one := c.utf8Size_pos
    change text.length + 1 ≤ c.utf8Size + BoundedFault.byteLength text
    omega

/-- Four written digits are read as their code. -/
theorem readCode_hexDigits {code : Nat} (small : code < 0x10000) (rest : List Char) :
    readCode (Text.hexDigits 4 code ++ rest) = .ok (code, rest) := by
  have width := Text.length_hexDigits 4 code
  have enough := length_le_byteLength (Text.hexDigits 4 code ++ rest)
  rw [List.length_append, width] at enough
  have digits : (Text.hexDigits 4 code).dropWhile (fun c => (Text.hexValue? c).isSome) = [] :=
    List.dropWhile_eq_nil_iff.mpr fun c member => Text.isSome_hexValue?_of_mem member
  have number := Text.hexNumber?_hexDigits 4 code
  rw [Nat.mod_eq_of_lt small] at number
  rw [readCode, if_neg (by omega), List.take_left' width, List.drop_left' width, digits]
  dsimp only
  rw [number]
  rfl

/-- A character is read from behind the letter of its escape. -/
theorem exists_readCodedChar (c : Char) :
    ∃ digits, writeCodes c = '\\' :: 'u' :: digits ∧
      ∀ rest, readCodedChar (digits ++ rest) = .ok (c, rest) := by
  rcases writeCodes_cases c with ⟨one, small, notHigh, notLow⟩ |
    ⟨high, low, two, first, second, upper, notLow, lower, joined⟩
  · refine ⟨Text.hexDigits 4 c.toNat, one, fun rest => ?_⟩
    simp only [readCodedChar, readCode_hexDigits small, bind, Except.bind, notLow, notHigh,
      Char.ofNat_toNat]
    rfl
  · refine ⟨Text.hexDigits 4 high ++ '\\' :: 'u' :: Text.hexDigits 4 low, two, fun rest => ?_⟩
    simp only [List.append_assoc, List.cons_append, readCodedChar, readCode_hexDigits first,
      readCode_hexDigits second, bind, Except.bind, notLow, upper, lower, joined,
      Char.ofNat_toNat]
    rfl

/-- A character is read back from what is written for it, whatever the rest of the string. -/
theorem readString_writeChar (charset : Charset) (c : Char) (bound : Nat) (text : List Char) :
    readString (bound + 1) (writeChar charset c ++ text) =
      (do
        let (tail, rest) ← readString bound text
        return (c :: tail, rest)) := by
  rcases writeChar_cases charset c with ⟨letter, same, known⟩ | same | ⟨same, quote, slash, plain⟩
  · have notCode : letter ≠ 'u' := by
      rintro rfl
      nomatch known
    rw [same, List.cons_append, List.cons_append, List.nil_append, readString, if_neg notCode,
      known]
  · obtain ⟨digits, codes, read⟩ := exists_readCodedChar c
    rw [same, codes, List.cons_append, List.cons_append, readString, if_pos rfl, read text]
    rfl
  · rw [same, List.singleton_append, readString]
    · rw [plain]
      rfl
    · exact quote
    · exact fun same _ => slash same
    · exact fun _ _ same _ => slash same

/-- A text is read back from what is written for its characters and a closing quote. -/
theorem readString_written (charset : Charset) {chars : List Char} {bound : Nat}
    (enough : chars.length < bound) (rest : List Char) :
    readString bound (chars.flatMap (writeChar charset) ++ '"' :: rest) = .ok (chars, rest) := by
  induction chars generalizing bound with
  | nil =>
    cases bound with
    | zero => contradiction
    | succ bound => rfl
  | cons c chars ih =>
    cases bound with
    | zero => contradiction
    | succ bound =>
      rw [List.flatMap_cons, List.append_assoc, readString_writeChar,
        ih (Nat.lt_of_succ_lt_succ enough)]
      rfl

/-- A written string is no shorter than its text. -/
theorem length_le_length_flatMap (charset : Charset) (chars : List Char) :
    chars.length ≤ (chars.flatMap (writeChar charset)).length := by
  induction chars with
  | nil => exact Nat.le_refl _
  | cons c chars ih =>
    have some : 0 < (writeChar charset c).length := by
      rcases writeChar_cases charset c with ⟨letter, same, -⟩ | same | ⟨same, -⟩
      · rw [same]
        exact Nat.succ_pos _
      · obtain ⟨digits, codes, -⟩ := exists_readCodedChar c
        rw [same, codes]
        exact Nat.succ_pos _
      · rw [same]
        exact Nat.succ_pos _
    rw [List.flatMap_cons, List.length_append, List.length_cons]
    omega

/-- A written string is read back with the number of its own characters as a bound. -/
theorem readString_quoted (charset : Charset) (text : String) (rest : List Char) :
    readString ('"' :: (text.toList.flatMap (writeChar charset) ++ '"' :: rest)).length
      (text.toList.flatMap (writeChar charset) ++ '"' :: rest) = .ok (text.toList, rest) := by
  refine readString_written charset ?_ rest
  have fits := length_le_length_flatMap charset text.toList
  rw [List.length_cons, List.length_append]
  omega

/-! ### Values -/

/-- A text that is read as a value inside of so many others, wherever the value may end. -/
structure Reads (depth : Nat) (value : Json) (text : List Char) : Prop where
  /-- It does not start with space. -/
  starts : ∃ c rest, text = c :: rest ∧ isSpace c = false
  /-- It is read as the value. -/
  reads : ∀ {calls tail}, 2 * text.length ≤ calls → Ends tail →
    readValue calls depth (text ++ tail) = .ok (value, tail)

/-- Space in front of a value is passed over. -/
theorem Reads.skipSpace {depth : Nat} {value : Json} {text gap : List Char}
    (reads : Reads depth value text) (space : IsGap gap) (rest : List Char) :
    skipSpace (gap ++ (text ++ rest)) = text ++ rest := by
  obtain ⟨c, more, rfl, solid⟩ := reads.starts
  exact skipSpace_gap space solid (more ++ rest)

/-- A written string is read as the text. -/
theorem reads_string (charset : Charset) (depth : Nat) (text : String) :
    Reads depth (.string text) (writeString charset text) := by
  refine ⟨⟨'"', _, rfl, by decide⟩, fun {calls tail} enough _ => ?_⟩
  cases calls with
  | zero =>
    rw [writeString, List.length_append] at enough
    contradiction
  | succ calls =>
    rw [writeString_append, readValue, readString_quoted]
    simp only [bind, Except.bind, String.ofList_toList]
    rfl

/-- The names of the truth values are read as them. -/
theorem reads_bool (depth : Nat) (value : Bool) :
    Reads depth (.bool value) (if value then "true" else "false").toList := by
  cases value with
  | true =>
    refine ⟨⟨'t', "rue".toList, rfl, by decide⟩, fun {calls tail} enough _ => ?_⟩
    cases calls with
    | zero => contradiction
    | succ calls => rfl
  | false =>
    refine ⟨⟨'f', "alse".toList, rfl, by decide⟩, fun {calls tail} enough _ => ?_⟩
    cases calls with
    | zero => contradiction
    | succ calls => rfl

/-! ### Objects -/

/-- Read what follows the value of a member: the brace that closes the object, or a comma and the
other members. -/
def readFurther (calls depth : Nat) (member : String × Json) :
    List Char → Except Stop (List (String × Json) × List Char)
  | [] => stop .endInObject []
  | '\x7d' :: rest => .ok ([member], rest)
  | ',' :: rest =>
    match skipSpace rest with
    | [] => stop .endInValue []
    | '\x7d' :: rest => stop .trailingComma ('\x7d' :: rest)
    | rest => do
      let (members, rest) ← readMembers calls depth rest
      return (member :: members, rest)
  | rest => stop .expectedMemberEnd rest

variable {charset : Charset} {calls depth : Nat} {name : String} {value : Json}
  {text gap : List Char}

/-- A written member is read with its value, and then what follows it. -/
theorem readMembers_member (shallow : depth ≤ depthLimit) (first : Reads depth value text)
    (enough : 2 * text.length ≤ calls) {rest : List Char} (ends : Ends rest) :
    readMembers (calls + 1) depth (writeString charset name ++ ':' :: ' ' :: (text ++ rest)) =
      readFurther calls depth (name, value) (skipSpace rest) := by
  have colon (behind : List Char) : skipSpace (':' :: behind) = ':' :: behind := rfl
  have read := first.reads enough ends
  have starts := first.skipSpace isGap_space rest
  obtain ⟨c, more, same, -⟩ := first.starts
  rw [same] at read starts
  simp only [List.cons_append, List.nil_append] at read starts
  simp only [same, List.cons_append, writeString_append, readMembers, readString_quoted, bind, Except.bind, colon, starts,
    if_neg (Nat.not_lt.mpr shallow), read, String.ofList_toList]
  rfl

/-- A member with a brace behind it is the last one. -/
theorem readMembers_last (shallow : depth ≤ depthLimit) (first : Reads depth value text)
    (enough : 2 * text.length ≤ calls) (space : IsGap gap) (tail : List Char) :
    readMembers (calls + 1) depth (writeString charset name ++ ':' :: ' ' ::
      (text ++ (gap ++ '\x7d' :: tail))) = .ok ([(name, value)], tail) := by
  rw [readMembers_member shallow first enough (ends_gap space (by decide) tail),
    skipSpace_gap space (by decide)]
  rfl

/-- A member with a comma and the quote of another name behind it has others behind that. -/
theorem readMembers_next {members : List (String × Json)} {further tail : List Char}
    (shallow : depth ≤ depthLimit) (first : Reads depth value text)
    (enough : 2 * text.length ≤ calls) (space : IsGap gap)
    (others : readMembers calls depth ('"' :: further) = .ok (members, tail)) :
    readMembers (calls + 1) depth (writeString charset name ++ ':' :: ' ' ::
      (text ++ ',' :: (gap ++ '"' :: further))) = .ok ((name, value) :: members, tail) := by
  have comma : skipSpace (',' :: (gap ++ '"' :: further)) = ',' :: (gap ++ '"' :: further) := rfl
  have ends : Ends (',' :: (gap ++ '"' :: further)) := ends_gap isGap_nil (by decide) _
  rw [readMembers_member shallow first enough ends, comma, readFurther,
    skipSpace_gap space (by decide)]
  change Except.bind (readMembers calls depth ('"' :: further)) _ = _
  rw [others]
  rfl

/-- Members on lines of their own are read back, up to the brace that closes them. -/
theorem readMembers_indented {indent : Nat} {members : List (String × Json)}
    (shallow : depth ≤ depthLimit)
    (each : ∀ member ∈ (name, value) :: members,
      Reads depth member.2 (writeIndented (indent + 1) member.2))
    (enough : 2 * (writeString .unicode name ++ ':' :: ' ' :: writeIndented (indent + 1) value ++
      writeIndentedMembers indent members).length ≤ calls) (tail : List Char) :
    readMembers calls depth (writeString .unicode name ++ ':' :: ' ' ::
      writeIndented (indent + 1) value ++ writeIndentedMembers indent members ++ tail) =
        .ok ((name, value) :: members, tail) := by
  -- On the members behind the first: each uses one call, and takes more characters than that.
  induction members generalizing name value calls with
  | nil =>
    have first : Reads depth value (writeIndented (indent + 1) value) :=
      each (name, value) List.mem_cons_self
    cases calls with
    | zero =>
      simp only [List.length_append, List.length_cons] at enough
      omega
    | succ calls =>
      simp only [List.length_append, List.length_cons] at enough
      have fits : 2 * (writeIndented (indent + 1) value).length ≤ calls := by omega
      have whole : readMembers _ _ (writeString .unicode name ++ _) = _ :=
        readMembers_last shallow first fits (isGap_newLine indent) tail
      simp only [writeIndentedMembers, List.append_assoc, List.cons_append, List.nil_append]
        at whole ⊢
      exact whole
  | cons next members ih =>
    have first : Reads depth value (writeIndented (indent + 1) value) :=
      each (name, value) List.mem_cons_self
    have others := (List.forall_mem_cons.mp each).2
    obtain ⟨nextName, nextValue⟩ := next
    cases calls with
    | zero =>
      simp only [List.length_append, List.length_cons] at enough
      omega
    | succ calls =>
      simp only [writeIndentedMembers, List.length_append, List.length_cons] at enough
      have rest : readMembers calls depth _ = .ok ((nextName, nextValue) :: members, tail) :=
        ih others (by
          simp only [List.length_append, List.length_cons]
          omega)
      simp only [List.append_assoc, List.cons_append, writeString_append] at rest
      have fits : 2 * (writeIndented (indent + 1) value).length ≤ calls := by omega
      have whole : readMembers _ _ (writeString .unicode name ++ _) = _ :=
        readMembers_next shallow first fits (isGap_newLine (indent + 1)) rest
      simp only [writeIndentedMembers, List.append_assoc, List.cons_append, writeString_append]
        at whole ⊢
      exact whole

/-- An object whose first name follows is read by reading its members. -/
theorem readValue_object (space : IsGap gap) (further : List Char) :
    readValue (calls + 1) depth ('\x7b' :: (gap ++ '"' :: further)) =
      (do
        let (members, rest) ← readMembers calls (depth + 1) ('"' :: further)
        return (.object (ofMembers members), rest)) := by
  rw [readValue, skipSpace_gap space (by decide)]
  rfl

/-- An object on lines of its own is read back if the values of its members are. -/
theorem reads_object {depth indent : Nat} {members : List (String × Json)}
    (shallow : depth < depthLimit) (distinct : (members.map Prod.fst).Nodup)
    (each : ∀ member ∈ members,
      Reads (depth + 1) member.2 (writeIndented (indent + 1) member.2)) :
    Reads depth (.object members) (writeIndented indent (.object members)) := by
  cases members with
  | nil =>
    refine ⟨⟨'\x7b', ['\x7d'], rfl, by decide⟩, fun {calls tail} enough _ => ?_⟩
    cases calls with
    | zero => contradiction
    | succ calls => rfl
  | cons member members =>
    obtain ⟨name, value⟩ := member
    refine ⟨⟨'\x7b', _, rfl, by decide⟩, fun {calls tail} enough _ => ?_⟩
    cases calls with
    | zero => contradiction
    | succ calls =>
      change 2 * ('\x7b' :: newLine (indent + 1) ++ writeString .unicode name ++ ':' :: ' ' ::
        writeIndented (indent + 1) value ++ writeIndentedMembers indent members).length ≤ _
        at enough
      simp only [List.length_append, List.length_cons] at enough
      have read : readMembers calls (depth + 1) _ = .ok ((name, value) :: members, tail) :=
        readMembers_indented (Nat.succ_le_of_lt shallow) each (by
          simp only [List.length_append, List.length_cons]
          omega) tail
      change readValue _ _ ('\x7b' :: newLine (indent + 1) ++ writeString .unicode name ++ ':' ::
        ' ' :: writeIndented (indent + 1) value ++ writeIndentedMembers indent members ++ tail) = _
      simp only [List.append_assoc, List.cons_append, writeString_append] at read ⊢
      rw [readValue_object (isGap_newLine (indent + 1)), read]
      change Except.ok (Json.object (ofMembers _), tail) = _
      rw [ofMembers_of_nodup distinct]

/-- An object whose members are read back is read back as a whole document. -/
theorem read_indented {members : List (String × Json)} (distinct : (members.map Prod.fst).Nodup)
    (each : ∀ member ∈ members, Reads 1 member.2 (writeIndented 1 member.2)) :
    Bounded.read (indented (.object members)) = .ok (.object members) := by
  have whole := reads_object (by decide : 0 < depthLimit) distinct each
  obtain ⟨c, rest, same, solid⟩ := whole.starts
  have start : skipSpace (writeIndented 0 (.object members)) = c :: rest := by
    rw [same]
    exact skipSpace_gap isGap_nil solid rest
  have ends : Ends [] := fun _ _ same => nomatch same
  have read := whole.reads (Nat.le_add_right _ 2) ends
  rw [List.append_nil, same] at read
  rw [Bounded.read, indented, String.toList_ofList, readWhole, start, same]
  dsimp only
  rw [read]
  rfl

end Json.Bounded

end CrudScaffold
