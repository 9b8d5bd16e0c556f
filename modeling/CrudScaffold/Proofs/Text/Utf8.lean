import CrudScaffold.Text.Utf8
import Mathlib.Data.List.DropRight

/-!
# Bytes of texts

The bytes of a text are read as the text, and no other bytes are (`decodeUtf8_eq_ok_iff`). A
character takes one to four bytes by the size of its code, and each of the four forms is read by its
own branch of the reader. So texts can be compared by their bytes: what a text starts with, and
which characters with a code below 128 it holds and ends with, can be told from these.
-/

namespace CrudScaffold.Text

/-! ### Numbers of bytes -/

/-- The number of a byte that was made from one. -/
theorem toNat_ofNat_byte {code : Nat} (small : code < 256) : (UInt8.ofNat code).toNat = code := by
  rw [UInt8.toNat_ofNat']
  exact Nat.mod_eq_of_lt small

/-- Whether a byte lies below another, by the numbers that they were made from. -/
theorem ofNat_lt_ofNat (code bound : Nat) (small : code < 256) (limit : bound < 256) :
    UInt8.ofNat code < UInt8.ofNat bound ↔ code < bound := by
  rw [UInt8.lt_iff_toNat_lt, toNat_ofNat_byte small, toNat_ofNat_byte limit]

/-- A byte is made from its number. -/
theorem ofNat_eq {code : Nat} {byte : UInt8} (same : code = byte.toNat) :
    UInt8.ofNat code = byte := by
  rw [same, UInt8.ofNat_toNat]

/-- A continuing byte, by its number. -/
theorem isContinuation_iff {byte : UInt8} :
    isContinuation byte = true ↔ 0x80 ≤ byte.toNat ∧ byte.toNat ≤ 0xBF := by
  rw [isContinuation, Bool.and_eq_true, decide_eq_true_eq, decide_eq_true_eq,
    UInt8.le_iff_toNat_le, UInt8.le_iff_toNat_le]
  rfl

/-- A byte that may follow a first one, by their numbers. -/
theorem isSecond_iff {first second : UInt8} : isSecond first second = true ↔
    (0x80 ≤ second.toNat ∧ second.toNat ≤ 0xBF) ∧
      (first.toNat = 0xE0 → 0xA0 ≤ second.toNat) ∧ (first.toNat = 0xED → second.toNat < 0xA0) ∧
      (first.toNat = 0xF0 → 0x90 ≤ second.toNat) ∧ (first.toNat = 0xF4 → second.toNat < 0x90) := by
  simp only [isSecond, Bool.and_eq_true, Bool.or_eq_true, isContinuation_iff, decide_eq_true_eq,
    bne_iff_ne, ne_eq, ← UInt8.toNat_inj, UInt8.le_iff_toNat_le, UInt8.lt_iff_toNat_lt, and_assoc,
    ← Decidable.imp_iff_not_or]
  rfl

/-! ### Reading what was written -/

/-- Six bits behind the mark of a continuing byte make one. -/
theorem isContinuation_ofNat (bits : Nat) (small : bits < 64) :
    isContinuation (UInt8.ofNat (bits + 128)) = true := by
  rw [isContinuation_iff, toNat_ofNat_byte (by omega)]
  omega

/-- A continuing byte adds its six bits to a code. -/
theorem extendCode_ofNat (code : Nat) {bits : Nat} (small : bits < 64) :
    extendCode code (UInt8.ofNat (bits + 128)) = code * 64 + bits := by
  have number := toNat_ofNat_byte (show bits + 128 < 256 by omega)
  unfold extendCode
  rw [number]
  omega

/-- A byte may follow a first one unless the first one narrows the choice. -/
theorem isSecond_ofNat (lead bits : Nat) (byte : lead < 256) (small : bits < 64)
    (long : lead = 0xE0 → 0x20 ≤ bits) (noSurrogate : lead = 0xED → bits < 0x20)
    (longer : lead = 0xF0 → 0x10 ≤ bits) (last : lead = 0xF4 → bits < 0x10) :
    isSecond (UInt8.ofNat lead) (UInt8.ofNat (bits + 128)) = true := by
  rw [isSecond_iff, toNat_ofNat_byte byte, toNat_ofNat_byte (by omega)]
  omega

/-- The first byte of a character of several bytes starts no other kind of sequence. -/
theorem startsSequence (lead : Nat) (least : 0xC2 ≤ lead) (most : lead ≤ 0xF4) :
    ¬ UInt8.ofNat lead < 0x80 ∧
      ¬ (decide (UInt8.ofNat lead < 0xC2) || decide (0xF4 < UInt8.ofNat lead)) = true := by
  have byte : lead < 256 := by omega
  have ascii := ofNat_lt_ofNat lead 0x80 byte (by decide)
  have start := ofNat_lt_ofNat lead 0xC2 byte (by decide)
  have stop := ofNat_lt_ofNat 0xF4 lead (by decide) byte
  rw [Bool.or_eq_true, decide_eq_true_eq, decide_eq_true_eq]
  constructor
  · intro small
    have := ascii.mp small
    omega
  · rintro (small | large)
    · have := start.mp small
      omega
    · have := stop.mp large
      omega

/-- A character of one byte is read from it. -/
theorem decodeUtf8From_one {code : Nat} (small : code < 0x80) (position : Nat)
    (rest : List UInt8) : decodeUtf8From position (UInt8.ofNat code :: rest) =
      (decodeUtf8From (position + 1) rest).map (Char.ofNat code :: ·) := by
  have ascii : UInt8.ofNat code < 0x80 := (ofNat_lt_ofNat _ 0x80 (by omega) (by decide)).mpr small
  conv => lhs; unfold decodeUtf8From
  dsimp only
  rw [if_pos ascii, toNat_ofNat_byte (by omega)]

/-- A character of two bytes is read from them. -/
theorem decodeUtf8From_two {code : Nat} (least : 0x80 ≤ code) (most : code < 0x800)
    (position : Nat) (rest : List UInt8) :
    decodeUtf8From position
        (UInt8.ofNat (code / 64 % 32 + 192) :: UInt8.ofNat (code % 64 + 128) :: rest) =
      (decodeUtf8From (position + 2) rest).map (Char.ofNat code :: ·) := by
  obtain ⟨ascii, start⟩ := startsSequence (code / 64 % 32 + 192) (by omega) (by omega)
  have second := isSecond_ofNat (code / 64 % 32 + 192) (code % 64) (by omega)
    (by omega) (by omega) (by omega) (by omega) (by omega)
  have two : UInt8.ofNat (code / 64 % 32 + 192) < 0xE0 :=
    (ofNat_lt_ofNat _ 0xE0 (by omega) (by decide)).mpr (by omega)
  have whole : (code / 64 % 32 + 192 - 0xC0) * 64 + code % 64 = code := by omega
  conv => lhs; unfold decodeUtf8From
  dsimp only
  rw [if_neg ascii, if_neg start, if_neg (by rw [second]; decide), if_pos two,
    toNat_ofNat_byte (by omega), extendCode_ofNat _ (by omega), whole]

/-- A character of three bytes is read from them. -/
theorem decodeUtf8From_three {code : Nat} (least : 0x800 ≤ code) (most : code < 0x10000)
    (noSurrogate : code < 0xD800 ∨ 0xDFFF < code) (position : Nat) (rest : List UInt8) :
    decodeUtf8From position
        (UInt8.ofNat (code / 4096 % 16 + 224) :: UInt8.ofNat (code / 64 % 64 + 128) ::
          UInt8.ofNat (code % 64 + 128) :: rest) =
      (decodeUtf8From (position + 3) rest).map (Char.ofNat code :: ·) := by
  obtain ⟨ascii, start⟩ := startsSequence (code / 4096 % 16 + 224) (by omega) (by omega)
  have second := isSecond_ofNat (code / 4096 % 16 + 224) (code / 64 % 64)
    (by omega) (by omega) (by omega) (by omega) (by omega) (by omega)
  have third := isContinuation_ofNat (code % 64) (by omega)
  have two : ¬ UInt8.ofNat (code / 4096 % 16 + 224) < 0xE0 := fun less =>
    absurd ((ofNat_lt_ofNat _ 0xE0 (by omega) (by decide)).mp less) (by omega)
  have three : UInt8.ofNat (code / 4096 % 16 + 224) < 0xF0 :=
    (ofNat_lt_ofNat _ 0xF0 (by omega) (by decide)).mpr (by omega)
  have whole : ((code / 4096 % 16 + 224 - 0xE0) * 64 + code / 64 % 64) * 64 + code % 64 = code := by
    omega
  conv => lhs; unfold decodeUtf8From
  dsimp only
  rw [if_neg ascii, if_neg start, if_neg (by rw [second]; decide),
    if_neg two, if_neg (by rw [third]; decide),
    if_pos three, toNat_ofNat_byte (by omega), extendCode_ofNat _ (by omega),
    extendCode_ofNat _ (by omega), whole]

/-- A character of four bytes is read from them. -/
theorem decodeUtf8From_four {code : Nat} (least : 0x10000 ≤ code) (most : code < 0x110000)
    (position : Nat) (rest : List UInt8) :
    decodeUtf8From position
        (UInt8.ofNat (code / 262144 % 8 + 240) :: UInt8.ofNat (code / 4096 % 64 + 128) ::
          UInt8.ofNat (code / 64 % 64 + 128) :: UInt8.ofNat (code % 64 + 128) :: rest) =
      (decodeUtf8From (position + 4) rest).map (Char.ofNat code :: ·) := by
  obtain ⟨ascii, start⟩ := startsSequence (code / 262144 % 8 + 240) (by omega) (by omega)
  have second := isSecond_ofNat (code / 262144 % 8 + 240) (code / 4096 % 64)
    (by omega) (by omega) (by omega) (by omega) (by omega) (by omega)
  have third := isContinuation_ofNat (code / 64 % 64) (by omega)
  have fourth := isContinuation_ofNat (code % 64) (by omega)
  have two : ¬ UInt8.ofNat (code / 262144 % 8 + 240) < 0xE0 := fun less =>
    absurd ((ofNat_lt_ofNat _ 0xE0 (by omega) (by decide)).mp less) (by omega)
  have three : ¬ UInt8.ofNat (code / 262144 % 8 + 240) < 0xF0 := fun less =>
    absurd ((ofNat_lt_ofNat _ 0xF0 (by omega) (by decide)).mp less) (by omega)
  have whole : (((code / 262144 % 8 + 240 - 0xF0) * 64 + code / 4096 % 64) * 64 +
      code / 64 % 64) * 64 + code % 64 = code := by
    omega
  conv => lhs; unfold decodeUtf8From
  dsimp only
  rw [if_neg ascii, if_neg start, if_neg (by rw [second]; decide),
    if_neg two, if_neg (by rw [third]; decide),
    if_neg three, if_neg (by rw [fourth]; decide),
    toNat_ofNat_byte (by omega), extendCode_ofNat _ (by omega), extendCode_ofNat _ (by omega),
    extendCode_ofNat _ (by omega), whole]

/-- The bytes of a character are read as the character, and what follows them is read next. -/
theorem decodeUtf8From_encodeChar (position : Nat) (c : Char) (rest : List UInt8) :
    ∃ next, decodeUtf8From position (String.utf8EncodeChar c ++ rest) =
      (decodeUtf8From next rest).map (c :: ·) := by
  have valid : c.val.toNat < 0xD800 ∨ 0xDFFF < c.val.toNat ∧ c.val.toNat < 0x110000 := c.valid
  have back : Char.ofNat c.val.toNat = c := Char.ofNat_toNat c
  unfold String.utf8EncodeChar
  generalize c.val.toNat = code at valid back
  subst back
  dsimp only
  split
  · exact ⟨_, decodeUtf8From_one (by omega) position rest⟩
  · split
    · exact ⟨_, decodeUtf8From_two (by omega) (by omega) position rest⟩
    · split
      · exact ⟨_, decodeUtf8From_three (by omega) (by omega) (by omega) position rest⟩
      · exact ⟨_, decodeUtf8From_four (by omega) (by omega) position rest⟩

/-- A first character is written in front. -/
theorem encodeUtf8_cons (c : Char) (text : List Char) :
    encodeUtf8 (c :: text) = String.utf8EncodeChar c ++ encodeUtf8 text := by
  rw [encodeUtf8, List.flatMap_cons]
  rfl

/-- The bytes of a text are read as the text, and what follows them is read next. -/
theorem decodeUtf8From_encodeUtf8_append (position : Nat) (text : List Char)
    (rest : List UInt8) : ∃ next, decodeUtf8From position (encodeUtf8 text ++ rest) =
      (decodeUtf8From next rest).map (text ++ ·) := by
  induction text generalizing position with
  | nil =>
    refine ⟨position, ?_⟩
    change decodeUtf8From position rest = _
    cases decodeUtf8From position rest <;> rfl
  | cons c text ih =>
    obtain ⟨middle, first⟩ := decodeUtf8From_encodeChar position c (encodeUtf8 text ++ rest)
    obtain ⟨next, others⟩ := ih middle
    refine ⟨next, ?_⟩
    rw [encodeUtf8_cons, List.append_assoc, first, others]
    cases decodeUtf8From next rest <;> rfl

/-- The bytes of a text are read as the text. -/
theorem decodeUtf8From_encodeUtf8 (position : Nat) (text : List Char) :
    decodeUtf8From position (encodeUtf8 text) = .ok text := by
  obtain ⟨next, read⟩ := decodeUtf8From_encodeUtf8_append position text []
  rw [List.append_nil] at read
  rw [read, decodeUtf8From]
  exact congrArg Except.ok (List.append_nil text)

/-- What is written to a file is read from it. -/
theorem decodeUtf8_encodeUtf8 (text : List Char) : decodeUtf8 (encodeUtf8 text) = .ok text :=
  decodeUtf8From_encodeUtf8 0 text

/-! ### Writing what was read -/

/-- The code of the character of a code. -/
theorem val_ofNat {code : Nat} (valid : code < 0xD800 ∨ 0xDFFF < code ∧ code < 0x110000) :
    (Char.ofNat code).val.toNat = code := by
  have proper : code.isValidChar := valid
  rw [Char.ofNat, dif_pos proper]
  rfl

section

variable {first second third fourth : UInt8}

/-- A character that was read from one byte is written as it. -/
theorem encodeChar_one (ascii : first < 0x80) :
    String.utf8EncodeChar (Char.ofNat first.toNat) = [first] := by
  have small : first.toNat < 0x80 := UInt8.lt_iff_toNat_lt.mp ascii
  have valid : first.toNat < 0xD800 ∨ 0xDFFF < first.toNat ∧ first.toNat < 0x110000 := by omega
  simp only [String.utf8EncodeChar, val_ofNat valid]
  rw [if_pos (by omega), ofNat_eq rfl]

/-- A character that was read from two bytes is written as them. -/
theorem encodeChar_two (start : ¬ first < 0xC2) (two : first < 0xE0)
    (next : isSecond first second = true) :
    String.utf8EncodeChar (Char.ofNat (extendCode (first.toNat - 0xC0) second)) =
      [first, second] := by
  have least : ¬ first.toNat < 0xC2 := fun less => start (UInt8.lt_iff_toNat_lt.mpr less)
  have most : first.toNat < 0xE0 := UInt8.lt_iff_toNat_lt.mp two
  obtain ⟨⟨low, high⟩, -⟩ := isSecond_iff.mp next
  have whole : extendCode (first.toNat - 0xC0) second =
      (first.toNat - 0xC0) * 64 + (second.toNat - 0x80) := rfl
  generalize extendCode (first.toNat - 0xC0) second = code at whole
  have valid : code < 0xD800 ∨ 0xDFFF < code ∧ code < 0x110000 := by omega
  simp only [String.utf8EncodeChar, val_ofNat valid]
  rw [if_neg (by omega), if_pos (by omega), @ofNat_eq _ first (by omega),
    @ofNat_eq _ second (by omega)]

/-- A character that was read from three bytes is written as them. -/
theorem encodeChar_three (two : ¬ first < 0xE0) (three : first < 0xF0)
    (next : isSecond first second = true) (last : isContinuation third = true) :
    String.utf8EncodeChar
        (Char.ofNat (extendCode (extendCode (first.toNat - 0xE0) second) third)) =
      [first, second, third] := by
  have least : ¬ first.toNat < 0xE0 := fun less => two (UInt8.lt_iff_toNat_lt.mpr less)
  have most : first.toNat < 0xF0 := UInt8.lt_iff_toNat_lt.mp three
  obtain ⟨⟨low, high⟩, long, noSurrogate, -⟩ := isSecond_iff.mp next
  obtain ⟨lowest, highest⟩ := isContinuation_iff.mp last
  have whole : extendCode (extendCode (first.toNat - 0xE0) second) third =
      ((first.toNat - 0xE0) * 64 + (second.toNat - 0x80)) * 64 + (third.toNat - 0x80) := rfl
  generalize extendCode (extendCode (first.toNat - 0xE0) second) third = code at whole
  have valid : code < 0xD800 ∨ 0xDFFF < code ∧ code < 0x110000 := by omega
  simp only [String.utf8EncodeChar, val_ofNat valid]
  rw [if_neg (by omega), if_neg (by omega), if_pos (by omega), @ofNat_eq _ first (by omega),
    @ofNat_eq _ second (by omega), @ofNat_eq _ third (by omega)]

/-- A character that was read from four bytes is written as them. -/
theorem encodeChar_four (three : ¬ first < 0xF0) (stop : ¬ 0xF4 < first)
    (next : isSecond first second = true) (another : isContinuation third = true)
    (last : isContinuation fourth = true) :
    String.utf8EncodeChar (Char.ofNat
        (extendCode (extendCode (extendCode (first.toNat - 0xF0) second) third) fourth)) =
      [first, second, third, fourth] := by
  have least : ¬ first.toNat < 0xF0 := fun less => three (UInt8.lt_iff_toNat_lt.mpr less)
  have most : ¬ 0xF4 < first.toNat := fun more => stop (UInt8.lt_iff_toNat_lt.mpr more)
  obtain ⟨⟨low, high⟩, -, -, longer, final⟩ := isSecond_iff.mp next
  obtain ⟨lower, higher⟩ := isContinuation_iff.mp another
  obtain ⟨lowest, highest⟩ := isContinuation_iff.mp last
  have whole : extendCode (extendCode (extendCode (first.toNat - 0xF0) second) third) fourth =
      (((first.toNat - 0xF0) * 64 + (second.toNat - 0x80)) * 64 + (third.toNat - 0x80)) * 64 +
        (fourth.toNat - 0x80) := rfl
  generalize extendCode (extendCode (extendCode (first.toNat - 0xF0) second) third) fourth = code
    at whole
  have valid : code < 0xD800 ∨ 0xDFFF < code ∧ code < 0x110000 := by omega
  simp only [String.utf8EncodeChar, val_ofNat valid]
  rw [if_neg (by omega), if_neg (by omega), if_neg (by omega), @ofNat_eq _ first (by omega),
    @ofNat_eq _ second (by omega), @ofNat_eq _ third (by omega), @ofNat_eq _ fourth (by omega)]

end

/-- A text that was read from some bytes and others comes from those of a first character. -/
theorem encodeUtf8_of_map {c : Char} {bytes rest : List UInt8} {text : List Char}
    {later : Except Utf8Fault (List Char)} (first : String.utf8EncodeChar c = bytes)
    (others : ∀ {text}, later = .ok text → rest = encodeUtf8 text)
    (read : later.map (c :: ·) = .ok text) : bytes ++ rest = encodeUtf8 text := by
  cases later with
  | error fault => cases read
  | ok tail =>
    obtain rfl := Except.ok.inj read
    rw [encodeUtf8_cons, first, others rfl]

/-- Bytes that are read as a text are those of the text. -/
theorem eq_encodeUtf8_of_decodeUtf8From {position : Nat} {bytes : List UInt8} {text : List Char}
    (read : decodeUtf8From position bytes = .ok text) : bytes = encodeUtf8 text := by
  fun_induction decodeUtf8From position bytes generalizing text with
  | case1 =>
    obtain rfl := Except.ok.inj read
    rfl
  | case2 position first rest ascii ih => exact encodeUtf8_of_map (encodeChar_one ascii) ih read
  | case6 position first ascii lead second rest next two ih =>
    simp only [Bool.or_eq_true, decide_eq_true_eq, not_or, Bool.not_eq_true', Bool.not_eq_false]
      at lead next
    exact encodeUtf8_of_map (encodeChar_two lead.1 two next) ih read
  | case9 position first ascii lead second next two third rest last three ih =>
    simp only [Bool.not_eq_true', Bool.not_eq_false] at next last
    exact encodeUtf8_of_map (encodeChar_three two three next last) ih read
  | case12 position first ascii lead second next two third another three fourth rest last ih =>
    simp only [Bool.or_eq_true, decide_eq_true_eq, not_or, Bool.not_eq_true', Bool.not_eq_false]
      at lead next another last
    exact encodeUtf8_of_map (encodeChar_four three lead.2 next another last) ih read
  -- in the other cases there is a fault
  | case3 | case4 | case5 | case7 | case8 | case10 | case11 => cases read

/-- Bytes are read as a text exactly if they are its bytes. -/
theorem decodeUtf8_eq_ok_iff {bytes : List UInt8} {text : List Char} :
    decodeUtf8 bytes = .ok text ↔ bytes = encodeUtf8 text := by
  constructor
  · exact eq_encodeUtf8_of_decodeUtf8From
  · rintro rfl
    exact decodeUtf8_encodeUtf8 text

/-! ### Pieces of texts -/

/-- Texts behind each other are written behind each other. -/
theorem encodeUtf8_append (left right : List Char) :
    encodeUtf8 (left ++ right) = encodeUtf8 left ++ encodeUtf8 right := List.flatMap_append

/-- The bytes of a text start with those of another exactly if the text starts with the other. -/
theorem encodeUtf8_prefix_iff {front text : List Char} :
    encodeUtf8 front <+: encodeUtf8 text ↔ front <+: text := by
  constructor
  · rintro ⟨rest, whole⟩
    obtain ⟨next, read⟩ := decodeUtf8From_encodeUtf8_append 0 front rest
    rw [whole, decodeUtf8From_encodeUtf8] at read
    cases others : decodeUtf8From next rest with
    | error fault =>
      rw [others] at read
      cases read
    | ok behind =>
      rw [others] at read
      exact ⟨behind, (Except.ok.inj read).symm⟩
  · rintro ⟨behind, rfl⟩
    rw [encodeUtf8_append]
    exact List.prefix_append _ _

section

variable {a : Char}

/-- A character with a code below 128 is written as one byte. -/
theorem encodeChar_ascii (ascii : a.toNat < 0x80) :
    String.utf8EncodeChar a = [UInt8.ofNat a.toNat] := by
  change (if a.toNat ≤ 0x7f then _ else _) = _
  rw [if_pos (by omega)]
  rfl

/-- A byte below 128 in a character is its code. -/
theorem toNat_of_mem_encodeChar {c : Char} {byte : UInt8}
    (member : byte ∈ String.utf8EncodeChar c) (small : byte.toNat < 0x80) :
    byte.toNat = c.toNat := by
  change byte.toNat = c.val.toNat
  -- the bytes of the longer forms carry marks, from 128 on
  have marked (bits : Nat) (mark : 0x80 ≤ bits) (limit : bits < 256)
      (same : byte = UInt8.ofNat bits) : byte.toNat = c.val.toNat := by
    rw [same, toNat_ofNat_byte limit] at small
    omega
  unfold String.utf8EncodeChar at member
  dsimp only at member
  split at member
  next ascii => rw [List.mem_singleton.mp member, toNat_ofNat_byte (by omega)]
  split at member
  next =>
    simp only [List.mem_cons, List.not_mem_nil, or_false] at member
    rcases member with same | same <;> exact marked _ (by omega) (by omega) same
  split at member
  next =>
    simp only [List.mem_cons, List.not_mem_nil, or_false] at member
    rcases member with same | same | same <;> exact marked _ (by omega) (by omega) same
  next =>
    simp only [List.mem_cons, List.not_mem_nil, or_false] at member
    rcases member with same | same | same | same <;> exact marked _ (by omega) (by omega) same

/-- The byte of a character with a code below 128 is in no other character. -/
theorem mem_encodeChar_iff (ascii : a.toNat < 0x80) {c : Char} :
    UInt8.ofNat a.toNat ∈ String.utf8EncodeChar c ↔ c = a := by
  have byte := @toNat_ofNat_byte a.toNat (by omega)
  constructor
  · intro member
    have same := toNat_of_mem_encodeChar member (by omega)
    rw [byte] at same
    exact (Char.toNat_inj.mp same).symm
  · rintro rfl
    rw [encodeChar_ascii ascii]
    exact List.mem_singleton_self _

/-- Such a character is in a text exactly if its byte is among the bytes of the text. -/
theorem mem_encodeUtf8_iff (ascii : a.toNat < 0x80) {text : List Char} :
    UInt8.ofNat a.toNat ∈ encodeUtf8 text ↔ a ∈ text := by
  simp only [encodeUtf8, List.mem_flatMap, mem_encodeChar_iff ascii, exists_eq_right]

/-- To drop such a character at the end of a text is to drop its byte. -/
theorem encodeUtf8_rdropWhile (ascii : a.toNat < 0x80) (text : List Char) :
    encodeUtf8 (text.rdropWhile (· == a)) =
      (encodeUtf8 text).rdropWhile (· == UInt8.ofNat a.toNat) := by
  induction text using List.reverseRecOn with
  | nil => rfl
  | append_singleton text c ih =>
    have last : encodeUtf8 [c] = String.utf8EncodeChar c := List.flatMap_singleton _ _
    rw [encodeUtf8_append, last]
    by_cases same : c = a
    · subst same
      rw [encodeChar_ascii ascii, List.rdropWhile_concat_pos _ _ _ (by simp),
        List.rdropWhile_concat_pos _ _ _ (by simp), ih]
    · have some : String.utf8EncodeChar c ≠ [] := by
        rw [← List.length_pos_iff, String.length_utf8EncodeChar]
        exact c.utf8Size_pos
      have other : ¬ (String.utf8EncodeChar c).getLast some = UInt8.ofNat a.toNat := fun equal =>
        same ((mem_encodeChar_iff ascii).mp (equal ▸ List.getLast_mem some))
      rw [List.rdropWhile_concat_neg _ _ _ (by simpa using same), encodeUtf8_append, last,
        ← List.dropLast_append_getLast some, ← List.append_assoc,
        List.rdropWhile_concat_neg _ _ _ (by simpa using other)]

end

end CrudScaffold.Text
