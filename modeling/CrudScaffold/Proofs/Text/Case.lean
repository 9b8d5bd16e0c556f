import CrudScaffold.Proofs.Text.Word
import CrudScaffold.Text.Case

/-!
# Characters of another case

Changing the case keeps a character or makes letters of it: small ones in lower case, capitals in
upper case, or characters beyond ASCII that are not blank. So what a text does not hold among the
blanks and the other ASCII characters, it does not hold in another case either. And no character is
lost.
-/

namespace CrudScaffold.Text

/-- A character in a range of ASCII letters, or one beyond ASCII that is not blank. -/
def IsImage (least most : Nat) (c : Char) : Prop :=
  (least ≤ c.toNat ∧ c.toNat ≤ most) ∨ (128 ≤ c.toNat ∧ isBlank c = false)

instance (least most : Nat) (c : Char) : Decidable (IsImage least most c) :=
  inferInstanceAs (Decidable (_ ∨ _))

/-- No image comes before the letters. -/
theorem IsImage.le {least most : Nat} {c : Char} (image : IsImage least most c)
    (ascii : least ≤ 128) : least ≤ c.toNat := by
  rcases image with ⟨letter, -⟩ | ⟨beyond, -⟩
  · exact letter
  · exact Nat.le_trans ascii beyond

/-- No blank is an image. -/
theorem not_isImage_of_isBlank {least most : Nat} {c : Char} (blank : isBlank c)
    (letters : 33 ≤ least) (ascii : most < 128) : ¬ IsImage least most c := by
  rintro (⟨low, high⟩ | ⟨-, solid⟩)
  · simp only [isBlank, Bool.or_eq_true, Bool.and_eq_true, decide_eq_true_eq, beq_iff_eq] at blank
    omega
  · rw [blank] at solid
    contradiction

/-- Whether the images of a run are in a range of ASCII letters, or beyond ASCII with no blank among
them. -/
def CaseRun.toLetters (least most : Nat) (run : CaseRun) : Bool :=
  (least ≤ run.target && run.target + (run.last - run.first) ≤ most) ||
    (128 ≤ run.target &&
      (run.target + (run.last - run.first) < 0xD800 ||
        (0xDFFF < run.target && run.target + (run.last - run.first) < 0x110000)) &&
      wideBlanks.all fun code => code < run.target || run.target + (run.last - run.first) < code)

/-- The image of a code of such a run is such a character. -/
theorem CaseRun.isImage {run : CaseRun} {least most : Nat} (ascii : most < 128)
    (letters : run.toLetters least most = true) {code : Nat}
    (covered : run.covers code = true) : IsImage least most (Char.ofNat (run.image code)) := by
  unfold CaseRun.toLetters at letters
  unfold CaseRun.covers at covered
  simp only [Bool.and_eq_true, Bool.or_eq_true, decide_eq_true_eq, List.all_eq_true]
    at letters covered
  have bounds : run.target ≤ run.image code ∧
      run.image code ≤ run.target + (run.last - run.first) := by
    unfold CaseRun.image
    omega
  have valid : (run.image code).isValidChar := by
    unfold Nat.isValidChar
    omega
  have number : (Char.ofNat (run.image code)).toNat = run.image code := by
    rw [Char.ofNat, dif_pos valid]
    rfl
  rcases letters with ⟨low, high⟩ | ⟨⟨beyond, -⟩, apart⟩
  · exact .inl ⟨by omega, by omega⟩
  · refine .inr ⟨by omega, ?_⟩
    by_contra other
    have outside := apart _ (mem_wideBlanks (by simpa using other) (by omega))
    rw [number] at outside
    omega

/-- A mapping keeps a character or makes images of it, if its runs and its expansions do. -/
theorem mem_mapCase {runs : List CaseRun} {expansions : List (Nat × List Nat)} {least most : Nat}
    (ascii : most < 128) (letters : ∀ run ∈ runs, run.toLetters least most = true)
    (expanded : ∀ entry ∈ expansions, ∀ code ∈ entry.2, IsImage least most (Char.ofNat code))
    {c d : Char} (member : d ∈ mapCase runs expansions c) : d = c ∨ IsImage least most d := by
  unfold mapCase at member
  split at member
  next codes found =>
    obtain ⟨code, inside, rfl⟩ := List.mem_map.mp member
    obtain ⟨front, back, whole, -⟩ := List.lookup_eq_some_iff.mp found
    exact .inr (expanded (c.toNat, codes) (by rw [whole]; simp) code inside)
  · split at member
    next run found =>
      obtain rfl := List.mem_singleton.mp member
      have covered := List.find?_some found
      exact .inr (CaseRun.isImage ascii (letters run (List.mem_of_find?_eq_some found)) covered)
    · exact .inl (List.mem_singleton.mp member)

/-- The runs of the mapping to lower case map to small letters. -/
theorem toLetters_lowerRuns : ∀ run ∈ lowerRuns, run.toLetters 97 122 = true := by
  decide +kernel

/-- And so do its expansions. -/
theorem isImage_lowerExpansions :
    ∀ entry ∈ lowerExpansions, ∀ code ∈ entry.2, IsImage 97 122 (Char.ofNat code) := by
  decide +kernel

/-- The runs of the mapping to upper case map to capitals. -/
theorem toLetters_upperRuns : ∀ run ∈ upperRuns, run.toLetters 65 90 = true := by
  decide +kernel

/-- And so do its expansions. -/
theorem isImage_upperExpansions :
    ∀ entry ∈ upperExpansions, ∀ code ∈ entry.2, IsImage 65 90 (Char.ofNat code) := by
  decide +kernel

/-- A character of the lower case of a character is that character or a small letter. -/
theorem mem_lowerChar {c d : Char} (member : d ∈ lowerChar c) : d = c ∨ IsImage 97 122 d := by
  unfold lowerChar at member
  split at member
  next ascii =>
    obtain rfl := List.mem_singleton.mp member
    unfold Char.toLower
    split
    next capital =>
      have least : 65 ≤ c.val.toNat := UInt32.le_iff_toNat_le.mp capital.1
      have most : c.val.toNat ≤ 90 := UInt32.le_iff_toNat_le.mp capital.2
      refine .inr (.inl ?_)
      change 97 ≤ (c.val + ('a'.val - 'A'.val)).toNat ∧ (c.val + ('a'.val - 'A'.val)).toNat ≤ 122
      rw [UInt32.toNat_add, show ('a'.val - 'A'.val).toNat = 32 from rfl]
      omega
    · exact .inl rfl
  · exact mem_mapCase (by decide) toLetters_lowerRuns isImage_lowerExpansions member

/-- A character of the upper case of a character is that character or a capital. -/
theorem mem_upperChar {c d : Char} (member : d ∈ upperChar c) : d = c ∨ IsImage 65 90 d := by
  unfold upperChar at member
  split at member
  next ascii =>
    obtain rfl := List.mem_singleton.mp member
    unfold Char.toUpper
    split
    next small =>
      have least : 97 ≤ c.val.toNat := UInt32.le_iff_toNat_le.mp small.1
      have most : c.val.toNat ≤ 122 := UInt32.le_iff_toNat_le.mp small.2
      refine .inr (.inl ?_)
      change 65 ≤ (c.val + ('A'.val - 'a'.val)).toNat ∧ (c.val + ('A'.val - 'a'.val)).toNat ≤ 90
      rw [UInt32.toNat_add, show ('A'.val - 'a'.val).toNat = 4294967264 from rfl]
      omega
    · exact .inl rfl
  · exact mem_mapCase (by decide) toLetters_upperRuns isImage_upperExpansions member

/-- A character of a lower case is one of the text or a small letter. -/
theorem mem_lowerFrom {casedBefore : Bool} {text : List Char} {d : Char}
    (member : d ∈ lowerFrom casedBefore text) : d ∈ text ∨ IsImage 97 122 d := by
  induction text generalizing casedBefore with
  | nil => exact .inl member
  | cons c rest ih =>
    rw [lowerFrom, List.mem_append] at member
    rcases member with here | later
    · unfold lowerAt at here
      split at here
      · refine .inr ?_
        obtain rfl := List.mem_singleton.mp here
        split <;> decide
      · exact (mem_lowerChar here).imp_left fun same => List.mem_cons.mpr (.inl same)
    · exact (ih later).imp_left (List.mem_cons_of_mem _)

/-- No expansion of the mapping to lower case is empty. -/
theorem ne_nil_of_lowerExpansions {code : Nat} {codes : List Nat}
    (found : lowerExpansions.lookup code = some codes) : codes ≠ [] := by
  obtain ⟨front, back, whole, -⟩ := List.lookup_eq_some_iff.mp found
  have fixed : ∀ entry ∈ lowerExpansions, entry.2 ≠ [] := by decide
  exact fixed (code, codes) (by rw [whole]; simp)

/-- The lower case of a character is not empty. -/
theorem lowerChar_ne_nil (c : Char) : lowerChar c ≠ [] := by
  unfold lowerChar
  split
  · exact List.cons_ne_nil _ _
  · unfold mapCase
    split
    next codes found =>
      rw [ne_eq, List.map_eq_nil_iff]
      exact ne_nil_of_lowerExpansions found
    · split <;> exact List.cons_ne_nil _ _

/-- The lower case of a text with characters has characters. -/
theorem lower_ne_nil {text : List Char} (some : text ≠ []) : lower text ≠ [] := by
  cases text with
  | nil => contradiction
  | cons c rest =>
    refine List.append_ne_nil_of_left_ne_nil ?_ _
    unfold lowerAt
    split
    · exact List.cons_ne_nil _ _
    · exact lowerChar_ne_nil c

end CrudScaffold.Text
