import CrudScaffold.Proofs.Text.Case

/-!
# Texts in lower case

The lower case of a text is made of characters that lower case keeps wherever they stand, so taking
it twice is taking it once, and no ASCII capital is left in it. The ASCII characters are changed one
by one, with no regard to what stands around them.
-/

namespace CrudScaffold.Text

/-- A character that lower case keeps, whatever stands around it. -/
def IsLowered (c : Char) : Prop :=
  ∀ casedBefore rest, lowerAt casedBefore c rest = [c]

/-- Characters that lower case keeps are a text that it keeps. -/
theorem lowerFrom_eq_self {text : List Char} (lowered : ∀ c ∈ text, IsLowered c)
    (casedBefore : Bool) : lowerFrom casedBefore text = text := by
  induction text generalizing casedBefore with
  | nil => rfl
  | cons c rest ih =>
    obtain ⟨here, later⟩ := List.forall_mem_cons.mp lowered
    rw [lowerFrom, here, ih later, List.singleton_append]

/-- Lower case keeps a character that it maps to itself, the capital sigma aside. -/
theorem isLowered_of_lowerChar {c : Char} (other : c ≠ 'Σ') (same : lowerChar c = [c]) :
    IsLowered c := by
  intro casedBefore rest
  rw [lowerAt, if_neg other, same]

/-! ### ASCII -/

/-- An ASCII character is changed with no regard to what stands around it. -/
theorem lowerAt_ascii {c : Char} (ascii : c.toNat < 128) (casedBefore : Bool) (rest : List Char) :
    lowerAt casedBefore c rest = [c.toLower] := by
  have other : c ≠ 'Σ' := by
    rintro rfl
    exact absurd ascii (by decide)
  rw [lowerAt, if_neg other, lowerChar, if_pos ascii]

/-- An ASCII text is changed character by character. -/
theorem lower_ascii {text : List Char} (ascii : ∀ c ∈ text, c.toNat < 128) :
    lower text = text.map Char.toLower := by
  rw [lower]
  generalize false = casedBefore
  induction text generalizing casedBefore with
  | nil => rfl
  | cons c rest ih =>
    obtain ⟨here, later⟩ := List.forall_mem_cons.mp ascii
    rw [lowerFrom, lowerAt_ascii here, ih later, List.singleton_append, List.map_cons]

/-- Lower case keeps no ASCII capital. -/
theorem not_isLowered_of_capital {c : Char} (capital : 'A' ≤ c ∧ c ≤ 'Z') : ¬IsLowered c := by
  intro lowered
  have least : 65 ≤ c.toNat := UInt32.le_iff_toNat_le.mp capital.1
  have most : c.toNat ≤ 90 := UInt32.le_iff_toNat_le.mp capital.2
  have kept := (lowerAt_ascii (by omega) false []).symm.trans (lowered false [])
  have same : c.toLower = c := (List.cons.inj kept).1
  have moved : c.toLower.toNat = c.toNat + 32 := by
    unfold Char.toLower
    rw [dif_pos ⟨capital.1, capital.2⟩]
    change (c.val + ('a'.val - 'A'.val)).toNat = c.val.toNat + 32
    rw [UInt32.toNat_add, show ('a'.val - 'A'.val).toNat = 32 from rfl]
    change c.val.toNat ≤ 90 at most
    omega
  rw [same] at moved
  omega

/-! ### All characters -/

/-- Whether the images of a run are no codes of another one: the two lie apart, or go through
numbers that differ in being even. Numbers are compared by functions that a check of the whole table
evaluates at once. -/
def CaseRun.missesImages (other run : CaseRun) : Bool :=
  Nat.blt (run.target + (run.last - run.first)) other.first || Nat.blt other.last run.target ||
    (Nat.beq other.step 2 && (Nat.beq run.step 2 || Nat.beq run.first run.last) &&
      Nat.beq ((run.target + other.first) % 2) 1)

/-- Such a run does not cover the images. -/
theorem CaseRun.covers_image {run other : CaseRun} (misses : other.missesImages run = true)
    {code : Nat} (covered : run.covers code = true) : other.covers (run.image code) = false := by
  unfold CaseRun.missesImages at misses
  unfold CaseRun.covers at covered
  simp only [Bool.or_eq_true, Bool.and_eq_true, decide_eq_true_eq, beq_iff_eq, Nat.blt_eq,
    Nat.beq_eq] at misses covered
  rw [Bool.eq_false_iff]
  intro again
  unfold CaseRun.covers CaseRun.image at again
  simp only [Bool.and_eq_true, decide_eq_true_eq, beq_iff_eq] at again
  rcases misses with (before | behind) | ⟨⟨two, even⟩, odd⟩
  · omega
  · omega
  · rw [two] at again
    rcases even with twoToo | single
    · rw [twoToo] at covered
      omega
    · omega

/-- A code that is not mapped on: it has no expansion, and no run covers it. -/
def IsUnmapped (code : Nat) : Prop :=
  (∀ entry ∈ lowerExpansions, code ≠ entry.1) ∧ ∀ run ∈ lowerRuns, run.covers code = false

instance (code : Nat) : Decidable (IsUnmapped code) := inferInstanceAs (Decidable (_ ∧ _))

/-- The run of the ASCII capitals is the only one that covers ASCII characters. -/
theorem first_lowerRuns :
    ∀ run ∈ lowerRuns, run = ⟨0x41, 0x5A, 1, 0x61⟩ ∨ 128 ≤ run.first := by
  decide +kernel

/-- The only ASCII characters that are mapped on are the capitals. -/
theorem isUnmapped_ascii {code : Nat} (ascii : code < 128) (other : code < 0x41 ∨ 0x5A < code) :
    IsUnmapped code := by
  have wide : ∀ entry ∈ lowerExpansions, 128 ≤ entry.1 := by decide
  refine ⟨fun entry among same => ?_, fun run among => ?_⟩
  · have := wide entry among
    omega
  · rw [CaseRun.covers, Bool.eq_false_iff]
    simp only [ne_eq, Bool.and_eq_true, decide_eq_true_eq, not_and]
    rcases first_lowerRuns run among with rfl | beyond
    · dsimp only
      omega
    · omega

/-- An ASCII character that is not mapped on has no other lower case. -/
theorem IsUnmapped.toLower {c : Char} (unmapped : IsUnmapped c.toNat) : c.toLower = c := by
  have uncovered := unmapped.2 ⟨0x41, 0x5A, 1, 0x61⟩ List.mem_cons_self
  unfold Char.toLower
  split
  next capital =>
    have least : 65 ≤ c.toNat := UInt32.le_iff_toNat_le.mp capital.1
    have most : c.toNat ≤ 90 := UInt32.le_iff_toNat_le.mp capital.2
    simp [CaseRun.covers, Nat.mod_one] at uncovered
    omega
  · rfl

/-- Lower case keeps a character that is not mapped on. -/
theorem IsUnmapped.isLowered {c : Char} (unmapped : IsUnmapped c.toNat) : IsLowered c := by
  have toLower := unmapped.toLower
  obtain ⟨single, uncovered⟩ := unmapped
  refine isLowered_of_lowerChar ?_ ?_
  · rintro rfl
    have covers : ∃ run ∈ lowerRuns, run.covers 'Σ'.toNat = true := by decide +kernel
    obtain ⟨run, member, covered⟩ := covers
    exact absurd covered (by rw [uncovered run member]; decide)
  · unfold lowerChar
    split
    · rw [toLower]
    · have unexpanded : lowerExpansions.lookup c.toNat = none :=
        List.lookup_eq_none_iff.mpr fun entry member => by simpa using single entry member
      have nowhere : lowerRuns.find? (fun run => run.covers c.toNat) = none :=
        List.find?_eq_none.mpr fun run member => by simp [uncovered run member]
      rw [mapCase, unexpanded, nowhere]

/-- The images of the mapping to lower case are not covered by its runs. -/
theorem missesImages_lowerRuns :
    (lowerRuns.all fun run => lowerRuns.all fun other => other.missesImages run) = true := by
  decide +kernel

/-- Nor do they have an expansion. -/
theorem image_ne_lowerExpansions : ∀ run ∈ lowerRuns, ∀ entry ∈ lowerExpansions,
    (CaseRun.mk entry.1 entry.1 1 0).missesImages run = true := by
  decide +kernel

/-- The characters of the expansions are not mapped on. -/
theorem isUnmapped_lowerExpansions : ∀ entry ∈ lowerExpansions, ∀ code ∈ entry.2,
    IsUnmapped (Char.ofNat code).toNat := by
  decide +kernel

/-- The image of a code is not mapped on. -/
theorem isUnmapped_image {run : CaseRun} (member : run ∈ lowerRuns) {code : Nat}
    (covered : run.covers code = true) : IsUnmapped (run.image code) := by
  have apart := List.all_eq_true.mp missesImages_lowerRuns run member
  refine ⟨fun entry among same => ?_, fun other among =>
    CaseRun.covers_image (List.all_eq_true.mp apart other among) covered⟩
  have misses := CaseRun.covers_image (image_ne_lowerExpansions run member entry among) covered
  simp [same, CaseRun.covers] at misses

/-- A character that is not the null character has the code that it was made of. -/
theorem toNat_ofNat_of_ne_zero {code : Nat} (some : (Char.ofNat code).toNat ≠ 0) :
    (Char.ofNat code).toNat = code := by
  by_cases valid : code.isValidChar
  · rw [Char.ofNat, dif_pos valid]
    rfl
  · rw [Char.ofNat, dif_neg valid] at some
    exact absurd rfl some

/-- What a character is mapped to is not mapped on. -/
theorem isUnmapped_of_mem_lowerChar {c d : Char} (member : d ∈ lowerChar c) :
    IsUnmapped d.toNat := by
  unfold lowerChar at member
  split at member
  next ascii =>
    have apart : ∀ code < 128, (Char.ofNat code).toLower.toNat < 128 ∧
        ((Char.ofNat code).toLower.toNat < 0x41 ∨ 0x5A < (Char.ofNat code).toLower.toNat) := by
      decide +kernel
    obtain ⟨still, small⟩ := apart _ ascii
    rw [Char.ofNat_toNat] at still small
    rw [List.mem_singleton.mp member]
    exact isUnmapped_ascii still small
  unfold mapCase at member
  split at member
  next codes found =>
    obtain ⟨code, inside, rfl⟩ := List.mem_map.mp member
    obtain ⟨front, back, whole, -⟩ := List.lookup_eq_some_iff.mp found
    exact isUnmapped_lowerExpansions (c.toNat, codes) (by rw [whole]; simp) code inside
  next none =>
    split at member
    next run found =>
      rw [List.mem_singleton.mp member]
      have run_mem := List.mem_of_find?_eq_some found
      have covered := List.find?_some found
      have image := CaseRun.isImage (by decide) (toLetters_lowerRuns run run_mem) covered
      have least := image.le (by decide)
      rw [toNat_ofNat_of_ne_zero (by omega)]
      exact isUnmapped_image run_mem covered
    next nowhere =>
      rw [List.mem_singleton.mp member]
      refine ⟨fun entry among same => ?_, fun run among => ?_⟩
      · simpa [same] using List.lookup_eq_none_iff.mp none entry among
      · simpa using List.find?_eq_none.mp nowhere run among

/-- Lower case keeps what it made. -/
theorem isLowered_of_mem_lowerFrom {casedBefore : Bool} {text : List Char} {d : Char}
    (member : d ∈ lowerFrom casedBefore text) : IsLowered d := by
  induction text generalizing casedBefore with
  | nil => exact absurd member List.not_mem_nil
  | cons c rest ih =>
    rw [lowerFrom, List.mem_append] at member
    rcases member with here | later
    · unfold lowerAt at here
      split at here
      · rw [List.mem_singleton.mp here]
        split <;> exact IsUnmapped.isLowered (by decide +kernel)
      · exact (isUnmapped_of_mem_lowerChar here).isLowered
    · exact ih later

/-- Taking the lower case twice is taking it once. -/
theorem lower_lower (text : List Char) : lower (lower text) = lower text :=
  lowerFrom_eq_self (fun _ member => isLowered_of_mem_lowerFrom member) false

end CrudScaffold.Text
