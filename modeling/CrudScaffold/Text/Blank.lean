/-!
# Blank characters

White space in the wide sense: the characters that Unicode lists as white space together with the
four information separators `U+001C` to `U+001F`. Every rule of the definition notation that speaks
of blanks, trimmed text or blank lines means this class.

The functions work on lists of characters; `trimmed` is the same for strings.
-/

namespace CrudScaffold.Text

/-- Membership in the class of blank characters. -/
def isBlank (c : Char) : Bool :=
  let code := c.toNat
  (9 ≤ code && code ≤ 13) || (28 ≤ code && code ≤ 32) || code == 0x85 || code == 0xA0 ||
    code == 0x1680 || (0x2000 ≤ code && code ≤ 0x200A) || code == 0x2028 || code == 0x2029 ||
    code == 0x202F || code == 0x205F || code == 0x3000

/-- A text is blank if it holds nothing but blank characters. -/
def isBlankText (text : List Char) : Bool := text.all isBlank

/-- Remove the blanks at the start. -/
def trimStart (text : List Char) : List Char := text.dropWhile isBlank

/-- Remove the blanks at the end. -/
def trimEnd : List Char → List Char
  | [] => []
  | c :: rest =>
    match trimEnd rest with
    | [] => if isBlank c then [] else [c]
    | kept => c :: kept

/-- Remove the blanks at both ends. -/
def trim (text : List Char) : List Char := trimEnd (trimStart text)

/-- A string without the blanks at its ends. -/
def trimmed (text : String) : String := String.ofList (trim text.toList)

/-- A text that trims to nothing is blank, and the other way round. -/
theorem trimEnd_eq_nil_iff {text : List Char} : trimEnd text = [] ↔ isBlankText text := by
  induction text with
  | nil => simp [trimEnd, isBlankText]
  | cons c rest ih =>
    simp only [trimEnd, isBlankText, List.all_cons, Bool.and_eq_true] at ih ⊢
    split
    · rename_i h
      by_cases hc : isBlank c <;> simp_all
    · rename_i kept
      simp_all

end CrudScaffold.Text
