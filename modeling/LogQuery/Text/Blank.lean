import LogQuery.Text.Ranges

/-!
# Blank characters

A character is blank when it has the Unicode property `White_Space`: twenty-five characters, among
them the no-break space and the ideographic space, but not the zero-width space. Texts are trimmed
of blank characters at either end or at both.
-/

namespace LogQuery.Text

/-- The characters with the property `White_Space`. -/
def blankRanges : List Range :=
  [(0x09, 0x0D), (0x20, 0x20), (0x85, 0x85), (0xA0, 0xA0), (0x1680, 0x1680), (0x2000, 0x200A),
   (0x2028, 0x2029), (0x202F, 0x202F), (0x205F, 0x205F), (0x3000, 0x3000)]

/-- Whether a character is blank. -/
def isBlank (c : Char) : Bool := inRanges blankRanges c.toNat

/-- The text without the blank characters it starts with. -/
def trimStart (s : List Char) : List Char := s.dropWhile isBlank

/-- The text without the blank characters it ends with. -/
def trimEnd (s : List Char) : List Char := (s.reverse.dropWhile isBlank).reverse

/-- The text without the blank characters at its ends. -/
def trim (s : List Char) : List Char := trimEnd (trimStart s)

/-- Whether every character of the text is blank. -/
def allBlank (s : List Char) : Bool := s.all isBlank

/-- The words of a text: its longest parts without blank characters. -/
def words (s : List Char) : List (List Char) := (s.splitOnP isBlank).filter (!·.isEmpty)

/-- The table is in order, as membership requires. -/
theorem ascending_blankRanges : ascending blankRanges = true := by decide

theorem isBlank_of_isWhitespace {c : Char} (h : c.isWhitespace = true) : isBlank c = true := by
  simp only [Char.isWhitespace, Bool.or_eq_true, decide_eq_true_eq] at h
  rcases h with ((h | h) | h) | h <;> subst h <;> decide

end LogQuery.Text
