namespace PlatformDouble.Text

/-!
# Blank characters

The characters that count as whitespace, and texts trimmed of them.
-/

/-- Code points of the whitespace characters, in ascending order. -/
def blankCodePoints : List Nat := [
  0x9, 0xa, 0xb, 0xc, 0xd, 0x1c, 0x1d, 0x1e, 0x1f, 0x20, 0x85, 0xa0, 0x1680,
  0x2000, 0x2001, 0x2002, 0x2003, 0x2004, 0x2005, 0x2006, 0x2007, 0x2008, 0x2009,
  0x200a, 0x2028, 0x2029, 0x202f, 0x205f, 0x3000
]

/-- Whether a character is whitespace. -/
def isBlank (c : Char) : Bool :=
  blankCodePoints.contains c.toNat

/-- Whether a character is whitespace that stays on its line. -/
def isInlineBlank (c : Char) : Bool :=
  isBlank c && c != '\n' && c != '\r'

/-- The whitespace allowed around a numeral: information separators do not count. -/
def isNumeralBlank (c : Char) : Bool :=
  isBlank c && !decide (0x1c ≤ c.toNat ∧ c.toNat ≤ 0x1f)

def trimEnd (inClass : Char → Bool) (cs : List Char) : List Char :=
  (cs.reverse.dropWhile inClass).reverse

/-- Drop the characters of a class from both ends. -/
def trim (inClass : Char → Bool) (cs : List Char) : List Char :=
  trimEnd inClass (cs.dropWhile inClass)

/-- Core's whitespace is blank. -/
theorem isBlank_of_isWhitespace
    {c : Char}
    (whitespace : c.isWhitespace = true) :
    isBlank c = true := by
  simp only [Char.isWhitespace, Bool.or_eq_true, decide_eq_true_eq] at whitespace
  rcases whitespace with ((space | tab) | carriageReturn) | newline
  · subst space; decide
  · subst tab; decide
  · subst carriageReturn; decide
  · subst newline; decide

end PlatformDouble.Text
