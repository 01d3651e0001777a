import PlatformDouble.Text.PrintableTable

namespace PlatformDouble.Text

/-!
# Printable characters

A character is printable unless its code point lies in a range of
`unprintableRanges`.
-/

/-- Whether a code point lies in one of some ranges. -/
def inRanges (codePoint : Nat) (ranges : List (Nat × Nat)) : Bool :=
  ranges.any fun range => decide (range.1 ≤ codePoint ∧ codePoint ≤ range.2)

/-- Whether a character shows as itself. -/
def isPrintable (c : Char) : Bool :=
  if c.toNat < 127 then
    decide (32 ≤ c.toNat)
  else
    !inRanges c.toNat unprintableRanges

end PlatformDouble.Text
