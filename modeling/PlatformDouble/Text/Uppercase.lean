import PlatformDouble.Text.UppercaseTable

namespace PlatformDouble.Text

/-!
# Capital letters

Upper-casing replaces every character by its full capital form, which may be
longer than one character (`ß` becomes `SS`).  A character without a capital form
stays as it is.
-/

namespace CapitalRun

/-- Whether a code point belongs to a run. -/
def covers (run : CapitalRun) (codePoint : Nat) : Bool :=
  decide (run.first ≤ codePoint) && decide (codePoint ≤ run.last) &&
    (codePoint - run.first) % run.stride == 0

def capitalOf (run : CapitalRun) (codePoint : Nat) : Nat :=
  run.capital + (codePoint - run.first)

end CapitalRun

/-- The full capital form of a character beyond ASCII. -/
def wideCapital (c : Char) : List Char :=
  match capitalExpansions.lookup c.toNat with
  | some codePoints => codePoints.map Char.ofNat
  | none =>
      match capitalRuns.find? (·.covers c.toNat) with
      | some run => [Char.ofNat (run.capitalOf c.toNat)]
      | none => [c]

/-- The full capital form of a character. -/
def capital (c : Char) : List Char :=
  if c.toNat < 128 then [c.toUpper] else wideCapital c

/-- A text with every character replaced by its capital form. -/
def uppercase (text : String) : String :=
  String.ofList (text.toList.flatMap capital)

end PlatformDouble.Text
