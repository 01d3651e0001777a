namespace PlatformDouble.Text

/-!
# Decimal digits

Every script with positional decimal digits has them in ten consecutive code
points, from zero to nine.  So a digit is known by the zero at or below it.
-/

/-- The zeros of all scripts, in ascending order. -/
def digitZeros : List Nat := [
  0x30, 0x660, 0x6f0, 0x7c0, 0x966, 0x9e6, 0xa66, 0xae6, 0xb66, 0xbe6,
  0xc66, 0xce6, 0xd66, 0xde6, 0xe50, 0xed0, 0xf20, 0x1040, 0x1090, 0x17e0,
  0x1810, 0x1946, 0x19d0, 0x1a80, 0x1a90, 0x1b50, 0x1bb0, 0x1c40, 0x1c50, 0xa620,
  0xa8d0, 0xa900, 0xa9d0, 0xa9f0, 0xaa50, 0xabf0, 0xff10, 0x104a0, 0x10d30, 0x11066,
  0x110f0, 0x11136, 0x111d0, 0x112f0, 0x11450, 0x114d0, 0x11650, 0x116c0, 0x11730, 0x118e0,
  0x11950, 0x11c50, 0x11d50, 0x11da0, 0x16a60, 0x16ac0, 0x16b50, 0x1d7ce, 0x1d7d8, 0x1d7e2,
  0x1d7ec, 0x1d7f6, 0x1e140, 0x1e2f0, 0x1e950, 0x1fbf0
]

/-- The decimal value of a code point, counted from a list of zeros. -/
def digitFrom (codePoint : Nat) : List Nat → Option Nat
  | [] => none
  | start :: rest =>
      if start ≤ codePoint ∧ codePoint < start + 10 then
        some (codePoint - start)
      else
        digitFrom codePoint rest

/-- The value of a decimal digit of any script. -/
def decimalDigit? (c : Char) : Option Nat :=
  digitFrom c.toNat digitZeros

/-- The ASCII digit of a value below ten. -/
def asciiDigit (value : Nat) : Char :=
  Char.ofNat (48 + value)

private theorem digitFrom_lt_ten
    {codePoint value : Nat}
    {zeros : List Nat}
    (found : digitFrom codePoint zeros = some value) :
    value < 10 := by
  induction zeros with
  | nil =>
      simp [digitFrom] at found
  | cons start rest inductionHypothesis =>
      unfold digitFrom at found
      split at found
      next inRun =>
        have same : codePoint - start = value := by simpa using found
        omega
      next =>
        exact inductionHypothesis found

theorem decimalDigit?_lt_ten
    {c : Char}
    {value : Nat}
    (found : decimalDigit? c = some value) :
    value < 10 :=
  digitFrom_lt_ten found

theorem decimalDigit?_asciiDigit :
    ∀ value, value < 10 → decimalDigit? (asciiDigit value) = some value := by
  decide

end PlatformDouble.Text
