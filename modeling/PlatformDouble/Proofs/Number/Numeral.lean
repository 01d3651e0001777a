import PlatformDouble.Number.Numeral

namespace PlatformDouble.Number

/-!
# Numerals are read back

The numeral of a number is made of ASCII digits only, so nothing is trimmed off it and
no digit is taken for a sign.  What it spells is the number, unless it has more digits
than can be read.
-/

open PlatformDouble.Text

/-- One or more digit values that spell a number. -/
structure Spells (values : List Nat) (n : Nat) : Prop where
  nonempty : values ≠ []
  digits : ∀ value ∈ values, value < 10
  number : ofDigitValues values = n

theorem ofDigitValues_append_singleton
    (values : List Nat)
    (last : Nat) :
    ofDigitValues (values ++ [last]) = 10 * ofDigitValues values + last := by
  simp [ofDigitValues]

/-- Decimal digits are ASCII digits that spell their number. -/
theorem exists_spells
    (n : Nat) :
    ∃ values, decimalDigits n = values.map asciiDigit ∧ Spells values n := by
  induction n using decimalDigits.induct with
  | case1 n isDigit =>
      refine ⟨[n], by rw [decimalDigits, if_pos isDigit]; rfl, ?_⟩
      exact {
        nonempty := List.cons_ne_nil n []
        digits := by simpa using isDigit
        number := by simp [ofDigitValues] }
  | case2 n isLong inductionHypothesis =>
      obtain ⟨values, written, spells⟩ := inductionHypothesis
      refine ⟨values ++ [n % 10], ?_, ?_⟩
      · rw [decimalDigits, if_neg isLong, written, List.map_append, List.map_singleton]
      · refine ⟨List.append_ne_nil_of_right_ne_nil _ (List.cons_ne_nil _ _), ?_, ?_⟩
        · intro value member
          rcases List.mem_append.mp member with leading | isLast
          · exact spells.digits value leading
          · rw [List.mem_singleton.mp isLast]
            omega
        · rw [ofDigitValues_append_singleton, spells.number]
          omega

theorem asciiDigit_ne_underscore :
    ∀ value, value < 10 → asciiDigit value ≠ '_' := by
  decide

theorem isNumeralBlank_asciiDigit :
    ∀ value, value < 10 → isNumeralBlank (asciiDigit value) = false := by
  decide

theorem splitSign_asciiDigit_cons
    (cs : List Char) :
    ∀ value, value < 10 →
      splitSign (asciiDigit value :: cs) = (false, asciiDigit value :: cs) := by
  intro value isDigit
  have noMinus : ∀ value, value < 10 → asciiDigit value ≠ '-' := by
    decide
  have noPlus : ∀ value, value < 10 → asciiDigit value ≠ '+' := by
    decide
  unfold splitSign
  split
  next same =>
    exact absurd (List.cons.inj same).1 (noMinus value isDigit)
  next same =>
    exact absurd (List.cons.inj same).1 (noPlus value isDigit)
  next =>
    rfl

/-- Digits without underscores are read one after another. -/
theorem digitValues?_map_asciiDigit
    {values : List Nat}
    (nonempty : values ≠ [])
    (digits : ∀ value ∈ values, value < 10) :
    digitValues? (values.map asciiDigit) = some values := by
  induction values with
  | nil =>
      exact absurd rfl nonempty
  | cons first rest inductionHypothesis =>
      have firstRead : decimalDigit? (asciiDigit first) = some first :=
        decimalDigit?_asciiDigit first (digits first List.mem_cons_self)
      cases rest with
      | nil =>
          simp [digitValues?, firstRead]
      | cons second others =>
          have restDigits : ∀ value ∈ second :: others, value < 10 :=
            fun value member => digits value (List.mem_cons_of_mem first member)
          have restRead := inductionHypothesis (List.cons_ne_nil second others) restDigits
          have noUnderscore : asciiDigit second ≠ '_' :=
            asciiDigit_ne_underscore second (restDigits second List.mem_cons_self)
          simp only [List.map_cons] at restRead ⊢
          simp [digitValues?, noUnderscore, firstRead, restRead]

/-- A text that neither starts nor ends with a blank is trimmed to itself. -/
theorem trim_of_noBlank
    {inClass : Char → Bool}
    {cs : List Char}
    (noBlank : ∀ c ∈ cs, inClass c = false) :
    trim inClass cs = cs := by
  have kept
      (items : List Char)
      (noneBlank : ∀ c ∈ items, inClass c = false) :
      items.dropWhile inClass = items := by
    cases items with
    | nil =>
        rfl
    | cons first rest =>
        rw [List.dropWhile_cons_of_neg]
        simp [noneBlank first List.mem_cons_self]
  unfold trim trimEnd
  rw [kept cs noBlank, kept cs.reverse, List.reverse_reverse]
  intro c member
  exact noBlank c (List.mem_reverse.mp member)

/-- The numeral of an integer that has not too many digits is read as that integer. -/
theorem readInteger?_integerText
    {number : Int}
    (isShort : digitCount number.natAbs ≤ digitLimit) :
    readInteger? (integerText number) = some number := by
  obtain ⟨values, written, spells⟩ := exists_spells number.natAbs
  have isRead := digitValues?_map_asciiDigit spells.nonempty spells.digits
  have fits : values.length ≤ digitLimit := by
    simpa [digitCount, written] using isShort
  have noBlank : ∀ c ∈ values.map asciiDigit, isNumeralBlank c = false := by
    intro c member
    obtain ⟨value, isDigit, rfl⟩ := List.mem_map.mp member
    exact isNumeralBlank_asciiDigit value (spells.digits value isDigit)
  cases number with
  | ofNat n =>
      have split : splitSign (values.map asciiDigit) = (false, values.map asciiDigit) := by
        obtain ⟨first, rest, rfl⟩ := List.exists_cons_of_ne_nil spells.nonempty
        exact splitSign_asciiDigit_cons _ first (spells.digits first List.mem_cons_self)
      rw [Int.ofNat_eq_natCast, Int.natAbs_natCast] at written spells
      simp only [readInteger?, integerText, naturalText, String.toList_ofList, written,
        trim_of_noBlank noBlank, split, isRead, if_pos fits, withSign, spells.number]
      rfl
  | negSucc n =>
      have noneBlank : ∀ c ∈ '-' :: values.map asciiDigit, isNumeralBlank c = false :=
        List.forall_mem_cons.mpr ⟨by decide, noBlank⟩
      rw [Int.natAbs_negSucc] at written spells
      simp only [readInteger?, integerText, String.toList_ofList, written,
        trim_of_noBlank noneBlank, splitSign, isRead, if_pos fits, withSign, spells.number]
      rfl

/-- A power of ten has one digit more than its exponent says. -/
theorem digitCount_pow_ten
    (exponent : Nat) :
    digitCount (Nat.pow 10 exponent) = exponent + 1 := by
  unfold digitCount
  induction exponent with
  | zero =>
      rw [decimalDigits]
      rfl
  | succ exponent inductionHypothesis =>
      have isMultiple : Nat.pow 10 (exponent + 1) = Nat.pow 10 exponent * 10 := rfl
      have positive : 0 < Nat.pow 10 exponent := Nat.pow_pos (by decide)
      have notDigit : ¬ Nat.pow 10 (exponent + 1) < 10 := by
        omega
      have shorter : Nat.pow 10 (exponent + 1) / 10 = Nat.pow 10 exponent := by
        omega
      rw [decimalDigits, if_neg notDigit, shorter, List.length_append, inductionHypothesis]
      rfl

/-- Such a numeral is not empty. -/
theorem integerText_ne_empty
    {number : Int}
    (isShort : digitCount number.natAbs ≤ digitLimit) :
    integerText number ≠ "" := by
  intro isEmpty
  have isRead := readInteger?_integerText isShort
  rw [isEmpty] at isRead
  cases isRead

end PlatformDouble.Number
