import PlatformDouble.Proofs.ComponentName.RoundTrip

namespace PlatformDouble.ComponentName

/-!
# The short text among the texts of a component

A class that starts with its package can be spelled in two ways, in full or from the dot on
behind the package, so a component can have two texts.  The short text is one of them: it
is read as the component itself, and texts are read as one component exactly if their
components have the same short text.
-/

/-- Of the spellings of a class, the one that the short text has. -/
theorem shortClass_fullClass_iff
    {package spelling : List Char} :
    shortClass package (fullClass package spelling) = spelling ↔
      spelling.head? = some '.' ∨ ¬ package ++ ['.'] <+: spelling := by
  by_cases startsWithDot : spelling.head? = some '.'
  · obtain ⟨rest, rfl⟩ := List.head?_eq_some_iff.mp startsWithDot
    rw [fullClass_of_dot, shortClass_of_package]
    exact iff_of_true rfl (.inl startsWithDot)
  · rw [fullClass_of_no_dot startsWithDot, or_iff_right startsWithDot]
    constructor
    · intro same startsWithPackage
      -- What is left of the spelling without the package would start with a dot.
      obtain ⟨rest, rfl⟩ := exists_of_package_prefix startsWithPackage
      rw [shortClass_of_package] at same
      exact startsWithDot (congrArg List.head? same.symm)
    · exact shortClass_of_no_package

section Reading

variable {text package spelling : String} {component : ComponentName}

/-- A class that is spelled starts with its package and a dot, or with no dot. -/
theorem starts_of_ofText?
    (reads : ofText? text = some component) :
    StartsWith component.className (component.packageName ++ ".") ∨
      ¬ StartsWith component.className "." := by
  obtain ⟨package, spelling, -, rfl⟩ := ofText?_eq_some_iff.mp reads
  rw [startsWith_package_iff, startsWith_dot_iff, spelled, String.toList_ofList]
  by_cases startsWithDot : spelling.toList.head? = some '.'
  · obtain ⟨rest, isRest⟩ := List.head?_eq_some_iff.mp startsWithDot
    rw [isRest, fullClass_of_dot]
    exact .inl ⟨rest, by simp⟩
  · rw [fullClass_of_no_dot startsWithDot]
    exact .inr startsWithDot

/-- The short text of a component that was read is read as the same component. -/
theorem ofText?_shortText_of_ofText?
    (reads : ofText? text = some component) :
    ofText? component.shortText = some component :=
  (roundTrips_iff component).2.mpr ⟨isNameable_of_ofText? reads, starts_of_ofText? reads⟩

/-- The text of a component that is read is the short one if it spells the class as that does. -/
theorem shortText_spelled_iff
    (cut : CutsInto text package spelling) :
    (spelled package spelling).shortText = text ↔
      StartsWith spelling "." ∨ ¬ StartsWith spelling (package ++ ".") := by
  rw [startsWith_dot_iff, startsWith_package_iff, ← shortClass_fullClass_iff, shortText,
    ← String.toList_inj, cut.toList]
  simp [spelled]

end Reading

/-- The short text is the canonical one among all texts of the component that a text names. -/
structure HasCanonicalShortText (text : String) : Prop where
  /-- A text names a component if and only if it can be cut. -/
  isRead :
    (∃ component, ofText? text = some component) ↔
      ∃ package spelling, CutsInto text package spelling
  packageName :
    ∀ package spelling component,
      CutsInto text package spelling →
        ofText? text = some component →
          component.packageName = package
  isReread :
    ∀ component,
      ofText? text = some component →
        ofText? component.shortText = some component
  /-- A text is itself the short one unless it spells out a package that could be left out. -/
  isShort :
    ∀ package spelling component,
      CutsInto text package spelling →
        ofText? text = some component →
          (component.shortText = text ↔
            StartsWith spelling "." ∨ ¬ StartsWith spelling (package ++ "."))
  /-- Texts name the same component if and only if they have the same short text. -/
  decides :
    ∀ other component otherComponent,
      ofText? text = some component →
        ofText? other = some otherComponent →
          (component = otherComponent ↔ component.shortText = otherComponent.shortText)

/-- Whatever a text is, the short text is canonical for it. -/
theorem hasCanonicalShortText
    (text : String) :
    HasCanonicalShortText text where
  isRead := by
    constructor
    · rintro ⟨component, reads⟩
      obtain ⟨package, spelling, cut, -⟩ := ofText?_eq_some_iff.mp reads
      exact ⟨package, spelling, cut⟩
    · rintro ⟨package, spelling, cut⟩
      exact ⟨_, ofText?_of_cut cut⟩
  packageName := by
    intro package spelling component cut reads
    rw [ofText?_of_cut cut] at reads
    cases reads
    rfl
  isReread _ := ofText?_shortText_of_ofText?
  isShort := by
    intro package spelling component cut reads
    rw [ofText?_of_cut cut] at reads
    cases reads
    exact shortText_spelled_iff cut
  decides := by
    intro other component otherComponent reads readsOther
    constructor
    · exact congrArg shortText
    · intro sameShort
      have reread := ofText?_shortText_of_ofText? reads
      rw [sameShort, ofText?_shortText_of_ofText? readsOther] at reread
      exact (Option.some.inj reread).symm

/-- Two texts of one component, of which the first spells out the package. -/
example :
    ofText? "a.b/a.b.C" = ofText? "a.b/.C" ∧
      (ofText? "a.b/a.b.C").map shortText = some "a.b/.C" := by
  decide

end PlatformDouble.ComponentName
