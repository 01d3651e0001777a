import PlatformDouble.ComponentName

namespace PlatformDouble.ComponentName

/-!
# Component names that are read back

A text is cut at its first slash.  What stands before it is the package, and what stands
behind it spells the class: as it is, or from the dot on that follows the package.  So a
package is read back from the texts of a component if it can stand before a slash, and a
class if it is what its spelling stands for.
-/

/-- Whether a text starts with another one. -/
def StartsWith (text start : String) : Prop :=
  start.toList <+: text.toList

instance (text start : String) : Decidable (StartsWith text start) :=
  inferInstanceAs (Decidable (start.toList <+: text.toList))

/-- A text is cut at its first slash, with something on both sides. -/
structure CutsInto (text package spelling : String) : Prop where
  parts : text = package ++ "/" ++ spelling
  isFirst : '/' ∉ package.toList
  package_ne : package ≠ ""
  spelling_ne : spelling ≠ ""

/-- The component of a package with the class that a spelling stands for. -/
def spelled (package spelling : String) : ComponentName where
  packageName := package
  className := String.ofList (fullClass package.toList spelling.toList)

section Spelling

variable {package className spelling : List Char}

theorem fullClass_of_dot
    (package rest : List Char) :
    fullClass package ('.' :: rest) = package ++ '.' :: rest :=
  rfl

theorem fullClass_of_no_dot
    (noDot : spelling.head? ≠ some '.') :
    fullClass package spelling = spelling :=
  if_neg noDot

theorem shortClass_of_package
    (package rest : List Char) :
    shortClass package (package ++ '.' :: rest) = '.' :: rest := by
  have isPrefix : (package ++ ['.']).isPrefixOf (package ++ '.' :: rest) = true :=
    List.isPrefixOf_iff_prefix.mpr ⟨rest, by simp⟩
  rw [shortClass, if_pos isPrefix, List.drop_left]

theorem shortClass_of_no_package
    (noPackage : ¬ package ++ ['.'] <+: className) :
    shortClass package className = className := by
  have notPrefix : ¬ (package ++ ['.']).isPrefixOf className = true := by
    rwa [List.isPrefixOf_iff_prefix]
  rw [shortClass, if_neg notPrefix]

/-- A class that starts with its package and a dot is the package and the rest from the dot on. -/
theorem exists_of_package_prefix
    (hasPackage : package ++ ['.'] <+: className) :
    ∃ rest, className = package ++ '.' :: rest := by
  obtain ⟨rest, joined⟩ := hasPackage
  exact ⟨rest, by simp [← joined]⟩

/-- A class spells itself unless it starts with a dot. -/
theorem fullClass_eq_self_iff
    (hasPackage : package ≠ []) :
    fullClass package className = className ↔ className.head? ≠ some '.' := by
  constructor
  · intro same startsWithDot
    rw [fullClass, if_pos startsWithDot] at same
    exact hasPackage (List.append_left_eq_self.mp same)
  · exact fullClass_of_no_dot

/-- The short class stands for the class, unless that starts with a dot that is its own. -/
theorem fullClass_shortClass_iff
    (hasPackage : package ≠ []) :
    fullClass package (shortClass package className) = className ↔
      package ++ ['.'] <+: className ∨ className.head? ≠ some '.' := by
  by_cases startsWithPackage : package ++ ['.'] <+: className
  · obtain ⟨rest, rfl⟩ := exists_of_package_prefix startsWithPackage
    rw [shortClass_of_package, fullClass_of_dot]
    exact iff_of_true rfl (.inl startsWithPackage)
  · rw [shortClass_of_no_package startsWithPackage, fullClass_eq_self_iff hasPackage]
    exact (or_iff_right startsWithPackage).symm

/-- A class has a short form exactly if it is no empty text. -/
theorem shortClass_eq_nil_iff :
    shortClass package className = [] ↔ className = [] := by
  by_cases startsWithPackage : package ++ ['.'] <+: className
  · obtain ⟨rest, rfl⟩ := exists_of_package_prefix startsWithPackage
    rw [shortClass_of_package]
    simp
  · rw [shortClass_of_no_package startsWithPackage]

theorem fullClass_ne_nil
    (nonempty : spelling ≠ []) :
    fullClass package spelling ≠ [] := by
  unfold fullClass
  split
  · exact List.append_ne_nil_of_right_ne_nil package nonempty
  · exact nonempty

end Spelling

section Reading

variable {text package spelling : String} {component : ComponentName}

theorem CutsInto.toList
    (cut : CutsInto text package spelling) :
    text.toList = package.toList ++ '/' :: spelling.toList := by
  rw [cut.parts, String.toList_append, String.toList_append, List.append_assoc]
  rfl

/-- A text that is cut names the component of the package with the class that is spelled. -/
theorem ofText?_of_cut
    (cut : CutsInto text package spelling) :
    ofText? text = some (spelled package spelling) := by
  have inPackage : ∀ c ∈ package.toList, (c != '/') = true := by
    intro c member
    rw [bne_iff_ne]
    rintro rfl
    exact cut.isFirst member
  have before : text.toList.takeWhile (· != '/') = package.toList := by
    rw [cut.toList, List.takeWhile_append_of_pos inPackage]
    simp
  have behind : (text.toList.dropWhile (· != '/')).drop 1 = spelling.toList := by
    rw [cut.toList, List.dropWhile_append_of_pos inPackage]
    simp
  simp [ofText?, before, behind, cut.package_ne, cut.spelling_ne, spelled]

/-- A text can be cut if something stands before its first slash and something behind it. -/
theorem exists_cut
    (hasPackage : text.toList.takeWhile (· != '/') ≠ [])
    (hasSpelling : (text.toList.dropWhile (· != '/')).drop 1 ≠ []) :
    ∃ package spelling, CutsInto text package spelling := by
  have joined :
      text.toList.takeWhile (· != '/') ++ text.toList.dropWhile (· != '/') = text.toList :=
    List.takeWhile_append_dropWhile
  have noSlash : '/' ∉ text.toList.takeWhile (· != '/') := fun member => by
    simpa using List.all_eq_true.mp List.all_takeWhile '/' member
  have stops := List.head?_dropWhile_not (· != '/') text.toList
  generalize text.toList.takeWhile (· != '/') = before at *
  cases startsBehind : text.toList.dropWhile (· != '/') with
  | nil =>
      rw [startsBehind] at hasSpelling
      exact absurd rfl hasSpelling
  | cons c rest =>
      rw [startsBehind] at joined hasSpelling stops
      have isSlash : c = '/' := by simpa using stops
      refine ⟨String.ofList before, String.ofList rest, ?_⟩
      exact {
        parts := by
          rw [← String.toList_inj, ← joined, isSlash]
          simp
        isFirst := by rwa [String.toList_ofList]
        package_ne := by simpa using hasPackage
        spelling_ne := by simpa using hasSpelling }

/-- A text names a component if and only if it can be cut, and then the one that is spelled. -/
theorem ofText?_eq_some_iff :
    ofText? text = some component ↔
      ∃ package spelling, CutsInto text package spelling ∧ component = spelled package spelling := by
  constructor
  · intro reads
    have nonempty :
        text.toList.takeWhile (· != '/') ≠ [] ∧
          (text.toList.dropWhile (· != '/')).drop 1 ≠ [] := by
      constructor <;> intro isEmpty <;> simp [ofText?, isEmpty] at reads
    obtain ⟨package, spelling, cut⟩ := exists_cut nonempty.1 nonempty.2
    rw [ofText?_of_cut cut] at reads
    exact ⟨package, spelling, cut, (Option.some.inj reads).symm⟩
  · rintro ⟨package, spelling, cut, rfl⟩
    exact ofText?_of_cut cut

end Reading

/-- A component of which the package can stand before a first slash, and the class behind it. -/
structure IsNameable (component : ComponentName) : Prop where
  package_ne : component.packageName ≠ ""
  noSlash : '/' ∉ component.packageName.toList
  class_ne : component.className ≠ ""

section Writing

variable {text package written : String} {component : ComponentName}

/-- Whatever is read could have been written. -/
theorem isNameable_of_ofText?
    (reads : ofText? text = some component) :
    component.IsNameable := by
  obtain ⟨package, spelling, cut, rfl⟩ := ofText?_eq_some_iff.mp reads
  have spells : spelling.toList ≠ [] := by simpa using cut.spelling_ne
  exact {
    package_ne := cut.package_ne
    noSlash := cut.isFirst
    class_ne := by simpa [spelled] using fullClass_ne_nil spells }

/-- A component is read from its package and a spelling if that spells its class. -/
theorem ofText?_joined_iff
    (nonempty : written = "" ↔ component.className = "") :
    ofText? (component.packageName ++ "/" ++ written) = some component ↔
      component.IsNameable ∧
        fullClass component.packageName.toList written.toList = component.className.toList := by
  have reads
      (nameable : component.IsNameable) :
      ofText? (component.packageName ++ "/" ++ written) =
        some (spelled component.packageName written) :=
    ofText?_of_cut {
      parts := rfl
      isFirst := nameable.noSlash
      package_ne := nameable.package_ne
      spelling_ne := fun isEmpty => nameable.class_ne (nonempty.mp isEmpty) }
  constructor
  · intro readsBack
    have nameable := isNameable_of_ofText? readsBack
    rw [reads nameable] at readsBack
    refine ⟨nameable, ?_⟩
    rw [← congrArg className (Option.some.inj readsBack)]
    exact String.toList_ofList.symm
  · rintro ⟨nameable, spells⟩
    rw [reads nameable, spelled, spells, String.ofList_toList]

theorem startsWith_dot_iff :
    StartsWith text "." ↔ text.toList.head? = some '.' := by
  show ['.'] <+: text.toList ↔ _
  cases text.toList <;> simp [eq_comm]

theorem startsWith_package_iff :
    StartsWith text (package ++ ".") ↔ package.toList ++ ['.'] <+: text.toList := by
  rw [StartsWith, String.toList_append]
  rfl

end Writing

/--
A component is read back from its flat text if and only if its class does not start with a
dot, and from its short text also if the class starts with the package and a dot; where the
package is empty or holds a slash, or the class is empty, it is read back from neither.
-/
theorem roundTrips_iff
    (component : ComponentName) :
    (ofText? component.flatText = some component ↔
        component.IsNameable ∧ ¬ StartsWith component.className ".") ∧
      (ofText? component.shortText = some component ↔
        component.IsNameable ∧
          (StartsWith component.className (component.packageName ++ ".") ∨
            ¬ StartsWith component.className ".")) := by
  have hasPackage
      (nameable : component.IsNameable) :
      component.packageName.toList ≠ [] := by
    simpa using nameable.package_ne
  constructor
  · rw [flatText, ofText?_joined_iff Iff.rfl]
    refine and_congr_right fun nameable => ?_
    rw [fullClass_eq_self_iff (hasPackage nameable), startsWith_dot_iff]
  · rw [shortText, ofText?_joined_iff (by simp [shortClass_eq_nil_iff]), String.toList_ofList]
    refine and_congr_right fun nameable => ?_
    rw [fullClass_shortClass_iff (hasPackage nameable), startsWith_dot_iff,
      startsWith_package_iff]

/-- A class that starts with a package which starts with a dot is read from the short text only. -/
example :
    let component : ComponentName := ⟨".a", ".a.B"⟩
    ofText? component.flatText = some ⟨".a", ".a.a.B"⟩ ∧
      ofText? component.shortText = some component := by
  decide

end PlatformDouble.ComponentName
