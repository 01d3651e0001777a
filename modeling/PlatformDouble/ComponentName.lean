namespace PlatformDouble

/-!
# Component names

A component is named by the package that owns it and by a class.  Its flat text
joins the two with a slash; the short text drops the package from the front of
the class.  `ofText?` reads both, cutting at the first slash.
-/

/-- The identity of a service: the owning package and the class. -/
structure ComponentName where
  packageName : String
  className : String
  deriving Repr, DecidableEq

namespace ComponentName

/-- The text `package/class`. -/
def flatText (component : ComponentName) : String :=
  component.packageName ++ "/" ++ component.className

/-- A class without the package in front of it, if the package and a dot start it. -/
def shortClass (package className : List Char) : List Char :=
  if (package ++ ['.']).isPrefixOf className then
    className.drop package.length
  else
    className

/-- The text `package/class` with the package dropped from the front of the class. -/
def shortText (component : ComponentName) : String :=
  component.packageName ++ "/" ++
    String.ofList (shortClass component.packageName.toList component.className.toList)

/-- The text by which a component shows itself. -/
def display (component : ComponentName) : String :=
  "ComponentInfo\x7b" ++ component.flatText ++ "\x7d"

/-- A class with the package put in front of it, if it starts with a dot. -/
def fullClass (package className : List Char) : List Char :=
  if className.head? = some '.' then package ++ className else className

/-- The component a text names: something, the first slash, and something behind it. -/
def ofText? (text : String) : Option ComponentName :=
  let package := text.toList.takeWhile (· != '/')
  let className := (text.toList.dropWhile (· != '/')).drop 1
  if package.isEmpty || className.isEmpty then
    none
  else
    some {
      packageName := String.ofList package
      className := String.ofList (fullClass package className)
    }

end ComponentName

end PlatformDouble
