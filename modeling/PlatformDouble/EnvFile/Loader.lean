import PlatformDouble.EnvFile.Expansion

namespace PlatformDouble.EnvFile

/-!
# Loading

What a file defines is read by a loader: names, each with a value or without one.
Loading a file gives the environment those of its names with a value that it does not
have yet.  The double relies on no more than that, so it is made for any loader; the one
at hand reads bindings and expands their references.
-/

open PlatformDouble.Config

/-- What reads environment files. -/
structure Loader where
  /-- Whether the environment switches loading off. -/
  isDisabled : Environment → Bool
  /-- The names in a file of some content, with the values they have in an environment. -/
  read : Environment → String → List (String × Option String)

/-- Give the environment one name of a file, if it has a value there. -/
def loadEntry (entry : String × Option String) : Traced LogAction Environment Unit :=
  match entry.2 with
  | some value => Environment.assignIfAbsent entry.1 value
  | none => Traced.done ()

namespace Loader

/-- The loader that takes the bindings of a file and expands their values. -/
def standard : Loader where
  isDisabled := EnvFile.isDisabled
  read environment content := (resolve environment (ofContent content)).entries

/--
The names a file defines in an environment, each with its last value: none where there is
no file, or where loading is switched off.
-/
def definitions
    (loader : Loader)
    (environment : Environment)
    (content : Option String) :
    Resolved :=
  match content with
  | none => Table.empty
  | some text =>
      if loader.isDisabled environment then
        Table.empty
      else
        Table.ofList (loader.read environment text)

/-- Load a file into the environment. -/
def load (loader : Loader) (content : Option String) : Traced LogAction Environment Unit := do
  let environment ← Traced.current
  let _ ← Traced.forEach (loader.definitions environment content).entries loadEntry
  Traced.done ()

end Loader

end PlatformDouble.EnvFile
