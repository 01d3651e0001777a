import PlatformDouble.Config.Environment
import PlatformDouble.EnvFile.Binding

namespace PlatformDouble.EnvFile

/-!
# Expansion

A value may refer to variables, with a default for those that are not set.  The
environment is asked first, then the bindings above.  A variable of the environment
switches the whole of it off.
-/

open PlatformDouble.Config

/-- A reference to a variable, with a default where it has one. -/
structure Reference where
  name : String
  default : Option String
  deriving Repr, DecidableEq

/-- The reference that starts behind an opening brace, and how many characters it takes. -/
def readReference? (cs : List Char) : Option (Reference × Nat) :=
  let name := cs.takeWhile fun c => c != '}' && c != ':'
  match cs.drop name.length with
  | '}' :: _ => some (⟨String.ofList name, none⟩, name.length + 1)
  | ':' :: '-' :: behind =>
      let default := behind.takeWhile (· != '}')
      if default.length < behind.length then
        some (⟨String.ofList name, some (String.ofList default)⟩,
          name.length + default.length + 3)
      else
        none
  | _ => none

/-- A text with its references replaced. -/
def expand (resolve : Reference → String) : List Char → List Char
  | [] => []
  | '$' :: '{' :: rest =>
      match readReference? rest with
      | some (reference, taken) =>
          (resolve reference).toList ++ expand resolve (rest.drop taken)
      | none => '$' :: expand resolve ('{' :: rest)
  | c :: rest => c :: expand resolve rest
termination_by cs => cs.length
decreasing_by all_goals simp only [List.length_cons, List.length_drop]; omega

/-- The bindings read so far, with their values expanded. -/
abbrev Resolved := Table String (Option String)

/-- What a reference stands for. -/
def resolveReference
    (environment : Environment)
    (resolved : Resolved)
    (reference : Reference) :
    String :=
  match environment.get? reference.name with
  | some value => value
  | none =>
      match resolved.get? reference.name with
      | some value => value.getD ""
      | none => reference.default.getD ""

/-- Add a binding, with its value expanded. -/
def resolveBinding
    (environment : Environment)
    (resolved : Resolved)
    (binding : Binding) :
    Resolved :=
  resolved.insert binding.name <|
    binding.value.map fun value =>
      String.ofList (expand (resolveReference environment resolved) value.toList)

/-- The names a file gives, each with its last value. -/
def resolve (environment : Environment) (bindings : List Binding) : Resolved :=
  bindings.foldl (resolveBinding environment) Table.empty

/-- The variable that switches files off. -/
def switchName : String := "PYTHON_DOTENV_DISABLED"

/-- The words that switch files off. -/
def switchWords : List String := ["1", "true", "t", "yes", "y"]

/--
Case folding as far as the switch words can tell: beyond ASCII only the long s
folds to one of their letters.
-/
def foldSwitchChar (c : Char) : Char :=
  if c = 'ſ' then 's' else c.toLower

/-- Whether the environment switches files off. -/
def isDisabled (environment : Environment) : Bool :=
  match environment.get? switchName with
  | some word => switchWords.contains (String.ofList (word.toList.map foldSwitchChar))
  | none => false

end PlatformDouble.EnvFile
