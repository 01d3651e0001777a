import PlatformDouble.Fault

namespace PlatformDouble.Context

/-!
# File paths

A path is written without empty and single-dot parts and without a slash at its
end.  One slash in front marks a path from the root, exactly two slashes stay two,
and more count as one.  A path without parts is a dot.
-/

/-- The parts of a text between its slashes. -/
def slashParts : List Char → List (List Char)
  | [] => [[]]
  | c :: rest =>
      if c = '/' then
        [] :: slashParts rest
      else
        match slashParts rest with
        | part :: parts => (c :: part) :: parts
        | [] => [[c]]

/-- The slashes that a path keeps in front. -/
def pathRoot (cs : List Char) : String :=
  match (cs.takeWhile (· == '/')).length with
  | 0 => ""
  | 2 => "//"
  | _ => "/"

def plainPath (path : String) : String :=
  let parts := (slashParts path.toList).filter fun part => !part.isEmpty && part != ['.']
  let root := pathRoot path.toList
  let written := root ++ "/".intercalate (parts.map String.ofList)
  if written.isEmpty then "." else written

/-- The plain form of a path given by any value; what is not a text is no path. -/
def pathOf (value : Value) : Except Fault String :=
  match value with
  | .text _ => .ok (plainPath value.display)
  | .constant _ => .ok (plainPath value.display)
  | value => .error (.notPath value.typeWord)

end PlatformDouble.Context
