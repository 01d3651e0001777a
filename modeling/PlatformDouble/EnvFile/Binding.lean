import PlatformDouble.Text.Blank

namespace PlatformDouble.EnvFile

/-!
# Bindings of an environment file

An environment file binds names to values, one binding after another.  A name may
be quoted; a value may be left out, unquoted up to the end of its line or a
comment, or quoted over several lines with escapes.  A binding that does not fit
is dropped together with the rest of the line where the misfit was found.

Readers work on the text that is left.  A reader that fails answers the text from
the place where it failed.
-/

open PlatformDouble.Text

/-- A name with its value, where it has one. -/
structure Binding where
  name : String
  value : Option String
  deriving Repr, DecidableEq

/-- What a reader makes of a text: something and what is left, or where it failed. -/
abbrev Reading (α : Type) := Except (List Char) (α × List Char)

/-- One line feed for every kind of line end. -/
def unifyLineEnds : List Char → List Char
  | [] => []
  | '\r' :: '\n' :: rest => '\n' :: unifyLineEnds rest
  | '\r' :: rest => '\n' :: unifyLineEnds rest
  | c :: rest => c :: unifyLineEnds rest

/-- A text without the mark that may stand at its very beginning. -/
def dropByteOrderMark : List Char → List Char
  | '\ufeff' :: rest => rest
  | cs => cs

/-- A text from behind the end of its first line. -/
def dropLine (cs : List Char) : List Char :=
  (cs.dropWhile (· != '\n')).drop 1

/-- Skip the word `export` and the blanks behind it, if there are any. -/
def skipExport (cs : List Char) : List Char :=
  let word := "export".toList
  let behind := cs.drop word.length
  if word.isPrefixOf cs && (behind.head?.map isInlineBlank).getD false then
    behind.dropWhile isInlineBlank
  else
    cs

/-- Whether a character can be part of an unquoted name. -/
def isNameChar (c : Char) : Bool :=
  c != '=' && c != '#' && !isBlank c

/-- Read a name; where a comment starts there is none. -/
def readName (cs : List Char) : Reading (Option (List Char)) :=
  match cs with
  | '#' :: _ => .ok (none, cs)
  | '\'' :: rest =>
      let name := rest.takeWhile (· != '\'')
      match name, rest.dropWhile (· != '\'') with
      | _ :: _, '\'' :: behind => .ok (some name, behind)
      | _, _ => .error cs
  | _ =>
      let name := cs.takeWhile isNameChar
      if name.isEmpty then
        .error cs
      else
        .ok (some name, cs.dropWhile isNameChar)

/--
The text up to a closing quote, escapes left as they are, and what is behind it.  A
backslash always takes the next character along, so a quote behind one does not close,
even if no other quote follows.
-/
def quotedBody? (quote : Char) : List Char → Option (List Char × List Char)
  | [] => none
  | '\\' :: [] => none
  | '\\' :: c :: rest =>
      (quotedBody? quote rest).map fun (body, behind) => ('\\' :: c :: body, behind)
  | c :: rest =>
      if c = quote then
        some ([], rest)
      else
        (quotedBody? quote rest).map fun (body, behind) => (c :: body, behind)

/-- The escapes known between single quotes. -/
def singleQuoteEscapes : List (Char × Char) :=
  [('\\', '\\'), ('\'', '\'')]

/-- The escapes known between double quotes. -/
def doubleQuoteEscapes : List (Char × Char) :=
  [('\\', '\\'), ('\'', '\''), ('"', '"'), ('a', '\x07'), ('b', '\x08'),
    ('f', '\x0c'), ('n', '\n'), ('r', '\r'), ('t', '\t'), ('v', '\x0b')]

/-- Resolve the escapes of a list; an unknown escape stays as it is. -/
def unescape (escapes : List (Char × Char)) : List Char → List Char
  | [] => []
  | '\\' :: c :: rest =>
      match escapes.lookup c with
      | some meant => meant :: unescape escapes rest
      | none => '\\' :: c :: unescape escapes rest
  | c :: rest => c :: unescape escapes rest

/-- A line up to the first comment sign with a blank before it. -/
def cutComment (blankBefore : Bool) : List Char → List Char
  | [] => []
  | c :: rest =>
      if blankBefore && c == '#' then
        []
      else
        c :: cutComment (isBlank c) rest

/-- Read a quoted value from behind its opening quote. -/
def readQuoted
    (cs : List Char)
    (quote : Char)
    (escapes : List (Char × Char))
    (rest : List Char) :
    Reading (List Char) :=
  match quotedBody? quote rest with
  | some (body, behind) => .ok (unescape escapes body, behind)
  | none => .error cs

/-- Read a value from behind the equals sign and the blanks that follow it. -/
def readValue (blanksSkipped : Bool) (cs : List Char) : Reading (List Char) :=
  match cs with
  | [] => .ok ([], cs)
  | '\n' :: _ => .ok ([], cs)
  | '\'' :: rest => readQuoted cs '\'' singleQuoteEscapes rest
  | '"' :: rest => readQuoted cs '"' doubleQuoteEscapes rest
  | first :: _ =>
      if blanksSkipped && first == '#' then
        .ok ([], cs)
      else
        .ok (trimEnd isBlank (cutComment false (cs.takeWhile (· != '\n'))),
          cs.dropWhile (· != '\n'))

/-- Read the equals sign and a value, if there is an equals sign. -/
def readAssignment (cs : List Char) : Reading (Option (List Char)) :=
  match cs with
  | '=' :: rest =>
      (readValue ((rest.head?.map isInlineBlank).getD false)
        (rest.dropWhile isInlineBlank)).map fun (value, behind) => (some value, behind)
  | _ => .ok (none, cs)

/-- Skip blanks and a comment, if there is a comment. -/
def skipComment (cs : List Char) : List Char :=
  match cs.dropWhile isInlineBlank with
  | '#' :: rest => rest.dropWhile (· != '\n')
  | _ => cs

/-- Read the end of a line: blanks, and a line feed or the end of the text. -/
def readLineEnd (cs : List Char) : Reading Unit :=
  match cs.dropWhile isInlineBlank with
  | [] => .ok ((), [])
  | '\n' :: rest => .ok ((), rest)
  | _ => .error cs

/-- Go on with what a reader read and the text it left. -/
def Reading.andThen {α β : Type}
    (reading : Reading α)
    (next : α → List Char → Reading β) :
    Reading β :=
  match reading with
  | .ok (value, rest) => next value rest
  | .error failedAt => .error failedAt

/-- Read a binding with the end of its line; a comment alone binds nothing. -/
def readBinding (cs : List Char) : Reading (Option Binding) :=
  Reading.andThen (readName (skipExport cs)) fun name afterName =>
    Reading.andThen (readAssignment (afterName.dropWhile isInlineBlank)) fun value afterValue =>
      Reading.andThen (readLineEnd (skipComment afterValue)) fun _ rest =>
        .ok (name.map fun name => ⟨String.ofList name, value.map String.ofList⟩, rest)

/-- The binding at the start of a text, if it fits, and the text to go on with. -/
def nextBinding (cs : List Char) : Option Binding × List Char :=
  match readBinding cs with
  | .ok (binding, rest) => (binding, rest)
  | .error failedAt => (none, dropLine failedAt)

private theorem length_dropWhile_le_length
    (inClass : Char → Bool)
    (cs : List Char) :
    (cs.dropWhile inClass).length ≤ cs.length :=
  (List.dropWhile_sublist inClass).length_le

/--
The bindings of a text, in order.  Reading one takes at least the character it
starts with; so the text to go on with is the end of what follows that character.
-/
def bindings (text : List Char) : List Binding :=
  match _start : text.dropWhile isBlank with
  | [] => []
  | first :: following =>
      let (binding, rest) := nextBinding (first :: following)
      binding.toList ++ bindings (following.drop (following.length - rest.length))
termination_by text.length
decreasing_by
  have noLonger := length_dropWhile_le_length isBlank text
  rw [_start] at noLonger
  simp only [List.length_cons, List.length_drop] at noLonger ⊢
  omega

/-- The bindings of a file with the given content. -/
def ofContent (content : String) : List Binding :=
  bindings (unifyLineEnds (dropByteOrderMark content.toList))

end PlatformDouble.EnvFile
