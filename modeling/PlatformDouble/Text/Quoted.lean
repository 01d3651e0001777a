import PlatformDouble.Text.Printable

namespace PlatformDouble.Text

/-!
# Quoted texts

A quoted text shows where a text begins and ends and what is in it.  It stands in
single quotes, unless it holds a single quote and no double quote.  A backslash
and the quote in use are escaped, line feed, carriage return and tab have escapes
of their own, and any other unprintable character is written as its code point in
hexadecimal, with two, four or eight digits.
-/

/-- The quote a text is put in. -/
def quoteFor (cs : List Char) : Char :=
  if cs.contains '\'' && !cs.contains '"' then '"' else '\''

/-- The lowercase hexadecimal digit of a value below sixteen. -/
def hexDigit (value : Nat) : Char :=
  if value < 10 then Char.ofNat (48 + value) else Char.ofNat (87 + value)

/-- The last `width` hexadecimal digits of a number. -/
def hexDigits : Nat → Nat → List Char
  | 0, _ => []
  | width + 1, number => hexDigits width (number / 16) ++ [hexDigit (number % 16)]

def escapeCodePoint (codePoint : Nat) : List Char :=
  if codePoint < 0x100 then
    '\\' :: 'x' :: hexDigits 2 codePoint
  else if codePoint < 0x10000 then
    '\\' :: 'u' :: hexDigits 4 codePoint
  else
    '\\' :: 'U' :: hexDigits 8 codePoint

/-- A character inside a quoted text. -/
def quoteChar (quote c : Char) : List Char :=
  if c = quote ∨ c = '\\' then ['\\', c]
  else if c = '\n' then ['\\', 'n']
  else if c = '\r' then ['\\', 'r']
  else if c = '\t' then ['\\', 't']
  else if isPrintable c then [c]
  else escapeCodePoint c.toNat

def quoted (text : String) : String :=
  let quote := quoteFor text.toList
  String.ofList (quote :: (text.toList.flatMap (quoteChar quote) ++ [quote]))

end PlatformDouble.Text
