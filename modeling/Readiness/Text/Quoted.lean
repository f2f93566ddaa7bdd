import Readiness.Text.Hex
import Readiness.Text.Printable

/-!
This module contains the quoted form in which messages and the console show a text: single quotes, or double quotes
around a text that has a single quote and no double one. Line breaks, tabs, backslashes, the quote itself and
all characters that are not printable are escaped.
-/

namespace Readiness
namespace Text

/-- The quote that needs the fewest escapes. -/
def quoteFor (l : List Char) : Char :=
  if l.contains '\'' && !l.contains '"' then '"' else '\''

/-- The escape of a character that does not print, by the shortest of the three numeric forms. -/
def numericEscape (n : Nat) : List Char :=
  if n < 0x100 then '\\' :: 'x' :: hex 2 n
  else if n < 0x10000 then '\\' :: 'u' :: hex 4 n
  else '\\' :: 'U' :: hex 8 n

def quotedChar (quote c : Char) : List Char :=
  if c = quote || c = '\\' then ['\\', c]
  else if c = '\n' then ['\\', 'n']
  else if c = '\r' then ['\\', 'r']
  else if c = '\t' then ['\\', 't']
  else if isPrintable c then [c]
  else numericEscape c.toNat

def quotedChars (l : List Char) : List Char :=
  let quote := quoteFor l
  quote :: l.flatMap (quotedChar quote) ++ [quote]

def quoted (s : String) : String :=
  String.ofList (quotedChars s.toList)

end Text
end Readiness
