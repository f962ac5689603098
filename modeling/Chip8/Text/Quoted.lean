import Chip8.Text.Digits
import Chip8.Text.Hex
import Chip8.Text.Visible

/-!
# Quoted texts

A text is shown between single quotes, or between double quotes if it holds single quotes and no
double ones. Backslashes, the quote itself and characters that cannot be seen are escaped.
-/

namespace Chip8.Text

/-- The number of a character in lower-case hexadecimal, after the letter that tells its width. -/
def numericEscape (c : Char) : List Char :=
  let (letter, width) :=
    if c.toNat < 0x100 then ('x', 2) else if c.toNat < 0x10000 then ('u', 4) else ('U', 8)
  '\\' :: letter :: (hexDigits width c.toNat).map Char.toLower

/-- A character as it stands between the given quotes. -/
def escape (quote c : Char) : List Char :=
  if c = quote ∨ c = '\\' then ['\\', c]
  else if c = '\n' then ['\\', 'n']
  else if c = '\r' then ['\\', 'r']
  else if c = '\t' then ['\\', 't']
  else if isVisible c then [c]
  else numericEscape c

/-- A text between quotes. -/
def quoted (text : String) : String :=
  let cs := text.toList
  let quote := if cs.contains '\'' && !cs.contains '"' then '"' else '\''
  String.ofList (quote :: cs.flatMap (escape quote) ++ [quote])

end Chip8.Text
