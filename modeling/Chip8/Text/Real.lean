import Chip8.Text.Digits
import Chip8.Text.Integer

/-!
# Reading decimal fractions

A number is written as an optional sign, digits with an optional point, and an optional power of
ten; infinity and the undefined number are written as words. As with integers, blanks may surround
it, digits may come from any script and single underscores may stand between digits.
-/

namespace Chip8.Text

/-- The exact value of a decimal numeral: `significand * 10 ^ exponent`. -/
structure Decimal where
  significand : Nat
  exponent : Int
  deriving DecidableEq, Repr

/-- The double nearest to a decimal numeral. Numerals far outside the range of doubles are decided
by their order of magnitude. -/
def Decimal.toFloat (d : Decimal) : Float :=
  let magnitude := d.exponent + (digits 10 d.significand).length
  if d.significand = 0 ∨ magnitude < -400 then 0.0
  else if 400 < magnitude then 1.0 / 0.0
  else if 0 ≤ d.exponent then Float.ofScientific d.significand false d.exponent.toNat
  else Float.ofScientific d.significand true (-d.exponent).toNat

/-- A text without its underscores, each of which has to stand between two digits. -/
def dropUnderscores? : List Char → Option (List Char)
  | [] => some []
  | '_' :: _ => none
  | c :: '_' :: d :: rest =>
    if c.isDigit && d.isDigit then (dropUnderscores? (d :: rest)).map (c :: ·) else none
  | c :: rest => (dropUnderscores? rest).map (c :: ·)

/-- The power of ten at the end of a numeral; nothing stands for the power zero. -/
def readPower? (cs : List Char) : Option Int :=
  let power? (cs : List Char) : Option Nat :=
    if cs ≠ [] ∧ cs.all Char.isDigit then
      some (ofDigits 10 (cs.map fun c => c.toNat - 0x30))
    else none
  match cs with
  | [] => some 0
  | c :: rest => if c.toLower = 'e' then readSigned? power? rest else none

/-- Read a numeral without a sign. -/
def readDecimal? (cs : List Char) : Option Decimal :=
  let whole := cs.takeWhile Char.isDigit
  let rest := cs.dropWhile Char.isDigit
  let (fraction, rest) := match rest with
    | '.' :: rest => (rest.takeWhile Char.isDigit, rest.dropWhile Char.isDigit)
    | _ => ([], rest)
  let ds := whole ++ fraction
  if ds = [] then none
  else (readPower? rest).map fun power =>
    ⟨ofDigits 10 (ds.map fun c => c.toNat - 0x30), power - fraction.length⟩

/-- Read a number without a sign. -/
def readMagnitude? (cs : List Char) : Option Float :=
  let word := String.ofList (cs.map Char.toLower)
  if word = "inf" ∨ word = "infinity" then some (1.0 / 0.0)
  else if word = "nan" then some (0.0 / 0.0)
  else ((dropUnderscores? cs).bind readDecimal?).map Decimal.toFloat

/-- Read a number. -/
def readFloat? (text : String) : Option Float :=
  match trim (text.toList.map foldDigit) with
  | '-' :: rest => (readMagnitude? rest).map (-·)
  | '+' :: rest => readMagnitude? rest
  | cs => readMagnitude? cs

end Chip8.Text
