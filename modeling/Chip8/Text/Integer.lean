import Chip8.Text.Blank
import Chip8.Text.DecimalDigit

/-!
# Reading integers

An integer is written as an optional sign and digits, with blanks around it. Single underscores may
stand between digits, and decimal digits may come from any script. A decimal number may have at most
4300 digits.

With markers understood, `0x`, `0o` and `0b` in either case announce another base, an underscore may
follow the marker, and a decimal number may begin with zero only if it is zero. Without them all
numbers are decimal and leading zeros do not matter.
-/

namespace Chip8.Text

/-- The bases in which integers are written. -/
inductive Radix where
  | binary
  | octal
  | decimal
  | hexadecimal
  deriving DecidableEq, Repr

namespace Radix

/-- The base as a number. -/
def base : Radix → Nat
  | binary => 2
  | octal => 8
  | decimal => 10
  | hexadecimal => 16

/-- The base that a marker after a leading zero announces. -/
def ofMarker? (c : Char) : Option Radix :=
  match c.toLower with
  | 'b' => some binary
  | 'o' => some octal
  | 'x' => some hexadecimal
  | _ => none

/-- The largest number of digits that is read. -/
def digitLimit? : Radix → Option Nat
  | decimal => some 4300
  | _ => none

end Radix

/-- The value of a digit, letters of either case following the ten digits. -/
def digitValue? (c : Char) : Option Nat :=
  if '0' ≤ c ∧ c ≤ '9' then some (c.toNat - 0x30)
  else if 'a' ≤ c ∧ c ≤ 'z' then some (c.toNat - 0x61 + 10)
  else if 'A' ≤ c ∧ c ≤ 'Z' then some (c.toNat - 0x41 + 10)
  else none

/-- The value of a digit below a base. -/
def digitBelow? (base : Nat) (c : Char) : Option Nat := (digitValue? c).filter (· < base)

/-- The values of a non-empty sequence of digits, in which single underscores may separate two
digits. -/
def readDigits? (base : Nat) : List Char → Option (List Nat)
  | [] => none
  | c :: cs =>
    match digitBelow? base c, cs with
    | none, _ => none
    | some d, [] => some [d]
    | some d, '_' :: rest => (readDigits? base rest).map (d :: ·)
    | some d, rest => (readDigits? base rest).map (d :: ·)

/-- The number that digits in a base denote, the most significant first. -/
def ofDigits (base : Nat) (ds : List Nat) : Nat := ds.foldl (fun n d => n * base + d) 0

/-- Read the digits of a number in a base. -/
def readNat? (r : Radix) (cs : List Char) : Option Nat := do
  let ds ← readDigits? r.base cs
  if r.digitLimit?.all (ds.length ≤ ·) then some (ofDigits r.base ds) else none

/-- Read a number that may announce its base. -/
def readMarkedNat? (cs : List Char) : Option Nat :=
  match cs with
  | '0' :: c :: rest =>
    match Radix.ofMarker? c, rest with
    | some r, '_' :: rest => readNat? r rest
    | some r, rest => readNat? r rest
    | none, _ => (readNat? .decimal cs).filter (· = 0)
  | _ => readNat? .decimal cs

/-- Read a number with an optional sign, given how a number without one is read. -/
def readSigned? (unsigned? : List Char → Option Nat) (cs : List Char) : Option Int :=
  match cs with
  | '-' :: rest => (unsigned? rest).map fun n => -(n : Int)
  | '+' :: rest => (unsigned? rest).map Int.ofNat
  | _ => (unsigned? cs).map Int.ofNat

/-- Read an integer with all digits of other scripts folded and surrounding blanks removed. -/
def readFolded? (unsigned? : List Char → Option Nat) (text : String) : Option Int :=
  readSigned? unsigned? (trim (text.toList.map foldDigit))

/-- Read a decimal integer. -/
def readInt? (text : String) : Option Int := readFolded? (readNat? .decimal) text

/-- Read an integer that may announce its base. -/
def readMarkedInt? (text : String) : Option Int := readFolded? readMarkedNat? text

end Chip8.Text
