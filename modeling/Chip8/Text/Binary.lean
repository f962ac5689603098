/-!
# Binary floating-point numbers with two decimals

A finite double is an integer times a power of two. Its text with two decimals shows the hundredth
nearest to that exact value; of two equally near ones the even one is shown.
-/

namespace Chip8.Text

/-- The whole number nearest to a quotient, the even one of two equally near. -/
def divideHalfEven (num den : Nat) : Nat :=
  let quotient := num / den
  let twice := 2 * (num % den)
  if twice < den then quotient
  else if den < twice then quotient + 1
  else if quotient % 2 = 0 then quotient
  else quotient + 1

/-- A double taken apart. -/
inductive Double where
  | nan
  | infinite (negative : Bool)
  /-- The number `significand * 2 ^ exponent`, with a sign that zero has too. -/
  | finite (negative : Bool) (significand : Nat) (exponent : Int)
  deriving DecidableEq, Repr

/-- Take a double apart by its bits: one of sign, eleven of exponent, 52 of fraction. -/
def Double.ofFloat (x : Float) : Double :=
  let bits := x.toBits.toNat
  -- the weight of the leading bit, which normal numbers do not store
  let hidden : Nat := 0x10000000000000
  let negative := bits / hidden / 0x800 = 1
  let exponent : Nat := bits / hidden % 0x800
  let fraction : Nat := bits % hidden
  if exponent = 0x7FF then
    if fraction = 0 then .infinite negative else .nan
  else if exponent = 0 then .finite negative fraction (-1074)
  else .finite negative (fraction + hidden) (exponent - 1075)

/-- The hundredths nearest to `significand * 2 ^ exponent`. -/
def hundredths (significand : Nat) (exponent : Int) : Nat :=
  if 0 ≤ exponent then (100 * significand) <<< exponent.toNat
  else divideHalfEven (100 * significand) (1 <<< (-exponent).toNat)

/-- A number of hundredths with a decimal point. -/
def hundredthsText (n : Nat) : String :=
  let digit (d : Nat) := toString (d % 10)
  toString (n / 100) ++ "." ++ digit (n / 10) ++ digit n

/-- A double with two decimals. -/
def Double.twoDecimals : Double → String
  | nan => "nan"
  | infinite negative => (if negative then "-" else "") ++ "inf"
  | finite negative significand exponent =>
    (if negative then "-" else "") ++ hundredthsText (hundredths significand exponent)

end Chip8.Text
