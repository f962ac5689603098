/-!
# Digits of a natural number

`digits base n` lists the digits of `n`, most significant first and without leading zeros; zero has
the single digit `0`. The same digits spell numbers in messages and are what the decimal store
instruction writes to memory.
-/

namespace Chip8.Text

/-- The digits of `n`, most significant first, without leading zeros. Any base below two is read as
base two. -/
def digits (base n : Nat) : List Nat :=
  if n < max base 2 then [n] else digits base (n / max base 2) ++ [n % max base 2]
termination_by n
decreasing_by
  exact Nat.div_lt_self (by omega) (by omega)

theorem digits_of_lt {base n : Nat} (h : n < max base 2) : digits base n = [n] := by
  rw [digits, if_pos h]

theorem digits_of_le {base n : Nat} (h : max base 2 ≤ n) :
    digits base n = digits base (n / max base 2) ++ [n % max base 2] := by
  rw [digits, if_neg (by omega)]

theorem digits_ne_nil (base n : Nat) : digits base n ≠ [] := by
  rw [digits]
  split <;> simp

/-- The decimal digits of an integer. A negative integer has none. -/
def decimalDigits (value : Int) : List Nat :=
  if value < 0 then [] else digits 10 value.toNat

end Chip8.Text
