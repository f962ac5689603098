import Chip8.Text.Digits
import Mathlib.Data.Nat.Digits.Lemmas
import Mathlib.Logic.Function.Iterate

/-!
# The digits of a number

A number is taken apart by dividing it by the base until nothing is left; the remainders, read
backwards, are its digits. `Writes` says what it takes to write a number in a base: digits below the
base that have its value, without a zero in front. There is one way to do so, and `digits` finds it.
-/

namespace Chip8.Text

variable {base n : Nat} {ds : List Nat}

/-! ## Digit by digit -/

section

variable (hbase : 1 < base)

include hbase

/-- What holds of a single digit, and of a positive number with a digit after it whenever it holds
of that number, holds of every number with its digits. -/
theorem digits_induction {motive : Nat → List Nat → Prop} (single : ∀ d < base, motive d [d])
    (more : ∀ n ds d, 0 < n → d < base → motive n ds → motive (d + base * n) (ds ++ [d]))
    (n : Nat) : motive n (digits base n) := by
  induction n using Nat.strongRecOn with
  | ind n ih =>
    by_cases small : n < base
    · rw [digits_of_lt (by omega)]
      exact single n small
    · have positive : 0 < n / base := Nat.div_pos (Nat.not_lt.mp small) (by omega)
      have less : n / base < n := Nat.div_lt_self (by omega) hbase
      have step := more (n / base) _ (n % base) positive (Nat.mod_lt n (by omega)) (ih _ less)
      rw [Nat.mod_add_div] at step
      rwa [digits_of_le (by omega), Nat.max_eq_left hbase]

/-- The digits of a positive number in reverse order, which zero has one more of. -/
theorem reverse_digits (positive : n ≠ 0) : (digits base n).reverse = Nat.digits base n := by
  refine digits_induction hbase
    (motive := fun n ds => n ≠ 0 → ds.reverse = Nat.digits base n) ?_ ?_ n positive
  · intro d small positive
    exact (Nat.digits_of_lt base d positive small).symm
  · intro n ds d positive small ih _
    rw [List.reverse_append, ih (Nat.ne_of_gt positive),
      Nat.digits_add base hbase d n small (.inr (Nat.ne_of_gt positive))]
    rfl

/-- The digits are as many as the least power of the base above the number says. -/
theorem length_digits_le_iff (count : Nat) :
    (digits base n).length ≤ count + 1 ↔ n < base ^ (count + 1) := by
  by_cases positive : n = 0
  · subst positive
    have power : 0 < base ^ (count + 1) := Nat.pow_pos (by omega)
    rw [digits_of_lt (by omega), List.length_singleton]
    omega
  · rw [← List.length_reverse, reverse_digits hbase positive, Nat.digits_length_le_iff hbase]

/-- The characters of the digits are those of the usual text of the number. -/
theorem map_digitChar_digits (n : Nat) :
    (digits base n).map Nat.digitChar = Nat.toDigits base n := by
  refine digits_induction hbase
    (motive := fun n ds => ds.map Nat.digitChar = Nat.toDigits base n) ?_ ?_ n
  · intro d small
    rw [Nat.toDigits_of_lt_base small]
    rfl
  · intro n ds d positive small ih
    have le : base ≤ d + base * n := calc
      base = base * 1 := (Nat.mul_one base).symm
      _ ≤ base * n := Nat.mul_le_mul_left base positive
      _ ≤ d + base * n := Nat.le_add_left _ d
    rw [Nat.toDigits_of_base_le hbase le, Nat.add_mul_div_left _ _ (by omega),
      Nat.div_eq_of_lt small, Nat.zero_add, Nat.add_mul_mod_self_left, Nat.mod_eq_of_lt small,
      List.map_append, ih]
    rfl

end

/-! ## Writing a number -/

/-- Digits write a number in a base: they lie below the base and have the value of the number, the
most significant one first, and the first is zero only if it is the only one. -/
structure Writes (base : Nat) (ds : List Nat) (n : Nat) : Prop where
  ne_nil : ds ≠ []
  lt : ∀ d ∈ ds, d < base
  value_eq : Nat.ofDigits base ds.reverse = n
  eq_of_head : ds.head? = some 0 → ds = [0]

theorem Writes.of_digits (hbase : 1 < base) (n : Nat) : Writes base (digits base n) n := by
  by_cases positive : n = 0
  · subst positive
    rw [digits_of_lt (by omega)]
    exact ⟨List.cons_ne_nil _ _, by simp; omega, rfl, fun _ => rfl⟩
  · have reverse_eq := reverse_digits hbase positive
    refine ⟨digits_ne_nil base n, ?_, ?_, ?_⟩
    · intro d mem
      rw [← List.mem_reverse, reverse_eq] at mem
      exact Nat.digits_lt_base hbase mem
    · rw [reverse_eq, Nat.ofDigits_digits]
    · intro zero
      have last := Nat.getLast_digit_ne_zero base positive
      rw [← List.getLast?_reverse, reverse_eq] at zero
      exact absurd (List.getLast_of_getLast?_eq_some zero) last

/-- Zero is written as a single zero, and a positive number by its digits. -/
theorem Writes.zero_or_reverse_eq (hbase : 1 < base) (h : Writes base ds n) :
    (n = 0 ∧ ds = [0]) ∨ (n ≠ 0 ∧ ds.reverse = Nat.digits base n) := by
  by_cases zero : ds = [0]
  · refine .inl ⟨?_, zero⟩
    rw [← h.value_eq, zero]
    rfl
  · have below : ∀ d ∈ ds.reverse, d < base := fun d mem => h.lt d (List.mem_reverse.mp mem)
    have last (ne_nil : ds.reverse ≠ []) : ds.reverse.getLast ne_nil ≠ 0 := by
      intro first
      apply zero
      apply h.eq_of_head
      rw [← List.getLast?_reverse, List.getLast?_eq_some_getLast ne_nil, first]
    have reverse_eq : ds.reverse = Nat.digits base n := by
      rw [← h.value_eq, Nat.digits_ofDigits base hbase _ below last]
    refine .inr ⟨?_, reverse_eq⟩
    rintro rfl
    exact h.ne_nil (List.reverse_eq_nil_iff.mp (reverse_eq.trans (Nat.digits_zero base)))

/-- Zero is the only number that is written with a zero in front. -/
theorem Writes.head?_eq_zero_iff (hbase : 1 < base) (h : Writes base ds n) :
    ds.head? = some 0 ↔ n = 0 := by
  constructor
  · intro zero
    rw [← h.value_eq, h.eq_of_head zero]
    rfl
  · rintro rfl
    rcases h.zero_or_reverse_eq hbase with ⟨-, rfl⟩ | ⟨positive, -⟩
    · rfl
    · contradiction

/-- There is one way to write a number. -/
theorem writes_iff (hbase : 1 < base) : Writes base ds n ↔ ds = digits base n := by
  refine ⟨fun h => ?_, fun same => same ▸ .of_digits hbase n⟩
  rcases h.zero_or_reverse_eq hbase with ⟨rfl, rfl⟩ | ⟨positive, reverse_eq⟩
  · exact (digits_of_lt (by omega)).symm
  · exact List.reverse_injective (reverse_eq.trans (reverse_digits hbase positive).symm)

/-! ## Division until nothing is left -/

/-- One division by the base: the remainder joins those found before, and the quotient is left. -/
def divide (base : Nat) (s : Nat × List Nat) : Nat × List Nat := (s.1 / base, s.2 ++ [s.1 % base])

/-- The number of digits is the number of divisions after which nothing is left of a positive
number, and the remainders found by then are the digits in reverse order. -/
theorem iterate_divide (hbase : 1 < base) (positive : 0 < n) (found : List Nat) :
    (divide base)^[(digits base n).length] (n, found) = (0, found ++ (digits base n).reverse) ∧
      ∀ j < (digits base n).length, 0 < ((divide base)^[j] (n, found)).1 := by
  refine digits_induction hbase
    (motive := fun n ds => 0 < n → ∀ found, (divide base)^[ds.length] (n, found) =
      (0, found ++ ds.reverse) ∧ ∀ j < ds.length, 0 < ((divide base)^[j] (n, found)).1)
    ?_ ?_ n positive found
  · intro d small positive found
    have done : divide base (d, found) = (0, found ++ [d]) := by
      rw [divide, Nat.div_eq_of_lt small, Nat.mod_eq_of_lt small]
    refine ⟨done, fun j hj => ?_⟩
    obtain rfl : j = 0 := Nat.lt_one_iff.mp hj
    exact positive
  · intro n ds d positive small ih whole found
    have first : divide base (d + base * n, found) = (n, found ++ [d]) := by
      rw [divide, Nat.add_mul_div_left _ _ (by omega), Nat.div_eq_of_lt small, Nat.zero_add,
        Nat.add_mul_mod_self_left, Nat.mod_eq_of_lt small]
    obtain ⟨done, pending⟩ := ih positive (found ++ [d])
    rw [List.length_append, List.length_singleton]
    constructor
    · rw [Function.iterate_succ_apply, first, done, List.reverse_append, List.append_assoc]
      rfl
    · intro j hj
      cases j with
      | zero => exact whole
      | succ j =>
        rw [Function.iterate_succ_apply, first]
        exact pending j (Nat.lt_of_succ_lt_succ hj)

end Chip8.Text
