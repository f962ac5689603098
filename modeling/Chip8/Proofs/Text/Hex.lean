import Chip8.Proofs.Text.Digits
import Chip8.Text.Hex
import Chip8.Text.Integer
import Chip8.Word
import Mathlib.Algebra.Group.Nat.Defs

/-!
# Hexadecimal digits

A word of fixed width is written with the characters of its nibbles, the most significant first. The
nibbles can be told from the characters and the word from its nibbles, so nothing is lost in
writing.
-/

namespace Chip8

/-! ## Nibbles of a word -/

/-- The lowest `count` nibbles of a word, the most significant first. -/
def nibbles (count : Nat) (b : BitVec w) : List Nibble :=
  (List.range count).reverse.map fun k => b.extractLsb' (4 * k) 4

/-- The number that nibbles spell. -/
def spelled : List Nibble → Nat
  | [] => 0
  | d :: ds => 16 ^ ds.length * d.toNat + spelled ds

theorem toNat_lt_pow {count : Nat} (h : w ≤ 4 * count) (b : BitVec w) : b.toNat < 16 ^ count := calc
  b.toNat < 2 ^ w := b.isLt
  _ ≤ 2 ^ (4 * count) := Nat.pow_le_pow_right (by decide) h
  _ = 16 ^ count := Nat.pow_mul 2 4 count

theorem toNat_nibble (b : BitVec w) (k : Nat) :
    (b.extractLsb' (4 * k) 4).toNat = b.toNat / 16 ^ k % 16 := by
  rw [BitVec.extractLsb'_toNat, Nat.shiftRight_eq_div_pow, Nat.pow_mul]

theorem nibbles_succ (count : Nat) (b : BitVec w) :
    nibbles (count + 1) b = b.extractLsb' (4 * count) 4 :: nibbles count b := by
  simp only [nibbles, List.range_succ, List.reverse_append, List.reverse_singleton,
    List.singleton_append, List.map_cons]

@[simp]
theorem length_nibbles (count : Nat) (b : BitVec w) : (nibbles count b).length = count := by
  simp [nibbles]

theorem spelled_nibbles_mod (count : Nat) (b : BitVec w) :
    spelled (nibbles count b) = b.toNat % 16 ^ count := by
  induction count with
  | zero => simp [nibbles, spelled, Nat.mod_one]
  | succ count ih =>
    rw [nibbles_succ, spelled, ih, length_nibbles, toNat_nibble, Nat.pow_succ, Nat.mod_mul,
      Nat.add_comm]

/-- A word is spelled by its nibbles. -/
theorem spelled_nibbles {count : Nat} (h : w ≤ 4 * count) (b : BitVec w) :
    spelled (nibbles count b) = b.toNat := by
  rw [spelled_nibbles_mod, Nat.mod_eq_of_lt (toNat_lt_pow h b)]

theorem ofNat_spelled_nibbles {count : Nat} (h : w ≤ 4 * count) (b : BitVec w) :
    BitVec.ofNat w (spelled (nibbles count b)) = b := by
  rw [spelled_nibbles h, BitVec.ofNat_toNat, BitVec.setWidth_eq]

namespace Text

/-! ## Characters of nibbles -/

/-- The character of a nibble. -/
def nibbleChar (d : Nibble) : Char := hexDigit d.toNat

/-- The nibble of a character. -/
def nibble? (c : Char) : Option Nibble := (digitBelow? 16 c).map (BitVec.ofNat 4)

@[simp]
theorem nibble?_nibbleChar (d : Nibble) : nibble? (nibbleChar d) = some d := by
  revert d
  decide

theorem mapM_nibble?_map (ds : List Nibble) : (ds.map nibbleChar).mapM nibble? = some ds := by
  induction ds with
  | nil => rfl
  | cons d ds ih => simp [List.mapM_cons, ih]

/-! ## Hexadecimal text -/

theorem hexDigit_eq_toUpper {d : Nat} (h : d < 16) : hexDigit d = (Nat.digitChar d).toUpper := by
  revert d
  decide

/-- A number is written with its usual digits in upper case, zeros in front up to the width. -/
theorem hexDigits_eq_leftpad (width n : Nat) :
    hexDigits width n = ((Nat.toDigits 16 n).map Char.toUpper).leftpad width '0' := by
  have upper : (digits 16 n).map hexDigit = (Nat.toDigits 16 n).map Char.toUpper := by
    rw [← map_digitChar_digits (by decide), List.map_map]
    apply List.map_congr_left
    intro d mem
    exact hexDigit_eq_toUpper ((Writes.of_digits (by decide) n).lt d mem)
  rw [hexDigits, upper]
  rfl

theorem hexDigits_succ {width : Nat} (h : 0 < width) (n : Nat) :
    hexDigits (width + 1) n = hexDigits width (n / 16) ++ [hexDigit (n % 16)] := by
  by_cases small : n < 16
  · have quotient : n / 16 = 0 := Nat.div_eq_of_lt small
    obtain ⟨width, rfl⟩ := Nat.exists_eq_succ_of_ne_zero (Nat.ne_of_gt h)
    have one : digits 16 n = [n] := digits_of_lt (by omega)
    have zero : digits 16 0 = [0] := digits_of_lt (by decide)
    rw [quotient, Nat.mod_eq_of_lt small]
    simp only [hexDigits, one, zero, List.map_cons, List.map_nil, List.length_singleton,
      Nat.succ_eq_add_one, Nat.add_sub_cancel]
    rw [List.replicate_succ']
    rfl
  · have more : digits 16 n = digits 16 (n / 16) ++ [n % 16] := digits_of_le (by omega)
    simp only [hexDigits, more, List.map_append, List.length_append, List.map_cons, List.map_nil,
      List.length_singleton, Nat.add_sub_add_right, List.append_assoc]

/-- The characters of a number that has at most as many digits as the width are those of its
digits. -/
theorem hexDigits_eq {width n : Nat} (hw : 0 < width) (h : n < 16 ^ width) :
    hexDigits width n = (List.range width).reverse.map fun k => hexDigit (n / 16 ^ k % 16) := by
  induction width generalizing n with
  | zero => contradiction
  | succ width ih =>
    cases width with
    | zero =>
      have small : n < 16 := h
      have one : digits 16 n = [n] := digits_of_lt (by omega)
      simp [hexDigits, one, Nat.mod_eq_of_lt small]
    | succ width =>
      have quotient : n / 16 < 16 ^ (width + 1) := by
        rw [Nat.pow_succ] at h
        omega
      rw [hexDigits_succ (Nat.succ_pos width), ih (Nat.succ_pos width) quotient,
        List.range_succ_eq_map (n := width + 1), List.reverse_cons, List.map_append,
        ← List.map_reverse, List.map_map]
      simp only [Function.comp_def, Nat.div_div_eq_div_mul, ← Nat.pow_succ', List.map_cons,
        List.map_nil, Nat.pow_zero, Nat.div_one, Nat.succ_eq_add_one]

/-- A word is written with the characters of its nibbles. -/
theorem hexBits_eq {width : Nat} (hw : 0 < width) (h : w ≤ 4 * width) (b : BitVec w) :
    hexBits width b = String.ofList ((nibbles width b).map nibbleChar) := by
  rw [hexBits, hex, if_neg (Int.not_lt.mpr (Int.natCast_nonneg _)), Int.toNat_natCast,
    hexDigits_eq hw (toNat_lt_pow h b)]
  simp only [nibbles, List.map_map, Function.comp_def, nibbleChar, toNat_nibble]

end Text

end Chip8
