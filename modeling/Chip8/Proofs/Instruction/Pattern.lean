import Chip8.Instruction.Decode

/-!
# Digit patterns of instruction words

The instruction set is written down as a list of patterns of four hexadecimal digits, some of them
free. A word is an instruction exactly if it fits one of them, which makes the list a description of
`Instruction.decode` that does not mention how decoding proceeds.

`Word.ofDigits` puts a word together from its digits, so that a word of an instruction can be
written down with its operands.
-/

namespace Chip8

namespace Word

/-- The word with the given hexadecimal digits, the most significant first. -/
def ofDigits (family x y n : Nibble) : Word := family ++ x ++ y ++ n

section

variable (f x y n : Nibble)

theorem toNat_ofDigits :
    (ofDigits f x y n).toNat = 4096 * f.toNat + 256 * x.toNat + 16 * y.toNat + n.toNat := by
  simp only [ofDigits, BitVec.toNat_append]
  rw [← Nat.shiftLeft_add_eq_or_of_lt n.isLt, ← Nat.shiftLeft_add_eq_or_of_lt y.isLt,
    ← Nat.shiftLeft_add_eq_or_of_lt x.isLt]
  simp only [Nat.shiftLeft_eq]
  omega

@[simp]
theorem family_ofDigits : (ofDigits f x y n).family = f := by
  apply BitVec.eq_of_toNat_eq
  have := f.isLt
  have := x.isLt
  have := y.isLt
  have := n.isLt
  simp only [family, BitVec.extractLsb'_toNat, toNat_ofDigits, Nat.shiftRight_eq_div_pow]
  omega

@[simp]
theorem x_ofDigits : (ofDigits f x y n).x = x := by
  apply BitVec.eq_of_toNat_eq
  have := x.isLt
  have := y.isLt
  have := n.isLt
  simp only [Word.x, BitVec.extractLsb'_toNat, toNat_ofDigits, Nat.shiftRight_eq_div_pow]
  omega

@[simp]
theorem y_ofDigits : (ofDigits f x y n).y = y := by
  apply BitVec.eq_of_toNat_eq
  have := y.isLt
  have := n.isLt
  simp only [Word.y, BitVec.extractLsb'_toNat, toNat_ofDigits, Nat.shiftRight_eq_div_pow]
  omega

@[simp]
theorem n_ofDigits : (ofDigits f x y n).n = n := by
  apply BitVec.eq_of_toNat_eq
  have := n.isLt
  simp only [Word.n, BitVec.extractLsb'_toNat, toNat_ofDigits, Nat.shiftRight_eq_div_pow]
  omega

end

/-- The low byte consists of the last two digits. -/
theorem nn_eq_append (w : Word) : w.nn = w.y ++ w.n := by
  apply BitVec.eq_of_toNat_eq
  have := w.isLt
  simp only [nn, Word.y, Word.n, BitVec.extractLsb'_toNat, BitVec.toNat_append,
    Nat.shiftRight_eq_div_pow]
  rw [← Nat.shiftLeft_add_eq_or_of_lt (by omega)]
  simp only [Nat.shiftLeft_eq]
  omega

@[simp]
theorem nn_ofDigits (f x y n : Nibble) : (ofDigits f x y n).nn = y ++ n := by
  rw [nn_eq_append, y_ofDigits, n_ofDigits]

/-- The low byte is known by its digits. -/
theorem nn_eq_append_iff (w : Word) (a b : Nibble) : w.nn = a ++ b ↔ w.y = a ∧ w.n = b := by
  rw [nn_eq_append]
  constructor
  · intro h
    have e := congrArg BitVec.toNat h
    simp only [BitVec.toNat_append] at e
    rw [← Nat.shiftLeft_add_eq_or_of_lt w.n.isLt, ← Nat.shiftLeft_add_eq_or_of_lt b.isLt] at e
    simp only [Nat.shiftLeft_eq] at e
    constructor <;> bv_omega
  · rintro ⟨rfl, rfl⟩
    rfl

end Word

/-- Four hexadecimal digits, each fixed or free. -/
structure Pattern where
  first : Option Nibble
  second : Option Nibble
  third : Option Nibble
  fourth : Option Nibble
  deriving DecidableEq, Repr

namespace Pattern

/-- Whether the fixed digits of a pattern are those of a word. -/
def Matches (p : Pattern) (w : Word) : Prop :=
  (∀ d ∈ p.first, w.family = d) ∧ (∀ d ∈ p.second, w.x = d) ∧ (∀ d ∈ p.third, w.y = d) ∧
    ∀ d ∈ p.fourth, w.n = d

instance (p : Pattern) (w : Word) : Decidable (p.Matches w) :=
  inferInstanceAs (Decidable (_ ∧ _ ∧ _ ∧ _))

/-- A fixed first digit. -/
def ofFamily (f : Nibble) : Pattern := ⟨some f, none, none, none⟩

/-- A fixed first and a fixed last digit. -/
def ofLast (f n : Nibble) : Pattern := ⟨some f, none, none, some n⟩

/-- A fixed first digit and a fixed low byte. -/
def ofLow (f y n : Nibble) : Pattern := ⟨some f, none, some y, some n⟩

@[simp]
theorem matches_ofFamily (f : Nibble) (w : Word) : (ofFamily f).Matches w ↔ w.family = f := by
  simp [ofFamily, Matches]

@[simp]
theorem matches_ofLast (f n : Nibble) (w : Word) :
    (ofLast f n).Matches w ↔ w.family = f ∧ w.n = n := by
  simp [ofLast, Matches]

@[simp]
theorem matches_ofLow (f y n : Nibble) (w : Word) :
    (ofLow f y n).Matches w ↔ w.family = f ∧ w.nn = y ++ n := by
  simp [ofLow, Matches, Word.nn_eq_append_iff]

/-- The pattern of a return from a subroutine, `0?EE`. -/
def ret : Pattern := ofLow 0x0 0xE 0xE

/-- The patterns with a meaning: `0?E0`, `0?EE`, the families `1` to `4`, `6`, `7` and `A` to `D`,
`5??0`, `9??0`, `8??0` to `8??7`, `8??E`, `E?9E`, `E?A1`, and nine low bytes of family `F`. -/
def instructionSet : List Pattern :=
  [ofLow 0x0 0xE 0x0, ret]
    ++ [0x1, 0x2, 0x3, 0x4, 0x6, 0x7, 0xA, 0xB, 0xC, 0xD].map ofFamily
    ++ [ofLast 0x5 0x0, ofLast 0x9 0x0]
    ++ [0x0, 0x1, 0x2, 0x3, 0x4, 0x5, 0x6, 0x7, 0xE].map (ofLast 0x8)
    ++ [ofLow 0xE 0x9 0xE, ofLow 0xE 0xA 0x1]
    ++ [ofLow 0xF 0x0 0x7, ofLow 0xF 0x0 0xA, ofLow 0xF 0x1 0x5, ofLow 0xF 0x1 0x8,
      ofLow 0xF 0x1 0xE, ofLow 0xF 0x2 0x9, ofLow 0xF 0x3 0x3, ofLow 0xF 0x5 0x5,
      ofLow 0xF 0x6 0x5]

theorem exists_mem_instructionSet (w : Word) : (∃ p ∈ instructionSet, p.Matches w) ↔
    match w.family with
    | 0x0#4 => w.nn = 0xE0 ∨ w.nn = 0xEE
    | 0x5#4 | 0x9#4 => w.n = 0
    | 0x8#4 => w.n ∈ [0x0, 0x1, 0x2, 0x3, 0x4, 0x5, 0x6, 0x7, 0xE]
    | 0xE#4 => w.nn = 0x9E ∨ w.nn = 0xA1
    | 0xF#4 => w.nn ∈ [0x07, 0x0A, 0x15, 0x18, 0x1E, 0x29, 0x33, 0x55, 0x65]
    | _ => True := by
  simp only [instructionSet, ret, List.map_cons, List.map_nil, List.cons_append, List.nil_append,
    List.mem_cons, List.not_mem_nil, or_false, exists_eq_or_imp, exists_eq_left,
    matches_ofFamily, matches_ofLast, matches_ofLow, BitVec.reduceAppend]
  split
  case h_7 =>
    simp only [imp_false] at *
    simp_all
    bv_omega
  all_goals simp_all

end Pattern

/-- Whether a word fits a pattern of the instruction set. -/
def Word.IsInstruction (w : Word) : Prop := ∃ p ∈ Pattern.instructionSet, p.Matches w

instance (w : Word) : Decidable w.IsInstruction :=
  inferInstanceAs (Decidable (∃ p ∈ Pattern.instructionSet, p.Matches w))

namespace Instruction

theorem isSome_decodeAlu_iff (w : Word) :
    (decodeAlu w).isSome ↔ w.n ∈ [0x0, 0x1, 0x2, 0x3, 0x4, 0x5, 0x6, 0x7, 0xE] := by
  rw [decodeAlu]
  split <;> simp_all

theorem isSome_decodeMisc_iff (w : Word) :
    (decodeMisc w).isSome ↔ w.nn ∈ [0x07, 0x0A, 0x15, 0x18, 0x1E, 0x29, 0x33, 0x55, 0x65] := by
  rw [decodeMisc]
  split <;> simp_all

/-- The words that decode to an instruction are those that fit a pattern. -/
theorem isSome_decode_iff (w : Word) : (decode w).isSome ↔ w.IsInstruction := by
  simp only [Word.IsInstruction, Pattern.exists_mem_instructionSet]
  rw [decode]
  split
  case h_1 h =>
    simp only [h]
    split <;> simp_all
  case h_15 h =>
    simp only [h]
    split <;> simp_all
  case h_16 =>
    have h : w.family = 0xF#4 := by
      simp only [imp_false] at *
      bv_omega
    simp [h, isSome_decodeMisc_iff]
  all_goals simp_all [isSome_decodeAlu_iff]

/-- The words that decode to a return are those of its pattern. -/
theorem decode_eq_ret_iff (w : Word) : decode w = some .ret ↔ Pattern.ret.Matches w := by
  simp only [Pattern.ret, Pattern.matches_ofLow]
  rw [decode, decodeAlu, decodeMisc]
  repeat' split
  all_goals simp_all

end Instruction

end Chip8
