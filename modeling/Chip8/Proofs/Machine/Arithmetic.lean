import Mathlib.Data.Int.Bitwise
import Mathlib.Logic.Function.Basic
import Chip8.Proofs.Instruction.Encoding
import Chip8.Proofs.Machine.Faults
import Chip8.Proofs.Machine.Registers

/-!
# Arithmetic on registers

What the words of family `8` do to the registers, told on numbers: which registers are written with
what, one after the other, so that the later of two writes to the same register stays. An addition
writes the flag last, a subtraction and a shift write it first.
-/

namespace Chip8

/-- The numbers in the registers. -/
abbrev Contents := Nibble → Int

/-- The contents after the word `8xyn`, if that is an instruction. Every number on the right is read
before anything is written. -/
def Contents.combined (v : Contents) (x y : Nibble) : Nibble → Option Contents
  | 0x0#4 => some (Function.update v x (v y))
  | 0x1#4 => some (Function.update v x (Int.lor (v x) (v y)))
  | 0x2#4 => some (Function.update v x (Int.land (v x) (v y)))
  | 0x3#4 => some (Function.update v x (Int.xor (v x) (v y)))
  | 0x4#4 =>
    let sum := Function.update v x ((v x + v y) % 256)
    some (Function.update sum Machine.flagRegister (if 255 < v x + v y then 1 else 0))
  | 0x5#4 =>
    let flagged := Function.update v Machine.flagRegister (if v y ≤ v x then 1 else 0)
    some (Function.update flagged x ((v x - v y) % 256))
  | 0x6#4 =>
    let flagged := Function.update v Machine.flagRegister (v x % 2)
    some (Function.update flagged x (v x / 2))
  | 0x7#4 =>
    let flagged := Function.update v Machine.flagRegister (if v x ≤ v y then 1 else 0)
    some (Function.update flagged x ((v y - v x) % 256))
  | 0xE#4 =>
    let flagged := Function.update v Machine.flagRegister (v x / 128)
    some (Function.update flagged x (2 * v x % 256))
  | _ => none

/-! ## Results as numbers -/

namespace Byte

variable (a b : Byte)

theorem toNat_add_eq : ((a + b).toNat : Int) = (a.toNat + b.toNat) % 256 := by
  rw [BitVec.toNat_add]
  omega

theorem toNat_sub_eq : ((a - b).toNat : Int) = (a.toNat - b.toNat) % 256 := by
  rw [BitVec.toNat_sub]
  omega

theorem toNat_or_eq : ((a ||| b).toNat : Int) = Int.lor a.toNat b.toNat := by
  rw [BitVec.toNat_or]
  rfl

theorem toNat_and_eq : ((a &&& b).toNat : Int) = Int.land a.toNat b.toNat := by
  rw [BitVec.toNat_and]
  rfl

theorem toNat_xor_eq : ((a ^^^ b).toNat : Int) = Int.xor a.toNat b.toNat := by
  rw [BitVec.toNat_xor]
  rfl

theorem toNat_shiftRight_eq : ((a >>> 1).toNat : Int) = a.toNat / 2 := by
  rw [BitVec.toNat_ushiftRight, Nat.shiftRight_eq_div_pow]
  omega

theorem toNat_shiftLeft_eq : ((a <<< 1).toNat : Int) = 2 * a.toNat % 256 := by
  rw [BitVec.toNat_shiftLeft, Nat.shiftLeft_eq]
  omega

theorem carry_eq : (if decide (255 < a.toNat + b.toNat) then 1 else 0 : Int) =
    if 255 < (a.toNat : Int) + b.toNat then 1 else 0 := by
  simp only [decide_eq_true_eq]
  split <;> split <;> omega

theorem noBorrow_eq : (if decide (b ≤ a) then 1 else 0 : Int) =
    if (b.toNat : Int) ≤ a.toNat then 1 else 0 := by
  simp only [decide_eq_true_eq, BitVec.le_def, Int.ofNat_le]

/-- The bit that a shift to the right loses is the remainder. -/
theorem low_eq : (if a.getLsbD 0 then 1 else 0 : Int) = a.toNat % 2 := by
  rw [BitVec.getLsbD, Nat.testBit_zero]
  simp only [decide_eq_true_eq]
  split <;> omega

/-- The bit that a shift to the left loses is the highest one. -/
theorem high_eq : (if a.msb then 1 else 0 : Int) = a.toNat / 128 := by
  have := a.isLt
  rw [BitVec.msb_eq_decide]
  simp only [decide_eq_true_eq]
  split <;> omega

end Byte

namespace Machine

/-- The numbers in the registers of a machine. -/
def contents (m : Machine) : Contents := fun r => (m.register r).toNat

section

variable (m : Machine)

theorem contents_setRegister (r : Nibble) (b : Byte) :
    (m.setRegister r b).contents = Function.update m.contents r b.toNat := by
  funext s
  rw [contents, register_setRegister, Function.update_apply]
  by_cases here : s = r
  · rw [if_pos here, if_pos here.symm]
  · rw [if_neg here, if_neg fun there => here there.symm]
    rfl

theorem contents_setFlag (bit : Bool) :
    (m.setFlag bit).contents = Function.update m.contents flagRegister (if bit then 1 else 0) := by
  rw [setFlag, contents_setRegister]
  cases bit <;> rfl

/-! ## One instruction -/

/-- An operation on two registers has the effect of the word with its digit. -/
theorem combined_alu (op : Alu) (x y : Nibble) :
    m.contents.combined x y op.digit = some (m.alu op x y).contents := by
  cases op with
  | load =>
    change some _ = some (m.setRegister x (m.register y)).contents
    rw [contents_setRegister]
    rfl
  | or =>
    change some _ = some (m.setRegister x (m.register x ||| m.register y)).contents
    rw [contents_setRegister, Byte.toNat_or_eq]
    rfl
  | and =>
    change some _ = some (m.setRegister x (m.register x &&& m.register y)).contents
    rw [contents_setRegister, Byte.toNat_and_eq]
    rfl
  | xor =>
    change some _ = some (m.setRegister x (m.register x ^^^ m.register y)).contents
    rw [contents_setRegister, Byte.toNat_xor_eq]
    rfl
  | add =>
    change some _ = some ((m.setRegister x (m.register x + m.register y)).setFlag
      (decide (255 < (m.register x).toNat + (m.register y).toNat))).contents
    rw [contents_setFlag, contents_setRegister, Byte.toNat_add_eq, Byte.carry_eq]
    rfl
  | sub =>
    change some _ = some ((m.setFlag (decide (m.register y ≤ m.register x))).setRegister x
      (m.register x - m.register y)).contents
    rw [contents_setRegister, contents_setFlag, Byte.toNat_sub_eq, Byte.noBorrow_eq]
    rfl
  | subFrom =>
    change some _ = some ((m.setFlag (decide (m.register x ≤ m.register y))).setRegister x
      (m.register y - m.register x)).contents
    rw [contents_setRegister, contents_setFlag, Byte.toNat_sub_eq, Byte.noBorrow_eq]
    rfl

/-- Performing an instruction changes registers alone and leaves the given contents. -/
def Leaves (m : Machine) (i : Instruction) (contents : Contents) : Prop :=
  ∃ m', (∀ reading source, m.perform reading source i = some (m', source)) ∧
    m' = { m with registers := m'.registers } ∧ m'.contents = contents

theorem leaves_alu (op : Alu) (x y : Nibble) {contents : Contents}
    (combined : m.contents.combined x y op.digit = some contents) :
    m.Leaves (.alu op x y) contents := by
  rw [combined_alu] at combined
  refine ⟨m.alu op x y, fun _ _ => rfl, ?_, Option.some.inj combined⟩
  cases op <;> rfl

theorem leaves_shiftRight (x y : Nibble) {contents : Contents}
    (combined : m.contents.combined x y 0x6 = some contents) :
    m.Leaves (.shiftRight x) contents := by
  refine ⟨_, fun _ _ => rfl, rfl, Option.some.inj (Eq.trans ?_ combined)⟩
  rw [contents_setRegister, contents_setFlag, Byte.toNat_shiftRight_eq, Byte.low_eq]
  rfl

theorem leaves_shiftLeft (x y : Nibble) {contents : Contents}
    (combined : m.contents.combined x y 0xE = some contents) :
    m.Leaves (.shiftLeft x) contents := by
  refine ⟨_, fun _ _ => rfl, rfl, Option.some.inj (Eq.trans ?_ combined)⟩
  rw [contents_setRegister, contents_setFlag, Byte.toNat_shiftLeft_eq, Byte.high_eq]
  rfl

/-- Every word of family `8` with an effect on the contents encodes an instruction that has it. -/
theorem exists_leaves {x y n : Nibble} {contents : Contents}
    (combined : m.contents.combined x y n = some contents) :
    ∃ i, (Word.ofDigits 0x8 x y n).Encodes i ∧ m.Leaves i contents := by
  have encodes (op : Alu) : (Word.ofDigits 0x8 x y op.digit).Encodes (.alu op x y) := by
    simp [Word.Encodes]
  unfold Contents.combined at combined
  split at combined
  case h_1 => exact ⟨_, encodes .load, m.leaves_alu .load x y combined⟩
  case h_2 => exact ⟨_, encodes .or, m.leaves_alu .or x y combined⟩
  case h_3 => exact ⟨_, encodes .and, m.leaves_alu .and x y combined⟩
  case h_4 => exact ⟨_, encodes .xor, m.leaves_alu .xor x y combined⟩
  case h_5 => exact ⟨_, encodes .add, m.leaves_alu .add x y combined⟩
  case h_6 => exact ⟨_, encodes .sub, m.leaves_alu .sub x y combined⟩
  case h_7 => exact ⟨_, by simp [Word.Encodes], m.leaves_shiftRight x y combined⟩
  case h_8 => exact ⟨_, encodes .subFrom, m.leaves_alu .subFrom x y combined⟩
  case h_9 => exact ⟨_, by simp [Word.Encodes], m.leaves_shiftLeft x y combined⟩
  case h_10 => contradiction

/-- Executing a word of family `8` with an effect on the contents has that effect alone. -/
theorem exists_execute_combined {x y n : Nibble} {contents : Contents}
    (combined : m.contents.combined x y n = some contents) (reading : Option Int)
    (source : Random.Source) (pc : Int) :
    ∃ m', m.execute (Word.ofDigits 0x8 x y n).toNat reading source pc = .ok (m', source) ∧
      m' = { m with registers := m'.registers } ∧ m'.contents = contents := by
  obtain ⟨i, encoded, m', performed, rest, left⟩ := m.exists_leaves combined
  exact ⟨m', execute_of_encodes pc encoded (performed reading source), rest, left⟩

end

/-- The words `8xyn` change the contents of registers as `Contents.combined` says and nothing else.
Unless `x` is the flag register, an addition leaves the whole sum in the flag and `x` together, and
a subtraction leaves the exact difference, of which the flag tells the borrow. -/
theorem execute_combined (m : Machine) (x y : Nibble) (reading : Option Int)
    (source : Random.Source) (pc : Int) :
    (∀ n contents, m.contents.combined x y n = some contents →
      ∃ m', m.execute (Word.ofDigits 0x8 x y n).toNat reading source pc = .ok (m', source) ∧
        m' = { m with registers := m'.registers } ∧ m'.contents = contents) ∧
      (x ≠ flagRegister →
        (∃ m', m.execute (Word.ofDigits 0x8 x y 0x4).toNat reading source pc = .ok (m', source) ∧
          256 * m'.contents flagRegister + m'.contents x = m.contents x + m.contents y) ∧
        ∃ m', m.execute (Word.ofDigits 0x8 x y 0x5).toNat reading source pc = .ok (m', source) ∧
          m'.contents x - 256 * (1 - m'.contents flagRegister) =
            m.contents x - m.contents y) := by
  have byte (r : Nibble) : 0 ≤ m.contents r ∧ m.contents r < 256 := by
    have := (m.register r).isLt
    rw [contents]
    omega
  have := byte x
  have := byte y
  refine ⟨fun n contents combined => m.exists_execute_combined combined reading source pc, ?_⟩
  intro other
  constructor
  · obtain ⟨m', executed, -, left⟩ := m.exists_execute_combined
      (x := x) (y := y) (n := 0x4) rfl reading source pc
    refine ⟨m', executed, ?_⟩
    rw [left, Function.update_self, Function.update_of_ne other, Function.update_self]
    split <;> omega
  · obtain ⟨m', executed, -, left⟩ := m.exists_execute_combined
      (x := x) (y := y) (n := 0x5) rfl reading source pc
    refine ⟨m', executed, ?_⟩
    rw [left, Function.update_self, Function.update_of_ne other.symm, Function.update_self]
    split <;> omega

/-- A machine with a great number in the flag register and zero in the others. -/
def flagged : Machine :=
  (Machine.powerOn (.blank .standard) (.dark .standard) (.released .hex)).setRegister 0xF 200

/-- In the flag register itself an addition leaves the carry and a shift the result. A difference
below zero is borrowed for. -/
theorem execute_combined_flagged :
    (∃ m', flagged.execute 0x8FF4 none .silent 0x200 = .ok (m', .silent) ∧ m'.contents 0xF = 1) ∧
      (∃ m', flagged.execute 0x8FFE none .silent 0x200 = .ok (m', .silent) ∧
        m'.contents 0xF = 144) ∧
      ∃ m', flagged.execute 0x80F5 none .silent 0x200 = .ok (m', .silent) ∧
        m'.contents 0x0 - 256 * (1 - m'.contents 0xF) = -200 := by
  have combined := (execute_combined flagged 0xF 0xF none .silent 0x200).1
  have borrowed := (execute_combined flagged 0x0 0xF none .silent 0x200).2 (by decide)
  obtain ⟨added, executed, -, sum⟩ := combined 0x4 _ rfl
  obtain ⟨shifted, executed', -, double⟩ := combined 0xE _ rfl
  obtain ⟨-, subtracted, executed'', difference⟩ := borrowed
  refine ⟨⟨added, executed, ?_⟩, ⟨shifted, executed', ?_⟩, subtracted, executed'', difference⟩
  · rw [sum]
    decide
  · rw [double]
    decide

end Machine

end Chip8
