import Chip8.Machine.Execute
import Chip8.Proofs.IntMachine.Draw
import Chip8.Proofs.Machine.Registers
import Chip8.Proofs.Memory.Block

/-!
# Families of instructions over the integers

Each family of words, run on the numbers of a machine, comes to the numbers of the machine that the
decoded instruction leaves, or is refused with the fault of a word that has no meaning.
-/

namespace Chip8

/-- What a machine over the integers answers to a word: the numbers of the machine that the decoded
instruction leaves, or the fault with which it is refused. -/
def Machine.answer (m : Machine) (word : Int) (reading : Option Int) (source : Random.Source)
    (pc : Int) (decoded : Option Instruction) : EStateM.Result Refusal IntMachine Unit :=
  match decoded with
  | none => .error (.fault (.invalidOpcode word (some pc))) m.numbers
  | some i =>
    match m.perform reading source i with
    | none => .error (.fault (.emptyStack (some pc))) m.numbers
    | some (m', _) => .ok () m'.numbers

namespace IntMachine

/-! ## Digits of an integer word -/

section

variable (word : Int)

/-- A field of the word that an integer reduces to is found in the integer by division. -/
theorem field_eq {start length : Nat} (h : start + length ≤ 16) :
    word / 2 ^ start % 2 ^ length =
      (((BitVec.ofInt 16 word).extractLsb' start length).toNat : Int) := by
  have whole : (2 : Int) ^ 16 = 2 ^ start * (2 ^ length * 2 ^ (16 - start - length)) := by
    rw [← pow_add, ← pow_add]
    congr 1
    omega
  have value : word = (BitVec.ofInt 16 word).toNat +
      2 ^ start * (2 ^ length * (2 ^ (16 - start - length) * (word / 2 ^ 16))) := by
    rw [← mul_assoc (2 ^ length), ← mul_assoc, ← whole, BitVec.toNat_ofInt]
    omega
  rw [BitVec.extractLsb'_toNat, Nat.shiftRight_eq_div_pow]
  -- the part of the integer above the word is a multiple of both divisors
  conv_lhs =>
    rw [value, Int.add_mul_ediv_left _ _ (pow_ne_zero _ two_ne_zero), Int.add_mul_emod_self_left]
  norm_cast

theorem family_eq : word / 4096 % 16 = ((Word.family (.ofInt 16 word)).toNat : Int) :=
  field_eq word (show 12 + 4 ≤ 16 by decide)

theorem x_eq : word / 256 % 16 = ((Word.x (.ofInt 16 word)).toNat : Int) :=
  field_eq word (show 8 + 4 ≤ 16 by decide)

theorem y_eq : word / 16 % 16 = ((Word.y (.ofInt 16 word)).toNat : Int) :=
  field_eq word (show 4 + 4 ≤ 16 by decide)

theorem n_eq : word % 16 = ((Word.n (.ofInt 16 word)).toNat : Int) := by
  have field := field_eq word (show 0 + 4 ≤ 16 by decide)
  rwa [pow_zero, Int.ediv_one] at field

theorem nn_eq : word % 256 = ((Word.nn (.ofInt 16 word)).toNat : Int) := by
  have field := field_eq word (show 0 + 8 ≤ 16 by decide)
  rwa [pow_zero, Int.ediv_one] at field

theorem nnn_eq : word % 4096 = ((Word.nnn (.ofInt 16 word)).toNat : Int) := by
  have field := field_eq word (show 0 + 12 ≤ 16 by decide)
  rwa [pow_zero, Int.ediv_one] at field

end

/-! ## Results of arithmetic -/

/-- The bits of an integer under a mask are those of the word that it reduces to, if no bit of the
mask lies above that word. -/
theorem land_natCast (v : Int) {width mask : Nat} (h : mask < 2 ^ width) :
    Int.land v mask = ((BitVec.ofInt width v).toNat &&& mask : Nat) := by
  have above (i : Nat) (hi : ¬ i < width) : mask.testBit i = false := by
    have power : 2 ^ width ≤ 2 ^ i := Nat.pow_le_pow_right (by decide) (Nat.not_lt.mp hi)
    exact Nat.testBit_lt_two_pow (Nat.lt_of_lt_of_le h power)
  cases v with
  | ofNat n =>
    have folded : Int.land (Int.ofNat n) mask = (n &&& mask : Nat) := rfl
    rw [folded]
    congr 1
    apply Nat.eq_of_testBit_eq
    intro i
    rw [Nat.testBit_and, Nat.testBit_and, BitVec.testBit_toNat, Int.ofNat_eq_natCast,
      BitVec.ofInt_natCast, BitVec.getLsbD_ofNat]
    by_cases hi : i < width <;> simp [hi, above]
  | negSucc n =>
    have folded : Int.land (Int.negSucc n) mask = (Nat.ldiff mask n : Nat) := rfl
    rw [folded, BitVec.ofInt_negSucc_eq_not_ofNat]
    congr 1
    apply Nat.eq_of_testBit_eq
    intro i
    rw [Nat.testBit_ldiff, Nat.testBit_and, BitVec.testBit_toNat, BitVec.getLsbD_not,
      BitVec.getLsbD_ofNat]
    by_cases hi : i < width <;> simp [hi, above, Bool.and_comm]

section

variable (a b : Byte)

theorem ofInt_toNat : BitVec.ofInt 8 a.toNat = a := by
  rw [BitVec.ofInt_natCast, BitVec.ofNat_toNat, BitVec.setWidth_eq]

theorem ofInt_lor : BitVec.ofInt 8 (Int.lor a.toNat b.toNat) = a ||| b := by
  change BitVec.ofInt 8 (a.toNat ||| b.toNat : Nat) = _
  rw [← BitVec.toNat_or, ofInt_toNat]

/-- The mask may be applied to any integer, since a byte has no bits above its own. -/
theorem ofInt_land (v : Int) : BitVec.ofInt 8 (Int.land v b.toNat) = BitVec.ofInt 8 v &&& b := by
  rw [land_natCast v b.isLt, ← BitVec.toNat_and, ofInt_toNat]

theorem ofInt_xor : BitVec.ofInt 8 (Int.xor a.toNat b.toNat) = a ^^^ b := by
  change BitVec.ofInt 8 (a.toNat ^^^ b.toNat : Nat) = _
  rw [← BitVec.toNat_xor, ofInt_toNat]

theorem ofInt_add : BitVec.ofInt 8 (a.toNat + b.toNat) = a + b := by
  rw [BitVec.ofInt_add, ofInt_toNat, ofInt_toNat]

theorem ofInt_sub : BitVec.ofInt 8 (a.toNat - b.toNat) = a - b := by
  apply BitVec.eq_of_toNat_eq
  rw [BitVec.toNat_ofInt, BitVec.toNat_sub]
  omega

theorem ofInt_div_two : BitVec.ofInt 8 (a.toNat / 2) = a >>> 1 := by
  apply BitVec.eq_of_toNat_eq
  rw [BitVec.toNat_ofInt, BitVec.toNat_ushiftRight, Nat.shiftRight_eq_div_pow]
  omega

theorem ofInt_two_mul : BitVec.ofInt 8 (2 * a.toNat) = a <<< 1 := by
  apply BitVec.eq_of_toNat_eq
  rw [BitVec.toNat_ofInt, BitVec.toNat_shiftLeft, Nat.shiftLeft_eq]
  omega

end

end IntMachine

namespace Machine

variable (m : Machine) (a b : Byte)

theorem putFlag_of_eq {v : Int} {bit : Bool} (h : v = if bit then 1 else 0) :
    m.putFlag v = m.setFlag bit := by
  subst h
  cases bit <;> rfl

theorem putFlag_carry :
    m.putFlag (if 255 < (a.toNat : Int) + b.toNat then 1 else 0) =
      m.setFlag (decide (255 < a.toNat + b.toNat)) := by
  apply putFlag_of_eq
  simp only [decide_eq_true_eq]
  split <;> split <;> omega

theorem putFlag_borrow :
    m.putFlag (if a.toNat < b.toNat then 0 else 1) = m.setFlag (decide (b ≤ a)) := by
  apply putFlag_of_eq
  simp only [decide_eq_true_eq, BitVec.le_def]
  split <;> split <;> omega

theorem putFlag_low : m.putFlag (a.toNat % 2) = m.setFlag a[0] := by
  apply putFlag_of_eq
  rw [BitVec.getElem_eq_testBit_toNat, Nat.testBit_zero]
  simp only [decide_eq_true_eq]
  split <;> omega

theorem putFlag_high : m.putFlag (a.toNat / 128 % 2) = m.setFlag a.msb := by
  apply putFlag_of_eq
  rw [BitVec.msb_eq_decide]
  simp only [decide_eq_true_eq]
  have := a.isLt
  split <;> omega

theorem setIndex_add :
    m.setIndex (m.index.toNat + a.toNat) = { m with index := m.index + a.setWidth 16 } := by
  have e : BitVec.ofInt 16 (m.index.toNat + a.toNat) = m.index + a.setWidth 16 := by
    rw [BitVec.ofInt_add, BitVec.ofInt_natCast, BitVec.ofInt_natCast, BitVec.ofNat_toNat,
      BitVec.ofNat_toNat, BitVec.setWidth_eq]
  rw [setIndex, e]

theorem writeBytes_index (bytes : List Byte) :
    m.memory.writeBytes m.index.toNat (bytes.map fun b => (b.toNat : Int)) =
      m.memory.writeBlock m.indexAddress bytes := by
  have same : (fun b : Byte => BitVec.ofInt 8 (b.toNat : Int)) = id :=
    funext IntMachine.ofInt_toNat
  simp only [Memory.writeBytes, ofInt_index, List.map_map, Function.comp_def, same, List.map_id]

theorem writeBytes_decimalDigits :
    m.memory.writeBytes m.index.toNat ((Text.decimalDigits a.toNat).map Nat.cast) =
      m.memory.writeBlock m.indexAddress ((Text.digits 10 a.toNat).map (.ofNat 8)) := by
  have digits : Text.decimalDigits a.toNat = Text.digits 10 a.toNat := by
    rw [Text.decimalDigits, if_neg (by omega), Int.toNat_natCast]
  simp only [Memory.writeBytes, ofInt_index, digits, List.map_map]
  rfl

/-- Registers are loaded from the block that begins at the index register. -/
theorem loadRegisters_eq (last : Nibble) :
    m.loadRegisters last =
      m.withRegisters 0 (m.memory.readBlock m.indexAddress (last.toNat + 1)) := by
  have same (r : Fin 16) :
      (if r.val ≤ last.toNat then m.memory.get (m.indexAddress + .ofNat 12 r.val)
        else m.registers[r]) =
      if 0 ≤ r.val then
        (m.memory.readBlock m.indexAddress (last.toNat + 1))[r.val - 0]?.getD m.registers[r]
      else m.registers[r] := by
    rw [if_pos (Nat.zero_le _), Nat.sub_zero, Memory.getElem?_readBlock]
    by_cases h : r.val ≤ last.toNat
    · rw [if_pos h, if_pos (by omega), Option.getD_some]
    · rw [if_neg h, if_neg (by omega), Option.getD_none]
  simp only [loadRegisters, withRegisters_eq, same]

end Machine

theorem Timer.ofInt_toNat (b : Byte) : Timer.ofInt b.toNat = ⟨b⟩ := by
  rw [Timer.ofInt, IntMachine.ofInt_toNat]

theorem Memory.glyphAddress_toNat (m : Memory) (b : Byte) :
    m.glyphAddress b.toNat = m.layout.fontAddress + b.toNat % 16 * 5 := by
  have e : ((BitVec.ofInt 4 b.toNat).toNat : Int) = b.toNat % 16 := by
    rw [BitVec.toNat_ofInt]
    omega
  rw [glyphAddress, e, Int.mul_comm]
  rfl

namespace IntMachine

variable (m : Machine)

@[simp]
theorem run_skipIf (condition : Bool) :
    (skipIf condition).run m.numbers = .ok () (m.skipIf condition).numbers := by
  cases condition with
  | true => exact run_advancePc m
  | false => rfl

/-! ## Bulk transfers of registers -/

theorem run_getRegister_of_lt {index : Nat} (h : index < 16) :
    (getRegister index).run m.numbers = .ok (m.registers[index].toNat : Int) m.numbers := by
  have name : (BitVec.ofNat 4 index).toNat = index := by
    rw [BitVec.toNat_ofNat, Nat.mod_eq_of_lt h]
  have ran := run_getRegister m (.ofNat 4 index)
  simpa only [name, Machine.register] using ran

theorem run_getRegisters {index count : Nat} (h : index + count ≤ 16) :
    (getRegisters index count).run m.numbers =
      .ok (((m.registers.toList.drop index).take count).map fun b => (b.toNat : Int))
        m.numbers := by
  induction count generalizing index with
  | zero => simp [getRegisters]
  | succ count ih =>
    have next : (index : Int) + 1 = (index + 1 : Nat) := rfl
    have length_eq : m.registers.toList.length = 16 := Vector.length_toList
    have first : m.registers.toList.drop index =
        m.registers[index] :: m.registers.toList.drop (index + 1) := by
      rw [List.drop_eq_getElem_cons (by omega), Vector.getElem_toList]
    simp only [getRegisters, EStateM.run_bind, run_getRegister_of_lt m (show index < 16 by omega),
      next, ih (show index + 1 + count ≤ 16 by omega), EStateM.run_pure, first,
      List.take_succ_cons, List.map_cons]

theorem run_setRegisters {index : Nat} {bytes : List Byte} (h : index + bytes.length ≤ 16) :
    (setRegisters index (bytes.map fun b => (b.toNat : Int))).run m.numbers =
      .ok () (m.withRegisters index bytes).numbers := by
  induction bytes generalizing m index with
  | nil =>
    rw [Machine.withRegisters_nil]
    rfl
  | cons b bytes ih =>
    simp only [List.length_cons] at h
    have name : (BitVec.ofNat 4 index).toNat = index := by
      rw [BitVec.toNat_ofNat, Nat.mod_eq_of_lt (by omega)]
    have first := run_setRegister m (.ofNat 4 index) b.toNat
    have stored := m.withRegisters_cons (r := .ofNat 4 index) b bytes
    rw [name] at first stored
    rw [ofInt_toNat] at first
    have next : (index : Int) + 1 = (index + 1 : Nat) := rfl
    simp only [List.map_cons, setRegisters, EStateM.run_bind, first, next,
      ih _ (show index + 1 + bytes.length ≤ 16 by omega), stored]

/-! ## Families -/

variable (word : Int) (reading : Option Int) (source : Random.Source) (pc : Int)

theorem run_executeZero (h : Word.family (.ofInt 16 word) = 0x0#4) :
    (executeZero word pc).run m.numbers =
      m.answer word reading source pc (Instruction.decode (.ofInt 16 word)) := by
  generalize ran : (executeZero word pc).run m.numbers = result
  simp only [executeZero, nn_eq, Int.toNat_natCast] at ran
  simp only [Instruction.decode, h]
  split
  case h_1 h => simp [← ran, h, Machine.answer, Machine.perform]
  case h_2 h =>
    cases stack : m.stack with
    | nil => simp [← ran, h, Machine.answer, Machine.perform, stack]
    | cons top rest =>
      have target : BitVec.ofInt 12 top.toNat = top.setWidth 12 := by
        rw [BitVec.ofInt_natCast, BitVec.ofNat_toNat]
      simp [← ran, h, Machine.answer, Machine.perform, stack, run_pop, Machine.pop, Machine.setPc,
        Machine.jump, target]
  case h_3 =>
    rw [← ran]
    split
    case h_3 => rfl
    all_goals simp_all [imp_false, ← BitVec.toNat_inj]

theorem run_executeAlu :
    (executeAlu word pc).run m.numbers =
      m.answer word reading source pc (Instruction.decodeAlu (.ofInt 16 word)) := by
  generalize ran : (executeAlu word pc).run m.numbers = result
  simp only [executeAlu, x_eq word, y_eq word, n_eq word, Int.toNat_natCast, EStateM.run_bind,
    run_getRegister] at ran
  rw [Instruction.decodeAlu]
  generalize Word.x (.ofInt 16 word) = x at *
  generalize Word.y (.ofInt 16 word) = y at *
  split
  case h_1 h => simp [← ran, h, Machine.answer, Machine.perform, Machine.alu, Alu.apply]
  case h_2 h => simp [← ran, h, Machine.answer, Machine.perform, Machine.alu, Alu.apply, ofInt_lor]
  case h_3 h => simp [← ran, h, Machine.answer, Machine.perform, Machine.alu, Alu.apply, ofInt_land]
  case h_4 h => simp [← ran, h, Machine.answer, Machine.perform, Machine.alu, Alu.apply, ofInt_xor]
  case h_5 h =>
    simp [← ran, h, Machine.answer, Machine.perform, Machine.alu, Alu.apply, ofInt_add,
      Machine.putFlag_carry]
  case h_6 h =>
    simp [← ran, h, Machine.answer, Machine.perform, Machine.alu, Alu.apply, ofInt_sub,
      Machine.putFlag_borrow]
  case h_7 h =>
    simp [← ran, h, Machine.answer, Machine.perform, ofInt_div_two, Machine.putFlag_low]
  case h_8 h =>
    simp [← ran, h, Machine.answer, Machine.perform, Machine.alu, Alu.apply, ofInt_sub,
      Machine.putFlag_borrow]
  case h_9 h =>
    simp [← ran, h, Machine.answer, Machine.perform, ofInt_two_mul, Machine.putFlag_high]
  case h_10 =>
    rw [← ran]
    split
    case h_10 => rfl
    all_goals simp_all [imp_false, ← BitVec.toNat_inj]

theorem run_executeKey (h : Word.family (.ofInt 16 word) = 0xE#4) :
    (executeKey word reading pc).run m.numbers =
      m.answer word reading source pc (Instruction.decode (.ofInt 16 word)) := by
  generalize ran : (executeKey word reading pc).run m.numbers = result
  simp only [executeKey, x_eq word, nn_eq, Int.toNat_natCast, EStateM.run_bind,
    run_getRegister] at ran
  simp only [Instruction.decode, h]
  split
  case h_1 h => simp [← ran, h, Machine.answer, Machine.perform]
  case h_2 h => simp [← ran, h, Machine.answer, Machine.perform]
  case h_3 =>
    rw [← ran]
    split
    case h_3 => rfl
    all_goals simp_all [imp_false, ← BitVec.toNat_inj]

theorem run_executeMisc :
    (executeMisc word reading pc).run m.numbers =
      m.answer word reading source pc (Instruction.decodeMisc (.ofInt 16 word)) := by
  generalize ran : (executeMisc word reading pc).run m.numbers = result
  simp only [executeMisc, x_eq word, nn_eq, Int.toNat_natCast] at ran
  rw [Instruction.decodeMisc]
  generalize Word.x (.ofInt 16 word) = x at *
  split
  case h_1 h => simp [← ran, h, Machine.answer, Machine.perform]
  case h_2 h =>
    cases reading with
    | none => simp [← ran, h, Machine.answer, Machine.perform]
    | some key => simp [← ran, h, Machine.answer, Machine.perform]
  case h_3 h => simp [← ran, h, Machine.answer, Machine.perform, Timer.ofInt_toNat]
  case h_4 h => simp [← ran, h, Machine.answer, Machine.perform, Timer.ofInt_toNat]
  case h_5 h => simp [← ran, h, Machine.answer, Machine.perform, Machine.setIndex_add]
  case h_6 h => simp [← ran, h, Machine.answer, Machine.perform, Memory.glyphAddress_toNat]
  case h_7 h =>
    simp [← ran, h, Machine.answer, Machine.perform, Machine.writeBytes_decimalDigits,
      Machine.storeDecimal]
  case h_8 h =>
    have first := run_getRegisters m (show 0 + (x.toNat + 1) ≤ 16 by omega)
    simp only [List.drop_zero, Int.natCast_zero] at first
    simp [← ran, h, Machine.answer, Machine.perform, first, Machine.writeBytes_index,
      Machine.storeRegisters, - List.map_take]
  case h_9 h =>
    have count : ((x.toNat : Int) + 1).toNat = x.toNat + 1 := rfl
    have fits : 0 + (m.memory.readBlock m.indexAddress (x.toNat + 1)).length ≤ 16 := by
      rw [Memory.length_readBlock]
      omega
    have last := run_setRegisters m fits
    simp only [Int.natCast_zero] at last
    simp only [h, BitVec.reduceToNat, EStateM.run_bind, EStateM.run_get, Machine.numbers_index,
      count, run_readBytes, Machine.ofInt_index, last] at ran
    simp only [← ran, Machine.answer, Machine.perform, Machine.loadRegisters_eq]
  case h_10 =>
    rw [← ran]
    split
    case h_10 => rfl
    all_goals simp_all [imp_false, ← BitVec.toNat_inj]

end IntMachine

end Chip8
