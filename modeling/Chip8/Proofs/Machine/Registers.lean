import Chip8.Machine.Basic

/-!
# Registers of a machine

Numbers that name a register, what storing in one register leaves alone, bytes stored in registers
that follow one another, and the address that the index register holds.
-/

namespace Chip8.Machine

/-- A register has one of sixteen numbers. -/
theorem toNat_inside (r : Nibble) : (0 : Int) ≤ r.toNat ∧ (r.toNat : Int) < 16 := by
  have := r.isLt
  omega

/-- One of sixteen numbers is the number of its register. -/
theorem toNat_ofInt_of_inside {index : Int} (h : 0 ≤ index ∧ index < 16) :
    ((BitVec.ofInt 4 index).toNat : Int) = index := by
  rw [BitVec.toNat_ofInt]
  omega

/-- The number of a register names it. -/
@[simp]
theorem registerOf_toNat (r : Nibble) : registerOf r.toNat = .ok r := by
  rw [registerOf, if_pos (toNat_inside r), BitVec.ofInt_natCast, BitVec.ofNat_toNat,
    BitVec.setWidth_eq]

theorem register_setFlag (m : Machine) (bit : Bool) (s : Nibble) :
    (m.setFlag bit).register s =
      if flagRegister = s then (if bit then 1 else 0) else m.register s :=
  m.register_setRegister flagRegister s _

/-- The machine with bytes stored in the registers from one on. -/
def withRegisters (m : Machine) (index : Nat) (bytes : List Byte) : Machine :=
  { m with
    registers := Vector.ofFn fun r =>
      if index ≤ r.val then bytes[r.val - index]?.getD (m.registers.get r)
      else m.registers.get r }

theorem withRegisters_eq (m : Machine) (index : Nat) (bytes : List Byte) :
    m.withRegisters index bytes = { m with
      registers := Vector.ofFn fun r =>
        if index ≤ r.val then bytes[r.val - index]?.getD (getElem m.registers r r.isLt)
        else getElem m.registers r r.isLt } :=
  rfl

@[simp]
theorem withRegisters_nil (m : Machine) (index : Nat) : m.withRegisters index [] = m := by
  simp [withRegisters_eq]

/-- The first byte may be stored on its own. -/
theorem withRegisters_cons (m : Machine) {r : Nibble} (b : Byte) (bytes : List Byte) :
    m.withRegisters r.toNat (b :: bytes) =
      (m.setRegister r b).withRegisters (r.toNat + 1) bytes := by
  suffices registers_eq : (m.withRegisters r.toNat (b :: bytes)).registers =
      ((m.setRegister r b).withRegisters (r.toNat + 1) bytes).registers by
    exact congrArg (fun registers => { m with registers := registers }) registers_eq
  ext s hs : 1
  simp only [withRegisters_eq, setRegister, Vector.getElem_ofFn, Fin.getElem_fin,
    Vector.getElem_set]
  rcases Nat.lt_trichotomy s r.toNat with before | here | after
  · simp [show ¬ r.toNat ≤ s by omega, show ¬ r.toNat + 1 ≤ s by omega,
      show r.toNat ≠ s by omega]
  · subst here
    simp [show ¬ r.toNat + 1 ≤ r.toNat by omega]
  · have shift : s - r.toNat = s - (r.toNat + 1) + 1 := by omega
    simp [show r.toNat ≤ s by omega, show r.toNat + 1 ≤ s by omega, show r.toNat ≠ s by omega,
      shift]

/-- The index register points at its own low bits. -/
theorem ofInt_index (m : Machine) : BitVec.ofInt 12 m.index.toNat = m.indexAddress := by
  rw [BitVec.ofInt_natCast, BitVec.ofNat_toNat]
  rfl

end Chip8.Machine
