import Chip8.Proofs.Machine.Footprint

/-!
# Registers in memory

`F?55` stores registers in memory and `F?65` loads them, both from the index register on. The cells
they touch are told apart by their distance from it, also where addresses wrap, since there are far
fewer registers than addresses. So what was stored is loaded again, whatever became of the registers
in between, and what was loaded is already in the cells that a store would write.
-/

namespace Chip8

namespace Machine

variable (m : Machine) (last : Nibble)

/-- The addresses from the index register on wrap. -/
theorem toNat_indexAddress_add (k : Nat) :
    (m.indexAddress + .ofNat 12 k).toNat = (m.index.toNat + k) % 4096 := by
  rw [BitVec.toNat_add, indexAddress, BitVec.toNat_setWidth, BitVec.toNat_ofNat]
  omega

/-! ## Storing -/

/-- A block that is stored from the index register on is found there. -/
theorem getElem?_writeBlock_index (bytes : List Byte) (fits : bytes.length ≤ 4096) {k : Nat}
    (hk : k < bytes.length) :
    (m.memory.writeBlock m.indexAddress bytes).cells[(m.index.toNat + k) % 4096]? =
      some bytes[k] := by
  rw [← m.toNat_indexAddress_add k, Memory.getElem?_cells_toNat,
    m.memory.get_writeBlock m.indexAddress bytes fits hk]

/-- The cells at the index register hold the registers in order. -/
theorem getElem?_storeRegisters_of_le {r : Nibble} (h : r.toNat ≤ last.toNat) :
    (m.storeRegisters last).memory.cells[(m.index.toNat + r.toNat) % 4096]? =
      some (m.register r) := by
  have := last.isLt
  have := r.isLt
  have count : (m.registers.toList.take (last.toNat + 1)).length = last.toNat + 1 := by
    rw [List.length_take, Vector.length_toList]
    omega
  have stored := m.getElem?_writeBlock_index (m.registers.toList.take (last.toNat + 1))
    (by omega) (k := r.toNat) (by omega)
  refine Eq.trans stored (congrArg some ?_)
  rw [List.getElem_take, Vector.getElem_toList]
  rfl

/-! ## Loading -/

@[simp]
theorem memory_loadRegisters : (m.loadRegisters last).memory = m.memory := by
  rw [loadRegisters]

@[simp]
theorem indexAddress_loadRegisters : (m.loadRegisters last).indexAddress = m.indexAddress := by
  rw [indexAddress, loadRegisters, indexAddress]

/-- A register that is loaded holds the byte of its cell. -/
theorem register_loadRegisters_of_le {r : Nibble} (h : r.toNat ≤ last.toNat) :
    (m.loadRegisters last).register r = m.memory.get (m.indexAddress + .ofNat 12 r.toNat) := by
  simp only [loadRegisters, register, Vector.getElem_ofFn, if_pos h]

theorem getElem?_loadRegisters {r : Nibble} (h : r.toNat ≤ last.toNat) :
    m.memory.cells[(m.index.toNat + r.toNat) % 4096]? =
      some ((m.loadRegisters last).register r) := by
  rw [← m.toNat_indexAddress_add r.toNat, Memory.getElem?_cells_toNat,
    m.register_loadRegisters_of_le last h]

/-- The registers that are loaded hold, in order, the block at the index register. -/
theorem take_registers_loadRegisters :
    (m.loadRegisters last).registers.toList.take (last.toNat + 1) =
      m.memory.readBlock m.indexAddress (last.toNat + 1) := by
  have := last.isLt
  apply List.ext_getElem?
  intro k
  rw [List.getElem?_take, Memory.getElem?_readBlock]
  by_cases hk : k < last.toNat + 1
  · rw [if_pos hk, if_pos hk, List.getElem?_eq_getElem (by rw [Vector.length_toList]; omega)]
    simp only [loadRegisters, Vector.getElem_toList, Vector.getElem_ofFn]
    rw [if_pos (by omega)]
  · rw [if_neg hk, if_neg hk]

/-- What was loaded is in memory already. -/
theorem storeRegisters_loadRegisters :
    (m.loadRegisters last).storeRegisters last = m.loadRegisters last := by
  rw [storeRegisters, take_registers_loadRegisters, memory_loadRegisters,
    indexAddress_loadRegisters, Memory.writeBlock_readBlock, ← m.memory_loadRegisters last]

/-! ## The words -/

section

variable (x : Nibble) (reading : Option Int) (source : Random.Source) (pc : Int)

theorem execute_storeRegisters :
    m.execute (Word.ofDigits 0xF x 0x5 0x5).toNat reading source pc =
      .ok (m.storeRegisters x, source) := by
  apply execute_of_encodes pc (i := .storeRegisters x) _ rfl
  simp [Word.Encodes]

theorem execute_loadRegisters :
    m.execute (Word.ofDigits 0xF x 0x6 0x5).toNat reading source pc =
      .ok (m.loadRegisters x, source) := by
  apply execute_of_encodes pc (i := .loadRegisters x) _ rfl
  simp [Word.Encodes]

end

/-- `F?55` writes the registers up to `VX` to the cells from the index register on, in order and with
addresses that wrap, and changes nothing else. With that memory and that index, `F?65` gives any
machine these registers and leaves the others alone. The other way round, a store after a load of
the same registers changes nothing at all. -/
theorem transfer_roundTrip (m : Machine) (x : Nibble) (reading : Option Int)
    (source : Random.Source) (pc : Int) :
    let storing : Int := (Word.ofDigits 0xF x 0x5 0x5).toNat
    let loading : Int := (Word.ofDigits 0xF x 0x6 0x5).toNat
    (∃ stored, m.execute storing reading source pc = .ok (stored, source) ∧
      stored = { m with memory := stored.memory } ∧
      stored.memory.layout = m.memory.layout ∧
      (∀ r : Nibble, r.toNat ≤ x.toNat →
        stored.memory.cells[(m.index.toNat + r.toNat) % 4096]? = some (m.register r)) ∧
      (∀ cell, (∀ k ≤ x.toNat, cell ≠ (m.index.toNat + k) % 4096) →
        stored.memory.cells[cell]? = m.memory.cells[cell]?) ∧
      ∀ (other : Machine) (reading' : Option Int) (source' : Random.Source) (pc' : Int),
        let resumed := { other with memory := stored.memory, index := m.index }
        ∃ restored, resumed.execute loading reading' source' pc' = .ok (restored, source') ∧
          restored = { resumed with registers := restored.registers } ∧
          ∀ r, restored.register r =
            if r.toNat ≤ x.toNat then m.register r else other.register r) ∧
      ∃ loaded, m.execute loading reading source pc = .ok (loaded, source) ∧
        loaded = { m with registers := loaded.registers } ∧
        (∀ r : Nibble, r.toNat ≤ x.toNat →
          m.memory.cells[(m.index.toNat + r.toNat) % 4096]? = some (loaded.register r)) ∧
        (∀ r : Nibble, ¬ r.toNat ≤ x.toNat → loaded.register r = m.register r) ∧
        ∀ (reading' : Option Int) (source' : Random.Source) (pc' : Int),
          loaded.execute storing reading' source' pc' = .ok (loaded, source') := by
  intro storing loading
  constructor
  · refine ⟨m.storeRegisters x, m.execute_storeRegisters x reading source pc, rfl,
      m.memory.layout_writeBlock _ _, fun r => m.getElem?_storeRegisters_of_le x,
      fun cell => m.getElem?_storeRegisters x, ?_⟩
    intro other reading' source' pc' resumed
    refine ⟨resumed.loadRegisters x, resumed.execute_loadRegisters x reading' source' pc', rfl, ?_⟩
    intro r
    split
    case isTrue h =>
      have stored := m.getElem?_storeRegisters_of_le x h
      have found := resumed.getElem?_loadRegisters x h
      exact Option.some.inj (found.symm.trans stored)
    case isFalse h => exact resumed.register_loadRegisters h
  · refine ⟨m.loadRegisters x, m.execute_loadRegisters x reading source pc, rfl,
      fun r => m.getElem?_loadRegisters x, fun r => m.register_loadRegisters, ?_⟩
    intro reading' source' pc'
    rw [execute_storeRegisters, storeRegisters_loadRegisters]

end Machine

end Chip8
