import Chip8.Proofs.Machine.Transfer
import Mathlib.Data.List.Nodup

/-!
# A register in decimal

`F?33` stores the decimal digits of a register in memory, from the index register on. It stores as
many as the register has, which are three at most, so no two of them go to one cell, also where
addresses wrap, and the cell after the last digit keeps what it holds.
-/

namespace Chip8

namespace Text

theorem decimalDigits_natCast (v : Nat) : decimalDigits v = digits 10 v := by
  rw [decimalDigits, if_neg (by omega), Int.toNat_natCast]

theorem writes_decimalDigits_iff {v : Nat} {ds : List Nat} :
    ds = decimalDigits v ↔ Writes 10 ds v := by
  rw [decimalDigits_natCast, writes_iff (by decide)]

/-- A byte has one, two or three digits. -/
theorem length_decimalDigits (b : Byte) :
    (decimalDigits b.toNat).length =
      if b.toNat < 10 then 1 else if b.toNat < 100 then 2 else 3 := by
  rw [decimalDigits_natCast]
  have one := length_digits_le_iff (n := b.toNat) (show 1 < 10 by decide) 0
  have two := length_digits_le_iff (n := b.toNat) (show 1 < 10 by decide) 1
  have three := length_digits_le_iff (n := b.toNat) (show 1 < 10 by decide) 2
  have positive := List.length_pos_of_ne_nil (digits_ne_nil 10 b.toNat)
  have := b.isLt
  split
  · omega
  · split <;> omega

theorem length_decimalDigits_le (b : Byte) : (decimalDigits b.toNat).length ≤ 3 := by
  rw [length_decimalDigits]
  split
  · decide
  · split <;> decide

end Text

/-- The cells of a block of memory that is not longer than memory are all different. -/
theorem Memory.nodup_cells (start : Nat) {count : Nat} (h : count ≤ 4096) :
    ((List.range count).map fun k => (start + k) % 4096).Nodup := by
  refine List.Nodup.map_on ?_ List.nodup_range
  intro i hi j hj same
  rw [List.mem_range] at hi hj
  omega

namespace Machine

variable (m : Machine) (x : Nibble)

theorem execute_storeDecimal (reading : Option Int) (source : Random.Source) (pc : Int) :
    m.execute (Word.ofDigits 0xF x 0x3 0x3).toNat reading source pc =
      .ok (m.storeDecimal x, source) := by
  apply execute_of_encodes pc (i := .storeDecimal x) _ rfl
  simp [Word.Encodes]

section

variable {k : Nat} (hk : k < (Text.decimalDigits (m.register x).toNat).length)

/-- The cells at the index register hold the digits in order. -/
theorem getElem?_storeDecimal_of_lt :
    ∃ b, (m.storeDecimal x).memory.cells[(m.index.toNat + k) % 4096]? = some b ∧
      b.toNat = (Text.decimalDigits (m.register x).toNat)[k] := by
  have digit : (Text.decimalDigits (m.register x).toNat)[k] < 10 :=
    (Text.writes_decimalDigits_iff.mp rfl).lt _ (List.getElem_mem hk)
  have few := Text.length_decimalDigits_le (m.register x)
  simp only [Text.decimalDigits_natCast] at hk digit few ⊢
  have inside : k < ((Text.digits 10 (m.register x).toNat).map (BitVec.ofNat 8)).length := by
    rwa [List.length_map]
  refine ⟨_, m.getElem?_writeBlock_index _ ?_ inside, ?_⟩
  · rw [List.length_map]
    omega
  · rw [List.getElem_map, BitVec.toNat_ofNat]
    omega

end

/-- The decimal digits of a number are the one way to write it in base ten: some digits, the most
significant first, with the value of the number and without a zero in front, unless the number is
zero. Dividing by ten and keeping the remainders comes to an end with them. `F?33` stores those of
`VX` in the cells from the index register on, which are all different and are one, two or three
according to the size of `VX`, and changes nothing else. -/
theorem decimal_stored :
    (∀ (v : Nat) (ds : List Nat), ds = Text.decimalDigits v ↔ Text.Writes 10 ds v) ∧
      (∀ v : Nat, (Text.decimalDigits v).head? = some 0 ↔ v = 0) ∧
      (∀ v : Nat, 0 < v →
        (Text.divide 10)^[(Text.decimalDigits v).length] (v, []) =
            (0, (Text.decimalDigits v).reverse) ∧
          ∀ j < (Text.decimalDigits v).length, 0 < ((Text.divide 10)^[j] (v, [])).1) ∧
      ∀ (m : Machine) (x : Nibble) (reading : Option Int) (source : Random.Source) (pc : Int),
        let v := (m.register x).toNat
        let ds := Text.decimalDigits v
        let places := (List.range ds.length).map fun k => (m.index.toNat + k) % 4096
        ∃ m', m.execute (Word.ofDigits 0xF x 0x3 0x3).toNat reading source pc = .ok (m', source) ∧
          m' = { m with memory := m'.memory } ∧
          m'.memory.layout = m.memory.layout ∧
          (∀ k (hk : k < ds.length), ∃ b,
            m'.memory.cells[(m.index.toNat + k) % 4096]? = some b ∧ b.toNat = ds[k]) ∧
          (∀ cell, cell ∉ places → m'.memory.cells[cell]? = m.memory.cells[cell]?) ∧
          places.Nodup ∧
          places.length = if v < 10 then 1 else if v < 100 then 2 else 3 := by
  refine ⟨fun v ds => Text.writes_decimalDigits_iff, ?_, ?_, ?_⟩
  · intro v
    exact (Text.writes_decimalDigits_iff.mp rfl).head?_eq_zero_iff (by decide)
  · intro v positive
    rw [Text.decimalDigits_natCast]
    exact Text.iterate_divide (by decide) positive []
  · intro m x reading source pc v ds places
    refine ⟨m.storeDecimal x, m.execute_storeDecimal x reading source pc, rfl,
      m.memory.layout_writeBlock _ _, fun k hk => m.getElem?_storeDecimal_of_lt x hk, ?_,
      Memory.nodup_cells _ ?_, ?_⟩
    · intro cell apart
      apply m.getElem?_writeBlock_index_of_ne
      intro k hk here
      rw [List.length_map, ← Text.decimalDigits_natCast] at hk
      exact apart (List.mem_map.mpr ⟨k, List.mem_range.mpr hk, here.symm⟩)
    · exact Nat.le_trans (Text.length_decimalDigits_le (m.register x)) (by decide)
    · rw [List.length_map, List.length_range]
      exact Text.length_decimalDigits (m.register x)

end Machine

end Chip8
