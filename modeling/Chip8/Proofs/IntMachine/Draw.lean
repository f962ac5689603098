import Chip8.Proofs.IntMachine.Numbers
import Chip8.Proofs.Sprite.Cells

/-!
# Drawing over the integers

The two loops that draw a sprite pixel by pixel, with their early ends, flip the cells of the sprite
one after the other. No pixel outside of the picture is ever accessed.
-/

namespace Chip8

/-- The cells under the last `count` bits of a row, the first of them in the given column. -/
def Sprite.rowCells (bits : Byte) (row : Nat) : (count : Nat) → (col : Nat) → List (Nat × Nat)
  | 0, _ => []
  | count + 1, col =>
    (if bits.getLsbD count then [(row, col)] else []) ++ rowCells bits row count (col + 1)

namespace Sprite

theorem mem_rowCells {bits : Byte} {row count col : Nat} {p : Nat × Nat}
    (h : p ∈ rowCells bits row count col) : p.1 = row ∧ col ≤ p.2 := by
  induction count generalizing col with
  | zero => contradiction
  | succ count ih =>
    rcases List.mem_append.mp h with first | later
    · split at first
      · obtain rfl := List.mem_singleton.mp first
        exact ⟨rfl, Nat.le_refl _⟩
      · contradiction
    · have := ih later
      exact ⟨this.1, by omega⟩

theorem rowCells_eq (bits : Byte) (row left : Nat) {count : Nat} (h : count ≤ 8) :
    rowCells bits row count (left + (8 - count)) =
      ((List.range' (8 - count) count).filter bits.getMsbD).map fun c => (row, left + c) := by
  induction count with
  | zero => rfl
  | succ count ih =>
    have next : 8 - (count + 1) + 1 = 8 - count := by omega
    have bit : bits.getMsbD (8 - (count + 1)) = bits.getLsbD count := by
      rw [BitVec.getMsbD_eq_getLsbD, decide_eq_true (by omega), Bool.true_and]
      congr 1
      omega
    rw [rowCells, Nat.add_assoc, next, ih (by omega), List.range'_succ, next, List.filter_cons, bit]
    cases bits.getLsbD count <;> rfl

/-- The cells of a sprite begin with those of its first row. -/
theorem cells_cons (top left : Nat) (bits : Byte) (rows : List Byte) :
    cells ⟨top, left, bits :: rows⟩ = rowCells bits top 8 left ++ cells ⟨top + 1, left, rows⟩ := by
  have first := rowCells_eq bits top left (Nat.le_refl 8)
  simp only [Nat.sub_self, Nat.add_zero, ← List.range_eq_range'] at first
  rw [first]
  simp only [cells, List.zipIdx_cons', List.flatMap_cons, List.flatMap_map, Nat.add_zero]
  congr 1
  apply List.flatMap_congr
  rintro ⟨b, r⟩ -
  simp only [Prod.map_apply, id, Nat.add_comm r 1, Nat.add_assoc]

end Sprite

/-- The machine with the given cells flipped and the collision recorded. -/
def Machine.withFlips (m : Machine) (cells : List (Nat × Nat)) : Machine :=
  { m.setFlag (m.framebuffer.flipAll cells).2 with framebuffer := (m.framebuffer.flipAll cells).1 }

/-- Flipping cells outside of the picture changes nothing. -/
theorem Machine.withFlips_append_of_not_inside (m : Machine) {done cells : List (Nat × Nat)}
    (h : ∀ p ∈ cells, ¬ m.framebuffer.Inside p) :
    m.withFlips (done ++ cells) = m.withFlips done := by
  have outside : ∀ p ∈ cells, ¬ (m.framebuffer.flipAll done).1.Inside p := by
    intro p hp
    simpa only [Framebuffer.Inside, Framebuffer.size_flipAll] using h p hp
  simp only [withFlips, Framebuffer.flipAll_append, Framebuffer.flipAll_of_not_inside outside,
    Bool.or_false]

namespace IntMachine

variable (m : Machine)

/-- A pixel inside the picture is flipped, and the flag is set if it was lit. -/
theorem run_flipPixel {row col : Nat} (inside : m.framebuffer.Inside (row, col)) :
    (flipPixel row col).run m.numbers =
      let flipped : Machine := { m with framebuffer := m.framebuffer.flip row col }
      .ok () (if m.framebuffer.lit row col then flipped.setFlag true else flipped).numbers := by
  have stored := Framebuffer.set_not_lit inside
  simp only [flipPixel, EStateM.run_bind, run_getPixel, Framebuffer.get_of_inside inside]
  cases lit : m.framebuffer.lit row col with
  | true =>
    rw [lit, Bool.not_true] at stored
    simp only [if_true, ne_eq, one_ne_zero, not_false_eq_true, EStateM.run_bind, run_setPixel,
      stored, run_setFlag]
    rfl
  | false =>
    rw [lit, Bool.not_false] at stored
    simp [run_setPixel, stored]

/-- One more flip inside the picture. -/
theorem run_flipPixel_withFlips {cells : List (Nat × Nat)} {row col : Nat}
    (inside : m.framebuffer.Inside (row, col)) :
    (flipPixel row col).run (m.withFlips cells).numbers =
      .ok () (m.withFlips (cells ++ [(row, col)])).numbers := by
  have inside' : (m.withFlips cells).framebuffer.Inside (row, col) := by
    simpa only [Framebuffer.Inside, Machine.withFlips, Framebuffer.size_flipAll] using inside
  rw [run_flipPixel _ inside']
  simp only [Machine.withFlips, Framebuffer.flipAll_append, Framebuffer.flipAll, Bool.or_false,
    Machine.setFlag, Machine.setRegister]
  cases (m.framebuffer.flipAll cells).1.lit row col with
  | true => simp
  | false => simp

/-- A bit is asked for by shifting the byte. -/
theorem shift_emod_eq_one_iff (bits : Byte) (count : Nat) :
    (bits.toNat : Int) >>> count % 2 = 1 ↔ bits.getLsbD count = true := by
  rw [← Int.natCast_shiftRight, BitVec.getLsbD, Nat.testBit_eq_decide_div_mod_eq,
    Nat.shiftRight_eq_div_pow, decide_eq_true_eq]
  omega

/-- The loop over a row flips the cells of the row. -/
theorem run_drawBits {done : List (Nat × Nat)} (bits : Byte) {row : Nat}
    (hrow : row < m.framebuffer.size.rows) (count col : Nat) :
    (drawBits bits.toNat row count col).run (m.withFlips done).numbers =
      .ok () (m.withFlips (done ++ Sprite.rowCells bits row count col)).numbers := by
  induction count generalizing done col with
  | zero => simp [drawBits, Sprite.rowCells]
  | succ count ih =>
    have cols_eq : (m.withFlips done).numbers.cols = m.framebuffer.size.cols := by
      simp only [Machine.numbers, Machine.withFlips, Framebuffer.size_flipAll]
    simp only [drawBits, EStateM.run_bind, EStateM.run_get, cols_eq, shift_emod_eq_one_iff]
    by_cases hcol : m.framebuffer.size.cols ≤ col
    · -- The right edge: what is left of the row lies outside.
      rw [if_pos (by omega), EStateM.run_pure, m.withFlips_append_of_not_inside]
      intro p hp inside
      have := (Sprite.mem_rowCells hp).2
      have := inside.2
      omega
    · rw [if_neg (by omega), Sprite.rowCells, ← List.append_assoc]
      have inside : m.framebuffer.Inside (row, col) := ⟨hrow, Nat.lt_of_not_le hcol⟩
      have next : (col : Int) + 1 = (col + 1 : Nat) := rfl
      cases bits.getLsbD count with
      | true =>
        simp only [if_true, EStateM.run_bind, run_flipPixel_withFlips m inside, next, ih]
      | false =>
        simp only [Bool.false_eq_true, if_false, next, ih, List.append_nil]

/-- The loop over the rows flips the cells of the sprite that lies from an address on. -/
theorem run_drawRows (done : List (Nat × Nat)) (left count row : Nat) (address : Int) :
    (drawRows left count row address).run (m.withFlips done).numbers =
      .ok () (m.withFlips (done ++ Sprite.cells ⟨row, left, m.memory.readBlock (.ofInt 12 address)
        (min count (m.framebuffer.size.rows - row))⟩)).numbers := by
  induction count generalizing done row address with
  | zero => simp [drawRows, Memory.readBlock, Sprite.cells]
  | succ count ih =>
    have rows_eq : (m.withFlips done).numbers.rows = m.framebuffer.size.rows := by
      simp only [Machine.numbers, Machine.withFlips, Framebuffer.size_flipAll]
    simp only [drawRows, EStateM.run_bind, EStateM.run_get, rows_eq]
    by_cases hrow : m.framebuffer.size.rows ≤ row
    · -- The bottom edge: no row is left.
      have none_left : min (count + 1) (m.framebuffer.size.rows - row) = 0 := by omega
      rw [if_pos (by omega), none_left]
      simp [Memory.readBlock, Sprite.cells]
    · have one_more : min (count + 1) (m.framebuffer.size.rows - row) =
          min count (m.framebuffer.size.rows - (row + 1)) + 1 := by omega
      have next : (row : Int) + 1 = (row + 1 : Nat) := rfl
      have later : BitVec.ofInt 12 (address + 1) = BitVec.ofInt 12 address + 1 :=
        BitVec.ofInt_add ..
      have memory_eq : (m.withFlips done).memory = m.memory := rfl
      rw [if_neg (by omega), one_more, Memory.readBlock, Sprite.cells_cons, ← List.append_assoc,
        ← later, ← Memory.read]
      simp only [EStateM.run_bind, run_readByte, memory_eq, next,
        run_drawBits m _ (Nat.lt_of_not_le hrow), ih]

/-- Drawing pixel by pixel comes to what drawing a sprite comes to. -/
@[simp]
theorem run_drawSprite (x y : Nibble) (height : Int) :
    (drawSprite x.toNat y.toNat height).run m.numbers =
      .ok () (m.draw x y height.toNat).numbers := by
  have start : m.putFlag 0 = m.withFlips [] := rfl
  simp only [drawSprite, EStateM.run_bind, EStateM.run_get, run_getRegister, run_setFlag,
    Machine.numbers_cols, Machine.numbers_rows, Machine.numbers_index,
    run_remainder _ m.framebuffer.size.cols_pos, run_remainder _ m.framebuffer.size.rows_pos]
  have drawn := run_drawRows m [] ((m.register x).toNat % m.framebuffer.size.cols)
    height.toNat ((m.register y).toNat % m.framebuffer.size.rows) m.index.toNat
  rw [start]
  rw [List.nil_append, Machine.ofInt_index] at drawn
  exact drawn

end IntMachine

end Chip8
