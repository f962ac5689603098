import Chip8.Memory.Basic

/-!
# Blocks of memory

What reading a block at consecutive addresses gives, byte by byte, and what writing one leaves
behind. A block may be longer than memory and then runs over itself; of the bytes that go to one
address the last one stays. A block that does not is found where it was written, and every other
cell is as it was.
-/

namespace Chip8.Memory

variable (m : Memory) (a : Address)

/-! ## Reading -/

@[simp]
theorem length_readBlock (count : Nat) : (m.readBlock a count).length = count := by
  induction count generalizing a with
  | zero => rfl
  | succ count ih => simp only [readBlock, List.length_cons, ih]

/-- The bytes of a block are those at the addresses that follow one another. -/
theorem getElem?_readBlock (count k : Nat) :
    (m.readBlock a count)[k]? = if k < count then some (m.get (a + .ofNat 12 k)) else none := by
  induction count generalizing a k with
  | zero => simp [readBlock]
  | succ count ih =>
    cases k with
    | zero => simp [readBlock]
    | succ k =>
      have step : a + 1 + BitVec.ofNat 12 k = a + BitVec.ofNat 12 (k + 1) := by bv_omega
      simp only [readBlock, List.getElem?_cons_succ, ih, Nat.add_lt_add_iff_right, step]

/-- A block is read in two parts. -/
theorem readBlock_add (p q : Nat) :
    m.readBlock a (p + q) = m.readBlock a p ++ m.readBlock (a + .ofNat 12 p) q := by
  induction p generalizing a with
  | zero => simp [readBlock]
  | succ p ih =>
    have step : a + 1 + BitVec.ofNat 12 p = a + BitVec.ofNat 12 (p + 1) := by bv_omega
    rw [Nat.add_right_comm, readBlock, readBlock, ih, step, List.cons_append]

/-! ## Cells -/

/-- The byte at an address is the cell with its number. -/
theorem getElem?_cells_toNat : m.cells[a.toNat]? = some (m.get a) := by
  rw [Array.getElem?_eq_getElem (m.toNat_lt_size a)]
  rfl

/-- Memories of one layout with the same cells are the same. -/
theorem eq_of_getElem?_cells {m m' : Memory} (layout_eq : m.layout = m'.layout)
    (cells_eq : ∀ cell : Nat, m.cells[cell]? = m'.cells[cell]?) : m = m' := by
  obtain ⟨layout, cells, _⟩ := m
  obtain ⟨layout', cells', _⟩ := m'
  obtain rfl : layout = layout' := layout_eq
  obtain rfl : cells = cells' := Array.ext_getElem? cells_eq
  rfl

/-- Storing what is there already changes nothing. -/
@[simp]
theorem set_get : m.set a (m.get a) = m := by
  simp only [set, get, Array.set_getElem_self]

theorem getElem?_cells_set (b : Byte) {cell : Nat} (h : cell ≠ a.toNat) :
    (m.set a b).cells[cell]? = m.cells[cell]? := by
  simp only [set, Array.getElem?_set_ne _ h.symm]

/-! ## Writing -/

@[simp]
theorem layout_writeBlock (bytes : List Byte) : (m.writeBlock a bytes).layout = m.layout := by
  induction bytes generalizing m a with
  | nil => rfl
  | cons b bytes ih => rw [writeBlock, ih, layout_set]

/-- Writing a block changes no cell besides those at its addresses. -/
theorem getElem?_cells_writeBlock (bytes : List Byte) {cell : Nat}
    (h : ∀ k < bytes.length, cell ≠ (a.toNat + k) % 4096) :
    (m.writeBlock a bytes).cells[cell]? = m.cells[cell]? := by
  induction bytes generalizing m a with
  | nil => rfl
  | cons b bytes ih =>
    have first : cell ≠ a.toNat := by
      have := h 0 (Nat.zero_lt_succ _)
      have := a.isLt
      omega
    rw [writeBlock, ih, getElem?_cells_set m a b first]
    intro k hk
    have := h (k + 1) (Nat.succ_lt_succ hk)
    have next : (a + 1).toNat = (a.toNat + 1) % 4096 := by bv_omega
    rw [next]
    omega

/-- Writing changes no byte besides those at its addresses. -/
theorem get_writeBlock_of_ne (bytes : List Byte) {c : Address}
    (apart : ∀ k < bytes.length, c ≠ a + .ofNat 12 k) : (m.writeBlock a bytes).get c = m.get c := by
  have kept : (m.writeBlock a bytes).cells[c.toNat]? = m.cells[c.toNat]? := by
    apply getElem?_cells_writeBlock
    intro k hk same
    apply apart k hk
    bv_omega
  rw [getElem?_cells_toNat, getElem?_cells_toNat] at kept
  exact Option.some.inj kept

/-- A byte stays if no later byte of its block goes to the same address. -/
theorem get_writeBlock_of_last (bytes : List Byte) {k : Nat} (hk : k < bytes.length)
    (last : ∀ j, k < j → j < bytes.length → a + .ofNat 12 k ≠ a + .ofNat 12 j) :
    (m.writeBlock a bytes).get (a + .ofNat 12 k) = bytes[k] := by
  induction bytes generalizing m a k with
  | nil => contradiction
  | cons b bytes ih =>
    have next (j : Nat) : a + BitVec.ofNat 12 (j + 1) = a + 1 + .ofNat 12 j := by bv_omega
    simp only [List.length_cons] at hk last
    rw [writeBlock]
    cases k with
    | zero =>
      have apart : ∀ j < bytes.length, a + BitVec.ofNat 12 0 ≠ a + 1 + .ofNat 12 j := by
        intro j hj
        rw [← next]
        exact last (j + 1) (Nat.zero_lt_succ j) (Nat.succ_lt_succ hj)
      rw [get_writeBlock_of_ne _ _ _ apart, get_set, if_pos (BitVec.add_zero a).symm]
      rfl
    | succ k =>
      have later : ∀ j, k < j → j < bytes.length →
          a + 1 + BitVec.ofNat 12 k ≠ a + 1 + .ofNat 12 j := by
        intro j lt hj
        rw [← next, ← next]
        exact last (j + 1) (Nat.succ_lt_succ lt) (Nat.succ_lt_succ hj)
      rw [next, ih (m.set a b) (a + 1) (Nat.lt_of_succ_lt_succ hk) later]
      rfl

/-- A block that does not run into itself is found where it was written. -/
theorem get_writeBlock (bytes : List Byte) (fits : bytes.length ≤ 4096) {k : Nat}
    (hk : k < bytes.length) : (m.writeBlock a bytes).get (a + .ofNat 12 k) = bytes[k] := by
  apply get_writeBlock_of_last
  intro j lt hj
  bv_omega

/-- A block that ends before the last address fills the cells from its address on. -/
theorem getElem?_cells_writeBlock_of_le (bytes : List Byte)
    (inside : a.toNat + bytes.length ≤ 4096) (cell : Nat) :
    (m.writeBlock a bytes).cells[cell]? =
      if a.toNat ≤ cell ∧ cell < a.toNat + bytes.length then bytes[cell - a.toNat]?
      else m.cells[cell]? := by
  split
  case isTrue h =>
    have place : cell - a.toNat < bytes.length := by omega
    have address : (a + BitVec.ofNat 12 (cell - a.toNat)).toNat = cell := by
      rw [BitVec.toNat_add, BitVec.toNat_ofNat]
      omega
    rw [← address, getElem?_cells_toNat, m.get_writeBlock a bytes (by omega) place, address,
      List.getElem?_eq_getElem place]
  case isFalse h =>
    apply getElem?_cells_writeBlock
    intro k hk
    omega

/-! ## Reading and writing -/

/-- Writing a block that was read from its own addresses changes nothing. -/
theorem writeBlock_readBlock (count : Nat) : m.writeBlock a (m.readBlock a count) = m := by
  induction count generalizing a with
  | zero => rfl
  | succ count ih => rw [readBlock, writeBlock, set_get, ih]

/-- A block that does not run into itself is read back. -/
theorem readBlock_writeBlock (bytes : List Byte) (fits : bytes.length ≤ 4096) :
    (m.writeBlock a bytes).readBlock a bytes.length = bytes := by
  apply List.ext_getElem?
  intro k
  rw [getElem?_readBlock]
  split
  case isTrue hk => rw [m.get_writeBlock a bytes fits hk, List.getElem?_eq_getElem hk]
  case isFalse hk => rw [List.getElem?_eq_none (Nat.not_lt.mp hk)]

end Chip8.Memory
