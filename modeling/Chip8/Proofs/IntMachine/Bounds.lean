import Chip8.Proofs.IntMachine.Operation
import Chip8.Proofs.Machine.Shape

/-!
# Bounds of the numbers

The numbers of a machine are those that its widths allow, and no operation changes the lengths of
its sequences. So a machine over the integers stays within these bounds through any sequence of
operations, although nothing in it is bounded by its type.
-/

namespace Chip8

/-- Every number of a machine over the integers lies in its range, and every sequence has its
length: sixteen registers, the given number of cells and the pixels of the given dimensions. -/
structure IntMachine.InBounds (s : IntMachine) (cellCount : Nat) (rows cols : Int) : Prop where
  size_registers : s.registers.size = 16
  registers : ∀ v ∈ s.registers, 0 ≤ v ∧ v ≤ 255
  pc : 0 ≤ s.pc ∧ s.pc ≤ 4095
  index : 0 ≤ s.index ∧ s.index ≤ 65535
  stack : ∀ a ∈ s.stack, 0 ≤ a ∧ a ≤ 65535
  delay : 0 ≤ s.delay ∧ s.delay ≤ 255
  sound : 0 ≤ s.sound ∧ s.sound ≤ 255
  size_cells : s.cells.size = cellCount
  cells_le : 4096 ≤ cellCount
  cells : ∀ b ∈ s.cells, 0 ≤ b ∧ b ≤ 255
  size_pixels : (s.pixels.size : Int) = rows * cols
  pixels : ∀ p ∈ s.pixels, p = 0 ∨ p = 1
  held : ∀ key ∈ s.held, 0 ≤ key ∧ key ≤ 15

/-- The numbers of a machine lie in their ranges. -/
theorem Machine.numbers_inBounds (m : Machine) :
    m.numbers.InBounds m.memory.cells.size m.framebuffer.size.rows m.framebuffer.size.cols := by
  have byte_le (b : Byte) : (0 : Int) ≤ b.toNat ∧ (b.toNat : Int) ≤ 255 := by
    have := b.isLt
    omega
  have word_le (a : Word) : (0 : Int) ≤ a.toNat ∧ (a.toNat : Int) ≤ 65535 := by
    have := a.isLt
    omega
  constructor
  · simp
  · intro v hv
    obtain ⟨b, -, rfl⟩ := Array.mem_map.mp hv
    exact byte_le b
  · have := m.pc.isLt
    simp only [numbers_pc]
    omega
  · exact word_le m.index
  · intro a ha
    obtain ⟨w, -, rfl⟩ := List.mem_map.mp ha
    exact word_le w
  · exact byte_le m.delay.value
  · exact byte_le m.sound.value
  · simp
  · exact m.memory.addressCount_le_size
  · intro v hv
    obtain ⟨b, -, rfl⟩ := Array.mem_map.mp hv
    exact byte_le b
  · simp only [numbers_pixels, Array.size_map, m.framebuffer.size_pixels, Framebuffer.Size.area,
      Int.natCast_mul]
  · intro p hp
    obtain ⟨lit, -, rfl⟩ := Array.mem_map.mp hp
    cases lit <;> simp
  · intro key hkey
    obtain ⟨code, -, rfl⟩ := Option.mem_map.mp hkey
    have := code.isLt
    omega

/-! ## Sequences of operations -/

theorem eq_ok_of_mapError {x : Except ε α} {f : ε → ε'} {a : α} (h : x.mapError f = .ok a) :
    x = .ok a := by
  cases x with
  | error e => contradiction
  | ok b =>
    cases h
    rfl

theorem exists_of_map_eq_ok {x : Except ε α} {f : α → β} {b : β} (h : x.map f = .ok b) :
    ∃ a, x = .ok a ∧ f a = b := by
  cases x with
  | error e => contradiction
  | ok a =>
    cases h
    exact ⟨a, rfl, rfl⟩

namespace Machine

variable (m : Machine)

/-- No operation changes the shape. -/
theorem sameShape_after (op : Operation) : SameShape m (m.after op) := by
  rw [after]
  cases applied : m.apply op with
  | error refusal => exact .refl m
  | ok m' =>
    change SameShape m m'
    cases op with
    | execute word reading drawn pc =>
      obtain ⟨⟨_, _⟩, executed, rfl⟩ := exists_of_map_eq_ok (eq_ok_of_mapError applied)
      exact .execute executed
    | setRegister index value =>
      obtain ⟨r, -, rfl⟩ := exists_of_map_eq_ok (eq_ok_of_mapError applied)
      exact ⟨rfl, rfl⟩
    | pop =>
      obtain ⟨⟨top, _⟩, popped, rfl⟩ := exists_of_map_eq_ok (eq_ok_of_mapError applied)
      exact .pop popped
    | writeBytes a data =>
      simp only [apply, Except.ok.injEq] at applied
      subst applied
      exact ⟨Memory.layout_writeBlock .., rfl⟩
    | load image =>
      obtain ⟨memory, loaded, rfl⟩ := exists_of_map_eq_ok (eq_ok_of_mapError applied)
      exact ⟨Memory.layout_load loaded, rfl⟩
    | drawSprite x y height =>
      exact .drawSprite (eq_ok_of_mapError applied)
    | setPixel row col lit =>
      obtain ⟨f, stored, rfl⟩ := exists_of_map_eq_ok (eq_ok_of_mapError applied)
      exact ⟨rfl, Framebuffer.size_set stored⟩
    | pressCode code =>
      obtain ⟨k, -, rfl⟩ := exists_of_map_eq_ok (eq_ok_of_mapError applied)
      exact ⟨rfl, rfl⟩
    | restart =>
      simp only [apply, Except.ok.injEq] at applied
      subst applied
      exact .powerOn m m.keypad
    | _ =>
      simp only [apply, Except.ok.injEq] at applied
      subst applied
      exact ⟨rfl, rfl⟩

theorem sameShape_afterAll (ops : List Operation) : SameShape m (m.afterAll ops) := by
  induction ops generalizing m with
  | nil => exact .refl m
  | cons op ops ih => exact (m.sameShape_after op).trans (ih (m.after op))

theorem numbers_after (op : Operation) : m.numbers.after op = (m.after op).numbers := by
  rw [IntMachine.after, after]
  rw [op.run_act m]
  cases m.apply op <;> rfl

/-- A sequence of operations on the numbers of a machine comes to the numbers of the machine after
the same sequence. -/
theorem numbers_afterAll (ops : List Operation) :
    m.numbers.afterAll ops = (m.afterAll ops).numbers := by
  induction ops generalizing m with
  | nil => rfl
  | cons op ops ih =>
    change (m.numbers.after op).afterAll ops = ((m.after op).afterAll ops).numbers
    rw [numbers_after, ih]

end Machine

/-- Whatever is done to a machine, its numbers keep their ranges and its sequences their lengths. -/
theorem IntMachine.afterAll_inBounds (m : Machine) (ops : List Operation) :
    (m.numbers.afterAll ops).InBounds m.memory.cells.size m.framebuffer.size.rows
      m.framebuffer.size.cols := by
  have same := m.sameShape_afterAll ops
  have cells_eq : (m.afterAll ops).memory.cells.size = m.memory.cells.size := by
    rw [Memory.size_cells, same.layout_eq, ← Memory.size_cells]
  have bounds := (m.afterAll ops).numbers_inBounds
  rw [cells_eq, same.size_eq] at bounds
  rw [m.numbers_afterAll]
  exact bounds

end Chip8
