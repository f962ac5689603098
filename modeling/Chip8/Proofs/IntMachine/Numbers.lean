import Chip8.Proofs.IntMachine.Execute
import Chip8.Proofs.Machine.Registers

/-!
# The numbers of a machine

`Machine.numbers` reads a machine as a machine over the integers. Every action on the numbers of a
machine is accepted or refused like the operation of the machine that it stands for, and comes to
the numbers of the machine that this operation leaves.
-/

namespace Chip8

/-- The integers that a machine holds. -/
@[simps]
def Machine.numbers (m : Machine) : IntMachine where
  registers := m.registers.toArray.map fun b => (b.toNat : Int)
  pc := m.pc.toNat
  index := m.index.toNat
  stack := m.stack.map fun a => (a.toNat : Int)
  fontAddress := m.memory.layout.fontAddress
  programStart := m.memory.layout.programStart.toNat
  cells := m.memory.cells.map fun b => (b.toNat : Int)
  rows := m.framebuffer.size.rows
  cols := m.framebuffer.size.cols
  pixels := m.framebuffer.pixels.map fun lit => if lit then 1 else 0
  dirty := m.framebuffer.dirty
  keyMap := m.keypad.keyMap
  held := m.keypad.reading
  delay := m.delay.value.toNat
  sound := m.sound.value.toNat

namespace Span

/-- Replacing a span before or after a change of every element is the same. -/
theorem map_splice (f : α → β) (xs : Array α) (start stop : Int) (replacement : Array α) :
    (splice xs start stop replacement).map f =
      splice (xs.map f) start stop (replacement.map f) := by
  simp only [splice, Array.map_append, Array.map_extract, Array.size_map]

end Span

namespace IntMachine

variable (m : Machine)

/-! ## Sequences -/

theorem run_entry {xs : Array α} (f : α → Int) {i : Nat} (h : i < xs.size) (s : IntMachine) :
    (entry (xs.map f) i).run s = .ok (f xs[i]) s := by
  have inside : (0 : Int) ≤ i ∧ (i : Int) < (xs.map f).size := by
    rw [Array.size_map]
    omega
  rw [entry, dif_pos inside]
  simp

theorem run_replaced {xs : Array α} (f : α → Int) {i : Nat} (h : i < xs.size) (a : α)
    (s : IntMachine) :
    (replaced (xs.map f) i (f a)).run s = .ok ((xs.set i a).map f) s := by
  have inside : (0 : Int) ≤ i ∧ (i : Int) < (xs.map f).size := by
    rw [Array.size_map]
    omega
  rw [replaced, dif_pos inside]
  simp

theorem run_remainder (a : Nat) {divisor : Nat} (h : 0 < divisor) (s : IntMachine) :
    (remainder a divisor).run s = .ok (a % divisor : Nat) s := by
  rw [remainder, if_neg (by omega)]
  rfl

/-! ## Reductions -/

/-- A reduction by a power of two is what a width does by itself. -/
theorem emod_two_pow (width : Nat) (v : Int) :
    v % (2 ^ width : Nat) = ((BitVec.ofInt width v).toNat : Int) := by
  have positive : ((2 ^ width : Nat) : Int) ≠ 0 := Int.natCast_ne_zero.mpr (by simp)
  rw [BitVec.toNat_ofInt, Int.toNat_of_nonneg (Int.emod_nonneg v positive)]

theorem byte_emod (v : Int) : v % 256 = ((BitVec.ofInt 8 v).toNat : Int) := emod_two_pow 8 v

theorem address_emod (a : Int) : a % 4096 = ((BitVec.ofInt 12 a).toNat : Int) := emod_two_pow 12 a

theorem word_emod (a : Int) : a % 65536 = ((BitVec.ofInt 16 a).toNat : Int) := emod_two_pow 16 a

/-! ## Registers -/

@[simp]
theorem run_getRegister (r : Nibble) :
    (getRegister r.toNat).run m.numbers = .ok (m.register r).toNat m.numbers := by
  simp only [getRegister, checkRegister, if_pos (Machine.toNat_inside r), EStateM.run_bind,
    EStateM.run_pure, EStateM.run_get, Machine.numbers]
  exact run_entry _ (by simp [r.isLt]) _

@[simp]
theorem run_setRegister (r : Nibble) (v : Int) :
    (setRegister r.toNat v).run m.numbers = .ok () (m.setRegister r (.ofInt 8 v)).numbers := by
  have stored : (replaced m.numbers.registers r.toNat (v % 256)).run m.numbers =
      .ok (m.setRegister r (.ofInt 8 v)).numbers.registers m.numbers := by
    rw [byte_emod]
    exact run_replaced (fun b : Byte => (b.toNat : Int)) (by simp [r.isLt]) _ _
  simp only [setRegister, checkRegister, if_pos (Machine.toNat_inside r), EStateM.run_bind,
    EStateM.run_pure, EStateM.run_get, EStateM.run_modify, stored]
  rfl

@[simp]
theorem run_setFlag (v : Int) :
    (setFlag v).run m.numbers = .ok () (m.putFlag v).numbers :=
  run_setRegister m Machine.flagRegister v

/-! ## Program counter, index, stack and timers -/

@[simp]
theorem run_setPc (a : Int) : (setPc a).run m.numbers = .ok () (m.setPc a).numbers := by
  simp only [setPc, EStateM.run_modify, address_emod]
  rfl

@[simp]
theorem run_advancePc : advancePc.run m.numbers = .ok () m.skip.numbers := by
  have e : ((m.pc.toNat : Int) + 2) % 4096 = ((m.pc + 2).toNat : Int) := by bv_omega
  simp only [advancePc, EStateM.run_modify, Machine.numbers, e]
  rfl

@[simp]
theorem run_rewindPc : rewindPc.run m.numbers = .ok () m.rewind.numbers := by
  have e : ((m.pc.toNat : Int) - 2) % 4096 = ((m.pc - 2).toNat : Int) := by bv_omega
  simp only [rewindPc, EStateM.run_modify, Machine.numbers, e]
  rfl

@[simp]
theorem run_setIndex (a : Int) : (setIndex a).run m.numbers = .ok () (m.setIndex a).numbers := by
  simp only [setIndex, EStateM.run_modify, word_emod]
  rfl

@[simp]
theorem run_push (a : Int) : (push a).run m.numbers = .ok () (m.push a).numbers := by
  simp only [push, EStateM.run_modify, word_emod]
  rfl

/-- The most recent entry is taken off, or the empty stack is refused. -/
theorem run_pop :
    pop.run m.numbers =
      match m.pop with
      | .ok (a, m') => .ok a.toNat m'.numbers
      | .error f => .error (.fault f) m.numbers := by
  simp only [pop, Machine.pop, EStateM.run_bind, EStateM.run_get, Machine.numbers_stack]
  cases m.stack with
  | nil => rfl
  | cons top rest => rfl

@[simp]
theorem run_setDelay (v : Int) :
    (setDelay v).run m.numbers = .ok () { m with delay := .ofInt v : Machine }.numbers := by
  simp only [setDelay, EStateM.run_modify, byte_emod]
  rfl

@[simp]
theorem run_setSound (v : Int) :
    (setSound v).run m.numbers = .ok () { m with sound := .ofInt v : Machine }.numbers := by
  simp only [setSound, EStateM.run_modify, byte_emod]
  rfl

theorem countDown_timer (t : Timer) : countDown t.value.toNat = (t.tick.value.toNat : Int) := by
  rw [Timer.toNat_tick, countDown]
  split <;> omega

theorem countUp_timer (t : Timer) : countUp t.value.toNat = (t.increment.value.toNat : Int) := by
  rw [countUp, Timer.increment]
  split <;> split <;> bv_omega

@[simp]
theorem run_tickTimers : tickTimers.run m.numbers = .ok () m.tickTimers.numbers := by
  simp only [tickTimers, EStateM.run_modify, Machine.numbers, countDown_timer]
  rfl

/-! ## Memory -/

@[simp]
theorem run_readByte (a : Int) :
    (readByte a).run m.numbers = .ok (m.memory.read a).toNat m.numbers := by
  simp only [readByte, EStateM.run_bind, EStateM.run_get, address_emod]
  exact run_entry _ (m.memory.toNat_lt_size _) _

@[simp]
theorem run_writeByte (a v : Int) :
    (writeByte a v).run m.numbers =
      .ok () { m with memory := m.memory.write a v : Machine }.numbers := by
  have stored : (replaced m.numbers.cells (a % 4096) (v % 256)).run m.numbers =
      .ok (m.memory.write a v |>.cells.map fun b => (b.toNat : Int)) m.numbers := by
    rw [address_emod, byte_emod]
    exact run_replaced (fun b : Byte => (b.toNat : Int)) (m.memory.toNat_lt_size _) _ _
  simp only [writeByte, EStateM.run_bind, EStateM.run_get, EStateM.run_modify, stored]
  rfl

@[simp]
theorem run_readBytes (a : Int) (count : Nat) :
    (readBytes a count).run m.numbers =
      .ok ((m.memory.readBlock (.ofInt 12 a) count).map fun b => (b.toNat : Int)) m.numbers := by
  induction count generalizing a with
  | zero => rfl
  | succ count ih =>
    simp only [readBytes, EStateM.run_bind, run_readByte, ih, EStateM.run_pure, BitVec.ofInt_add]
    rfl

@[simp]
theorem run_writeBytes (a : Int) (data : List Int) :
    (writeBytes a data).run m.numbers =
      .ok () { m with memory := m.memory.writeBytes a data : Machine }.numbers := by
  induction data generalizing m a with
  | nil => rfl
  | cons v data ih =>
    simp only [writeBytes, EStateM.run_bind, run_writeByte, ih, Memory.writeBytes, BitVec.ofInt_add]
    rfl

@[simp]
theorem run_readWord (a : Int) :
    (readWord a).run m.numbers = .ok (m.memory.readWord a).toNat m.numbers := by
  have next : BitVec.ofInt 12 (a + 1) = BitVec.ofInt 12 a + 1 := BitVec.ofInt_add ..
  have e : ((m.memory.readWord a).toNat : Int) =
      256 * (m.memory.read a).toNat + (m.memory.read (a + 1)).toNat := by
    simp only [Memory.readWord, Memory.getWord, Word.ofBytes, Memory.read, BitVec.toNat_append,
      next]
    rw [← Nat.shiftLeft_add_eq_or_of_lt (BitVec.isLt _), Nat.shiftLeft_eq]
    simp only [Int.natCast_add, Int.natCast_mul]
    omega
  simp only [readWord, EStateM.run_bind, run_readByte, EStateM.run_pure, e]

@[simp]
theorem run_fetch : fetch.run m.numbers = .ok m.currentWord.toNat m.skip.numbers := by
  have fetched : (readWord m.numbers.pc).run m.numbers = .ok m.currentWord.toNat m.numbers := by
    change (readWord m.pc.toNat).run m.numbers = _
    rw [run_readWord, Memory.readWord, BitVec.ofInt_natCast, BitVec.ofNat_toNat,
      BitVec.setWidth_eq, Machine.currentWord]
  simp only [fetch, EStateM.run_bind, EStateM.run_get, EStateM.run_pure, fetched, run_advancePc]

/-- An image is refused or stored like the image of bytes. -/
theorem run_load (image : List Byte) :
    (load (image.map fun b => (b.toNat : Int))).run m.numbers =
      match m.load image with
      | .ok m' => .ok () m'.numbers
      | .error f => .error (.fault f) m.numbers := by
  have start := m.memory.layout.programStart.isLt
  have room : ((m.memory.layout.capacity : Nat) : Int) = 4096 - m.numbers.programStart := by
    simp only [Layout.capacity, Layout.addressCount, Machine.numbers]
    omega
  simp only [load, EStateM.run_bind, EStateM.run_get, List.length_map]
  by_cases h : image.length ≤ m.memory.layout.capacity
  · rw [if_neg (by omega)]
    have spliced : (m.memory.cellsWith image).map (fun b => (b.toNat : Int)) =
        Span.splice m.numbers.cells m.numbers.programStart
          (m.numbers.programStart + image.length)
          (image.map fun b => (b.toNat : Int)).toArray := by
      simp only [Memory.cellsWith, Span.map_splice, ← List.map_toArray, List.size_toArray]
      rfl
    simp only [Machine.load, Memory.load, dif_pos h, Except.map, EStateM.run_modify, ← spliced]
    rfl
  · rw [if_pos (by omega)]
    simp only [Machine.load, Memory.load, dif_neg h, Except.map, room, EStateM.run_throw,
      EStateM.run_bind]

/-! ## Picture -/

/-- The place of a pixel is its index in the array, or the position is refused. -/
theorem run_offset (row col : Int) :
    (offset row col).run m.numbers =
      match m.framebuffer.size.offset? row col with
      | some i => .ok i.val m.numbers
      | none => .error (.argument (.position row col)) m.numbers := by
  simp only [offset, EStateM.run_bind, EStateM.run_get]
  rw [Framebuffer.Size.offset?]
  by_cases h : (0 ≤ row ∧ row < m.framebuffer.size.rows) ∧ 0 ≤ col ∧ col < m.framebuffer.size.cols
  · have row_eq := Int.toNat_of_nonneg h.1.1
    have col_eq := Int.toNat_of_nonneg h.2.1
    rw [if_pos (by exact h), dif_pos h]
    simp only [Framebuffer.Size.offset, Int.natCast_add, Int.natCast_mul, row_eq, col_eq]
    rfl
  · rw [if_neg (by exact h), dif_neg h]
    rfl

theorem run_getPixel (row col : Int) :
    (getPixel row col).run m.numbers =
      match m.framebuffer.get row col with
      | .ok lit => .ok (if lit then 1 else 0) m.numbers
      | .error e => .error (.argument e) m.numbers := by
  simp only [getPixel, EStateM.run_bind, run_offset, EStateM.run_get, Framebuffer.get]
  cases m.framebuffer.size.offset? row col with
  | none => rfl
  | some i => exact run_entry (fun lit : Bool => if lit then 1 else 0) _ _

theorem run_setPixel (row col : Int) (lit : Bool) :
    (setPixel row col lit).run m.numbers =
      match m.framebuffer.set row col lit with
      | .ok f => .ok () { m with framebuffer := f : Machine }.numbers
      | .error e => .error (.argument e) m.numbers := by
  simp only [setPixel, EStateM.run_bind, run_offset, EStateM.run_get, Framebuffer.set]
  cases m.framebuffer.size.offset? row col with
  | none => rfl
  | some i =>
    have inside : i.val < m.framebuffer.pixels.size := by
      rw [m.framebuffer.size_pixels]
      exact i.isLt
    have stored : (replaced m.numbers.pixels i.val (if lit then 1 else 0)).run m.numbers =
        .ok ((m.framebuffer.setAt i lit).pixels.map fun lit => if lit then 1 else 0) m.numbers :=
      run_replaced (fun lit : Bool => if lit then 1 else 0) inside _ _
    simp only [stored, EStateM.run_modify]
    rfl

@[simp]
theorem run_clearPixels :
    clearPixels.run m.numbers =
      .ok () { m with framebuffer := m.framebuffer.clear : Machine }.numbers := by
  simp only [clearPixels, EStateM.run_modify, Machine.numbers, Framebuffer.clear, Framebuffer.dark,
    Array.map_replicate]
  rfl

@[simp]
theorem run_takeDirty :
    takeDirty.run m.numbers =
      .ok m.framebuffer.dirty { m with framebuffer := m.framebuffer.clean : Machine }.numbers := rfl

/-! ## Keypad -/

@[simp]
theorem run_keyDown (text : String) :
    (keyDown text).run m.numbers =
      .ok () { m with keypad := m.keypad.press text : Machine }.numbers := by
  have held : (m.keypad.press text).reading =
      (m.keypad.keyMap.codeOf? text).map fun code => (code.toNat : Int) := by
    simp only [Keypad.reading, Keypad.heldCode, Keypad.press, KeyMap.codeOf?, Option.map_map]
    rfl
  simp only [keyDown, EStateM.run_modify, Machine.numbers, held]
  rfl

@[simp]
theorem run_keyUp :
    keyUp.run m.numbers = .ok () { m with keypad := m.keypad.release : Machine }.numbers := rfl

theorem run_pressCode (code : Int) :
    (pressCode code).run m.numbers =
      match m.keypad.pressCode code with
      | .ok k => .ok () { m with keypad := k : Machine }.numbers
      | .error e => .error (.argument e) m.numbers := by
  rw [pressCode, Keypad.pressCode]
  split
  · have e : ((BitVec.ofInt 4 code).toNat : Int) = code :=
      Machine.toNat_ofInt_of_inside (by omega)
    simp only [EStateM.run_modify, Machine.numbers, Keypad.reading, Keypad.heldCode,
      Option.map_some, e]
  · rfl

end IntMachine

end Chip8
