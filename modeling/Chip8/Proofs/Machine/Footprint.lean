import Chip8.Proofs.Instruction.Encoding
import Chip8.Proofs.Machine.Mark
import Chip8.Proofs.Machine.Shape
import Chip8.Proofs.Sprite.Draw
import Chip8.Proofs.Text.Digits
import Mathlib.Algebra.Group.Nat.Defs

/-!
# The footprint of an instruction

What an instruction word can change, told by its digits: the registers it stores in, the cells it
writes, and whether it moves the index register, the stack, a timer or the picture. `Footprint`
collects what holds of the machine before a word is fetched and the machine after it was executed:
where the program goes on, and that everything outside the footprint is as it was.
-/

namespace Chip8

namespace Word

/-- The word may store in a register: in `VX` for families `6` to `8` and `C` and for `F?07` and
`F?0A`, in the flag for the arithmetic of family `8` and for family `D`, and in the registers up to
`VX` for `F?65`. -/
def Stores (w : Word) (r : Nibble) : Prop :=
  (w.family ∈ [0x6, 0x7, 0x8, 0xC] ∧ r = w.x) ∨
    (w.family = 0x8 ∧ w.n ∈ [0x4, 0x5, 0x6, 0x7, 0xE] ∧ r = Machine.flagRegister) ∨
    (w.family = 0xD ∧ r = Machine.flagRegister) ∨
    (w.family = 0xF ∧ w.nn ∈ [0x07, 0x0A] ∧ r = w.x) ∨
    (w.family = 0xF ∧ w.nn = 0x65 ∧ r.toNat ≤ w.x.toNat)

/-- The word moves the index register: `A???`, `F?1E` or `F?29`. -/
def MovesIndex (w : Word) : Prop := w.family = 0xA ∨ (w.family = 0xF ∧ w.nn ∈ [0x1E, 0x29])

/-- The word changes the picture: `0?E0` or `D???`. -/
def Paints (w : Word) : Prop := (w.family = 0x0 ∧ w.nn = 0xE0) ∨ w.family = 0xD

/-- The word returns from a subroutine: `0?EE`. -/
def Returns (w : Word) : Prop := w.family = 0x0 ∧ w.nn = 0xEE

instance (w : Word) (r : Nibble) : Decidable (w.Stores r) :=
  inferInstanceAs (Decidable ((_ ∧ _) ∨ (_ ∧ _ ∧ _) ∨ (_ ∧ _) ∨ (_ ∧ _ ∧ _) ∨ (_ ∧ _ ∧ _)))

instance (w : Word) : Decidable w.Returns := inferInstanceAs (Decidable (_ ∧ _))

end Word

namespace Machine

/-- The word may write a cell: one of three from the index register on for `F?33`, and one for each
register up to `VX` for `F?55`. -/
def WritesCell (m : Machine) (w : Word) (cell : Nat) : Prop :=
  ∃ k, cell = (m.index.toNat + k) % 4096 ∧ w.family = 0xF ∧
    (w.nn = 0x33 ∧ k < 3 ∨ w.nn = 0x55 ∧ k ≤ w.x.toNat)

/-- The word is a skip and its condition holds. -/
def Skips (m : Machine) (w : Word) : Prop :=
  (w.family = 0x3 ∧ m.register w.x = w.nn) ∨
    (w.family = 0x4 ∧ m.register w.x ≠ w.nn) ∨
    (w.family = 0x5 ∧ m.register w.x = m.register w.y) ∨
    (w.family = 0x9 ∧ m.register w.x ≠ m.register w.y) ∨
    (w.family = 0xE ∧ w.nn = 0x9E ∧ m.keypad.reading = some ((m.register w.x).toNat : Int)) ∨
    (w.family = 0xE ∧ w.nn = 0xA1 ∧ m.keypad.reading ≠ some ((m.register w.x).toNat : Int))

instance (m : Machine) (w : Word) : Decidable (m.Skips w) :=
  inferInstanceAs (Decidable ((_ ∧ _) ∨ (_ ∧ _) ∨ (_ ∧ _) ∨ (_ ∧ _) ∨ (_ ∧ _) ∨ (_ ∧ _)))

/-- Where the program goes on after the word at the program counter. -/
def nextPc (m : Machine) (w : Word) : Nat :=
  if w.Returns then (m.stack.headD 0).toNat % 4096
  else if w.family ∈ [0x1, 0x2] then w.nnn.toNat
  else if w.family = 0xB then ((m.register 0).toNat + w.nnn.toNat) % 4096
  else if w.family = 0xF ∧ w.nn = 0x0A ∧ m.keypad.held = none then m.pc.toNat
  else if m.Skips w then (m.pc.toNat + 4) % 4096
  else (m.pc.toNat + 2) % 4096

/-- A machine before the word at its program counter is fetched and the one after the word was
executed, with what the digits of the word leave unchanged. -/
structure Footprint (m m' : Machine) (w : Word) : Prop where
  pc_eq : m'.pc.toNat = m.nextPc w
  register_eq : ∀ r, ¬ w.Stores r → m'.register r = m.register r
  index_eq : ¬ w.MovesIndex → m'.index = m.index
  layout_eq : m'.memory.layout = m.memory.layout
  cell_eq : ∀ cell, ¬ m.WritesCell w cell → m'.memory.cells[cell]? = m.memory.cells[cell]?
  pushed : w.family = 0x2 → ∃ a, m'.stack = a :: m.stack ∧ a.toNat = (m.pc.toNat + 2) % 4096
  popped : w.Returns → ∃ top, m.stack = top :: m'.stack
  stack_eq : w.family ≠ 0x2 → ¬ w.Returns → m'.stack = m.stack
  size_eq : m'.framebuffer.size = m.framebuffer.size
  pixels_eq : ¬ w.Paints → m'.framebuffer.pixels = m.framebuffer.pixels
  delay_eq : ¬ (w.family = 0xF ∧ w.nn = 0x15) →
    m'.delay.value.toNat = m.delay.value.toNat - 1
  sound_eq : ¬ (w.family = 0xF ∧ w.nn = 0x18) →
    m'.sound.value.toNat = m.sound.value.toNat - 1
  keypad_eq : m'.keypad = m.keypad

end Machine

/-! ## What the parts of an instruction leave alone -/

namespace Machine

section

variable (m : Machine)

theorem register_skipIf (condition : Bool) (r : Nibble) :
    (m.skipIf condition).register r = m.register r := by
  cases condition <;> rfl

theorem register_alu (op : Alu) (x y : Nibble) {r : Nibble} (hx : r ≠ x)
    (hflag : op.digit ∈ [0x4, 0x5, 0x6, 0x7, 0xE] → r ≠ flagRegister) :
    (m.alu op x y).register r = m.register r := by
  cases op <;>
    simp_all [alu, Alu.apply, Alu.digit, register_setRegister, register_setFlag, eq_comm]

theorem register_loadRegisters {last r : Nibble} (h : ¬ r.toNat ≤ last.toNat) :
    (m.loadRegisters last).register r = m.register r := by
  simp [loadRegisters, register, h]

/-- A block that is stored from the index register on changes no cell besides its own. -/
theorem getElem?_writeBlock_index_of_ne (bytes : List Byte) {cell : Nat}
    (h : ∀ k < bytes.length, cell ≠ (m.index.toNat + k) % 4096) :
    (m.memory.writeBlock m.indexAddress bytes).cells[cell]? = m.memory.cells[cell]? := by
  apply Memory.getElem?_cells_writeBlock
  intro k hk
  have := h k hk
  rw [indexAddress, BitVec.toNat_setWidth]
  omega

theorem getElem?_storeDecimal (x : Nibble) {cell : Nat}
    (h : ∀ k < 3, cell ≠ (m.index.toNat + k) % 4096) :
    (m.storeDecimal x).memory.cells[cell]? = m.memory.cells[cell]? := by
  apply getElem?_writeBlock_index_of_ne
  intro k hk
  have digits : (Text.digits 10 (m.register x).toNat).length ≤ 2 + 1 :=
    (Text.length_digits_le_iff (by decide) 2).mpr (by omega)
  rw [List.length_map] at hk
  exact h k (by omega)

theorem getElem?_storeRegisters (last : Nibble) {cell : Nat}
    (h : ∀ k ≤ last.toNat, cell ≠ (m.index.toNat + k) % 4096) :
    (m.storeRegisters last).memory.cells[cell]? = m.memory.cells[cell]? := by
  apply getElem?_writeBlock_index_of_ne
  intro k hk
  rw [List.length_take] at hk
  exact h k (by omega)

end

/-! ## What an instruction leaves alone -/

section

variable {m m' : Machine} {reading : Option Int} {source source' : Random.Source}
  {i : Instruction} {w : Word}

/-- A return takes the last entry off the stack and goes there. -/
theorem eq_of_perform_ret (h : m.perform reading source .ret = some (m', source')) :
    source' = source ∧ ∃ top rest, m.stack = top :: rest ∧
      m' = { m with stack := rest, pc := top.setWidth 12 } := by
  rw [perform] at h
  split at h
  · contradiction
  · rename_i top rest stack
    cases h
    exact ⟨rfl, top, rest, stack, rfl⟩

/-- A random byte is drawn once and masked. -/
theorem perform_random (m : Machine) (reading : Option Int) (source : Random.Source) (x : Nibble)
    (mask : Byte) :
    m.perform reading source (.random x mask) =
      some (m.setRegister x (source.next.1 &&& mask), source.next.2) := rfl

theorem eq_of_perform_loadRegisters {last : Nibble}
    (h : m.perform reading source (.loadRegisters last) = some (m', source')) :
    m' = m.loadRegisters last ∧ source' = source := by
  have loaded : some (m.loadRegisters last, source) = some (m', source') := h
  simp only [Option.some.injEq, Prod.mk.injEq] at loaded
  exact ⟨loaded.1.symm, loaded.2.symm⟩

/-- Instructions that change registers and the program counter alone. -/
def Inward : Instruction → Prop
  | .clear | .ret | .call _ | .loadIndex _ | .draw _ _ _ | .setDelay _ | .setSound _ | .addIndex _
  | .pointGlyph _ | .storeDecimal _ | .storeRegisters _ => False
  | _ => True

theorem eq_of_perform_inward (h : m.perform reading source i = some (m', source'))
    (inward : Inward i) : m' = { m with registers := m'.registers, pc := m'.pc } := by
  cases i with
  | waitKey x => cases reading <;> cases h <;> rfl
  | alu op x y => cases h; cases op <;> rfl
  | skipIfByte | skipUnlessByte | skipIfEqual | skipUnlessEqual | skipIfKey | skipUnlessKey =>
    cases h
    rw [skipIf]
    split <;> rfl
  | random =>
    rw [perform_random] at h
    cases h
    rfl
  | loadRegisters =>
    obtain ⟨rfl, -⟩ := eq_of_perform_loadRegisters h
    rw [loadRegisters]
  | clear | ret | call | loadIndex | draw | setDelay | setSound | addIndex | pointGlyph
  | storeDecimal | storeRegisters => exact inward.elim
  | _ => cases h; rfl

theorem register_of_perform (h : m.perform reading source i = some (m', source'))
    (encoded : w.Encodes i) {r : Nibble} (outside : ¬ w.Stores r) :
    m'.register r = m.register r := by
  cases i with
  | ret =>
    obtain ⟨-, top, rest, -, rfl⟩ := eq_of_perform_ret h
    rfl
  | waitKey x =>
    cases reading with
    | none => cases h; rfl
    | some key =>
      cases h
      simp_all [Word.Encodes, Word.Stores, register_setRegister, eq_comm]
  | alu =>
    cases h
    simp_all [Word.Encodes, Word.Stores, register_alu]
  | skipIfByte | skipUnlessByte | skipIfEqual | skipUnlessEqual | skipIfKey | skipUnlessKey =>
    cases h
    exact register_skipIf ..
  | random =>
    rw [perform_random] at h
    cases h
    simp_all [Word.Encodes, Word.Stores, register_setRegister, eq_comm]
  | loadByte | addByte | readDelay | shiftRight | shiftLeft =>
    cases h
    simp_all [Word.Encodes, Word.Stores, register_setRegister, register_setFlag, eq_comm]
  | draw =>
    cases h
    simp_all [Word.Encodes, Word.Stores, register_draw, eq_comm]
  | loadRegisters =>
    obtain ⟨rfl, -⟩ := eq_of_perform_loadRegisters h
    simp_all [Word.Encodes, Word.Stores, register_loadRegisters]
  | _ => cases h; rfl

theorem index_of_perform (h : m.perform reading source i = some (m', source'))
    (encoded : w.Encodes i) (outside : ¬ w.MovesIndex) : m'.index = m.index := by
  cases i with
  | loadIndex | addIndex | pointGlyph => simp_all [Word.Encodes, Word.MovesIndex]
  | ret =>
    obtain ⟨-, top, rest, -, rfl⟩ := eq_of_perform_ret h
    rfl
  | clear | call | draw | setDelay | setSound | storeDecimal | storeRegisters => cases h; rfl
  | _ => rw [eq_of_perform_inward h trivial]

theorem cell_of_perform (h : m.perform reading source i = some (m', source'))
    (encoded : w.Encodes i) {cell : Nat} (outside : ¬ m.WritesCell w cell) :
    m'.memory.cells[cell]? = m.memory.cells[cell]? := by
  cases i with
  | storeDecimal x =>
    cases h
    obtain ⟨family, low, -⟩ := encoded
    apply getElem?_storeDecimal
    intro k hk here
    exact outside ⟨k, here, family, .inl ⟨low, hk⟩⟩
  | storeRegisters last =>
    cases h
    obtain ⟨family, low, rfl⟩ := encoded
    apply getElem?_storeRegisters
    intro k hk here
    exact outside ⟨k, here, family, .inr ⟨low, hk⟩⟩
  | ret =>
    obtain ⟨-, top, rest, -, rfl⟩ := eq_of_perform_ret h
    rfl
  | clear | call | loadIndex | draw | setDelay | setSound | addIndex | pointGlyph => cases h; rfl
  | _ => rw [eq_of_perform_inward h trivial]

theorem pushed_of_perform (h : m.perform reading source i = some (m', source'))
    (encoded : w.Encodes i) (calls : w.family = 0x2) : m'.stack = m.pc.setWidth 16 :: m.stack := by
  cases i with
  | call => cases h; rfl
  | _ => simp [Word.Encodes, calls] at encoded

theorem popped_of_perform (h : m.perform reading source i = some (m', source'))
    (encoded : w.Encodes i) (returns : w.Returns) : ∃ top, m.stack = top :: m'.stack := by
  obtain rfl : i = .ret := encoded.unique returns
  obtain ⟨-, top, rest, stack, rfl⟩ := eq_of_perform_ret h
  exact ⟨top, stack⟩

theorem stack_of_perform (h : m.perform reading source i = some (m', source'))
    (encoded : w.Encodes i) (calls : w.family ≠ 0x2) (returns : ¬ w.Returns) :
    m'.stack = m.stack := by
  cases i with
  | ret | call => simp_all [Word.Encodes, Word.Returns]
  | clear | loadIndex | draw | setDelay | setSound | addIndex | pointGlyph | storeDecimal
  | storeRegisters => cases h; rfl
  | _ => rw [eq_of_perform_inward h trivial]

theorem framebuffer_of_perform (h : m.perform reading source i = some (m', source'))
    (encoded : w.Encodes i) (outside : ¬ w.Paints) : m'.framebuffer = m.framebuffer := by
  cases i with
  | clear | draw => simp_all [Word.Encodes, Word.Paints]
  | ret =>
    obtain ⟨-, top, rest, -, rfl⟩ := eq_of_perform_ret h
    rfl
  | call | loadIndex | setDelay | setSound | addIndex | pointGlyph | storeDecimal
  | storeRegisters => cases h; rfl
  | _ => rw [eq_of_perform_inward h trivial]

theorem delay_of_perform (h : m.perform reading source i = some (m', source'))
    (encoded : w.Encodes i) (outside : ¬ (w.family = 0xF ∧ w.nn = 0x15)) :
    m'.delay = m.delay := by
  cases i with
  | setDelay => simp_all [Word.Encodes]
  | ret =>
    obtain ⟨-, top, rest, -, rfl⟩ := eq_of_perform_ret h
    rfl
  | clear | call | loadIndex | draw | setSound | addIndex | pointGlyph | storeDecimal
  | storeRegisters => cases h; rfl
  | _ => rw [eq_of_perform_inward h trivial]

theorem sound_of_perform (h : m.perform reading source i = some (m', source'))
    (encoded : w.Encodes i) (outside : ¬ (w.family = 0xF ∧ w.nn = 0x18)) :
    m'.sound = m.sound := by
  cases i with
  | setSound => simp_all [Word.Encodes]
  | ret =>
    obtain ⟨-, top, rest, -, rfl⟩ := eq_of_perform_ret h
    rfl
  | clear | call | loadIndex | draw | setDelay | addIndex | pointGlyph | storeDecimal
  | storeRegisters => cases h; rfl
  | _ => rw [eq_of_perform_inward h trivial]

theorem keypad_of_perform (h : m.perform reading source i = some (m', source')) :
    m'.keypad = m.keypad := by
  cases i with
  | ret =>
    obtain ⟨-, top, rest, -, rfl⟩ := eq_of_perform_ret h
    rfl
  | clear | call | loadIndex | draw | setDelay | setSound | addIndex | pointGlyph | storeDecimal
  | storeRegisters => cases h; rfl
  | _ => rw [eq_of_perform_inward h trivial]

/-- A random byte is drawn by a word of family `C` and by no other. -/
theorem source_of_perform (h : m.perform reading source i = some (m', source'))
    (encoded : w.Encodes i) : source' = if w.family = 0xC then source.next.2 else source := by
  cases i with
  | ret =>
    rw [(eq_of_perform_ret h).1, if_neg (by simp [encoded.1])]
  | waitKey x => cases reading <;> cases h <;> simp [encoded.1]
  | random x mask =>
    rw [perform_random] at h
    cases h
    rw [if_pos encoded.1]
  | loadRegisters =>
    obtain ⟨-, rfl⟩ := eq_of_perform_loadRegisters h
    simp [encoded.1]
  | _ => cases h; simp [encoded.1]

/-! ## Where the program goes on -/

theorem toNat_pc_fetch (m : Machine) :
    m.fetch.2.tickTimers.pc.toNat = (m.pc.toNat + 2) % 4096 := by
  change (m.pc + 2).toNat = _
  bv_omega

theorem toNat_pc_skipIf (m : Machine) (condition : Bool) :
    (m.fetch.2.tickTimers.skipIf condition).pc.toNat =
      if condition then (m.pc.toNat + 4) % 4096 else (m.pc.toNat + 2) % 4096 := by
  cases condition with
  | true =>
    change (m.pc + 2 + 2).toNat = (m.pc.toNat + 4) % 4096
    bv_omega
  | false => exact m.toNat_pc_fetch

theorem pc_of_perform
    (h : m.fetch.2.tickTimers.perform m.keypad.reading source i = some (m', source'))
    (encoded : w.Encodes i) : m'.pc.toNat = m.nextPc w := by
  cases i with
  | ret =>
    obtain ⟨-, top, rest, stack, rfl⟩ := eq_of_perform_ret h
    have pushed : m.stack = top :: rest := stack
    have next : m.nextPc w = (m.stack.headD 0).toNat % 4096 := if_pos encoded
    rw [next, pushed, List.headD_cons, BitVec.toNat_setWidth]
  | jump target | call target =>
    cases h
    obtain ⟨family, rfl⟩ := encoded
    have next : m.nextPc w = w.nnn.toNat := by simp [nextPc, Word.Returns, family]
    exact next.symm
  | jumpOffset target =>
    cases h
    obtain ⟨family, rfl⟩ := encoded
    have next : m.nextPc w = ((m.register 0).toNat + w.nnn.toNat) % 4096 := by
      simp [nextPc, Word.Returns, family]
    rw [next]
    change ((m.register 0).setWidth 12 + w.nnn).toNat = _
    rw [BitVec.toNat_add, BitVec.toNat_setWidth]
    omega
  | waitKey x =>
    obtain ⟨family, low, rfl⟩ := encoded
    cases held : m.keypad.held with
    | none =>
      have reading : m.keypad.reading = none := by simp [Keypad.reading, Keypad.heldCode, held]
      have next : m.nextPc w = m.pc.toNat := by
        simp [nextPc, Word.Returns, family, low, held]
      rw [reading] at h
      cases h
      rw [next]
      change (m.pc + 2 - 2).toNat = _
      rw [BitVec.add_sub_cancel]
    | some key =>
      have reading : m.keypad.reading = some (key.code.toNat : Int) := by
        simp [Keypad.reading, Keypad.heldCode, held]
      have next : m.nextPc w = (m.pc.toNat + 2) % 4096 := by
        simp [nextPc, Word.Returns, Skips, family, low, held]
      rw [reading] at h
      cases h
      rw [next]
      exact m.toNat_pc_fetch
  | skipIfByte | skipUnlessByte | skipIfEqual | skipUnlessEqual | skipIfKey | skipUnlessKey =>
    cases h
    rw [toNat_pc_skipIf]
    simp_all [nextPc, Word.Encodes, Word.Returns, Skips]
    rfl
  | alu op x y =>
    cases h
    have next : m.nextPc w = (m.pc.toNat + 2) % 4096 := by
      simp_all [nextPc, Word.Encodes, Word.Returns, Skips]
    rw [next]
    cases op <;> exact m.toNat_pc_fetch
  | random =>
    rw [perform_random] at h
    cases h
    have next : m.nextPc w = (m.pc.toNat + 2) % 4096 := by
      simp_all [nextPc, Word.Encodes, Word.Returns, Skips]
    rw [next]
    exact m.toNat_pc_fetch
  | loadRegisters =>
    obtain ⟨rfl, -⟩ := eq_of_perform_loadRegisters h
    have next : m.nextPc w = (m.pc.toNat + 2) % 4096 := by
      simp_all [nextPc, Word.Encodes, Word.Returns, Skips]
    rw [next]
    exact m.toNat_pc_fetch
  | _ =>
    cases h
    have next : m.nextPc w = (m.pc.toNat + 2) % 4096 := by
      simp_all [nextPc, Word.Encodes, Word.Returns, Skips]
    rw [next]
    exact m.toNat_pc_fetch

/-! ## The footprint -/

theorem Footprint.of_perform
    (h : m.fetch.2.tickTimers.perform m.keypad.reading source i = some (m', source'))
    (encoded : w.Encodes i) : Footprint m m' w where
  pc_eq := pc_of_perform h encoded
  register_eq _ outside := register_of_perform h encoded outside
  index_eq outside := (index_of_perform h encoded outside).trans rfl
  layout_eq := (SameShape.perform h).layout_eq
  cell_eq _ outside := cell_of_perform h encoded outside
  pushed calls := by
    have stack : m'.stack = m.fetch.2.tickTimers.pc.setWidth 16 :: m.stack :=
      pushed_of_perform h encoded calls
    refine ⟨_, stack, ?_⟩
    rw [BitVec.toNat_setWidth, toNat_pc_fetch]
    omega
  popped returns := by
    obtain ⟨top, stack⟩ := popped_of_perform h encoded returns
    exact ⟨top, stack⟩
  stack_eq calls returns := (stack_of_perform h encoded calls returns).trans rfl
  size_eq := (SameShape.perform h).size_eq
  pixels_eq outside := by
    rw [framebuffer_of_perform h encoded outside]
    rfl
  delay_eq outside := by
    rw [delay_of_perform h encoded outside]
    exact m.delay.toNat_tick
  sound_eq outside := by
    rw [sound_of_perform h encoded outside]
    exact m.sound.toNat_tick
  keypad_eq := (keypad_of_perform h).trans rfl

/-- Taking the mark of the picture is outside every footprint. -/
theorem Footprint.clean (h : Footprint m m' w) : Footprint m m'.clean w :=
  ⟨h.pc_eq, h.register_eq, h.index_eq, h.layout_eq, h.cell_eq, h.pushed, h.popped, h.stack_eq,
    h.size_eq, h.pixels_eq, h.delay_eq, h.sound_eq, h.keypad_eq⟩

end

end Machine

end Chip8
