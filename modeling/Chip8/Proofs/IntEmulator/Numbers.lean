import Chip8.Proofs.IntEmulator.Basic

/-!
# The numbers of an emulator

`Emulator.numbers` reads an emulator as an emulator over the integers. Nothing but the journal is
lost on the way: emulators of the same numbers agree in everything else.
-/

namespace Chip8

/-- The integers that an emulator holds, and what it holds beside them. -/
@[simps]
def Emulator.numbers (e : Emulator) : IntEmulator where
  config := e.config
  layout := e.layout
  machine := e.machine.numbers
  hostKey := e.machine.keypad.hostKey
  origin := e.origin
  source := e.source
  image := e.image
  hook := e.hook
  cycles := e.cycles
  frames := e.frames
  stopRequested := e.stopRequested
  redraws := e.redraws

/-! ## What the numbers tell -/

theorem natCast_toNat_inj {width : Nat} (a b : BitVec width)
    (h : (a.toNat : Int) = b.toNat) : a = b :=
  BitVec.eq_of_toNat_eq (Int.natCast_inj.mp h)

/-- A keypad is known by its key map, its reading and the host key. -/
theorem Keypad.eq_of_reading {k k' : Keypad} (keyMap_eq : k.keyMap = k'.keyMap)
    (reading_eq : k.reading = k'.reading) (hostKey_eq : k.hostKey = k'.hostKey) : k = k' := by
  obtain ⟨keyMap, held⟩ := k
  obtain ⟨keyMap', held'⟩ := k'
  obtain rfl : keyMap = keyMap' := keyMap_eq
  match held, held' with
  | none, none => rfl
  | none, some _ | some _, none => contradiction
  | some ⟨code, hostKey⟩, some ⟨code', hostKey'⟩ =>
    obtain rfl : hostKey = hostKey' := hostKey_eq
    obtain rfl : code = code' := natCast_toNat_inj _ _ (Option.some.inj reading_eq)
    rfl

/-- A memory is known by the numbers of its layout and its cells. -/
theorem Memory.eq_of_cells {m m' : Memory}
    (font_eq : m.layout.fontAddress = m'.layout.fontAddress)
    (start_eq : (m.layout.programStart.toNat : Int) = m'.layout.programStart.toNat)
    (cells_eq : m.cells.map (fun b => (b.toNat : Int)) = m'.cells.map fun b => (b.toNat : Int)) :
    m = m' := by
  obtain ⟨⟨font, start, _, _⟩, cells, _⟩ := m
  obtain ⟨⟨font', start', _, _⟩, cells', _⟩ := m'
  obtain rfl : font = font' := font_eq
  obtain rfl : start = start' := natCast_toNat_inj _ _ start_eq
  obtain rfl : cells = cells' := (Array.map_inj_right natCast_toNat_inj).mp cells_eq
  rfl

/-- A picture is known by the numbers of its dimensions and pixels and by its mark. -/
theorem Framebuffer.eq_of_pixels {f f' : Framebuffer}
    (rows_eq : (f.size.rows : Int) = f'.size.rows) (cols_eq : (f.size.cols : Int) = f'.size.cols)
    (pixels_eq : f.pixels.map (fun lit => if lit then (1 : Int) else 0) =
      f'.pixels.map fun lit => if lit then (1 : Int) else 0)
    (dirty_eq : f.dirty = f'.dirty) : f = f' := by
  obtain ⟨⟨rows, cols, _, _⟩, pixels, dirty, _⟩ := f
  obtain ⟨⟨rows', cols', _, _⟩, pixels', dirty', _⟩ := f'
  obtain rfl : rows = rows' := Int.natCast_inj.mp rows_eq
  obtain rfl : cols = cols' := Int.natCast_inj.mp cols_eq
  obtain rfl : pixels = pixels' := (Array.map_inj_right (by decide)).mp pixels_eq
  obtain rfl : dirty = dirty' := dirty_eq
  rfl

/-- A machine is known by its numbers and the host key. -/
theorem Machine.eq_of_numbers {m m' : Machine} (h : m.numbers = m'.numbers)
    (hostKey_eq : m.keypad.hostKey = m'.keypad.hostKey) : m = m' := by
  rw [numbers, numbers, IntMachine.mk.injEq] at h
  obtain ⟨registers_eq, pc_eq, index_eq, stack_eq, font_eq, start_eq, cells_eq, rows_eq, cols_eq,
    pixels_eq, dirty_eq, keyMap_eq, held_eq, delay_eq, sound_eq⟩ := h
  have memory_eq := Memory.eq_of_cells font_eq start_eq cells_eq
  have framebuffer_eq := Framebuffer.eq_of_pixels rows_eq cols_eq pixels_eq dirty_eq
  have keypad_eq := Keypad.eq_of_reading keyMap_eq held_eq hostKey_eq
  obtain ⟨registers, pc, index, stack, memory, framebuffer, keypad, ⟨delay⟩, ⟨sound⟩⟩ := m
  obtain ⟨registers', pc', index', stack', memory', framebuffer', keypad', ⟨delay'⟩, ⟨sound'⟩⟩ := m'
  obtain rfl : registers = registers' :=
    Vector.toArray_inj.mp ((Array.map_inj_right natCast_toNat_inj).mp registers_eq)
  obtain rfl : pc = pc' := natCast_toNat_inj _ _ pc_eq
  obtain rfl : index = index' := natCast_toNat_inj _ _ index_eq
  obtain rfl : stack = stack' := (List.map_inj_right natCast_toNat_inj).mp stack_eq
  obtain rfl : delay = delay' := natCast_toNat_inj _ _ delay_eq
  obtain rfl : sound = sound' := natCast_toNat_inj _ _ sound_eq
  obtain rfl : memory = memory' := memory_eq
  obtain rfl : framebuffer = framebuffer' := framebuffer_eq
  obtain rfl : keypad = keypad' := keypad_eq
  rfl

/-- Emulators of the same numbers differ at most in their journals. -/
theorem Emulator.numbers_eq_iff (e e' : Emulator) :
    e'.numbers = e.numbers ↔ e' = { e with journal := e'.journal } := by
  constructor
  · intro h
    have machine_eq : e'.machine = e.machine :=
      Machine.eq_of_numbers (congrArg IntEmulator.machine h) (congrArg IntEmulator.hostKey h)
    rw [numbers, numbers, IntEmulator.mk.injEq] at h
    obtain ⟨config_eq, layout_eq, -, -, origin_eq, source_eq, image_eq, hook_eq, cycles_eq,
      frames_eq, stop_eq, redraws_eq⟩ := h
    rw [← config_eq, ← layout_eq, ← machine_eq, ← origin_eq, ← source_eq, ← image_eq, ← hook_eq,
      ← Int.natCast_inj.mp cycles_eq, ← Int.natCast_inj.mp frames_eq, ← stop_eq, ← redraws_eq]
  · intro h
    have same : e'.numbers = { e with journal := e'.journal : Emulator }.numbers :=
      congrArg numbers h
    exact same

end Chip8
