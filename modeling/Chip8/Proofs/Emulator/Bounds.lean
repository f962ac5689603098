import Chip8.Proofs.Emulator.Created

/-!
# Bounds through every run

A machine that integers built, and the machine of an emulator, keep every number within its range
and every sequence at its length, whatever is done to them. The emulator's machine is followed
through the machine over the integers, in which a missing reduction would show.
-/

namespace Chip8

/-! ## What the constructors accept -/

theorem Framebuffer.Size.of_ofInts {rows cols : Int} {size : Size}
    (h : ofInts rows cols = .ok size) : (size.rows : Int) = rows ∧ (size.cols : Int) = cols := by
  rw [ofInts, ofInts?] at h
  by_cases positive : 0 < rows ∧ 0 < cols
  · rw [dif_pos positive] at h
    cases h
    simp only
    omega
  · rw [dif_neg positive] at h
    contradiction

theorem Framebuffer.eq_dark_of_createWithin {storage : Nat} {size : Size} {f : Framebuffer}
    (h : createWithin storage size = .ok f) : f = dark size := by
  obtain ⟨checked, accepted, rfl⟩ := exists_of_map_eq_ok h
  rw [Size.eq_of_check accepted]

/-- An emulator is created with the machine that its configuration describes. -/
theorem Emulator.built_of_createWithin {storage : Nat} {config : Config} {origin : Random.Source}
    {e : Emulator} (h : createWithin storage config origin = .ok e) :
    Built e ∧ e.config = config ∧
      e.machine.numbers = .powerOn config.fontAddress config.programStart config.rows config.cols
        config.keyMap none := by
  have made := Created.of_createWithin h
  obtain ⟨font_eq, start_eq⟩ := Layout.of_ofAddresses made.placed
  have rows_eq : (config.size.rows : Int) = config.rows := by
    have := config.rows_pos
    simp only [Config.size]
    omega
  have cols_eq : (config.size.cols : Int) = config.cols := by
    have := config.cols_pos
    simp only [Config.size]
    omega
  refine ⟨made.built, made.config_eq, ?_⟩
  rw [made.machine_eq, ← font_eq, ← start_eq, ← rows_eq, ← cols_eq]
  exact Machine.numbers_powerOn e.layout config.size (.released config.keyMap)

/-! ## Runs -/

/-- From any machine and any emulator that can be built on a host of any size, every sequence of
operations, refused ones and faults included, leaves sixteen registers and both timers within a
byte, the program counter within twelve bits, index and stack entries within a word, the memory at
its first length with bytes in it, the picture at its size with bits in it and no key held beyond
the sixteen. Of a machine this holds on the integers themselves, reduced only where the operations
reduce them. -/
theorem operations_inBounds :
    (∀ (storage : Nat) (font start rows cols : Int) (name : String) (layout : Layout)
        (size : Framebuffer.Size) (framebuffer : Framebuffer) (keyMap : KeyMap),
      Layout.ofAddresses font start = .ok layout → Framebuffer.Size.ofInts rows cols = .ok size →
      Framebuffer.createWithin storage size = .ok framebuffer → KeyMap.ofName name = .ok keyMap →
      ∀ ops : List Operation,
        let built := IntMachine.powerOn font start rows cols keyMap none
        let m := Machine.powerOn (.blank layout) framebuffer (.released keyMap)
        built.afterAll ops = (m.afterAll ops).numbers ∧
          (built.afterAll ops).InBounds built.cells.size rows cols) ∧
      ∀ (storage : Nat) (config : Config) (origin : Random.Source) (e : Emulator),
        Emulator.createWithin storage config origin = .ok e → ∀ ops : List Emulator.Operation,
          let built := IntMachine.powerOn config.fontAddress config.programStart config.rows
            config.cols config.keyMap none
          let reached := (e.afterAll ops).machine.numbers
          (∃ machineOps, reached = built.afterAll machineOps) ∧
            reached.InBounds built.cells.size config.rows config.cols := by
  constructor
  · intro storage font start rows cols name layout size framebuffer keyMap placed sized accepted
      known ops
    obtain ⟨rfl, rfl⟩ := Layout.of_ofAddresses placed
    obtain ⟨rfl, rfl⟩ := Framebuffer.Size.of_ofInts sized
    obtain rfl := Framebuffer.eq_dark_of_createWithin accepted
    intro built m
    have built_eq : m.numbers = built := Machine.numbers_powerOn layout size (.released keyMap)
    have bounds := IntMachine.afterAll_inBounds m ops
    rw [← built_eq, Machine.numbers_cells, Array.size_map]
    exact ⟨m.numbers_afterAll ops, bounds⟩
  · intro storage config origin e created ops
    obtain ⟨fits, config_eq, numbers_eq⟩ := Emulator.built_of_createWithin created
    obtain ⟨machineOps, machine_eq⟩ := (Emulator.Drives.afterAll fits ops).machine_eq
    intro built reached
    have reached_eq : reached = built.afterAll machineOps := by
      change (e.afterAll ops).machine.numbers = _
      rw [machine_eq, ← Machine.numbers_afterAll, numbers_eq]
    have bounds := IntMachine.afterAll_inBounds e.machine machineOps
    have rows_eq : (e.machine.framebuffer.size.rows : Int) = config.rows :=
      congrArg IntMachine.rows numbers_eq
    have cols_eq : (e.machine.framebuffer.size.cols : Int) = config.cols :=
      congrArg IntMachine.cols numbers_eq
    have cells_eq : e.machine.memory.cells.size = built.cells.size := by
      have same := congrArg IntMachine.cells numbers_eq
      rw [← same, Machine.numbers_cells, Array.size_map]
    rw [numbers_eq, rows_eq, cols_eq, cells_eq] at bounds
    exact ⟨⟨machineOps, reached_eq⟩, reached_eq ▸ bounds⟩

/-- The bounds hold of the usual machine after refused and reduced arguments, and of the usual
emulator after a fault and a reset. -/
theorem operations_inBounds_standard :
    let built := IntMachine.powerOn 0x50 0x200 32 64 .hex none
    (built.afterAll
        [.setRegister 3 (-1), .setRegister 16 0, .execute (-0x10000) none 0 0]).InBounds
          built.cells.size 32 64 ∧
      ∃ e, Emulator.create Emulator.clearing.config .silent = .ok e ∧
        (e.afterAll [.step, .reset]).machine.numbers.InBounds built.cells.size 32 64 := by
  have placed : Layout.ofAddresses 0x50 0x200 = .ok .standard := by rfl
  have sized : Framebuffer.Size.ofInts 32 64 = .ok .standard := by rfl
  have accepted : Framebuffer.create .standard = .ok (.dark .standard) := by rfl
  have known : KeyMap.ofName "hex" = .ok .hex := by rfl
  obtain ⟨e, created⟩ : ∃ e, Emulator.create Emulator.clearing.config .silent = .ok e := ⟨_, rfl⟩
  constructor
  · exact (operations_inBounds.1 _ _ _ _ _ _ _ _ _ _ placed sized accepted known _).2
  · exact ⟨e, created, (operations_inBounds.2 _ _ _ e created _).2⟩

end Chip8
