import Chip8.Proofs.IntMachine.Simulation

/-!
# Operations of a host

Everything that can be done to a machine, with integers for arguments wherever a host may hand in
an integer. An operation acts on the machine over the integers and, through the operations of
`Machine`, on the machine itself; both come to the same. A refused operation is part of a sequence
like any other.
-/

namespace Chip8

/-- What a host can do to a timer. -/
inductive TimerOperation where
  | set (value : Int)
  | tick
  | increment
  deriving DecidableEq, Repr

/-- What a host can do to a machine. -/
inductive Operation where
  /-- Execute a word with a reading of the keypad and a random draw. -/
  | execute (word : Int) (reading : Option Int) (drawn pc : Int)
  | fetch
  | tickTimers
  | setRegister (index value : Int)
  | setFlag (value : Int)
  | setPc (target : Int)
  | advancePc
  | rewindPc
  | setIndex (value : Int)
  | push (a : Int)
  | pop
  | writeByte (a value : Int)
  | writeBytes (a : Int) (data : List Int)
  | load (image : List Byte)
  | drawSprite (x y height : Int)
  | delay (op : TimerOperation)
  | sound (op : TimerOperation)
  | setPixel (row col : Int) (lit : Bool)
  | clearPixels
  | takeDirty
  | keyDown (text : String)
  | keyUp
  | pressCode (code : Int)
  /-- Build the machine anew around its keypad. -/
  | restart
  deriving DecidableEq, Repr

/-! ## On integers -/

namespace IntMachine

/-- The number of a timer after an operation. -/
def countAfter (t : Int) : TimerOperation → Int
  | .set value => value % 256
  | .tick => countDown t
  | .increment => countUp t

/-- A machine built from integers that its constructors accept. -/
def powerOn (font start rows cols : Int) (keyMap : KeyMap) (held : Option Int) : IntMachine where
  registers := Array.replicate 16 0
  pc := start
  index := 0
  stack := []
  fontAddress := font
  programStart := start
  cells := Span.splice (Array.replicate 4096 0) font (font + Font.rows.length)
    (Font.rows.map fun b => (b.toNat : Int)).toArray
  rows := rows
  cols := cols
  pixels := Array.replicate (rows * cols).toNat 0
  dirty := false
  keyMap := keyMap
  held := held
  delay := 0
  sound := 0

/-- Start again with an empty program area and the same keypad. -/
def restart : Action Unit := modify fun s =>
  powerOn s.fontAddress s.programStart s.rows s.cols s.keyMap s.held

end IntMachine

namespace Operation

/-- What an operation does to a machine over the integers. -/
def act : Operation → IntMachine.Action Unit
  | execute word reading drawn pc => IntMachine.execute word reading drawn pc
  | fetch => do let _ ← IntMachine.fetch
  | tickTimers => IntMachine.tickTimers
  | setRegister index value => IntMachine.setRegister index value
  | setFlag value => IntMachine.setFlag value
  | setPc target => IntMachine.setPc target
  | advancePc => IntMachine.advancePc
  | rewindPc => IntMachine.rewindPc
  | setIndex value => IntMachine.setIndex value
  | push a => IntMachine.push a
  | pop => do let _ ← IntMachine.pop
  | writeByte a value => IntMachine.writeByte a value
  | writeBytes a data => IntMachine.writeBytes a data
  | load image => IntMachine.load (image.map fun b => (b.toNat : Int))
  | drawSprite x y height => IntMachine.drawSprite x y height
  | delay op => modify fun s => { s with delay := IntMachine.countAfter s.delay op }
  | sound op => modify fun s => { s with sound := IntMachine.countAfter s.sound op }
  | setPixel row col lit => IntMachine.setPixel row col lit
  | clearPixels => IntMachine.clearPixels
  | takeDirty => do let _ ← IntMachine.takeDirty
  | keyDown text => IntMachine.keyDown text
  | keyUp => IntMachine.keyUp
  | pressCode code => IntMachine.pressCode code
  | restart => IntMachine.restart

end Operation

/-! ## On the machine itself -/

/-- A timer after an operation. -/
def Timer.after (t : Timer) : TimerOperation → Timer
  | .set value => .ofInt value
  | .tick => t.tick
  | .increment => t.increment

/-- What an operation does to a machine, or why it is refused. -/
def Machine.apply (m : Machine) : Operation → Except Refusal Machine
  | .execute word reading drawn pc =>
    ((m.execute word reading (.script #[.ofInt 8 drawn] 0) pc).map (·.1)).mapError .fault
  | .fetch => .ok m.fetch.2
  | .tickTimers => .ok m.tickTimers
  | .setRegister index value => (m.putRegister index value).mapError .argument
  | .setFlag value => .ok (m.putFlag value)
  | .setPc target => .ok (m.setPc target)
  | .advancePc => .ok m.skip
  | .rewindPc => .ok m.rewind
  | .setIndex value => .ok (m.setIndex value)
  | .push a => .ok (m.push a)
  | .pop => (m.pop.map (·.2)).mapError .fault
  | .writeByte a value => .ok { m with memory := m.memory.write a value }
  | .writeBytes a data => .ok { m with memory := m.memory.writeBytes a data }
  | .load image => (m.load image).mapError .fault
  | .drawSprite x y height => (m.drawSprite x y height).mapError .argument
  | .delay op => .ok { m with delay := m.delay.after op }
  | .sound op => .ok { m with sound := m.sound.after op }
  | .setPixel row col lit =>
    ((m.framebuffer.set row col lit).map fun f => { m with framebuffer := f }).mapError .argument
  | .clearPixels => .ok { m with framebuffer := m.framebuffer.clear }
  | .takeDirty => .ok { m with framebuffer := m.framebuffer.takeDirty.2 }
  | .keyDown text => .ok { m with keypad := m.keypad.press text }
  | .keyUp => .ok { m with keypad := m.keypad.release }
  | .pressCode code =>
    ((m.keypad.pressCode code).map fun k => { m with keypad := k }).mapError .argument
  | .restart => .ok (.powerOn (.blank m.memory.layout) (.dark m.framebuffer.size) m.keypad)

/-! ## Sequences -/

/-- The machine over the integers after an operation, refused or not. -/
def IntMachine.after (s : IntMachine) (op : Operation) : IntMachine :=
  match op.act.run s with
  | .ok _ s' => s'
  | .error _ s' => s'

/-- The machine over the integers after a sequence of operations. -/
def IntMachine.afterAll (s : IntMachine) (ops : List Operation) : IntMachine := ops.foldl after s

/-- The machine after an operation, refused or not. -/
def Machine.after (m : Machine) (op : Operation) : Machine := (m.apply op).toOption.getD m

/-- The machine after a sequence of operations. -/
def Machine.afterAll (m : Machine) (ops : List Operation) : Machine := ops.foldl after m

/-! ## The two agree -/

theorem IntMachine.countAfter_timer (t : Timer) (op : TimerOperation) :
    countAfter t.value.toNat op = ((t.after op).value.toNat : Int) := by
  cases op with
  | set value => exact byte_emod value
  | tick => exact countDown_timer t
  | increment => exact countUp_timer t

/-- A blank machine has the numbers that integers build. -/
theorem Machine.numbers_powerOn (layout : Layout) (size : Framebuffer.Size) (keypad : Keypad) :
    (powerOn (.blank layout) (.dark size) keypad).numbers =
      .powerOn layout.fontAddress layout.programStart.toNat size.rows size.cols keypad.keyMap
        keypad.reading := by
  have pixels_eq : ((size.rows : Int) * size.cols).toNat = size.area := rfl
  have registers_eq : (Vector.replicate 16 (0 : Byte)).toArray.map (fun b => (b.toNat : Int)) =
      Array.replicate 16 0 := by
    rw [Vector.toArray_replicate, Array.map_replicate]
    rfl
  simp only [numbers, powerOn, IntMachine.powerOn, Memory.blank, Framebuffer.dark,
    Layout.blankCells, Span.map_splice, pixels_eq, registers_eq, Array.map_replicate,
    Layout.addressCount, List.map_toArray]
  rfl

namespace IntMachine

variable (m : Machine)

theorem run_setRegister_int (index value : Int) :
    (setRegister index value).run m.numbers =
      match m.putRegister index value with
      | .ok m' => .ok () m'.numbers
      | .error e => .error (.argument e) m.numbers := by
  rw [Machine.putRegister, Machine.registerOf]
  by_cases h : 0 ≤ index ∧ index < 16
  · have stored := run_setRegister m (.ofInt 4 index) value
    rw [Machine.toNat_ofInt_of_inside h] at stored
    rw [if_pos h, stored]
    rfl
  · rw [if_neg h]
    simp only [setRegister, checkRegister, if_neg h, EStateM.run_bind, EStateM.run_throw]
    rfl

theorem run_getRegister_int (index : Int) :
    (getRegister index).run m.numbers =
      match m.getRegister index with
      | .ok b => .ok b.toNat m.numbers
      | .error e => .error (.argument e) m.numbers := by
  rw [Machine.getRegister, Machine.registerOf]
  by_cases h : 0 ≤ index ∧ index < 16
  · have read := run_getRegister m (.ofInt 4 index)
    rw [Machine.toNat_ofInt_of_inside h] at read
    rw [if_pos h, read]
    rfl
  · rw [if_neg h]
    simp only [getRegister, checkRegister, if_neg h, EStateM.run_bind, EStateM.run_throw]
    rfl

/-- A sprite is drawn at registers that exist, or refused before anything is drawn. -/
theorem run_drawSprite_int (x y height : Int) :
    (drawSprite x y height).run m.numbers =
      match m.drawSprite x y height with
      | .ok m' => .ok () m'.numbers
      | .error e => .error (.argument e) m.numbers := by
  have read_x := run_getRegister_int m x
  have read_y := run_getRegister_int m y
  rw [Machine.getRegister, Machine.registerOf] at read_x read_y
  rw [Machine.drawSprite, Machine.registerOf, Machine.registerOf]
  by_cases hx : 0 ≤ x ∧ x < 16
  · by_cases hy : 0 ≤ y ∧ y < 16
    · have drawn := run_drawSprite m (.ofInt 4 x) (.ofInt 4 y) height
      rw [Machine.toNat_ofInt_of_inside hx, Machine.toNat_ofInt_of_inside hy] at drawn
      rw [if_pos hx, if_pos hy, drawn]
      rfl
    · rw [if_pos hx] at read_x
      rw [if_neg hy] at read_y
      simp only [drawSprite, EStateM.run_bind, EStateM.run_get, read_x, read_y, Except.map,
        Machine.numbers_cols, run_remainder _ m.framebuffer.size.cols_pos, if_pos hx, if_neg hy]
      rfl
  · rw [if_neg hx] at read_x
    simp only [drawSprite, EStateM.run_bind, read_x, Except.map, if_neg hx]
    rfl

end IntMachine

/-- An operation on the numbers of a machine is accepted, and comes to the numbers of the machine
after it, or is refused for the same reason and leaves the numbers alone. -/
theorem Operation.run_act (op : Operation) (m : Machine) :
    op.act.run m.numbers =
      match m.apply op with
      | .ok m' => .ok () m'.numbers
      | .error refusal => .error refusal m.numbers := by
  cases op with
  | execute word reading drawn pc =>
    simp only [act, IntMachine.run_execute_script, Machine.apply]
    cases m.execute word reading (.script #[.ofInt 8 drawn] 0) pc <;> rfl
  | fetch =>
    simp only [act, EStateM.run_bind, IntMachine.run_fetch]
    rfl
  | tickTimers => exact IntMachine.run_tickTimers m
  | setRegister index value =>
    simp only [act, IntMachine.run_setRegister_int, Machine.apply]
    cases m.putRegister index value <;> rfl
  | setFlag value => exact IntMachine.run_setFlag m value
  | setPc target => exact IntMachine.run_setPc m target
  | advancePc => exact IntMachine.run_advancePc m
  | rewindPc => exact IntMachine.run_rewindPc m
  | setIndex value => exact IntMachine.run_setIndex m value
  | push a => exact IntMachine.run_push m a
  | pop =>
    simp only [act, EStateM.run_bind, IntMachine.run_pop, Machine.apply]
    cases m.pop <;> rfl
  | writeByte a value => exact IntMachine.run_writeByte m a value
  | writeBytes a data => exact IntMachine.run_writeBytes m a data
  | load image =>
    simp only [act, IntMachine.run_load, Machine.apply]
    cases m.load image <;> rfl
  | drawSprite x y height =>
    simp only [act, IntMachine.run_drawSprite_int, Machine.apply]
    cases m.drawSprite x y height <;> rfl
  | delay op =>
    simp only [act, EStateM.run_modify, Machine.numbers_delay, IntMachine.countAfter_timer]
    rfl
  | sound op =>
    simp only [act, EStateM.run_modify, Machine.numbers_sound, IntMachine.countAfter_timer]
    rfl
  | setPixel row col lit =>
    simp only [act, IntMachine.run_setPixel, Machine.apply]
    cases m.framebuffer.set row col lit <;> rfl
  | clearPixels => exact IntMachine.run_clearPixels m
  | takeDirty => rfl
  | keyDown text => exact IntMachine.run_keyDown m text
  | keyUp => rfl
  | pressCode code =>
    simp only [act, IntMachine.run_pressCode, Machine.apply]
    cases m.keypad.pressCode code <;> rfl
  | restart =>
    simp only [act, IntMachine.restart, EStateM.run_modify, Machine.apply, Machine.numbers_powerOn]
    rfl

end Chip8
