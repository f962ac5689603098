import Chip8.Proofs.Emulator.Load
import Chip8.Proofs.IntEmulator.Numbers
import Chip8.Proofs.Machine.Faults
import Chip8.Proofs.Machine.Footprint

/-!
# Refused calls

A call on the numbers of an emulator comes to the numbers of the emulator after the call, or is
refused for the same reason and leaves every number as it was. The numbers tell everything about an
emulator but its journal, so a refused call changes nothing that a host could see.
-/

namespace Chip8

namespace Emulator

/-- What a call does to an emulator, with an imaging library at hand, or why it is refused. -/
def apply (lib : Imaging) (e : Emulator) : Call → Except Refusal Emulator
  | .machine op => (e.machine.apply op).map fun m => { e with machine := m }
  | .execute word reading pc =>
    ((e.machine.execute word reading e.source pc).map fun (m, source) =>
      { e with machine := m, source := source }).mapError .fault
  | .getRegister index => ((e.machine.getRegister index).map fun _ => e).mapError .argument
  | .getPixel row col => ((e.machine.framebuffer.get row col).map fun _ => e).mapError .argument
  | .renderImage scale =>
    ((e.machine.framebuffer.render lib scale).map fun _ => e).mapError .argument
  | .dump start stop width =>
    ((e.machine.memory.dump start stop width).map fun _ => e).mapError .argument
  | .load image => (e.load image).mapError .fault
  | .loadFile text entry =>
    match Path.read text with
    | .error refused => .error (.argument refused)
    | .ok p => (e.loadFile p entry).mapError .fault

/-- What an action on the numbers of an emulator has to come to, given what the emulator answers. -/
def settle (e : Emulator) : Except Refusal Emulator → EStateM.Result Refusal IntEmulator Unit
  | .ok e' => .ok () e'.numbers
  | .error refusal => .error refusal e.numbers

theorem settle_eq_error_iff {e : Emulator} {answer : Except Refusal Emulator} {refusal : Refusal}
    {s : IntEmulator} :
    e.settle answer = .error refusal s ↔ answer = .error refusal ∧ s = e.numbers := by
  cases answer <;> simp [settle, eq_comm]

theorem settle_eq_ok_iff {e : Emulator} {answer : Except Refusal Emulator} {s : IntEmulator} :
    e.settle answer = .ok () s ↔ ∃ e', answer = .ok e' ∧ s = e'.numbers := by
  cases answer <;> simp [settle, eq_comm]

end Emulator

/-- Operations that hold or release a key. -/
def Operation.OnKeypad : Operation → Prop
  | keyDown _ | keyUp | pressCode _ => True
  | _ => False

namespace Machine

variable {m m' : Machine} {word : Int} {reading : Option Int} {source source' : Random.Source}
  {pc : Int}

/-! ## The keypad under operations -/

theorem keypad_of_execute (h : m.execute word reading source pc = .ok (m', source')) :
    m'.keypad = m.keypad := by
  obtain ⟨i, -, performed⟩ := exists_of_execute h
  exact keypad_of_perform performed

theorem keypad_of_apply {op : Operation} (h : m.apply op = .ok m') (off : ¬ op.OnKeypad) :
    m'.keypad = m.keypad := by
  cases op with
  | execute word reading drawn pc =>
    obtain ⟨⟨_, _⟩, executed, rfl⟩ := exists_of_map_eq_ok (eq_ok_of_mapError h)
    exact keypad_of_execute executed
  | setRegister index value =>
    obtain ⟨r, -, rfl⟩ := exists_of_map_eq_ok (eq_ok_of_mapError h)
    rfl
  | pop =>
    obtain ⟨⟨top, _⟩, popped, rfl⟩ := exists_of_map_eq_ok (eq_ok_of_mapError h)
    rw [pop] at popped
    split at popped <;> cases popped
    rfl
  | load image =>
    obtain ⟨memory, -, rfl⟩ := exists_of_map_eq_ok (eq_ok_of_mapError h)
    rfl
  | drawSprite x y height =>
    obtain ⟨x, y, rfl⟩ := exists_of_drawSprite (eq_ok_of_mapError h)
    rfl
  | setPixel row col lit =>
    obtain ⟨f, -, rfl⟩ := exists_of_map_eq_ok (eq_ok_of_mapError h)
    rfl
  | keyDown | keyUp | pressCode => exact (off trivial).elim
  | _ =>
    cases h
    rfl

/-! ## Random bytes -/

/-- A word of the family of random bytes is never refused, and draws one. -/
theorem exists_execute_random (m : Machine) (reading : Option Int) (source : Random.Source)
    (pc : Int) (family : word / 4096 % 16 = 0xC) :
    ∃ m', m.execute word reading source pc = .ok (m', source.next.2) := by
  have family' : Word.family (.ofInt 16 word) = 0xC := by
    rw [IntMachine.family_eq] at family
    exact BitVec.eq_of_toNat_eq (Int.natCast_inj.mp family)
  have decoded := (Instruction.decode_eq_some_iff (.ofInt 16 word) (.random _ _)).mpr
    ⟨family', rfl, rfl⟩
  exact ⟨_, execute_of_perform pc decoded (perform_random m reading source _ _)⟩

/-- Words of the other families leave the source alone. -/
theorem source_of_execute (h : m.execute word reading source pc = .ok (m', source'))
    (family : word / 4096 % 16 ≠ 0xC) : source' = source := by
  obtain ⟨i, decoded, performed⟩ := exists_of_execute h
  have other : Word.family (.ofInt 16 word) ≠ 0xC := by
    intro drawing
    rw [IntMachine.family_eq, drawing] at family
    exact family rfl
  rw [source_of_perform performed ((Instruction.decode_eq_some_iff _ i).mp decoded), if_neg other]

end Machine

namespace IntEmulator

variable (lib : Imaging) (e : Emulator)

/-- An action on the machine leaves what is beside it alone. -/
theorem run_onMachine (a : IntMachine.Action α) (s : IntEmulator) :
    (onMachine a).run s =
      match a.run s.machine with
      | .ok x m => .ok x { s with machine := m }
      | .error refusal m => .error refusal { s with machine := m } := rfl

/-- A machine with the same host key may be exchanged before or after the numbers are read. -/
theorem numbers_withMachine {m : Machine} (h : m.keypad = e.machine.keypad) :
    { e with machine := m : Emulator }.numbers = { e.numbers with machine := m.numbers } := by
  simp only [Emulator.numbers, h]

/-! ## Operations on the machine -/

theorem run_onMachine_act {op : Operation} (off : ¬ op.OnKeypad) :
    (onMachine op.act).run e.numbers = e.settle (e.apply lib (.machine op)) := by
  rw [run_onMachine, Emulator.numbers_machine, op.run_act, Emulator.apply]
  cases applied : e.machine.apply op with
  | error refusal => rfl
  | ok m =>
    have numbers_eq := numbers_withMachine e (Machine.keypad_of_apply applied off)
    simp only [Except.map, Emulator.settle, numbers_eq]

/-- The host key that is remembered is the one that produced the code. -/
theorem run_keyDown (text : String) :
    (keyDown text).run e.numbers = e.settle (e.apply lib (.machine (.keyDown text))) := by
  have hostKey_eq : (e.machine.keypad.press text).hostKey =
      (e.machine.keypad.keyMap.find? text).map (·.1) := by
    simp only [Keypad.hostKey, Keypad.press]
    cases e.machine.keypad.keyMap.find? text <;> rfl
  simp only [keyDown, EStateM.run_bind, run_onMachine, Emulator.numbers, IntMachine.run_keyDown,
    EStateM.run_modify, Emulator.apply, Machine.apply, Except.map, Emulator.settle, hostKey_eq]
  rfl

theorem run_keyUp : keyUp.run e.numbers = e.settle (e.apply lib (.machine .keyUp)) := by
  simp only [keyUp, EStateM.run_bind, run_onMachine, Emulator.numbers_machine,
    IntMachine.run_keyUp, EStateM.run_modify]
  rfl

/-- The code is checked before the host key is forgotten. -/
theorem run_pressCode (code : Int) :
    (pressCode code).run e.numbers = e.settle (e.apply lib (.machine (.pressCode code))) := by
  simp only [pressCode, EStateM.run_bind, run_onMachine, Emulator.numbers_machine,
    IntMachine.run_pressCode, EStateM.run_modify, Emulator.apply, Machine.apply, Keypad.pressCode]
  by_cases inside : 0 ≤ code ∧ code ≤ 15
  · simp only [if_pos inside]
    rfl
  · simp only [if_neg inside]
    rfl

/-! ## Execution -/

theorem run_execute (word : Int) (reading : Option Int) (pc : Int) :
    (execute word reading pc).run e.numbers =
      e.settle (e.apply lib (.execute word reading pc)) := by
  have acted := IntMachine.run_execute e.machine word reading pc
    (IntMachine.ofInt_toNat e.source.next.1)
  rw [Emulator.apply]
  by_cases family : word / 4096 % 16 = 0xC
  · -- The byte is drawn first, and no refusal can follow.
    obtain ⟨m, executed⟩ := e.machine.exists_execute_random reading e.source pc family
    rw [executed] at acted ⊢
    simp only [execute, EStateM.run_bind, EStateM.run_get, if_pos family, EStateM.run_modify,
      run_onMachine, Emulator.numbers, acted, Except.map, Except.mapError, Emulator.settle,
      Machine.keypad_of_execute executed]
  · simp only [execute, EStateM.run_bind, EStateM.run_get, if_neg family, run_onMachine,
      Emulator.numbers_machine, Emulator.numbers_source, acted]
    cases executed : e.machine.execute word reading e.source pc with
    | error f => rfl
    | ok result =>
      obtain ⟨m, source⟩ := result
      obtain rfl := Machine.source_of_execute executed family
      have numbers_eq := numbers_withMachine e (Machine.keypad_of_execute executed)
      simp only [Except.map, Except.mapError, Emulator.settle, numbers_eq]
      rfl

/-! ## Images -/

/-- The image is kept only after it was found to fit. -/
theorem run_load (image : List Byte) :
    (load image).run e.numbers = e.settle (e.apply lib (.load image)) := by
  have stored : (onMachine (Operation.load image).act).run e.numbers = _ :=
    run_onMachine_act lib e id
  simp only [Operation.act, Emulator.apply, Machine.apply] at stored
  simp only [load, EStateM.run_bind, stored, EStateM.run_modify, Emulator.apply, Emulator.load,
    Emulator.store]
  cases e.machine.load image <;> rfl

theorem run_loadFile (text : String) (entry : Entry) :
    (loadFile text entry).run e.numbers = e.settle (e.apply lib (.loadFile text entry)) := by
  rw [loadFile, Emulator.apply]
  cases Path.read text with
  | error refused => rfl
  | ok p =>
    simp only [Emulator.loadFile]
    cases entry.content with
    | error trouble => rfl
    | ok image =>
      have loaded := run_load lib e image
      rw [Emulator.apply] at loaded
      simp only [loaded]
      cases e.load image <;> rfl

/-! ## Readers -/

/-- The samples of the numbers of pixels are those of the pixels. -/
theorem samples_eq (f : Framebuffer) :
    (f.pixels.map fun lit => if lit then (1 : Int) else 0).toList.map
      (fun bit => if bit = 0 then 0 else 255) = f.samples.map Nat.toUInt8 := by
  rw [Framebuffer.samples, Array.toList_map, List.map_map, List.map_map]
  apply List.map_congr_left
  intro lit _
  cases lit <;> rfl

/-- Answers are asked for one after the other, up to the first one that is refused. -/
theorem run_answer_bind {x : Except ArgumentError α} {next : α → Except ArgumentError β}
    {action : α → Action β} {s : IntEmulator}
    (same : ∀ a, (action a).run s = (answer (next a)).run s) :
    (answer x >>= action).run s = (answer (x >>= next)).run s := by
  cases x with
  | error refused => rfl
  | ok a => exact same a

theorem run_renderImage (scale : Int) :
    (renderImage lib scale).run e.numbers =
      (answer (e.machine.framebuffer.render lib scale)).run e.numbers := by
  rw [Framebuffer.render, Framebuffer.magnified]
  by_cases positive : scale ≤ 0
  · simp only [renderImage, if_pos positive]
    rfl
  · obtain ⟨factor, rfl⟩ := Int.eq_ofNat_of_zero_le (by omega : 0 ≤ scale)
    rw [if_neg positive, bind_assoc]
    simp only [renderImage, if_neg positive, EStateM.run_bind, EStateM.run_get,
      Emulator.numbers_machine, Machine.numbers_cols, Machine.numbers_rows, Machine.numbers_pixels,
      samples_eq, ← Int.natCast_mul, Int.toNat_natCast]
    refine run_answer_bind fun plain => ?_
    by_cases single : (factor : Int) = 1
    · rw [if_pos single, if_pos single]
      rfl
    · rw [if_neg single, if_neg single]
      exact run_answer_bind fun _ => rfl

theorem run_dump (start stop width : Int) :
    ((Call.dump start stop width).act lib).run e.numbers =
      e.settle (e.apply lib (.dump start stop width)) := by
  rw [Emulator.apply, Memory.dump]
  simp only [Call.act, dump]
  by_cases flat : width = 0
  · simp only [if_pos flat]
    rfl
  · simp only [if_neg flat]
    rfl

end IntEmulator

/-- A call on the numbers of an emulator is accepted and comes to the numbers of the emulator after
it, or is refused for the same reason and leaves the numbers alone. -/
theorem Call.run_act (lib : Imaging) (call : Call) (e : Emulator) :
    (call.act lib).run e.numbers = e.settle (e.apply lib call) := by
  cases call with
  | machine op =>
    by_cases on : op.OnKeypad
    · cases op with
      | keyDown text => exact IntEmulator.run_keyDown lib e text
      | keyUp => exact IntEmulator.run_keyUp lib e
      | pressCode code => exact IntEmulator.run_pressCode lib e code
      | _ => exact on.elim
    · have act_eq : act lib (.machine op) = IntEmulator.onMachine op.act := by
        cases op with
        | keyDown | keyUp | pressCode => exact (on trivial).elim
        | _ => rfl
      rw [act_eq, IntEmulator.run_onMachine_act lib e on]
  | execute word reading pc => exact IntEmulator.run_execute lib e word reading pc
  | getRegister index =>
    simp only [act, EStateM.run_bind, IntEmulator.run_onMachine, Emulator.numbers_machine,
      IntMachine.run_getRegister_int, Emulator.apply]
    cases e.machine.getRegister index <;> rfl
  | getPixel row col =>
    simp only [act, EStateM.run_bind, IntEmulator.run_onMachine, Emulator.numbers_machine,
      IntMachine.run_getPixel, Emulator.apply]
    cases e.machine.framebuffer.get row col <;> rfl
  | renderImage scale =>
    simp only [act, EStateM.run_bind, IntEmulator.run_renderImage, Emulator.apply]
    cases e.machine.framebuffer.render lib scale <;> rfl
  | dump start stop width => exact IntEmulator.run_dump lib e start stop width
  | load image => exact IntEmulator.run_load lib e image
  | loadFile text entry => exact IntEmulator.run_loadFile lib e text entry

/-- A call is refused exactly when and for the reason for which the emulator refuses it, and then
leaves every number as it was; a call that is not refused does what the emulator does. The emulators
of the same numbers are those that differ in their journals alone. -/
theorem Call.act_atomic (lib : Imaging) (call : Call) (e : Emulator) :
    (∀ refusal s, (call.act lib).run e.numbers = .error refusal s ↔
      e.apply lib call = .error refusal ∧ s = e.numbers) ∧
    (∀ s, (call.act lib).run e.numbers = .ok () s ↔
      ∃ e', e.apply lib call = .ok e' ∧ s = e'.numbers) ∧
    ∀ e' : Emulator, e'.numbers = e.numbers ↔ e' = { e with journal := e'.journal } := by
  have ran := call.run_act lib e
  refine ⟨fun refusal s => ?refused, fun s => ?accepted, fun e' => e.numbers_eq_iff e'⟩
  case refused => rw [ran, Emulator.settle_eq_error_iff]
  case accepted => rw [ran, Emulator.settle_eq_ok_iff]

end Chip8
