import Chip8.Proofs.Emulator.Load
import Chip8.Proofs.Emulator.Steady

/-!
# Operations of an emulator

What a host can do to an emulator, and that its machine sees nothing else than operations on it:
cycles are fetches, ticks and executions, presentations take the mark of the picture, hooks hold
keys, and a reset builds the machine anew.
-/

namespace Chip8

namespace Emulator

/-- What a host can do to an emulator. A paced run reads its clock off a list of times. -/
inductive Operation where
  /-- An operation on the machine itself. -/
  | machine (op : Chip8.Operation)
  | load (image : List Byte)
  | loadFile (p : Path) (entry : Entry)
  | reset
  | cycle (presenting : Bool)
  | present
  | step
  | run (limit : Int)
  | runUntil (target limit : Int)
  | runPaced (seconds : Float) (times : List Float) (decisions : Nat)
  | stop
  | press (key : String)
  | release
  | pressCode (code : Int)
  | setHook (hook : Hook)

/-- The emulator after an operation, whether it was refused, ended with a fault or neither. A paced
run that does not return within its decisions counts for nothing. -/
def after (e : Emulator) : Operation → Emulator
  | .machine op => { e with machine := e.machine.after op }
  | .load image => (e.load image).toOption.getD e
  | .loadFile p entry => (e.loadFile p entry).toOption.getD e
  | .reset => e.reset
  | .cycle presenting => (e.cycle presenting).emulator
  | .present => e.present.2
  | .step => e.step.emulator
  | .run limit => (e.run limit).emulator
  | .runUntil target limit => (e.runUntil target limit).emulator
  | .runPaced seconds times decisions =>
    match ((e.runPaced scriptedClock seconds decisions).run times).1 with
    | .ok (some o) => o.emulator
    | _ => e
  | .stop => e.stop
  | .press key => e.press key
  | .release => e.release
  | .pressCode code => (e.pressCode code).toOption.getD e
  | .setHook hook => { e with hook := hook }

/-- The emulator after a sequence of operations. -/
def afterAll (e : Emulator) (ops : List Operation) : Emulator := ops.foldl after e

/-- What the parts of a run keep is kept by a paced run, even if it is refused or does not
return. -/
theorem Steady.after_runPaced {kept : Emulator → Prop} {e : Emulator} (steady : Steady kept)
    (h : kept e) (seconds : Float) (times : List Float) (decisions : Nat) :
    kept (e.after (.runPaced seconds times decisions)) := by
  rw [after]
  rcases ran : (e.runPaced scriptedClock seconds decisions).run times with ⟨result, times'⟩
  match result with
  | .error refused => exact h
  | .ok none => exact h
  | .ok (some o) => exact steady.runPaced h ran

/-- The second emulator has the configuration of the first, and its machine comes from that of the
first by operations on it. -/
structure Drives (e e' : Emulator) : Prop where
  config_eq : e'.config = e.config
  layout_eq : e'.layout = e.layout
  machine_eq : ∃ ops : List Chip8.Operation, e'.machine = e.machine.afterAll ops

/-- The machine has the layout and the dimensions that the emulator builds machines with. -/
structure Built (e : Emulator) : Prop where
  layout_eq : e.machine.memory.layout = e.layout
  size_eq : e.machine.framebuffer.size = e.config.size

end Emulator

/-! ## What an execution needs of a random source -/

namespace Machine

/-- Only the next byte of a source matters to the machine. -/
theorem perform_map_fst (m : Machine) (reading : Option Int) (i : Instruction)
    {source source' : Random.Source} (h : source.next.1 = source'.next.1) :
    (m.perform reading source i).map (·.1) = (m.perform reading source' i).map (·.1) := by
  cases i with
  | ret => cases stack : m.stack <;> simp [perform, stack]
  | waitKey x => cases reading <;> rfl
  | random x mask => simp only [perform, h, Option.map_some]
  | _ => rfl

theorem execute_map_fst (m : Machine) (word : Int) (reading : Option Int) (pc : Int)
    {source source' : Random.Source} (h : source.next.1 = source'.next.1) :
    (m.execute word reading source pc).map (·.1) =
      (m.execute word reading source' pc).map (·.1) := by
  simp only [execute]
  cases Instruction.decode (.ofInt 16 word) with
  | none => rfl
  | some i =>
    have same := m.perform_map_fst reading i h
    cases performed : m.perform reading source i <;>
      cases performed' : m.perform reading source' i <;>
        simp_all [Except.map]

theorem apply_execute {m m' : Machine} {word : Int} {reading : Option Int}
    {source source' : Random.Source} {pc : Int}
    (h : m.execute word reading source pc = .ok (m', source')) :
    m.apply (.execute word reading source.next.1.toNat pc) = .ok m' := by
  have drawn : (Random.Source.script #[.ofInt 8 source.next.1.toNat] 0).next.1 =
      source.next.1 := IntMachine.ofInt_toNat source.next.1
  simp only [apply, m.execute_map_fst word reading pc drawn, h]
  rfl

theorem afterAll_append (m : Machine) (ops ops' : List Operation) :
    m.afterAll (ops ++ ops') = (m.afterAll ops).afterAll ops' :=
  List.foldl_append

end Machine

/-! ## Operations of an emulator are operations on its machine -/

namespace Emulator

namespace Drives

theorem refl (e : Emulator) : Drives e e := ⟨rfl, rfl, [], rfl⟩

theorem trans {e₁ e₂ e₃ : Emulator} (h₁ : Drives e₁ e₂) (h₂ : Drives e₂ e₃) : Drives e₁ e₃ := by
  obtain ⟨ops₁, same₁⟩ := h₁.machine_eq
  obtain ⟨ops₂, same₂⟩ := h₂.machine_eq
  refine ⟨h₂.config_eq.trans h₁.config_eq, h₂.layout_eq.trans h₁.layout_eq, ops₁ ++ ops₂, ?_⟩
  rw [Machine.afterAll_append, ← same₁, same₂]

/-- What an emulator builds its machines with stays fitting. -/
theorem built {e e' : Emulator} (h : Drives e e') (built : Built e) : Built e' := by
  obtain ⟨ops, same⟩ := h.machine_eq
  have shape := e.machine.sameShape_afterAll ops
  constructor
  · rw [same, shape.layout_eq, built.layout_eq, h.layout_eq]
  · rw [same, shape.size_eq, built.size_eq, h.config_eq]

theorem press (e : Emulator) (key : String) : Drives e (e.press key) :=
  ⟨rfl, rfl, [.keyDown key], rfl⟩

theorem ready (e : Emulator) : Drives e e.ready := ⟨rfl, rfl, [.fetch, .tickTimers], rfl⟩

theorem advance (e : Emulator) : Drives e e.advance.emulator := by
  rw [Emulator.advance, complete]
  cases executed : e.ready.machine.execute e.machine.currentWord.toNat
      e.ready.machine.keypad.reading e.ready.source e.machine.pc.toNat with
  | error f => exact ready e
  | ok result =>
    have applied := Machine.apply_execute executed
    refine (ready e).trans ⟨rfl, rfl, [.execute e.machine.currentWord.toNat
      e.ready.machine.keypad.reading e.ready.source.next.1.toNat e.machine.pc.toNat], ?_⟩
    change result.1 = e.ready.machine.after _
    rw [Machine.after, applied]
    rfl

theorem act (e : Emulator) (hook : Hook) : Drives e (hook.act e) := by
  cases hook with
  | press key => exact ⟨rfl, rfl, [.keyDown key], rfl⟩
  | _ => exact ⟨rfl, rfl, [], rfl⟩

theorem present (e : Emulator) : Drives e e.present.2 := by
  have cleaned : Drives e { e with
      machine := { e.machine with framebuffer := e.machine.framebuffer.clean }
      frames := e.frames + 1 } := ⟨rfl, rfl, [.takeDirty], rfl⟩
  rw [Emulator.present]
  split
  · exact cleaned.trans (act _ e.hook)
  · exact refl e

/-- The parts of a run act on the machine through its operations. -/
theorem steady (e : Emulator) : Steady (Drives e) where
  advance r h := h.trans (advance r)
  present r h := h.trans (present r)
  unstopped _ h := ⟨h.config_eq, h.layout_eq, h.machine_eq⟩
  note _ _ h := ⟨h.config_eq, h.layout_eq, h.machine_eq⟩

/-- An image that is stored is loaded into the machine. -/
theorem store {e e' : Emulator} {image : List Byte} (h : e.store image = .ok e') :
    Drives e e' := by
  obtain ⟨m, loaded, rfl⟩ := exists_of_map_eq_ok h
  have applied : e.machine.after (.load image) = m := by
    rw [Machine.after, Machine.apply, loaded]
    rfl
  exact ⟨rfl, rfl, [.load image], applied.symm⟩

theorem load {e e' : Emulator} {image : List Byte} (h : e.load image = .ok e') : Drives e e' := by
  obtain ⟨stored, kept, rfl⟩ := exists_of_map_eq_ok h
  have driven := store kept
  exact ⟨driven.config_eq, driven.layout_eq, driven.machine_eq⟩

theorem loadFile {e e' : Emulator} {p : Path} {entry : Entry} (h : e.loadFile p entry = .ok e') :
    Drives e e' := by
  obtain ⟨image, loaded, -, kept, rfl⟩ := eq_of_loadFile h
  have driven := load kept
  exact ⟨driven.config_eq, driven.layout_eq, driven.machine_eq⟩

/-- A reset builds the machine that its emulator was built with and loads the last image. -/
theorem reset {e : Emulator} (built : Built e) : Drives e e.reset := by
  have fresh : freshMachine e.config e.layout e.machine.keypad = e.machine.after .restart := by
    rw [freshMachine, ← built.layout_eq, ← built.size_eq]
    rfl
  have restarted : Drives e e.restarted := ⟨rfl, rfl, [.restart], fresh⟩
  rw [reset_eq]
  split
  · exact restarted
  · cases stored : e.restarted.store e.image with
    | error f => exact restarted
    | ok e' => exact restarted.trans (store stored)

/-- No operation of an emulator does anything to its machine that operations on it do not. -/
theorem after {e : Emulator} (built : Built e) (op : Operation) : Drives e (e.after op) := by
  cases op with
  | machine op => exact ⟨rfl, rfl, [op], rfl⟩
  | load image =>
    rw [Emulator.after]
    cases loaded : e.load image with
    | error f => exact refl e
    | ok e' => exact load loaded
  | loadFile p entry =>
    rw [Emulator.after]
    cases loaded : e.loadFile p entry with
    | error f => exact refl e
    | ok e' => exact loadFile loaded
  | reset => exact reset built
  | cycle presenting => exact (steady e).cycle presenting (refl e)
  | present => exact present e
  | step => exact (steady e).step (refl e)
  | run limit => exact (steady e).run limit (refl e)
  | runUntil target limit => exact (steady e).runToward _ _ (refl e)
  | runPaced seconds times decisions =>
    exact (steady e).after_runPaced (refl e) seconds times decisions
  | stop => exact ⟨rfl, rfl, [], rfl⟩
  | press key => exact press e key
  | release => exact ⟨rfl, rfl, [.keyUp], rfl⟩
  | pressCode code =>
    rw [Emulator.after, Emulator.pressCode]
    cases pressed : e.machine.keypad.pressCode code with
    | error refused => exact refl e
    | ok keypad =>
      refine ⟨rfl, rfl, [.pressCode code], ?_⟩
      change _ = e.machine.after (.pressCode code)
      rw [Machine.after, Machine.apply, pressed]
      rfl
  | setHook hook => exact ⟨rfl, rfl, [], rfl⟩

theorem afterAll {e : Emulator} (built : Built e) (ops : List Operation) :
    Drives e (e.afterAll ops) := by
  induction ops generalizing e with
  | nil => exact refl e
  | cons op ops ih =>
    have first := after built op
    exact first.trans (ih (first.built built))

end Drives

end Emulator

end Chip8
