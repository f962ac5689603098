import Chip8.Emulator.Basic

/-!
# Cycles

A cycle fetches a word, counts the timers down, executes the word and, if asked to, presents the
picture. A fault during execution leaves the effects of fetching and counting behind and nothing
else, so an `Outcome` always tells the emulator that is left.
-/

namespace Chip8

/-- What an operation that may fault came to, and the emulator it left. -/
structure Outcome (α : Type) where
  result : Except Fault α
  emulator : Emulator

namespace Outcome

/-- Go on with an operation unless a fault occurred. -/
@[inline]
def andThen (o : Outcome α) (next : α → Emulator → Outcome β) : Outcome β :=
  match o.result with
  | .error fault => ⟨.error fault, o.emulator⟩
  | .ok a => next a o.emulator

@[simp]
theorem andThen_error (fault : Fault) (e : Emulator) (next : α → Emulator → Outcome β) :
    (⟨.error fault, e⟩ : Outcome α).andThen next = ⟨.error fault, e⟩ := rfl

@[simp]
theorem andThen_ok (a : α) (e : Emulator) (next : α → Emulator → Outcome β) :
    (⟨.ok a, e⟩ : Outcome α).andThen next = next a e := rfl

end Outcome

/-- What executing a word adds to the journal. -/
def Machine.executionEvents (m : Machine) (word : Word) : List Event :=
  match Instruction.decode word with
  | some (.pointGlyph x) =>
    let digit : Nibble := (m.register x).setWidth 4
    [.glyphPointed digit (m.memory.glyphAddress digit.toNat)]
  | _ => []

/-- Note that the picture is shown. -/
def Emulator.noteRedraw (e : Emulator) : Emulator :=
  { e with redraws := e.redraws.push ⟨e.cycles, e.machine.framebuffer⟩ }

/-- Let the hook act on an emulator whose picture is shown. -/
def Hook.act (h : Hook) (e : Emulator) : Emulator :=
  match h with
  | none => e
  | record => e.noteRedraw
  | stop => e.noteRedraw.stop
  | press key => e.noteRedraw.press key

namespace Emulator

/-- Execute a word on the machine as it stands, outside of any cycle. -/
def execute (e : Emulator) (word : Int) (reading : Option Int) (source : Random.Source) (pc : Int) :
    Except Fault Emulator :=
  (e.machine.execute word reading source pc).map fun (machine, _) =>
    { e with machine := machine }.note (e.machine.executionEvents (.ofInt 16 word))

/-- The emulator after the first part of a cycle: the word is fetched and the timers are counted
down. -/
def ready (e : Emulator) : Emulator :=
  let trace := if e.config.trace then [.traced e.machine.pc e.machine.currentWord] else []
  { e with machine := e.machine.fetch.2.tickTimers }.note trace

/-- The second part of a cycle: the word that was fetched from `pc` is executed and the cycle is
counted. -/
def complete (e : Emulator) (pc : Address) (word : Word) : Outcome Unit :=
  match e.machine.execute word.toNat e.machine.keypad.reading e.source pc.toNat with
  | .error fault => ⟨.error fault, e⟩
  | .ok (machine, source) =>
    ⟨.ok (), { e with machine := machine, source := source, cycles := e.cycles + 1 }.note
      (e.machine.executionEvents word)⟩

/-- One cycle without a look at the picture. -/
def advance (e : Emulator) : Outcome Unit := e.ready.complete e.machine.pc e.machine.currentWord

/-- Show the picture if it changed, and tell whether it had. -/
def present (e : Emulator) : Bool × Emulator :=
  if e.machine.framebuffer.dirty then
    let machine := { e.machine with framebuffer := e.machine.framebuffer.clean }
    (true, e.hook.act { e with machine := machine, frames := e.frames + 1 })
  else (false, e)

/-- One cycle; `presenting` tells whether the picture is shown at its end. -/
def cycle (e : Emulator) (presenting : Bool) : Outcome Unit :=
  e.advance.andThen fun _ e => ⟨.ok (), if presenting then e.present.2 else e⟩

/-- One cycle with presentation; the result is the program counter after it. -/
def step (e : Emulator) : Outcome Address :=
  (e.cycle true).andThen fun _ e => ⟨.ok e.machine.pc, e⟩

end Emulator

end Chip8
