import Chip8.Emulator.Run

/-!
# Callbacks

A hook does the same at every redraw. A `Callback` is free to react differently each time: it is
shown the machine and how many cycles and frames there were, and answers with a list of reactions.
The counts tell all calls within a run apart, so this leaves room for callbacks that remember what
they were shown before.

Cycles, steps and runs with a callback are those of `Chip8.Emulator.Cycle` and `Chip8.Emulator.Run`
with the callback in the place of the hook, and every hook is a callback.
-/

namespace Chip8

/-- One thing that a callback does. -/
inductive Reaction where
  /-- Note the redraw. -/
  | record
  /-- Hold a host key. -/
  | press (key : String)
  /-- Hold a key by its code. -/
  | hold (code : Nibble)
  /-- Hold no key. -/
  | release
  /-- Ask a run to stop. -/
  | stop
  deriving DecidableEq, Repr

/-- What a reaction does to an emulator. -/
def Reaction.act : Reaction → Emulator → Emulator
  | record, e => e.noteRedraw
  | press key, e => e.press key
  | hold code, e => e.withKeypad { e.machine.keypad with held := some ⟨code, none⟩ }
  | release, e => e.release
  | stop, e => e.stop

/-- How a redraw is reacted to, told by the machine whose picture is shown and by the cycles and
frames that were counted. -/
structure Callback where
  reactions : (machine : Machine) → (cycles frames : Nat) → List Reaction

namespace Callback

/-- The reactions to an emulator whose picture is shown. -/
def reactionsTo (c : Callback) (e : Emulator) : List Reaction :=
  c.reactions e.machine e.cycles e.frames

/-- Let a callback act on an emulator whose picture is shown. -/
def act (c : Callback) (e : Emulator) : Emulator :=
  (c.reactionsTo e).foldl (fun e reaction => reaction.act e) e

end Callback

/-- A hook as a callback: its reactions are always the same. -/
def Hook.callback : Hook → Callback
  | none => ⟨fun _ _ _ => []⟩
  | record => ⟨fun _ _ _ => [.record]⟩
  | stop => ⟨fun _ _ _ => [.record, .stop]⟩
  | press key => ⟨fun _ _ _ => [.record, .press key]⟩

namespace Emulator

variable (c : Callback)

/-- The emulator whose picture is being shown: the mark is taken and the frame is counted. -/
def showing (e : Emulator) : Emulator :=
  { e with
    machine := { e.machine with framebuffer := e.machine.framebuffer.clean }
    frames := e.frames + 1 }

/-- Show the picture to a callback if it changed. -/
def presentTo (e : Emulator) : Emulator :=
  if e.machine.framebuffer.dirty then c.act e.showing else e

/-- One cycle, with the picture presented to a callback. -/
def cycleWith (e : Emulator) : Outcome Unit :=
  e.advance.andThen fun _ e => ⟨.ok (), e.presentTo c⟩

/-- One cycle with a callback; the result is the program counter after it. -/
def stepWith (e : Emulator) : Outcome Address :=
  (e.cycleWith c).andThen fun _ e => ⟨.ok e.machine.pc, e⟩

/-- Cycles with a callback within a budget until a stop is requested, given the number executed so
far. -/
def runFromWith (executed : Nat) : Nat → Emulator → Outcome Nat
  | 0, e => ⟨.ok executed, e⟩
  | budget + 1, e =>
    if e.stopRequested then ⟨.ok executed, e⟩
    else (e.cycleWith c).andThen fun _ e => runFromWith (executed + 1) budget e

/-- Run at most `limit` cycles with a callback; the result is the number executed. An earlier
request to stop is forgotten. -/
def runWith (e : Emulator) (limit : Int) : Outcome Nat :=
  runFromWith c 0 limit.toNat { e with stopRequested := false }

/-- Cycles with a callback within a budget until the program counter has a value. -/
def runTowardWith (target : Address) : Nat → Emulator → Outcome Bool
  | 0, e => ⟨.ok (e.machine.pc == target), e⟩
  | budget + 1, e =>
    if e.machine.pc = target then ⟨.ok true, e⟩
    else (e.cycleWith c).andThen fun _ e => runTowardWith target budget e

/-- Run at most `limit` cycles with a callback until the program counter has a value; the result
tells whether it has. Requests to stop do not matter. -/
def runUntilWith (e : Emulator) (target limit : Int) : Outcome Bool :=
  runTowardWith c (.ofInt 12 target) limit.toNat e

end Emulator

end Chip8
