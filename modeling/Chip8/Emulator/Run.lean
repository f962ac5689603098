import Chip8.Emulator.Cycle

/-!
# Runs

`run` executes cycles until a limit is reached or a stop is requested, and `runUntil` until the
program counter has a given value. Both end with the first fault.
-/

namespace Chip8.Emulator

/-- Cycles within a budget until a stop is requested, given the number executed so far. -/
def runFrom (executed : Nat) : Nat → Emulator → Outcome Nat
  | 0, e => ⟨.ok executed, e⟩
  | budget + 1, e =>
    if e.stopRequested then ⟨.ok executed, e⟩
    else (e.cycle true).andThen fun _ e => runFrom (executed + 1) budget e

/-- Run at most `limit` cycles; the result is the number executed. An earlier request to stop is
forgotten. -/
def run (e : Emulator) (limit : Int) : Outcome Nat :=
  runFrom 0 limit.toNat { e with stopRequested := false }

/-- Cycles within a budget until the program counter has a value. -/
def runToward (target : Address) : Nat → Emulator → Outcome Bool
  | 0, e => ⟨.ok (e.machine.pc == target), e⟩
  | budget + 1, e =>
    if e.machine.pc = target then ⟨.ok true, e⟩
    else (e.cycle true).andThen fun _ e => runToward target budget e

/-- Run at most `limit` cycles until the program counter has a value; the result tells whether it
has. Requests to stop do not matter. -/
def runUntil (e : Emulator) (target limit : Int) : Outcome Bool :=
  runToward (.ofInt 12 target) limit.toNat e

end Chip8.Emulator
