import Chip8.Emulator.Cycle

/-!
# Paced runs

A paced run spreads cycles and redraws over time. It reads a clock before each decision: once the
duration is over it ends, before a cycle is due it sleeps, and otherwise it executes a cycle and
presents the picture if a redraw is due.

The clock belongs to the surroundings, so `runPaced` works in any monad that offers one. It makes at
most a given number of decisions, and has no result if these do not suffice. A rate too large for
seconds to be divided by is refused before the clock is read.
-/

namespace Chip8

/-- A clock to read and to sleep by, in seconds. -/
structure Clock (m : Type → Type) where
  now : m Float
  sleep : Float → m Unit

/-- The deadlines of a paced run and the number of cycles executed so far. -/
structure Pace where
  start : Float
  nextCycle : Float
  nextFrame : Float
  executed : Nat

/-- What a paced run does after reading its clock. -/
inductive Decision where
  | finish
  | sleep (seconds : Float)
  | cycle

/-- The times between two cycles and between two redraws, in seconds. -/
structure Periods where
  cycle : Float
  frame : Float

namespace Periods

/-- Whole numbers from this one on have no nearest double that is finite. -/
def rateLimit : Nat := (1 <<< 1024) - (1 <<< 970)

/-- The time from one event to the next at a rate. -/
def ofRate (rate : Int) : Except ArgumentError Float :=
  if rate.toNat < rateLimit then .ok (1.0 / Float.ofScientific rate.toNat false 0)
  else .error .unpacedRate

/-- The periods of a configuration. -/
def ofConfig (config : Config) : Except ArgumentError Periods := do
  return ⟨← ofRate config.cyclesPerSecond, ← ofRate config.frameRate⟩

end Periods

namespace Pace

/-- The pace at the start of a run: a cycle is due at once and a redraw after one frame. -/
def starting (periods : Periods) (start : Float) : Pace :=
  ⟨start, start, start + periods.frame, 0⟩

/-- What to do at a time, in a run of the given duration. -/
def decide (p : Pace) (seconds now : Float) : Decision :=
  if now - p.start ≥ seconds then .finish
  else if now < p.nextCycle then .sleep (p.nextCycle - now)
  else .cycle

/-- Whether a redraw is due at a time. -/
def frameDue (p : Pace) (now : Float) : Bool := now ≥ p.nextFrame

/-- The pace after a cycle that began at a time. -/
def advance (p : Pace) (periods : Periods) (now : Float) : Pace :=
  { p with
    nextCycle := p.nextCycle + periods.cycle
    nextFrame := if p.frameDue now then p.nextFrame + periods.frame else p.nextFrame
    executed := p.executed + 1 }

end Pace

namespace Emulator

/-- The end of a paced run: the picture is presented once more. -/
def finishPaced (e : Emulator) (executed : Nat) (seconds : Float) : Outcome Nat :=
  ⟨.ok executed, e.present.2.note [.paced executed seconds]⟩

/-- A paced run within a number of decisions. -/
def runPacedFrom [Monad m] (clock : Clock m) (periods : Periods) (seconds : Float) :
    Nat → Pace → Emulator → m (Option (Outcome Nat))
  | 0, _, _ => pure none
  | decisions + 1, pace, e =>
    if e.stopRequested then pure (some (e.finishPaced pace.executed seconds))
    else do
      let now ← clock.now
      match pace.decide seconds now with
      | .finish => pure (some (e.finishPaced pace.executed seconds))
      | .sleep pause =>
        clock.sleep pause
        runPacedFrom clock periods seconds decisions pace e
      | .cycle =>
        let cycled := e.cycle (pace.frameDue now)
        match cycled.result with
        | .error fault => pure (some ⟨.error fault, cycled.emulator⟩)
        | .ok () =>
          runPacedFrom clock periods seconds decisions (pace.advance periods now) cycled.emulator

/-- Run for a duration at the configured rates, with at most the given number of decisions; the
result is the number of cycles executed. An earlier request to stop is forgotten. -/
def runPaced [Monad m] (clock : Clock m) (seconds : Float) (decisions : Nat) (e : Emulator) :
    m (Except ArgumentError (Option (Outcome Nat))) :=
  match Periods.ofConfig e.config with
  | .error refused => pure (.error refused)
  | .ok periods => do
    let start ← clock.now
    let ended ← runPacedFrom clock periods seconds decisions (.starting periods start)
      { e with stopRequested := false }
    return .ok ended

end Emulator

end Chip8
