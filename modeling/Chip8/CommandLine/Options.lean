import Chip8.Config.Basic

/-!
# Options of the runner

What a run of a program is asked to do, however it was said.
-/

namespace Chip8.CommandLine

/-- What a run of a program is asked to do. -/
structure Options where
  rom : String
  /-- A text after the program, which nothing is done with. -/
  extra : Option String
  cycles : Nat
  /-- A duration in seconds, instead of a number of cycles. -/
  realtime : Option Float
  cyclesPerSecond : Int
  /-- The host key held during the run. -/
  key : Option String
  keyMap : KeyMap
  seed : Option Int
  /-- The file for a picture of the final display. -/
  png : Option String
  scale : Int
  noDisplay : Bool
  trace : Bool
  verbose : Bool

/-- The settings of the emulator for a run. -/
def Options.settings (o : Options) : Settings where
  cyclesPerSecond := o.cyclesPerSecond
  keyMapName := o.keyMap.name
  seed := o.seed
  trace := o.trace

end Chip8.CommandLine
