import Chip8.Config.Basic
import Chip8.Text.Integer

/-!
# Configuration from the environment

Six environment variables may change the usual settings. Each is read on its own, and one whose text
does not make sense is ignored.
-/

namespace Chip8

namespace Settings

/-- The texts of the environment variables that are set. -/
abbrev Environment := String → Option String

/-- The number in a variable. Markers for other bases are understood. -/
def environmentInt? (env : Environment) (name : String) : Option Int :=
  (env name).bind Text.readMarkedInt?

/-- The number in a variable if it is positive. -/
def environmentCount? (env : Environment) (name : String) : Option Int :=
  (environmentInt? env name).filter (0 < ·)

/-- The key map in a variable, by its own name. -/
def environmentKeyMap? (env : Environment) (name : String) : Option String :=
  ((env name).bind KeyMap.ofName?).map KeyMap.name

/-- The usual settings, changed by the environment variables that make sense. -/
def ofEnvironment (env : Environment) : Settings :=
  let usual : Settings := {}
  { usual with
    rows := (environmentCount? env "CHIP8_ROWS").getD usual.rows
    cols := (environmentCount? env "CHIP8_COLS").getD usual.cols
    cyclesPerSecond := (environmentCount? env "CHIP8_CPS").getD usual.cyclesPerSecond
    frameRate := (environmentCount? env "CHIP8_FRAME_RATE").getD usual.frameRate
    seed := environmentInt? env "CHIP8_SEED"
    keyMapName := (environmentKeyMap? env "CHIP8_KEYMAP").getD usual.keyMapName }

end Settings

/-- The configuration that the environment describes. -/
def Config.ofEnvironment (env : Settings.Environment) : Except ArgumentError Config :=
  (Settings.ofEnvironment env).check

end Chip8
