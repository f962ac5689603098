import Chip8.Framebuffer.Basic
import Chip8.Keypad.KeyMap
import Chip8.Memory.Layout

/-!
# Configuration

`Settings` are what a caller asks for; a `Config` is settings that passed their checks. Addresses
are not among these checks: they are judged when memory is laid out.
-/

namespace Chip8

/-- The choices for an emulator, with the usual ones as defaults. -/
structure Settings where
  rows : Int := 32
  cols : Int := 64
  /-- Instructions a second in a paced run. -/
  cyclesPerSecond : Int := 700
  /-- Redraws a second in a paced run. -/
  frameRate : Int := 60
  fontAddress : Int := Layout.standardFont
  programStart : Int := Layout.standardStart
  keyMapName : String := KeyMap.hex.name
  /-- The seed of the random source, if runs are to be repeatable. -/
  seed : Option Int := none
  /-- Whether every executed instruction is logged. -/
  trace : Bool := false
  deriving DecidableEq, Repr

/-- Settings with a picture, positive rates and a known key map. -/
structure Config extends Settings where
  rows_pos : 0 < rows
  cols_pos : 0 < cols
  cyclesPerSecond_pos : 0 < cyclesPerSecond
  frameRate_pos : 0 < frameRate
  keyMap_known : (KeyMap.ofName? keyMapName).isSome
  deriving DecidableEq

/-- Settings as a configuration, or the first reason why they are refused. -/
def Settings.check (s : Settings) : Except ArgumentError Config :=
  if display : 0 < s.rows ∧ 0 < s.cols then
    if cycles : 0 < s.cyclesPerSecond then
      if frames : 0 < s.frameRate then
        if keys : (KeyMap.ofName? s.keyMapName).isSome then
          .ok { s with
            rows_pos := display.1
            cols_pos := display.2
            cyclesPerSecond_pos := cycles
            frameRate_pos := frames
            keyMap_known := keys }
        else .error (.keyMap s.keyMapName)
      else .error (.frameRate s.frameRate)
    else .error (.cyclesPerSecond s.cyclesPerSecond)
  else .error (.displaySize s.rows s.cols)

namespace Config

/-- The dimensions of the picture. -/
def size (c : Config) : Framebuffer.Size where
  rows := c.rows.toNat
  cols := c.cols.toNat
  rows_pos := by have := c.rows_pos; omega
  cols_pos := by have := c.cols_pos; omega

/-- The key map that the configuration names. -/
def keyMap (c : Config) : KeyMap := (KeyMap.ofName? c.keyMapName).get c.keyMap_known

end Config

end Chip8
