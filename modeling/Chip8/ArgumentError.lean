import Chip8.Text.Hex

/-!
# Rejected arguments

The reasons for which an operation refuses an argument of its caller. A refused operation changes
nothing.
-/

namespace Chip8

/-- Why an argument was refused. -/
inductive ArgumentError where
  /-- A register number outside `0 … 15`. -/
  | register (index : Int)
  /-- A pixel outside the framebuffer. -/
  | position (row col : Int)
  /-- A key code outside `0 … 15`. -/
  | keyCode (code : Int)
  /-- A key map that does not exist. -/
  | keyMap (name : String)
  /-- A framebuffer without pixels. -/
  | framebufferSize (rows cols : Int)
  /-- A framebuffer with more pixels than an index can tell apart. -/
  | framebufferArea
  /-- A magnification below one. -/
  | scale (scale : Int)
  /-- An image of too few or too many samples. -/
  | imageData
  /-- A picture with a side longer than its format can tell. -/
  | imageSide (length : Nat)
  /-- A picture too large to be magnified. -/
  | imageStorage
  /-- Something too large to be stored. -/
  | outOfMemory
  /-- A dump with lines of no width. -/
  | dumpWidth
  /-- A font that reaches into the program area. -/
  | fontOverlap (font start : Int)
  /-- A program area that starts outside memory. -/
  | programStart (start : Int)
  /-- A configuration without pixels. -/
  | displaySize (rows cols : Int)
  /-- A cycle rate below one. -/
  | cyclesPerSecond (rate : Int)
  /-- A redraw rate below one. -/
  | frameRate (rate : Int)
  /-- A rate too large to be paced. -/
  | unpacedRate
  /-- A path with the character that ends every path. -/
  | pathText
  deriving DecidableEq, Repr

namespace ArgumentError

/-- The numbers that fit a machine word are below this one. -/
def wordLimit : Nat := 0x8000000000000000

/-- The text shown for a refused argument. -/
def message : ArgumentError → String
  | register index => s!"Register index must be 0-15, got {index}"
  | position row col => s!"Invalid position ({row}, {col})"
  | keyCode code => s!"Hex key code must be 0-15, got {code}"
  | keyMap name => s!"Unknown key map '{name}'. Valid key maps: hex, cosmac"
  | framebufferSize rows cols => s!"Framebuffer dimensions must be positive, got {rows}x{cols}"
  | framebufferArea => "cannot fit 'int' into an index-sized integer"
  | scale factor => s!"scale must be positive, got {factor}"
  | imageData => "not enough image data"
  | imageSide length =>
    if length < wordLimit then "signed integer is greater than maximum"
    else "Python int too large to convert to C long"
  | imageStorage => "image has wrong mode"
  | outOfMemory => ""
  | dumpWidth => "range() arg 3 must not be zero"
  | fontOverlap font start =>
    "Font at $" ++ Text.hex 3 font ++ " overlaps program area at $" ++ Text.hex 3 start
  | programStart start => "Program start $" ++ Text.hex 3 start ++ " outside memory"
  | displaySize rows cols => s!"Display dimensions must be positive, got {rows}x{cols}"
  | cyclesPerSecond rate => s!"cycles_per_second must be positive, got {rate}"
  | frameRate rate => s!"frame_rate must be positive, got {rate}"
  | unpacedRate => "int too large to convert to float"
  | pathText => "embedded null byte"

end ArgumentError

end Chip8
