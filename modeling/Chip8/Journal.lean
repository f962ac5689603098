import Chip8.Instruction.Disassemble
import Chip8.Text.Binary

/-!
# Journal

Loading, tracing and paced runs leave notes in a journal. An `Event` says what was noted; its line
is what a reader of the journal sees: a level, the part of the program that wrote it and a message.
-/

namespace Chip8

/-- How much a note matters. -/
inductive Level where
  | debug
  | info
  deriving DecidableEq, Repr

/-- The name of a level. -/
def Level.name : Level → String
  | debug => "DEBUG"
  | info => "INFO"

/-- Something that is noted in the journal. -/
inductive Event where
  /-- A program image was put into memory. -/
  | imageLoaded (size : Nat) (start : Address)
  /-- A program image was read from a file. -/
  | fileLoaded (name : String) (size : Nat)
  /-- The index register was pointed at a glyph. -/
  | glyphPointed (digit : Nibble) (address : Int)
  /-- An instruction is about to be executed. -/
  | traced (pc : Address) (word : Word)
  /-- A paced run came to its end. -/
  | paced (cycles : Nat) (seconds : Float)

namespace Event

/-- How much an event matters. -/
def level : Event → Level
  | imageLoaded _ _ | glyphPointed _ _ | traced _ _ => .debug
  | fileLoaded _ _ | paced _ _ => .info

/-- The part of the program that notes an event. -/
def origin : Event → String
  | imageLoaded _ _ => "chip8_sdk.emulator.memory"
  | glyphPointed _ _ => "chip8_sdk.emulator.cpu"
  | fileLoaded _ _ | traced _ _ | paced _ _ => "chip8_sdk.emulator.emulator"

/-- The message for an event. -/
def message : Event → String
  | imageLoaded size start => s!"Loaded {size} bytes at $" ++ Text.hexBits 3 start
  | fileLoaded name size => s!"Loaded ROM {name} ({size} bytes)"
  | glyphPointed digit address =>
    "Glyph address for " ++ Text.hexBits 1 digit ++ ": $" ++ Text.hex 3 address
  | traced pc word => Instruction.listingLine pc word
  | paced cycles seconds =>
    s!"Ran {cycles} cycles in " ++ (Text.Double.ofFloat seconds).twoDecimals ++ "s"

/-- The line for an event. -/
def line (e : Event) : String := e.level.name ++ " " ++ e.origin ++ ": " ++ e.message

end Event

end Chip8
