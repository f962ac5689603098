import Chip8.Word

/-!
# Instructions

The operations of the machine, each with the operands it uses. Operand bits that an operation
ignores are not part of it, so two words that mean the same instruction decode to the same value.
-/

namespace Chip8

/-- The operations of family 8 that combine two registers. -/
inductive Alu where
  | load
  | or
  | and
  | xor
  | add
  | sub
  /-- Subtraction with the operands exchanged. -/
  | subFrom
  deriving DecidableEq, Repr

/-- One operation of the machine with its operands. -/
inductive Instruction where
  /-- Turn every pixel off. -/
  | clear
  /-- Return from a subroutine. -/
  | ret
  | jump (target : Address)
  | call (target : Address)
  | skipIfByte (x : Nibble) (value : Byte)
  | skipUnlessByte (x : Nibble) (value : Byte)
  | skipIfEqual (x y : Nibble)
  | skipUnlessEqual (x y : Nibble)
  | loadByte (x : Nibble) (value : Byte)
  /-- Add an immediate operand without touching the flag. -/
  | addByte (x : Nibble) (value : Byte)
  | alu (op : Alu) (x y : Nibble)
  | shiftRight (x : Nibble)
  | shiftLeft (x : Nibble)
  | loadIndex (target : Address)
  /-- Jump to an address plus register 0. -/
  | jumpOffset (target : Address)
  /-- Draw a random byte and keep the bits of a mask. -/
  | random (x : Nibble) (mask : Byte)
  | draw (x y height : Nibble)
  | skipIfKey (x : Nibble)
  | skipUnlessKey (x : Nibble)
  | readDelay (x : Nibble)
  /-- Wait for a key by running again until one is held. -/
  | waitKey (x : Nibble)
  | setDelay (x : Nibble)
  | setSound (x : Nibble)
  | addIndex (x : Nibble)
  /-- Point the index register at the glyph of a hexadecimal digit. -/
  | pointGlyph (x : Nibble)
  | storeDecimal (x : Nibble)
  | storeRegisters (last : Nibble)
  | loadRegisters (last : Nibble)
  deriving DecidableEq, Repr

end Chip8
