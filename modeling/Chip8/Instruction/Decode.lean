import Chip8.Instruction.Basic

/-!
# Decoding

`Instruction.decode` gives the meaning of a word, or `none` for a word without one. The first nibble
selects the family; families 0, E and F are told apart further by the low byte, family 8 by the low
nibble, and families 5 and 9 need a low nibble of zero.
-/

namespace Chip8.Instruction

/-- The operations of family 8, told apart by the low nibble. -/
def decodeAlu (w : Word) : Option Instruction :=
  match w.n with
  | 0x0#4 => some (.alu .load w.x w.y)
  | 0x1#4 => some (.alu .or w.x w.y)
  | 0x2#4 => some (.alu .and w.x w.y)
  | 0x3#4 => some (.alu .xor w.x w.y)
  | 0x4#4 => some (.alu .add w.x w.y)
  | 0x5#4 => some (.alu .sub w.x w.y)
  | 0x6#4 => some (.shiftRight w.x)
  | 0x7#4 => some (.alu .subFrom w.x w.y)
  | 0xE#4 => some (.shiftLeft w.x)
  | _ => none

/-- The operations of family F, told apart by the low byte. -/
def decodeMisc (w : Word) : Option Instruction :=
  match w.nn with
  | 0x07#8 => some (.readDelay w.x)
  | 0x0A#8 => some (.waitKey w.x)
  | 0x15#8 => some (.setDelay w.x)
  | 0x18#8 => some (.setSound w.x)
  | 0x1E#8 => some (.addIndex w.x)
  | 0x29#8 => some (.pointGlyph w.x)
  | 0x33#8 => some (.storeDecimal w.x)
  | 0x55#8 => some (.storeRegisters w.x)
  | 0x65#8 => some (.loadRegisters w.x)
  | _ => none

/-- The instruction that a word stands for, if it has a meaning. -/
def decode (w : Word) : Option Instruction :=
  match w.family with
  | 0x0#4 =>
    match w.nn with
    | 0xE0#8 => some .clear
    | 0xEE#8 => some .ret
    | _ => none
  | 0x1#4 => some (.jump w.nnn)
  | 0x2#4 => some (.call w.nnn)
  | 0x3#4 => some (.skipIfByte w.x w.nn)
  | 0x4#4 => some (.skipUnlessByte w.x w.nn)
  | 0x5#4 => if w.n = 0 then some (.skipIfEqual w.x w.y) else none
  | 0x6#4 => some (.loadByte w.x w.nn)
  | 0x7#4 => some (.addByte w.x w.nn)
  | 0x8#4 => decodeAlu w
  | 0x9#4 => if w.n = 0 then some (.skipUnlessEqual w.x w.y) else none
  | 0xA#4 => some (.loadIndex w.nnn)
  | 0xB#4 => some (.jumpOffset w.nnn)
  | 0xC#4 => some (.random w.x w.nn)
  | 0xD#4 => some (.draw w.x w.y w.n)
  | 0xE#4 =>
    match w.nn with
    | 0x9E#8 => some (.skipIfKey w.x)
    | 0xA1#8 => some (.skipUnlessKey w.x)
    | _ => none
  | _ => decodeMisc w

end Chip8.Instruction
