import Chip8.Instruction.Decode
import Chip8.Text.Hex

/-!
# Disassembly

`Instruction.mnemonic` is the assembler text of an instruction, and `disassemble` the text of a
word: the mnemonic of the instruction it decodes to, or a data directive if it has no meaning.
-/

namespace Chip8

/-- The assembler name of a register. -/
def registerName (x : Nibble) : String := "V" ++ Text.hexBits 1 x

/-- The assembler name of a two-register operation. -/
def Alu.mnemonic : Alu → String
  | .load => "LD"
  | .or => "OR"
  | .and => "AND"
  | .xor => "XOR"
  | .add => "ADD"
  | .sub => "SUB"
  | .subFrom => "SUBN"

namespace Instruction

/-- A byte operand in assembler text. -/
def byteOperand (value : Byte) : String := "$" ++ Text.hexBits 2 value

/-- An address operand in assembler text. -/
def addressOperand (target : Address) : String := "$" ++ Text.hexBits 3 target

/-- The assembler text of an instruction. -/
def mnemonic : Instruction → String
  | clear => "CLS"
  | ret => "RET"
  | jump target => "JP " ++ addressOperand target
  | call target => "CALL " ++ addressOperand target
  | skipIfByte x value => "SE " ++ registerName x ++ ", " ++ byteOperand value
  | skipUnlessByte x value => "SNE " ++ registerName x ++ ", " ++ byteOperand value
  | skipIfEqual x y => "SE " ++ registerName x ++ ", " ++ registerName y
  | skipUnlessEqual x y => "SNE " ++ registerName x ++ ", " ++ registerName y
  | loadByte x value => "LD " ++ registerName x ++ ", " ++ byteOperand value
  | addByte x value => "ADD " ++ registerName x ++ ", " ++ byteOperand value
  | alu op x y => op.mnemonic ++ " " ++ registerName x ++ ", " ++ registerName y
  | shiftRight x => "SHR " ++ registerName x
  | shiftLeft x => "SHL " ++ registerName x
  | loadIndex target => "LD I, " ++ addressOperand target
  | jumpOffset target => "JP V0, " ++ addressOperand target
  | random x mask => "RND " ++ registerName x ++ ", " ++ byteOperand mask
  | draw x y height =>
    "DRW " ++ registerName x ++ ", " ++ registerName y ++ ", " ++ toString height.toNat
  | skipIfKey x => "SKP " ++ registerName x
  | skipUnlessKey x => "SKNP " ++ registerName x
  | readDelay x => "LD " ++ registerName x ++ ", DT"
  | waitKey x => "LD " ++ registerName x ++ ", K"
  | setDelay x => "LD DT, " ++ registerName x
  | setSound x => "LD ST, " ++ registerName x
  | addIndex x => "ADD I, " ++ registerName x
  | pointGlyph x => "LD F, " ++ registerName x
  | storeDecimal x => "LD B, " ++ registerName x
  | storeRegisters last => "LD [I], " ++ registerName last
  | loadRegisters last => "LD " ++ registerName last ++ ", [I]"

/-- The data directive that shows a word without a meaning. -/
def dataDirective (w : Word) : String := "DW $" ++ Text.hexBits 4 w

/-- The assembler text of a word. -/
def disassemble (w : Word) : String :=
  match decode w with
  | some i => i.mnemonic
  | none => dataDirective w

/-- A word in a listing: its address, its hexadecimal digits and its assembler text. -/
def listingLine (a : Address) (w : Word) : String :=
  "$" ++ Text.hexBits 3 a ++ ": " ++ Text.hexBits 4 w ++ "  " ++ disassemble w

end Instruction

end Chip8
