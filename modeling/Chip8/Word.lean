/-!
# Bytes, addresses and instruction words

The machine works on words of fixed width, so every width is a `BitVec`: arithmetic on a register
wraps at eight bits and arithmetic on an address at twelve without a mask being written down. An
integer that a host hands in is reduced with `BitVec.ofInt`, which is two's complement for negative
values.

An instruction word is read through its nibbles `family`, `x`, `y`, `n` and the fields that several
nibbles make up: `nn`, `nnn` and `firstByte`.
-/

namespace Chip8

/-- A register, a memory cell or an immediate operand. -/
abbrev Byte := BitVec 8

/-- A hexadecimal digit: a register name, a key of the keypad or a sprite height. -/
abbrev Nibble := BitVec 4

/-- A place among the 4096 addressable cells. -/
abbrev Address := BitVec 12

/-- An instruction word, a stack entry or the contents of the index register. -/
abbrev Word := BitVec 16

namespace Word

/-- The most significant nibble, which selects the instruction family. -/
def family (w : Word) : Nibble := w.extractLsb' 12 4

/-- The second nibble, which names register X. -/
def x (w : Word) : Nibble := w.extractLsb' 8 4

/-- The third nibble, which names register Y. -/
def y (w : Word) : Nibble := w.extractLsb' 4 4

/-- The least significant nibble. -/
def n (w : Word) : Nibble := w.extractLsb' 0 4

/-- The high byte, which is stored first. -/
def firstByte (w : Word) : Byte := w.extractLsb' 8 8

/-- The low byte, an immediate operand. -/
def nn (w : Word) : Byte := w.extractLsb' 0 8

/-- The low twelve bits, an address operand. -/
def nnn (w : Word) : Address := w.extractLsb' 0 12

/-- The word whose high byte is stored first. -/
def ofBytes (high low : Byte) : Word := high ++ low

end Word

end Chip8
