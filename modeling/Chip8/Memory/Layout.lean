import Chip8.ArgumentError
import Chip8.Memory.Font
import Chip8.Memory.Span

/-!
# Memory layout

A layout places the font and the program area. Programs start inside memory and after the font. The
font may be given a negative address, which counts from the end of memory; a font that does not fit
there pushes later cells up, so the cells of such a layout outnumber the addresses.
-/

namespace Chip8

/-- Where the font and the program area lie. -/
structure Layout where
  fontAddress : Int
  programStart : Address
  start_pos : 0 < programStart.toNat
  font_le : fontAddress + Font.rows.length ≤ programStart.toNat
  deriving DecidableEq

namespace Layout

/-- The number of addresses. -/
def addressCount : Nat := 4096

/-- The usual address of the font. -/
def standardFont : Int := 0x050

/-- The usual start of the program area. -/
def standardStart : Int := 0x200

/-- The layout with the given addresses, unless the font reaches into the program area or the
program area does not start inside memory. -/
def ofAddresses (font start : Int) : Except ArgumentError Layout :=
  if overlap : start < font + Font.rows.length then .error (.fontOverlap font start)
  else if inside : 0 < start ∧ start < addressCount then
    .ok {
      fontAddress := font
      programStart := BitVec.ofNatLT start.toNat (by simp only [addressCount] at inside; omega)
      start_pos := by simp only [BitVec.toNat_ofNatLT]; omega
      font_le := by simp only [BitVec.toNat_ofNatLT]; omega }
  else .error (.programStart start)

/-- The usual layout: font at `$050`, programs at `$200`. -/
def standard : Layout where
  fontAddress := standardFont
  programStart := 0x200
  start_pos := by decide
  font_le := by decide

/-- The size of the largest program image that fits. -/
def capacity (l : Layout) : Nat := addressCount - l.programStart.toNat

/-- The cells of a memory that holds the font alone. -/
def blankCells (l : Layout) : Array Byte :=
  Span.splice (Array.replicate addressCount 0) l.fontAddress
    (l.fontAddress + Font.rows.length) Font.rows.toArray

/-- Every address has a cell. -/
theorem addressCount_le_size (l : Layout) : addressCount ≤ l.blankCells.size := by
  have h := Span.size_le_size_splice (Array.replicate addressCount (0 : Byte)) l.fontAddress
    Font.rows.toArray
  simpa only [blankCells, Array.size_replicate, List.size_toArray] using h

end Layout

end Chip8
