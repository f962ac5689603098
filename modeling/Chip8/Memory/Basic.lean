import Chip8.Fault
import Chip8.Memory.Layout

/-!
# Memory

Memory is an array of cells reached through twelve-bit addresses, so an access wraps at the top and
never fails. Only a program image can be refused, when it is larger than the program area.

`get` and `set` act on one cell, `readBlock` and `writeBlock` on consecutive cells. The operations
that take integers reduce them to addresses and bytes first.
-/

namespace Chip8

/-- The cells of a machine, in the number that its layout prescribes. -/
structure Memory where
  layout : Layout
  cells : Array Byte
  size_cells : cells.size = layout.blankCells.size
  deriving DecidableEq

namespace Memory

/-- A memory that holds the font and nothing else. -/
def blank (l : Layout) : Memory := ⟨l, l.blankCells, rfl⟩

theorem addressCount_le_size (m : Memory) : Layout.addressCount ≤ m.cells.size := by
  rw [m.size_cells]
  exact m.layout.addressCount_le_size

theorem toNat_lt_size (m : Memory) (a : Address) : a.toNat < m.cells.size :=
  Nat.lt_of_lt_of_le a.isLt m.addressCount_le_size

/-- The byte at an address. -/
def get (m : Memory) (a : Address) : Byte :=
  have := m.toNat_lt_size a
  m.cells[a.toNat]

/-- Store a byte at an address. -/
def set (m : Memory) (a : Address) (b : Byte) : Memory :=
  { m with
    cells := m.cells.set a.toNat b (m.toNat_lt_size a)
    size_cells := by rw [Array.size_set]; exact m.size_cells }

@[simp]
theorem layout_set (m : Memory) (a : Address) (b : Byte) : (m.set a b).layout = m.layout := rfl

/-- A stored byte is read back, and no other address is affected. -/
theorem get_set (m : Memory) (a c : Address) (b : Byte) :
    (m.set a b).get c = if a = c then b else m.get c := by
  simp only [get, set, Array.getElem_set, BitVec.toNat_inj]

/-- The word at an address, high byte first. -/
def getWord (m : Memory) (a : Address) : Word := .ofBytes (m.get a) (m.get (a + 1))

/-- The bytes at consecutive addresses. -/
def readBlock (m : Memory) (a : Address) : Nat → List Byte
  | 0 => []
  | count + 1 => m.get a :: m.readBlock (a + 1) count

/-- Store bytes at consecutive addresses. -/
def writeBlock (m : Memory) (a : Address) : List Byte → Memory
  | [] => m
  | b :: bs => (m.set a b).writeBlock (a + 1) bs

/-- The byte at an integer address. -/
def read (m : Memory) (a : Int) : Byte := m.get (.ofInt 12 a)

/-- Store an integer at an integer address. -/
def write (m : Memory) (a value : Int) : Memory := m.set (.ofInt 12 a) (.ofInt 8 value)

/-- The word at an integer address. -/
def readWord (m : Memory) (a : Int) : Word := m.getWord (.ofInt 12 a)

/-- The bytes at consecutive addresses; a negative count reads none. -/
def readBytes (m : Memory) (a count : Int) : List Byte := m.readBlock (.ofInt 12 a) count.toNat

/-- Store integers at consecutive addresses. -/
def writeBytes (m : Memory) (a : Int) (data : List Int) : Memory :=
  m.writeBlock (.ofInt 12 a) (data.map (.ofInt 8))

/-- The address of the glyph for the low digit of an integer. It follows the address of the font,
which may be negative. -/
def glyphAddress (m : Memory) (value : Int) : Int :=
  m.layout.fontAddress + Font.glyphSize * (BitVec.ofInt 4 value).toNat

/-- The cells with a program image in the program area. -/
def cellsWith (m : Memory) (image : List Byte) : Array Byte :=
  Span.splice m.cells m.layout.programStart.toNat
    (m.layout.programStart.toNat + image.toArray.size) image.toArray

theorem size_cellsWith {m : Memory} {image : List Byte} (h : image.length ≤ m.layout.capacity) :
    (m.cellsWith image).size = m.layout.blankCells.size := by
  have hsize := m.addressCount_le_size
  have hstart := m.layout.programStart.isLt
  simp only [Layout.capacity, Layout.addressCount] at h hsize
  rw [cellsWith, Span.size_splice_of_le _ _ _ (by simp only [List.size_toArray]; omega)]
  exact m.size_cells

/-- Put a program image into the program area. An image that does not fit is refused. -/
def load (m : Memory) (image : List Byte) : Except Fault Memory :=
  if h : image.length ≤ m.layout.capacity then
    .ok { m with cells := m.cellsWith image, size_cells := size_cellsWith h }
  else .error (.imageSize image.length m.layout.capacity)

end Memory

end Chip8
