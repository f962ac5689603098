import Chip8.Emulator.Basic
import Chip8.Framebuffer.Text

/-!
# Inspection

Readers of an emulator's state: registers by name, listings of memory and the picture as text.
-/

namespace Chip8.Emulator

/-- The registers by name: general registers, program counter, index, depth of the stack, timers. -/
def registers (e : Emulator) : List (String × Nat) :=
  let m := e.machine
  (m.registers.toList.zipIdx.map fun (value, r) => ("V" ++ Text.hex 1 r, value.toNat))
    ++ [("PC", m.pc.toNat), ("I", m.index.toNat), ("SP", m.stack.length),
      ("DT", m.delay.value.toNat), ("ST", m.sound.value.toNat)]

/-- A listing of instruction words at consecutive addresses. -/
def listing (e : Emulator) (start count : Int) : List String :=
  (List.range count.toNat).map fun k =>
    let a : Address := .ofInt 12 start + .ofNat 12 (2 * k)
    Instruction.listingLine a (e.machine.memory.getWord a)

/-- The picture as text, with crosses for lit pixels. -/
def displayText (e : Emulator) : String := e.machine.framebuffer.toText "X" " "

/-- A one-line summary. -/
def summary (e : Emulator) : String :=
  "Emulator(PC=$" ++ Text.hexBits 3 e.machine.pc
    ++ s!", cycles={e.cycles}, {e.config.cols}x{e.config.rows})"

end Chip8.Emulator
