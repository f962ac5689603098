import Chip8.Framebuffer.Basic
import Chip8.Keypad.Basic
import Chip8.Memory.Basic
import Chip8.Timer

/-!
# The machine

Everything that an instruction can see: sixteen registers, the program counter, the index register,
the stack of return addresses, memory, framebuffer, timers and keypad. Fixed widths are part of the
types, so no operation can leave a value out of range; the last register doubles as the flag.

Operations named after what they act on (`setRegister`, `jump`) take values of the machine's own
types. Those that take integers from a host (`putRegister`, `setPc`) reduce or check them first.
-/

namespace Chip8

/-- The state of a machine. The stack holds return addresses, the most recent first. -/
structure Machine where
  registers : Vector Byte 16
  pc : Address
  index : Word
  stack : List Word
  memory : Memory
  framebuffer : Framebuffer
  keypad : Keypad
  delay : Timer
  sound : Timer
  deriving DecidableEq

namespace Machine

/-- A machine that is about to run what lies in its program area. -/
def powerOn (memory : Memory) (framebuffer : Framebuffer) (keypad : Keypad) : Machine where
  registers := Vector.replicate 16 0
  pc := memory.layout.programStart
  index := 0
  stack := []
  memory := memory
  framebuffer := framebuffer
  keypad := keypad
  delay := .idle
  sound := .idle

/-! ## Registers -/

/-- The register that holds carries, borrows, bits shifted out and collisions. -/
def flagRegister : Nibble := 0xF

/-- The contents of a register. -/
def register (m : Machine) (r : Nibble) : Byte :=
  have := r.isLt
  m.registers[r.toNat]

/-- Store a byte in a register. -/
def setRegister (m : Machine) (r : Nibble) (b : Byte) : Machine :=
  { m with registers := m.registers.set r.toNat b r.isLt }

/-- Store a bit in the flag register. -/
def setFlag (m : Machine) (bit : Bool) : Machine :=
  m.setRegister flagRegister (if bit then 1 else 0)

/-- A stored byte is read back, and no other register is affected. -/
theorem register_setRegister (m : Machine) (r s : Nibble) (b : Byte) :
    (m.setRegister r b).register s = if r = s then b else m.register s := by
  simp only [register, setRegister, Vector.getElem_set, BitVec.toNat_inj]

/-- The register of a number, which has to be one of sixteen. -/
def registerOf (index : Int) : Except ArgumentError Nibble :=
  if 0 ≤ index ∧ index < 16 then .ok (.ofInt 4 index) else .error (.register index)

/-- The contents of a numbered register. -/
def getRegister (m : Machine) (index : Int) : Except ArgumentError Byte :=
  (registerOf index).map m.register

/-- Store an integer in a numbered register. -/
def putRegister (m : Machine) (index value : Int) : Except ArgumentError Machine :=
  (registerOf index).map fun r => m.setRegister r (.ofInt 8 value)

/-- Store an integer in the flag register. -/
def putFlag (m : Machine) (value : Int) : Machine := m.setRegister flagRegister (.ofInt 8 value)

/-! ## Program counter and index -/

/-- Go to an address. -/
def jump (m : Machine) (target : Address) : Machine := { m with pc := target }

/-- Pass over the next instruction. -/
def skip (m : Machine) : Machine := m.jump (m.pc + 2)

/-- Go back to the instruction before. -/
def rewind (m : Machine) : Machine := m.jump (m.pc - 2)

/-- Go to an integer address. -/
def setPc (m : Machine) (target : Int) : Machine := m.jump (.ofInt 12 target)

/-- Set the index register to an integer. -/
def setIndex (m : Machine) (value : Int) : Machine := { m with index := .ofInt 16 value }

/-- The address that the index register points at. -/
def indexAddress (m : Machine) : Address := m.index.setWidth 12

/-- The word at the program counter. -/
def currentWord (m : Machine) : Word := m.memory.getWord m.pc

/-- Read the word at the program counter and step past it. -/
def fetch (m : Machine) : Word × Machine := (m.currentWord, m.skip)

/-! ## Stack -/

/-- Put an integer on the stack. -/
def push (m : Machine) (a : Int) : Machine := { m with stack := .ofInt 16 a :: m.stack }

/-- Take the most recent entry off the stack. -/
def pop (m : Machine) : Except Fault (Word × Machine) :=
  match m.stack with
  | [] => .error (.emptyStack (some m.pc.toNat))
  | top :: rest => .ok (top, { m with stack := rest })

/-! ## Timers and memory -/

/-- Count both timers down. -/
def tickTimers (m : Machine) : Machine := { m with delay := m.delay.tick, sound := m.sound.tick }

/-- Put a program image into the program area. -/
def load (m : Machine) (image : List Byte) : Except Fault Machine :=
  (m.memory.load image).map fun memory => { m with memory := memory }

/-- All registers by name, in order. -/
def registersText (m : Machine) : String :=
  " ".intercalate <| m.registers.toList.zipIdx.map fun (value, r) =>
    "V" ++ Text.hex 1 r ++ "=" ++ Text.hexBits 2 value

/-- A one-line summary. -/
def summary (m : Machine) : String :=
  "Machine(PC=$" ++ Text.hexBits 3 m.pc ++ " I=$" ++ Text.hexBits 3 m.index ++ " "
    ++ m.registersText ++ ")"

end Machine

end Chip8
