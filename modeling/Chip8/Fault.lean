import Chip8.Text.Hex

/-!
# Faults

A fault ends a run or rejects a program image. Each constructor is one cause; `message` is the text
shown to a user, and `Fault.lineage` places the cause in the families that callers tell apart, the
most specific first.
-/

namespace Chip8

/-- The families of faults. -/
inductive FaultFamily where
  | chip8
  | emulation
  | invalidOpcode
  | emptyStack
  | image
  | imageSize
  | imageRead
  deriving DecidableEq, Repr

/-- What went wrong while a program was loaded or executed. The address of the faulting instruction
is kept when it is known. -/
inductive Fault where
  /-- A fault described by its text alone. -/
  | other (text : String)
  /-- A fault of execution that no more specific constructor describes. -/
  | emulation (text : String) (pc : Option Int)
  /-- An instruction word without a defined meaning, as it was handed in. -/
  | invalidOpcode (opcode : Int) (pc : Option Int)
  /-- A subroutine return with no return address to go to. -/
  | emptyStack (pc : Option Int)
  /-- A fault of a program image that no more specific constructor describes. -/
  | image (text : String)
  /-- A program image larger than program memory. -/
  | imageSize (size limit : Int)
  /-- A program image whose file cannot be read. -/
  | imageRead (path reason : String)
  deriving DecidableEq, Repr

namespace Fault

/-- The most specific family of a fault. -/
def family : Fault → FaultFamily
  | .other _ => .chip8
  | .emulation _ _ => .emulation
  | .invalidOpcode _ _ => .invalidOpcode
  | .emptyStack _ => .emptyStack
  | .image _ => .image
  | .imageSize _ _ => .imageSize
  | .imageRead _ _ => .imageRead

/-- The address of the faulting instruction, for faults of execution that know it. -/
def pc? : Fault → Option Int
  | .emulation _ pc | .invalidOpcode _ pc | .emptyStack pc => pc
  | _ => none

/-- The description of a fault, without its address. -/
def description : Fault → String
  | .other text | .emulation text _ | .image text => text
  | .invalidOpcode opcode _ => "Invalid opcode $" ++ Text.hex 4 opcode
  | .emptyStack _ => "Return with empty call stack"
  | .imageSize size limit =>
    s!"Program image is {size} bytes, exceeds {limit} bytes of program memory"
  | .imageRead path reason => s!"Cannot read ROM file {path}: {reason}"

/-- The text shown for a fault: its description, followed by its address when that is known. -/
def message (f : Fault) : String :=
  match f.pc? with
  | none => f.description
  | some pc => f.description ++ " at $" ++ Text.hex 3 pc

end Fault

/-- A family together with the wider families that contain it, the narrowest first. -/
def FaultFamily.lineage : FaultFamily → List FaultFamily
  | .chip8 => [.chip8]
  | .emulation => [.emulation, .chip8]
  | .invalidOpcode => [.invalidOpcode, .emulation, .chip8]
  | .emptyStack => [.emptyStack, .emulation, .chip8]
  | .image => [.image, .chip8]
  | .imageSize => [.imageSize, .image, .chip8]
  | .imageRead => [.imageRead, .image, .chip8]

/-- The families a fault belongs to, the most specific first. -/
def Fault.lineage (f : Fault) : List FaultFamily := f.family.lineage

end Chip8
