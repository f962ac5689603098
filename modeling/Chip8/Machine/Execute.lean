import Chip8.Instruction.Decode
import Chip8.Machine.Sprite
import Chip8.Random.Source

/-!
# Execution

`Machine.perform` applies an instruction to a machine whose program counter is already past it. The
keypad is consulted through a reading, which may be any integer, and random bytes come from a
source. The one thing that can go wrong is a return with an empty stack.

`Machine.execute` does the same for a word, which may also have no meaning. A machine that faults is
left as it was.
-/

namespace Chip8

/-- The result of a two-register operation, and the flag for those that set it. -/
def Alu.apply (op : Alu) (x y : Byte) : Byte × Option Bool :=
  match op with
  | load => (y, none)
  | or => (x ||| y, none)
  | and => (x &&& y, none)
  | xor => (x ^^^ y, none)
  | add => (x + y, some (0xFF < x.toNat + y.toNat))
  | sub => (x - y, some (y ≤ x))
  | subFrom => (y - x, some (x ≤ y))

namespace Machine

/-- Apply a two-register operation. Addition writes the flag after the result, so that the carry
stays if both go to the flag register; the others write the flag first. -/
def alu (m : Machine) (op : Alu) (x y : Nibble) : Machine :=
  let (result, flag) := op.apply (m.register x) (m.register y)
  match op, flag with
  | .add, some carry => (m.setRegister x result).setFlag carry
  | _, some flag => (m.setFlag flag).setRegister x result
  | _, none => m.setRegister x result

/-- Skip the next instruction if a condition holds. -/
def skipIf (m : Machine) (condition : Bool) : Machine := if condition then m.skip else m

/-- The registers with the first ones, up to `last`, taken from memory at the index register. -/
def loadRegisters (m : Machine) (last : Nibble) : Machine :=
  { m with
    registers := Vector.ofFn fun r =>
      if r.val ≤ last.toNat then m.memory.get (m.indexAddress + .ofNat 12 r.val)
      else m.registers[r] }

/-- Store the first registers, up to `last`, in memory at the index register. -/
def storeRegisters (m : Machine) (last : Nibble) : Machine :=
  { m with
    memory := m.memory.writeBlock m.indexAddress (m.registers.toList.take (last.toNat + 1)) }

/-- Store the decimal digits of a register in memory at the index register, without leading
zeros. -/
def storeDecimal (m : Machine) (x : Nibble) : Machine :=
  { m with
    memory := m.memory.writeBlock m.indexAddress
      ((Text.digits 10 (m.register x).toNat).map (.ofNat 8)) }

/-- Apply an instruction; `none` is a return without a return address. -/
def perform (m : Machine) (reading : Option Int) (source : Random.Source) :
    Instruction → Option (Machine × Random.Source)
  | .clear => some ({ m with framebuffer := m.framebuffer.clear }, source)
  | .ret =>
    match m.stack with
    | [] => none
    | top :: rest => some ({ m with stack := rest, pc := top.setWidth 12 }, source)
  | .jump target => some (m.jump target, source)
  | .call target => some ({ m with stack := m.pc.setWidth 16 :: m.stack, pc := target }, source)
  | .skipIfByte x value => some (m.skipIf (m.register x == value), source)
  | .skipUnlessByte x value => some (m.skipIf (m.register x != value), source)
  | .skipIfEqual x y => some (m.skipIf (m.register x == m.register y), source)
  | .skipUnlessEqual x y => some (m.skipIf (m.register x != m.register y), source)
  | .loadByte x value => some (m.setRegister x value, source)
  | .addByte x value => some (m.setRegister x (m.register x + value), source)
  | .alu op x y => some (m.alu op x y, source)
  | .shiftRight x =>
    let b := m.register x
    some ((m.setFlag (b.getLsbD 0)).setRegister x (b >>> 1), source)
  | .shiftLeft x =>
    let b := m.register x
    some ((m.setFlag b.msb).setRegister x (b <<< 1), source)
  | .loadIndex target => some ({ m with index := target.setWidth 16 }, source)
  | .jumpOffset target => some (m.jump ((m.register 0).setWidth 12 + target), source)
  | .random x mask =>
    let (byte, source) := source.next
    some (m.setRegister x (byte &&& mask), source)
  | .draw x y height => some (m.draw x y height.toNat, source)
  | .skipIfKey x => some (m.skipIf (reading == some ((m.register x).toNat : Int)), source)
  | .skipUnlessKey x => some (m.skipIf (reading != some ((m.register x).toNat : Int)), source)
  | .readDelay x => some (m.setRegister x m.delay.value, source)
  | .waitKey x =>
    match reading with
    | none => some (m.rewind, source)
    | some key => some (m.setRegister x (.ofInt 8 key), source)
  | .setDelay x => some ({ m with delay := ⟨m.register x⟩ }, source)
  | .setSound x => some ({ m with sound := ⟨m.register x⟩ }, source)
  | .addIndex x => some ({ m with index := m.index + (m.register x).setWidth 16 }, source)
  | .pointGlyph x => some (m.setIndex (m.memory.glyphAddress (m.register x).toNat), source)
  | .storeDecimal x => some (m.storeDecimal x, source)
  | .storeRegisters last => some (m.storeRegisters last, source)
  | .loadRegisters last => some (m.loadRegisters last, source)

/-- The address a word was fetched from, for a machine that has stepped past it. -/
def fetchedFrom (m : Machine) : Address := m.pc - 2

/-- Execute an integer as an instruction word; `pc` is the address that a fault reports. -/
def execute (m : Machine) (word : Int) (reading : Option Int) (source : Random.Source) (pc : Int) :
    Except Fault (Machine × Random.Source) :=
  match Instruction.decode (.ofInt 16 word) with
  | none => .error (.invalidOpcode word (some pc))
  | some i =>
    match m.perform reading source i with
    | none => .error (.emptyStack (some pc))
    | some result => .ok result

end Machine

end Chip8
