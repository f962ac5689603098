import Chip8.Proofs.IntMachine.Basic
import Chip8.Text.Digits
import Mathlib.Data.Int.Bitwise

/-!
# Execution over the integers

Instructions as actions on integers. A word is taken apart by quotients and remainders, families are
told apart one after the other, and a word without a meaning is refused where its family notices.
The reading of the keypad and the random number are integers without bounds.
-/

namespace Chip8.IntMachine

/-! ## Drawing -/

/-- Flip one pixel, and set the flag if it was lit. -/
def flipPixel (row col : Int) : Action Unit := do
  if (← getPixel row col) ≠ 0 then
    setPixel row col false
    setFlag 1
  else setPixel row col true

/-- Flip the pixels under the last `count` bits of a row, from the left, up to the right edge. -/
def drawBits (bits row : Int) : (count : Nat) → (col : Int) → Action Unit
  | 0, _ => pure ()
  | count + 1, col => do
    if (← get).cols ≤ col then pure ()
    else
      if bits >>> count % 2 = 1 then flipPixel row col
      drawBits bits row count (col + 1)

/-- Draw `count` rows from an address on, up to the bottom edge. -/
def drawRows (left : Int) : (count : Nat) → (row address : Int) → Action Unit
  | 0, _, _ => pure ()
  | count + 1, row, address => do
    if (← get).rows ≤ row then pure ()
    else
      let bits ← readByte address
      drawBits bits row 8 left
      drawRows left count (row + 1) (address + 1)

/-- Draw a sprite whose origin is in two registers. -/
def drawSprite (x y height : Int) : Action Unit := do
  let left ← remainder (← getRegister x) (← get).cols
  let top ← remainder (← getRegister y) (← get).rows
  setFlag 0
  drawRows left height.toNat top (← get).index

/-! ## Families of instructions -/

/-- Leave the next instruction out if a condition holds. -/
def skipIf (condition : Bool) : Action Unit := if condition then advancePc else pure ()

/-- The family that clears and returns. -/
def executeZero (word pc : Int) : Action Unit :=
  match (word % 256).toNat with
  | 0xE0 => clearPixels
  | 0xEE => do
    if (← get).stack = [] then throw (.fault (.emptyStack (some pc)))
    setPc (← pop)
  | _ => throw (.fault (.invalidOpcode word (some pc)))

/-- The family of operations on two registers. -/
def executeAlu (word pc : Int) : Action Unit := do
  let x := word / 256 % 16
  let a ← getRegister x
  let b ← getRegister (word / 16 % 16)
  match (word % 16).toNat with
  | 0x0 => setRegister x b
  | 0x1 => setRegister x (Int.lor a b)
  | 0x2 => setRegister x (Int.land a b)
  | 0x3 => setRegister x (Int.xor a b)
  | 0x4 =>
    setRegister x (a + b)
    setFlag (if 255 < a + b then 1 else 0)
  | 0x5 =>
    setFlag (if a < b then 0 else 1)
    setRegister x (a - b)
  | 0x6 =>
    setFlag (a % 2)
    setRegister x (a / 2)
  | 0x7 =>
    setFlag (if b < a then 0 else 1)
    setRegister x (b - a)
  | 0xE =>
    setFlag (a / 128 % 2)
    setRegister x (2 * a)
  | _ => throw (.fault (.invalidOpcode word (some pc)))

/-- The family that asks for keys. -/
def executeKey (word : Int) (reading : Option Int) (pc : Int) : Action Unit := do
  let a ← getRegister (word / 256 % 16)
  match (word % 256).toNat with
  | 0x9E => skipIf (reading == some a)
  | 0xA1 => skipIf (reading != some a)
  | _ => throw (.fault (.invalidOpcode word (some pc)))

/-- Store numbers in the registers from one on. -/
def setRegisters (index : Int) : List Int → Action Unit
  | [] => pure ()
  | b :: bs => do
    setRegister index b
    setRegisters (index + 1) bs

/-- The contents of the registers from one on. -/
def getRegisters (index : Int) : Nat → Action (List Int)
  | 0 => pure []
  | count + 1 => do
    let b ← getRegister index
    let rest ← getRegisters (index + 1) count
    return b :: rest

/-- The family of timers, index and bulk transfers. -/
def executeMisc (word : Int) (reading : Option Int) (pc : Int) : Action Unit := do
  let x := word / 256 % 16
  match (word % 256).toNat with
  | 0x07 => setRegister x (← get).delay
  | 0x0A =>
    match reading with
    | none => rewindPc
    | some key => setRegister x key
  | 0x15 => setDelay (← getRegister x)
  | 0x18 => setSound (← getRegister x)
  | 0x1E => setIndex ((← get).index + (← getRegister x))
  | 0x29 => setIndex ((← get).fontAddress + (← getRegister x) % 16 * 5)
  | 0x33 => writeBytes (← get).index ((Text.decimalDigits (← getRegister x)).map Nat.cast)
  | 0x55 => writeBytes (← get).index (← getRegisters 0 (x + 1).toNat)
  | 0x65 => setRegisters 0 (← readBytes (← get).index (x + 1).toNat)
  | _ => throw (.fault (.invalidOpcode word (some pc)))

/-- Execute an integer as an instruction word; `drawn` is what a random draw would give and `pc` the
address that a fault reports. -/
def execute (word : Int) (reading : Option Int) (drawn pc : Int) : Action Unit := do
  let x := word / 256 % 16
  let y := word / 16 % 16
  let nn := word % 256
  let nnn := word % 4096
  match (word / 4096 % 16).toNat with
  | 0x0 => executeZero word pc
  | 0x1 => setPc nnn
  | 0x2 =>
    push (← get).pc
    setPc nnn
  | 0x3 => skipIf ((← getRegister x) == nn)
  | 0x4 => skipIf ((← getRegister x) != nn)
  | 0x5 =>
    if word % 16 ≠ 0 then throw (.fault (.invalidOpcode word (some pc)))
    else skipIf ((← getRegister x) == (← getRegister y))
  | 0x6 => setRegister x nn
  | 0x7 => setRegister x ((← getRegister x) + nn)
  | 0x8 => executeAlu word pc
  | 0x9 =>
    if word % 16 ≠ 0 then throw (.fault (.invalidOpcode word (some pc)))
    else skipIf ((← getRegister x) != (← getRegister y))
  | 0xA => setIndex nnn
  | 0xB => setPc ((← getRegister 0) + nnn)
  | 0xC => setRegister x (Int.land drawn nn)
  | 0xD => drawSprite x y (word % 16)
  | 0xE => executeKey word reading pc
  | _ => executeMisc word reading pc

/-- One cycle: fetch a word, count the timers down, and execute the word. -/
def cycle (drawn : Int) : Action Unit := do
  let pc := (← get).pc
  let word ← fetch
  tickTimers
  execute word (← get).held drawn pc

end Chip8.IntMachine
