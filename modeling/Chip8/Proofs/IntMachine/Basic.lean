import Chip8.Machine.Basic

/-!
# The machine over the integers

A second account of the machine, in which nothing is bounded by its type: every place holds an
integer, reductions to a width are written out where a value is stored and nowhere else, and each
access to a register, a cell, a pixel or a divisor is checked when it happens.

An action that is refused ends there and keeps what it did before. So this account can go wrong in
every way that unchecked arithmetic can: a value may outgrow its width, a place may lie outside of
its sequence, and a refused action may leave half of its work behind. That none of this happens is
proved by comparison with `Machine`, whose numbers it computes.
-/

namespace Chip8

/-- Why an action on integers ends early. -/
inductive Refusal where
  /-- The program is at fault. -/
  | fault (f : Fault)
  /-- The caller is at fault. -/
  | argument (e : ArgumentError)
  /-- A place outside of a sequence was accessed. -/
  | outside (place : Int)
  /-- A remainder by zero was taken. -/
  | zeroDivisor
  deriving DecidableEq

/-- The state of a machine over the integers. The stack has its most recent entry first. -/
structure IntMachine where
  registers : Array Int
  pc : Int
  index : Int
  stack : List Int
  fontAddress : Int
  programStart : Int
  cells : Array Int
  rows : Int
  cols : Int
  pixels : Array Int
  dirty : Bool
  keyMap : KeyMap
  held : Option Int
  delay : Int
  sound : Int
  deriving DecidableEq

namespace IntMachine

/-- A computation on the state that may be refused and then keeps the state it came to. -/
abbrev Action := EStateM Refusal IntMachine

/-! ## Checked accesses -/

/-- The entry at a place. -/
def entry (xs : Array Int) (place : Int) : Action Int :=
  if h : 0 ≤ place ∧ place < xs.size then
    have : place.toNat < xs.size := by omega
    pure xs[place.toNat]
  else throw (.outside place)

/-- The sequence with another entry at a place. -/
def replaced (xs : Array Int) (place value : Int) : Action (Array Int) :=
  if h : 0 ≤ place ∧ place < xs.size then pure (xs.set place.toNat value (by omega))
  else throw (.outside place)

/-- The remainder by a divisor. -/
def remainder (a divisor : Int) : Action Int :=
  if divisor = 0 then throw .zeroDivisor else pure (a % divisor)

/-! ## Registers -/

/-- Only the integers from 0 to 15 name a register. -/
def checkRegister (index : Int) : Action Unit :=
  if 0 ≤ index ∧ index < 16 then pure () else throw (.argument (.register index))

/-- The value of a register. -/
def getRegister (index : Int) : Action Int := do
  checkRegister index
  entry (← get).registers index

/-- Store the low byte of a value in a register. -/
def setRegister (index value : Int) : Action Unit := do
  checkRegister index
  let registers ← replaced (← get).registers index (value % 256)
  modify fun s => { s with registers := registers }

/-- Store the low byte of a value in the flag register. -/
def setFlag (value : Int) : Action Unit := do
  let registers ← replaced (← get).registers 15 (value % 256)
  modify fun s => { s with registers := registers }

/-! ## Program counter, index, stack and timers -/

/-- Go on at an address, which wraps around the memory. -/
def setPc (a : Int) : Action Unit := modify fun s => { s with pc := a % 4096 }

/-- Go on after the word at the program counter. -/
def advancePc : Action Unit := modify fun s => { s with pc := (s.pc + 2) % 4096 }

/-- Go back to the word before the program counter. -/
def rewindPc : Action Unit := modify fun s => { s with pc := (s.pc - 2) % 4096 }

/-- Store the low word of a value in the index register. -/
def setIndex (a : Int) : Action Unit := modify fun s => { s with index := a % 65536 }

/-- Put the low word of a value on the stack. -/
def push (a : Int) : Action Unit := modify fun s => { s with stack := a % 65536 :: s.stack }

/-- Take the top off the stack, which must not be empty. -/
def pop : Action Int := do
  match (← get).stack with
  | [] => throw (.fault (.emptyStack (some (← get).pc)))
  | top :: rest =>
    modify fun s => { s with stack := rest }
    return top

/-- Store the low byte of a value in the delay timer. -/
def setDelay (value : Int) : Action Unit := modify fun s => { s with delay := value % 256 }

/-- Store the low byte of a value in the sound timer. -/
def setSound (value : Int) : Action Unit := modify fun s => { s with sound := value % 256 }

/-- One less, unless nothing is left. -/
def countDown (t : Int) : Int := if 0 < t then t - 1 else t

/-- One more, unless the greatest byte is reached. -/
def countUp (t : Int) : Int := if t < 255 then t + 1 else t

/-- Count both timers down. -/
def tickTimers : Action Unit :=
  modify fun s => { s with delay := countDown s.delay, sound := countDown s.sound }

/-! ## Memory -/

/-- The byte at an address, which wraps around the memory. -/
def readByte (a : Int) : Action Int := do entry (← get).cells (a % 4096)

/-- Store the low byte of a value at an address, which wraps around the memory. -/
def writeByte (a value : Int) : Action Unit := do
  let cells ← replaced (← get).cells (a % 4096) (value % 256)
  modify fun s => { s with cells := cells }

/-- As many bytes as are asked for, from an address on. -/
def readBytes (a : Int) : Nat → Action (List Int)
  | 0 => pure []
  | count + 1 => do
    let b ← readByte a
    let rest ← readBytes (a + 1) count
    return b :: rest

/-- Store bytes one after the other, from an address on. -/
def writeBytes (a : Int) : List Int → Action Unit
  | [] => pure ()
  | b :: bs => do
    writeByte a b
    writeBytes (a + 1) bs

/-- The big-endian word at an address. -/
def readWord (a : Int) : Action Int := do
  let high ← readByte a
  let low ← readByte (a + 1)
  return 256 * high + low

/-- The word at the program counter, which goes on after it. -/
def fetch : Action Int := do
  let word ← readWord (← get).pc
  advancePc
  return word

/-- Replace the cells of the program area by an image, if that does not reach past the addresses. -/
def load (image : List Int) : Action Unit := do
  let start := (← get).programStart
  if image.length > 4096 - start then
    throw (.fault (.imageSize image.length (4096 - start)))
  modify fun s =>
    { s with cells := Span.splice s.cells start (start + image.length) image.toArray }

/-! ## Picture -/

/-- The place of a pixel, row after row. -/
def offset (row col : Int) : Action Int := do
  let s ← get
  if (0 ≤ row ∧ row < s.rows) ∧ 0 ≤ col ∧ col < s.cols then return row * s.cols + col
  else throw (.argument (.position row col))

/-- The value of a pixel, 0 or 1. -/
def getPixel (row col : Int) : Action Int := do
  let place ← offset row col
  entry (← get).pixels place

/-- Give a pixel a value and mark the picture dirty. -/
def setPixel (row col : Int) (lit : Bool) : Action Unit := do
  let place ← offset row col
  let pixels ← replaced (← get).pixels place (if lit then 1 else 0)
  modify fun s => { s with pixels := pixels, dirty := true }

/-- Turn every pixel off and mark the picture dirty. -/
def clearPixels : Action Unit :=
  modify fun s => { s with pixels := Array.replicate (s.rows * s.cols).toNat 0, dirty := true }

/-- The dirty mark, which is taken away. -/
def takeDirty : Action Bool := modifyGet fun s => (s.dirty, { s with dirty := false })

/-! ## Keypad -/

/-- Hold the key that a host key produces, or none if it produces none. -/
def keyDown (text : String) : Action Unit :=
  modify fun s => { s with held := (s.keyMap.codeOf? text).map fun code => (code.toNat : Int) }

/-- Hold no key. -/
def keyUp : Action Unit := modify fun s => { s with held := none }

/-- Hold the key of a code. -/
def pressCode (code : Int) : Action Unit :=
  if 0 ≤ code ∧ code ≤ 15 then modify fun s => { s with held := some code }
  else throw (.argument (.keyCode code))

end IntMachine

end Chip8
