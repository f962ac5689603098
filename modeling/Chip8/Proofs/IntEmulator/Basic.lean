import Chip8.Emulator.Basic
import Chip8.Framebuffer.Image
import Chip8.Memory.Dump
import Chip8.Proofs.IntMachine.Operation

/-!
# The emulator over the integers

What a host keeps beside a machine, next to a machine over the integers. The calls that drive no
cycle are actions on it, each with its steps in the order in which they are taken. An action that is
refused ends there and keeps what its steps did before, in the machine as well as beside it. So a
step that is taken too early is not hidden by the refusal after it.

The journal is left out, since nothing reads it.
-/

namespace Chip8

/-- The state of an emulator around a machine over the integers. -/
structure IntEmulator where
  config : Config
  layout : Layout
  machine : IntMachine
  /-- The host key that produced the held key, if there was one. -/
  hostKey : Option Char
  origin : Random.Source
  source : Random.Source
  image : List Byte
  hook : Hook
  cycles : Int
  frames : Int
  stopRequested : Bool
  redraws : Array Redraw

namespace IntEmulator

/-- A computation on the state that may be refused and then keeps the state it came to. -/
abbrev Action := EStateM Refusal IntEmulator

/-- An action on the machine. If it is refused, the machine stays as far as it came. -/
def onMachine (a : IntMachine.Action α) : Action α := fun e =>
  match a.run e.machine with
  | .ok x s => .ok x { e with machine := s }
  | .error refusal s => .error refusal { e with machine := s }

/-! ## Keypad -/

/-- Hold a host key: the key it produces first, then the host key, unless it produces none. -/
def keyDown (text : String) : Action Unit := do
  onMachine (IntMachine.keyDown text)
  modify fun e => { e with hostKey := (e.machine.keyMap.find? text).map (·.1) }

/-- Hold no key, and no host key that produced one. -/
def keyUp : Action Unit := do
  onMachine IntMachine.keyUp
  modify fun e => { e with hostKey := none }

/-- Hold the key of a code, which no host key produced. -/
def pressCode (code : Int) : Action Unit := do
  onMachine (IntMachine.pressCode code)
  modify fun e => { e with hostKey := none }

/-! ## Execution -/

/-- Execute a word with the random source of the emulator, from which only the family of random
bytes draws, before it stores anything. -/
def execute (word : Int) (reading : Option Int) (pc : Int) : Action Unit := do
  let draw := (← get).source.next
  if word / 4096 % 16 = 0xC then modify fun e => { e with source := draw.2 }
  onMachine (IntMachine.execute word reading draw.1.toNat pc)

/-! ## Images -/

/-- Load a program image and keep it for a reset. -/
def load (image : List Byte) : Action Unit := do
  onMachine (IntMachine.load (image.map fun b => (b.toNat : Int)))
  modify fun e => { e with image := image }

/-- Load a program image from what the path of a text leads to. -/
def loadFile (text : String) (entry : Entry) : Action Unit :=
  match Path.read text with
  | .error e => throw (.argument e)
  | .ok p =>
    match entry.content with
    | .error trouble => throw (.fault (.imageRead p.text trouble.reason))
    | .ok image => load image

/-! ## Readers -/

/-- The answer of a function that has no part in the state. -/
def answer : Except ArgumentError α → Action α
  | .ok a => pure a
  | .error e => throw (.argument e)

/-- The bytes of a file that shows the picture, magnified by a factor. An imaging library makes an
image of the samples, changes its size and writes the file. -/
def renderImage (lib : Imaging) (scale : Int) : Action (List UInt8) := do
  if scale ≤ 0 then throw (.argument (.scale scale))
  let m := (← get).machine
  let samples := m.pixels.toList.map fun bit => if bit = 0 then 0 else 255
  let plain ← answer (lib.fromSamples m.cols.toNat m.rows.toNat samples)
  let image ←
    if scale = 1 then pure plain
    else answer (lib.resize plain (m.cols * scale).toNat (m.rows * scale).toNat)
  answer (lib.save image)

/-- The cells in the lines of a dump. -/
def dump (start stop width : Int) : Action (List (Array Int)) := do
  if width = 0 then throw (.argument .dumpWidth)
  let cells := (← get).machine.cells
  return (strides start stop width).map fun a => Span.slice cells a (min (a + width) stop)

end IntEmulator

/-! ## Calls -/

/-- What a host can ask of an emulator without driving a cycle. Wherever it may hand in an integer,
any integer is an argument. -/
inductive Call where
  /-- An operation on the machine itself. -/
  | machine (op : Operation)
  /-- Execute a word with a reading of the keypad and the random source of the emulator. -/
  | execute (word : Int) (reading : Option Int) (pc : Int)
  | getRegister (index : Int)
  | getPixel (row col : Int)
  | renderImage (scale : Int)
  | dump (start stop width : Int)
  | load (image : List Byte)
  /-- Load what the path of a text leads to. -/
  | loadFile (text : String) (entry : Entry)

namespace Call

/-- What a call does to an emulator over the integers, with an imaging library at hand. -/
def act (lib : Imaging) : Call → IntEmulator.Action Unit
  | machine (.keyDown text) => IntEmulator.keyDown text
  | machine .keyUp => IntEmulator.keyUp
  | machine (.pressCode code) => IntEmulator.pressCode code
  | machine op => IntEmulator.onMachine op.act
  | execute word reading pc => IntEmulator.execute word reading pc
  | getRegister index => do let _ ← IntEmulator.onMachine (IntMachine.getRegister index)
  | getPixel row col => do let _ ← IntEmulator.onMachine (IntMachine.getPixel row col)
  | renderImage scale => do let _ ← IntEmulator.renderImage lib scale
  | dump start stop width => do let _ ← IntEmulator.dump start stop width
  | load image => IntEmulator.load image
  | loadFile text entry => IntEmulator.loadFile text entry

end Call

end Chip8
