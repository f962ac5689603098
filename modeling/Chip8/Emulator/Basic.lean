import Chip8.Config.Basic
import Chip8.Files
import Chip8.Journal
import Chip8.Machine.Execute

/-!
# The emulator

An emulator drives a machine and keeps what a host needs beside it: the image to run again after a
reset, the random source, the counters, a hook for redraws and a journal.

`Emulator.reset` goes back to the state after construction, with the last accepted image loaded; the
keypad and the hook stay as they are.
-/

namespace Chip8

/-- What happens when the picture is to be redrawn. -/
inductive Hook where
  | none
  /-- Note the redraw. -/
  | record
  /-- Note the redraw and ask a run to stop. -/
  | stop
  /-- Note the redraw and hold a host key. -/
  | press (key : String)
  deriving DecidableEq, Repr

/-- A redraw: the picture that was shown and the number of cycles executed before. -/
structure Redraw where
  cycles : Nat
  picture : Framebuffer
  deriving DecidableEq

/-- A machine and what a host keeps beside it. -/
structure Emulator where
  config : Config
  layout : Layout
  machine : Machine
  /-- The random source as it was at the start. -/
  origin : Random.Source
  source : Random.Source
  /-- The last program image that was accepted. -/
  image : List Byte
  hook : Hook
  /-- Cycles executed since the start or the last reset. -/
  cycles : Nat
  /-- Redraws since the start or the last reset. -/
  frames : Nat
  stopRequested : Bool
  /-- The redraws that the hook noted. -/
  redraws : Array Redraw
  journal : Array Event

namespace Emulator

/-- A machine as it is when the power comes on. -/
def freshMachine (config : Config) (layout : Layout) (keypad : Keypad) : Machine :=
  .powerOn (.blank layout) (.dark config.size) keypad

/-- An emulator with an empty program area, on a host that stores so many pixels. The layout or the
size of the picture may be refused. -/
def createWithin (storage : Nat) (config : Config) (origin : Random.Source) :
    Except ArgumentError Emulator := do
  let layout ← Layout.ofAddresses config.fontAddress config.programStart
  let _ ← config.size.check storage
  return {
    config := config
    layout := layout
    machine := freshMachine config layout (.released config.keyMap)
    origin := origin
    source := origin
    image := []
    hook := .none
    cycles := 0
    frames := 0
    stopRequested := false
    redraws := #[]
    journal := #[] }

/-- An emulator on a usual host. -/
def create (config : Config) (origin : Random.Source) : Except ArgumentError Emulator :=
  createWithin Framebuffer.usualStorage config origin

/-- Add events to the journal. -/
def note (e : Emulator) (events : List Event) : Emulator :=
  { e with journal := e.journal ++ events.toArray }

/-- Put a program image into memory without keeping it for a reset. -/
def store (e : Emulator) (image : List Byte) : Except Fault Emulator :=
  (e.machine.load image).map fun machine =>
    { e with machine := machine }.note
      [.imageLoaded image.length machine.memory.layout.programStart]

/-- Load a program image and keep it for a reset. -/
def load (e : Emulator) (image : List Byte) : Except Fault Emulator :=
  (e.store image).map fun e => { e with image := image }

/-- Load a program image from what a path leads to. -/
def loadFile (e : Emulator) (p : Path) (entry : Entry) : Except Fault Emulator :=
  match entry.content with
  | .error trouble => .error (.imageRead p.text trouble.reason)
  | .ok image => (e.load image).map fun e => e.note [.fileLoaded p.name image.length]

/-- Start again with the last image. An empty image is not loaded, and one that was accepted before
is accepted again. -/
def reset (e : Emulator) : Emulator :=
  let restarted := { e with
    machine := freshMachine e.config e.layout e.machine.keypad
    source := e.origin
    cycles := 0
    frames := 0
    stopRequested := false }
  if e.image = [] then restarted
  else match restarted.store e.image with
    | .ok loaded => loaded
    | .error _ => restarted

/-- Ask a run to stop at the next cycle boundary. -/
def stop (e : Emulator) : Emulator := { e with stopRequested := true }

/-- Change the keypad. -/
def withKeypad (e : Emulator) (keypad : Keypad) : Emulator :=
  { e with machine := { e.machine with keypad := keypad } }

/-- Hold a host key. -/
def press (e : Emulator) (key : String) : Emulator := e.withKeypad (e.machine.keypad.press key)

/-- Hold no key. -/
def release (e : Emulator) : Emulator := e.withKeypad e.machine.keypad.release

/-- Hold a key by its code. -/
def pressCode (e : Emulator) (code : Int) : Except ArgumentError Emulator :=
  (e.machine.keypad.pressCode code).map e.withKeypad

end Emulator

end Chip8
