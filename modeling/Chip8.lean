import Chip8.Fault
import Chip8.Instruction.Disassemble
import Chip8.Memory.Dump
import Chip8.Framebuffer.Text
import Chip8.Framebuffer.Imaging
import Chip8.Machine.Execute
import Chip8.Config.Environment
import Chip8.Emulator.Run
import Chip8.Emulator.Paced
import Chip8.Emulator.Inspect
import Chip8.Emulator.Callback
import Chip8.Text.Real
import Chip8.Text.Quoted
import Chip8.CommandLine.Run
import Chip8.Main
import Chip8.Proofs.IntMachine.Simulation
import Chip8.Proofs.IntMachine.Bounds
import Chip8.Proofs.Sprite.Draw
import Chip8.Proofs.Emulator.Faults
import Chip8.Proofs.Emulator.Paced
import Chip8.Proofs.Emulator.Bounds
import Chip8.Proofs.Instruction.Assembler
import Chip8.Proofs.Instruction.Disassembly
import Chip8.Proofs.Instruction.Encoding
import Chip8.Proofs.Machine.Footprint
import Chip8.Proofs.Emulator.Footprint
import Chip8.Proofs.Emulator.Reply
import Chip8.Proofs.Emulator.Reset
import Chip8.Proofs.Machine.Change
import Chip8.Proofs.Emulator.Shown
import Chip8.Proofs.Emulator.Schedule
import Chip8.Proofs.Emulator.Subroutine
import Chip8.Proofs.Emulator.Countdown
import Chip8.Proofs.Framebuffer.Rows
import Chip8.Proofs.Framebuffer.Imaging
import Chip8.Proofs.Random.Twister
import Chip8.Proofs.Text.ControlSequence
import Chip8.Proofs.Text.Integer
import Chip8.Proofs.CommandLine.Arguments
import Chip8.Proofs.CommandLine.Failure
import Chip8.Proofs.CommandLine.Headless
import Chip8.Proofs.Emulator.Inputs
import Chip8.Proofs.IntEmulator.Basic
import Chip8.Proofs.IntEmulator.Numbers
import Chip8.Proofs.IntEmulator.Refusal
import Chip8.Proofs.Machine.Arithmetic
import Chip8.Proofs.Sprite.Sequence
import Chip8.Proofs.Machine.Transfer
import Chip8.Proofs.Emulator.Repeat
import Chip8.Proofs.Emulator.Callback
import Chip8.Proofs.Emulator.Run
import Chip8.Proofs.Emulator.Target
import Chip8.Proofs.Emulator.KeyWait
import Chip8.Proofs.Memory.ByteMap
import Chip8.Proofs.Framebuffer.Grid
import Chip8.Proofs.Keypad.Latest
import Chip8.Proofs.Text.Ascii
import Chip8.Proofs.Text.Literal
import Chip8.Proofs.Config.Environment
import Chip8.Proofs.Text.Digits
import Chip8.Proofs.Memory.Dump
import Chip8.Proofs.Machine.Decimal
import Chip8.Proofs.IntMachine.Fields
