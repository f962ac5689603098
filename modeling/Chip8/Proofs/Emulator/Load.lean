import Chip8.Emulator.Basic
import Chip8.Proofs.IntMachine.Bounds
import Chip8.Proofs.Memory.Image

/-!
# Loading and resetting

What an accepted image and a reset each change. A reset loads the image that is kept, so nothing but
the memory and the journal tells it from an emulator that is built anew and loads nothing.
-/

namespace Chip8.Emulator

/-! ## Images -/

theorem store_eq {e : Emulator} {image : List Byte} {memory : Memory}
    (loaded : e.machine.memory.load image = .ok memory) :
    e.store image = .ok (({ e with machine := { e.machine with memory := memory } } :
      Emulator).note [.imageLoaded image.length memory.layout.programStart]) := by
  rw [store, Machine.load, loaded]
  rfl

theorem eq_of_store {e e' : Emulator} {image : List Byte} (h : e.store image = .ok e') :
    ∃ memory, e.machine.memory.load image = .ok memory ∧
      e' = ({ e with machine := { e.machine with memory := memory } } : Emulator).note
        [.imageLoaded image.length memory.layout.programStart] := by
  obtain ⟨machine, loaded, rfl⟩ := exists_of_map_eq_ok h
  obtain ⟨memory, stored, rfl⟩ := exists_of_map_eq_ok loaded
  exact ⟨memory, stored, rfl⟩

theorem eq_of_load {e e' : Emulator} {image : List Byte} (h : e.load image = .ok e') :
    ∃ memory, e.machine.memory.load image = .ok memory ∧
      e' = { ({ e with machine := { e.machine with memory := memory } } : Emulator).note
        [.imageLoaded image.length memory.layout.programStart] with image := image } := by
  obtain ⟨stored, kept, rfl⟩ := exists_of_map_eq_ok h
  obtain ⟨memory, loaded, rfl⟩ := eq_of_store kept
  exact ⟨memory, loaded, rfl⟩

theorem eq_of_loadFile {e e' : Emulator} {p : Path} {entry : Entry}
    (h : e.loadFile p entry = .ok e') :
    ∃ image loaded, entry.content = .ok image ∧ e.load image = .ok loaded ∧
      e' = loaded.note [.fileLoaded p.name image.length] := by
  rw [loadFile] at h
  split at h
  · contradiction
  · rename_i image content
    obtain ⟨loaded, kept, rfl⟩ := exists_of_map_eq_ok h
    exact ⟨image, loaded, content, kept, rfl⟩

/-! ## Resets -/

/-- The emulator as a reset leaves it before it loads the last image. -/
def restarted (e : Emulator) : Emulator :=
  { e with
    machine := freshMachine e.config e.layout e.machine.keypad
    source := e.origin
    cycles := 0
    frames := 0
    stopRequested := false }

theorem reset_eq (e : Emulator) :
    e.reset = if e.image = [] then e.restarted
      else (e.restarted.store e.image).toOption.getD e.restarted := by
  rw [reset]
  split
  · rfl
  · have loaded {stored : Except Fault Emulator} (h : e.restarted.store e.image = stored) :
        stored.toOption.getD e.restarted = (e.restarted.store e.image).toOption.getD e.restarted :=
      h ▸ rfl
    split
    · exact loaded ‹_›
    · exact loaded ‹_›

/-- The image that a reset loads changes memory and journal. -/
theorem rest_reset (e : Emulator) :
    e.reset = { e.restarted with
      machine := { e.restarted.machine with memory := e.reset.machine.memory }
      journal := e.reset.journal } := by
  rw [reset_eq]
  split
  · rfl
  · cases stored : e.restarted.store e.image with
    | error f => rfl
    | ok e' =>
      obtain ⟨memory, -, rfl⟩ := eq_of_store stored
      rfl

end Chip8.Emulator
