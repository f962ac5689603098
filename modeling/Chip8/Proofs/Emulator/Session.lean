import Chip8.Emulator.Run
import Chip8.Proofs.Emulator.Faults
import Chip8.Proofs.Emulator.Reply

/-!
# Sessions

A session loads an image, holds a key if one is given and runs a number of cycles. It ends with a
fault if the image does not fit or an instruction faults, and in no other way than these before its
cycles are over or a hook stops it.
-/

namespace Chip8

/-- A fault of an instruction, which tells the address that it was executed at. -/
inductive Fault.OfInstruction : Fault → Prop
  | invalidOpcode (word : Word) (pc : Address) :
    OfInstruction (.invalidOpcode word.toNat (some pc.toNat))
  | emptyStack (pc : Address) : OfInstruction (.emptyStack (some pc.toNat))

namespace Emulator

/-- Hold a host key if there is one. -/
def holding (e : Emulator) (key : Option String) : Emulator := key.elim e e.press

/-- Load an image, hold a host key if there is one, and run at most a number of cycles. -/
def session (e : Emulator) (image : List Byte) (key : Option String) (cycles : Nat) :
    Outcome Nat :=
  match e.load image with
  | .error fault => ⟨.error fault, e⟩
  | .ok loaded => (loaded.holding key).run cycles

variable {e loaded : Emulator} {image : List Byte} {f : Fault}

/-! ## Images that fit and images that do not -/

theorem load_of_le (fits : image.length ≤ e.machine.memory.layout.capacity) :
    ∃ loaded, e.load image = .ok loaded := by
  obtain ⟨memory, stored⟩ := e.machine.memory.load_of_le fits
  rw [load, store_eq stored]
  exact ⟨_, rfl⟩

theorem load_of_lt (large : e.machine.memory.layout.capacity < image.length) :
    e.load image = .error (.imageSize image.length e.machine.memory.layout.capacity) := by
  have refused : e.machine.memory.load image =
      .error (.imageSize image.length e.machine.memory.layout.capacity) := by
    rw [Memory.load, dif_neg (Nat.not_le.mpr large)]
  rw [load, store, Machine.load, refused]
  rfl

theorem session_of_load (h : e.load image = .ok loaded) (key : Option String) (cycles : Nat) :
    e.session image key cycles = (loaded.holding key).run cycles := by
  rw [session, h]

theorem session_of_error (h : e.load image = .error f) (key : Option String) (cycles : Nat) :
    e.session image key cycles = ⟨.error f, e⟩ := by
  rw [session, h]

/-- A file is loaded like its content, and noted. -/
theorem loadFile_of_load (h : e.load image = .ok loaded) (p : Path) :
    e.loadFile p (.file image) = .ok (loaded.note [.fileLoaded p.name image.length]) := by
  rw [loadFile, Entry.content]
  simp only [h]
  rfl

theorem loadFile_of_error (h : e.load image = .error f) (p : Path) :
    e.loadFile p (.file image) = .error f := by
  rw [loadFile, Entry.content]
  simp only [h]
  rfl

/-! ## Faults of a run -/

theorem ofInstruction_of_cycle {presenting : Bool} (h : (e.cycle presenting).result = .error f) :
    f.OfInstruction := by
  rw [result_cycle, result_advance_eq_error_iff, Machine.execute_eq_error_iff] at h
  rcases h with ⟨-, rfl⟩ | ⟨-, -, rfl⟩
  · exact .invalidOpcode e.machine.currentWord e.machine.pc
  · exact .emptyStack e.machine.pc

theorem ofInstruction_of_runFrom {executed budget : Nat}
    (h : (runFrom executed budget e).result = .error f) : f.OfInstruction := by
  induction budget generalizing e executed with
  | zero => contradiction
  | succ budget ih =>
    rw [runFrom] at h
    split at h
    · contradiction
    · rw [Outcome.andThen] at h
      split at h
      · rename_i faulted
        cases h
        exact ofInstruction_of_cycle faulted
      · exact ih h

/-- A run faults at one of its instructions or not at all. -/
theorem ofInstruction_of_run {limit : Int} (h : (e.run limit).result = .error f) :
    f.OfInstruction :=
  ofInstruction_of_runFrom h

/-- The faults of a session are those of an image that does not fit and of instructions. -/
theorem fault_of_session {key : Option String} {cycles : Nat}
    (h : (e.session image key cycles).result = .error f) :
    (e.machine.memory.layout.capacity < image.length ∧
        f = .imageSize image.length e.machine.memory.layout.capacity) ∨
      (image.length ≤ e.machine.memory.layout.capacity ∧ f.OfInstruction) := by
  rcases Nat.lt_or_ge e.machine.memory.layout.capacity image.length with large | fits
  · rw [session_of_error (load_of_lt large)] at h
    exact .inl ⟨large, (Except.error.inj h).symm⟩
  · obtain ⟨loaded, accepted⟩ := load_of_le fits
    rw [session_of_load accepted] at h
    exact .inr ⟨fits, ofInstruction_of_run h⟩

/-! ## What a session keeps -/

/-- A note before a run does not matter to it. -/
theorem run_note (e : Emulator) (events : List Event) (limit : Int) :
    ((e.note events).run limit).result = (e.run limit).result ∧
      ((e.note events).run limit).emulator.machine = (e.run limit).emulator.machine := by
  have noted : e.note events = e.unlogged.withLogs e.redraws (e.journal ++ events.toArray) := by
    rw [note, withLogs, unlogged]
    simp only [Array.append_empty]
  have run := run_withLogs e.redraws e.journal e.unlogged limit
  rw [withLogs_unlogged] at run
  rw [noted, run_withLogs, run]
  exact ⟨rfl, rfl⟩

theorem note_holding (e : Emulator) (events : List Event) (key : Option String) :
    (e.note events).holding key = (e.holding key).note events := by
  cases key <;> rfl

namespace Drives

theorem holding (e : Emulator) (key : Option String) : Drives e (e.holding key) := by
  cases key with
  | none => exact refl e
  | some key => exact press e key

/-- A session acts on the machine through its operations. -/
theorem session (e : Emulator) (image : List Byte) (key : Option String) (cycles : Nat) :
    Drives e (e.session image key cycles).emulator := by
  rw [Emulator.session]
  split
  · exact refl e
  · rename_i loaded accepted
    have held := (load accepted).trans (holding loaded key)
    exact held.trans ((steady _).run cycles (refl _))

end Drives

end Emulator

end Chip8
