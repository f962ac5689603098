import Chip8.Proofs.Emulator.Created
import Chip8.Proofs.Emulator.Reply

/-!
# A reset emulator is a fresh one

After any history, a reset comes to what a new emulator is once it was given the image that was
accepted last, but for the keypad and the hook, which stay. `Prepared` is what the history keeps for
the reset: the configuration, the random source as it was at the start, and the last accepted image,
which fits. From there on nothing tells the two emulators apart.
-/

namespace Chip8

namespace Emulator

/-! ## The image accepted last -/

/-- The image that an operation has the emulator keep, if it loads one and is not refused. -/
def accepted? (e : Emulator) : Operation → Option (List Byte)
  | .load image => (e.load image).toOption.map fun _ => image
  | .loadFile p entry =>
    match entry.content with
    | .error _ => none
    | .ok image => (e.loadFile p entry).toOption.map fun _ => image
  | _ => none

/-- The last image that was accepted among operations one after the other. -/
def lastAccepted (e : Emulator) : List Operation → Option (List Byte)
  | [] => none
  | op :: ops => (e.after op).lastAccepted ops <|> e.accepted? op

/-- The emulator with an image loaded, if there is one. -/
def given (e : Emulator) : Option (List Byte) → Except Fault Emulator
  | none => .ok e
  | some image => e.load image

/-! ## What a history keeps for a reset -/

/-- After a history from `e₀`, the emulator would be reset to its configuration, layout and random
source with the given image, which fits. -/
structure Prepared (e₀ e : Emulator) (image : List Byte) : Prop where
  config_eq : e.config = e₀.config
  layout_eq : e.layout = e₀.layout
  origin_eq : e.origin = e₀.origin
  image_eq : e.image = image
  fits : image.length ≤ e₀.layout.capacity
  built : Built e

namespace Prepared

variable {e₀ e e' : Emulator} {image : List Byte}

/-- What drives the machine and leaves origin and image alone changes nothing for a reset. -/
theorem of_drives (h : Prepared e₀ e image) (driven : Drives e e') (origin : e'.origin = e.origin)
    (kept : e'.image = e.image) : Prepared e₀ e' image where
  config_eq := driven.config_eq.trans h.config_eq
  layout_eq := driven.layout_eq.trans h.layout_eq
  origin_eq := origin.trans h.origin_eq
  image_eq := kept.trans h.image_eq
  fits := h.fits
  built := driven.built h.built

theorem steady : Steady (Prepared e₀ · image) where
  advance r h := h.of_drives (.advance r) (by rw [r.rest_advance]) (by rw [r.rest_advance])
  present r h := h.of_drives (.present r) (by rw [r.rest_present]) (by rw [r.rest_present])
  unstopped _ h := h.of_drives ⟨rfl, rfl, [], rfl⟩ rfl rfl
  note _ _ h := h.of_drives ⟨rfl, rfl, [], rfl⟩ rfl rfl

/-- An accepted image takes the place of the one before. -/
theorem load {image' : List Byte} (h : Prepared e₀ e image) (loaded : e.load image' = .ok e') :
    Prepared e₀ e' image' := by
  obtain ⟨memory, stored, rfl⟩ := eq_of_load loaded
  have fits := Memory.length_le_of_load stored
  rw [h.built.layout_eq, h.layout_eq] at fits
  exact ⟨h.config_eq, h.layout_eq, h.origin_eq, rfl, fits, (Drives.load loaded).built h.built⟩

theorem loadFile {p : Path} {entry : Entry} {image' : List Byte} (h : Prepared e₀ e image)
    (content : entry.content = .ok image') (loaded : e.loadFile p entry = .ok e') :
    Prepared e₀ e' image' := by
  obtain ⟨_, between, content', kept, rfl⟩ := eq_of_loadFile loaded
  rw [content] at content'
  cases content'
  exact steady.note _ _ (h.load kept)

theorem reset (h : Prepared e₀ e image) : Prepared e₀ e.reset image :=
  h.of_drives (.reset h.built) (by rw [e.rest_reset, restarted]) (by rw [e.rest_reset, restarted])

theorem after (h : Prepared e₀ e image) (op : Operation) :
    Prepared e₀ (e.after op) ((e.accepted? op).getD image) := by
  cases op with
  | load image' =>
    rw [Emulator.after, accepted?]
    cases loaded : e.load image' with
    | error f => exact h
    | ok e' => exact h.load loaded
  | loadFile p entry =>
    rw [Emulator.after, accepted?]
    cases content : entry.content with
    | error trouble =>
      rw [Emulator.loadFile, content]
      exact h
    | ok image' =>
      cases loaded : e.loadFile p entry with
      | error f => exact h
      | ok e' => exact h.loadFile content loaded
  | reset => exact h.reset
  | cycle presenting => exact steady.cycle presenting h
  | present => exact steady.present e h
  | step => exact steady.step h
  | run limit => exact steady.run limit h
  | runUntil target limit => exact steady.runToward _ _ h
  | runPaced seconds times decisions => exact steady.after_runPaced h seconds times decisions
  | pressCode code =>
    have driven := Drives.after h.built (.pressCode code)
    rw [Emulator.after, Emulator.pressCode] at driven ⊢
    cases pressed : e.machine.keypad.pressCode code with
    | error refused => exact h
    | ok keypad =>
      rw [pressed] at driven
      exact h.of_drives driven rfl rfl
  | machine | stop | press | release | setHook => exact h.of_drives (.after h.built _) rfl rfl

theorem afterAll (h : Prepared e₀ e image) (ops : List Operation) :
    Prepared e₀ (e.afterAll ops) ((e.lastAccepted ops).getD image) := by
  induction ops generalizing e image with
  | nil => exact h
  | cons op ops ih =>
    have rest := ih (h.after op)
    rw [lastAccepted]
    cases later : (e.after op).lastAccepted ops with
    | none => rwa [later] at rest
    | some image' => rwa [later] at rest

end Prepared

/-! ## A reset with its checks -/

/-- A reset with every step that could be refused on a host that stores so many pixels: the layout,
the size of the picture, and the image. -/
def restart (storage : Nat) (e : Emulator) : Except Refusal Emulator := do
  let layout ← (Layout.ofAddresses e.config.fontAddress e.config.programStart).mapError .argument
  let size ← (Framebuffer.Size.ofInts e.config.rows e.config.cols).mapError .argument
  let picture ← (Framebuffer.createWithin storage size).mapError .argument
  let started := { e with
    machine := .powerOn (.blank layout) picture e.machine.keypad
    source := e.origin
    cycles := 0
    frames := 0
    stopRequested := false }
  if e.image = [] then return started else (started.store e.image).mapError .fault

section

variable {storage : Nat} {e : Emulator} {memory : Memory}

theorem store_restarted (loaded : (Memory.blank e.layout).load e.image = .ok memory) :
    e.restarted.store e.image = .ok (({ e.restarted with
      machine := { freshMachine e.config e.layout e.machine.keypad with memory := memory } } :
        Emulator).note [.imageLoaded e.image.length memory.layout.programStart]) :=
  store_eq loaded

/-- With an image that fits and the layout and the size of a created emulator, no check of a reset
fails. -/
theorem restart_eq_reset
    (placed : Layout.ofAddresses e.config.fontAddress e.config.programStart = .ok e.layout)
    (sized : e.config.size.check storage = .ok e.config.size)
    (loaded : (Memory.blank e.layout).load e.image = .ok memory) :
    e.restart storage = .ok e.reset := by
  have rectangle : Framebuffer.Size.ofInts e.config.rows e.config.cols = .ok e.config.size := by
    rw [Framebuffer.Size.ofInts, Framebuffer.Size.ofInts?,
      dif_pos ⟨e.config.rows_pos, e.config.cols_pos⟩]
    rfl
  have picture : Framebuffer.createWithin storage e.config.size = .ok (.dark e.config.size) := by
    rw [Framebuffer.createWithin, sized]
    rfl
  have started : e.restart storage = if e.image = [] then .ok e.restarted
      else (e.restarted.store e.image).mapError .fault := by
    simp only [restart, placed, rectangle, picture, Except.mapError, bind, Except.bind]
    rfl
  rw [started, reset_eq, store_restarted loaded]
  split <;> rfl

/-- What a reset comes to, up to the notes. -/
theorem unlogged_reset (loaded : (Memory.blank e.layout).load e.image = .ok memory) :
    e.reset.unlogged = unlogged { e with
      machine := { freshMachine e.config e.layout e.machine.keypad with memory := memory }
      source := e.origin
      cycles := 0
      frames := 0
      stopRequested := false } := by
  rw [reset_eq, store_restarted loaded]
  split
  · rename_i empty
    rw [empty, Memory.load_nil] at loaded
    cases loaded
    rfl
  · rfl

end

/-! ## Fresh emulators -/

section

variable {storage : Nat} {config : Config} {origin : Random.Source} {e : Emulator}

theorem Created.prepared (h : Created storage config origin e) : Prepared e e [] where
  config_eq := rfl
  layout_eq := rfl
  origin_eq := rfl
  image_eq := h.image_eq
  fits := Nat.zero_le _
  built := h.built

/-- An image that fits is accepted by a created emulator, which is as before but for its memory. -/
theorem Created.unlogged_given (h : Created storage config origin e)
    (accepted : Option (List Byte))
    {memory : Memory} (loaded : (Memory.blank e.layout).load (accepted.getD []) = .ok memory) :
    ∃ fresh, e.given accepted = .ok fresh ∧ fresh.unlogged = unlogged { e with
      machine := { e.machine with memory := memory }
      image := accepted.getD [] } := by
  have blank : e.machine.memory = .blank e.layout := by
    rw [h.machine_eq]
    rfl
  rw [← blank] at loaded
  cases accepted with
  | none =>
    rw [Option.getD_none, Memory.load_nil] at loaded
    cases loaded
    refine ⟨e, rfl, ?_⟩
    rw [Option.getD_none, ← h.image_eq]
  | some image =>
    have given_eq : e.given (some image) = (e.store image).map fun e => { e with image := image } :=
      rfl
    have stored : e.store image = _ := store_eq loaded
    rw [given_eq, stored]
    exact ⟨_, rfl, rfl⟩

end

/-- The emulator with another keypad and hook. -/
def within (e : Emulator) (keypad : Keypad) (hook : Hook) : Emulator :=
  { e.withKeypad keypad with hook := hook }

/-- Emulators that are the same but for their notes give the same replies, stay the same but for
their notes, and add the same notes. -/
theorem lockstep {e e' : Emulator} (same : e.unlogged = e'.unlogged) (ops : List Operation) :
    e.replies ops = e'.replies ops ∧
      (e.afterAll ops).unlogged = (e'.afterAll ops).unlogged ∧
      ∃ shown noted,
        (e.afterAll ops).redraws = e.redraws ++ shown ∧
        (e'.afterAll ops).redraws = e'.redraws ++ shown ∧
        (e.afterAll ops).journal = e.journal ++ noted ∧
        (e'.afterAll ops).journal = e'.journal ++ noted := by
  have first : e = e.unlogged.withLogs e.redraws e.journal := e.withLogs_unlogged.symm
  have second : e' = e.unlogged.withLogs e'.redraws e'.journal := by
    rw [same, withLogs_unlogged]
  have replies (r : Array Redraw) (j : Array Event) :
      (e.unlogged.withLogs r j).replies ops = e.unlogged.replies ops := replies_withLogs ..
  have after (r : Array Redraw) (j : Array Event) : (e.unlogged.withLogs r j).afterAll ops =
      (e.unlogged.afterAll ops).withLogs r j := afterAll_withLogs ..
  have after_first := after e.redraws e.journal
  have after_second := after e'.redraws e'.journal
  rw [← first] at after_first
  rw [← second] at after_second
  refine ⟨?_, ?_, (e.unlogged.afterAll ops).redraws, (e.unlogged.afterAll ops).journal, ?_⟩
  · have replies_first := replies e.redraws e.journal
    have replies_second := replies e'.redraws e'.journal
    rw [← first] at replies_first
    rw [← second] at replies_second
    rw [replies_first, replies_second]
  · rw [after_first, after_second]
    rfl
  · rw [after_first, after_second]
    exact ⟨rfl, rfl, rfl, rfl⟩

/-- After any history of an emulator, a reset succeeds and comes to a fresh emulator that was given
the image accepted last: machine, random source and counts are the fresh ones, with the keypad as it
was. From then on, the reset emulator and the fresh one with its keypad and hook give the same
replies to the same operations, are in the same states, and note the same redraws and events. -/
theorem reset_fresh {storage : Nat} {config : Config} {origin : Random.Source} {e₀ : Emulator}
    (created : createWithin storage config origin = .ok e₀) (history : List Operation) :
    let e := e₀.afterAll history
    e.restart storage = .ok e.reset ∧
      ∃ fresh, e₀.given (e₀.lastAccepted history) = .ok fresh ∧
        e.reset.machine = { fresh.machine with keypad := e.machine.keypad } ∧
        e.reset.source = fresh.source ∧ e.reset.cycles = fresh.cycles ∧
        e.reset.frames = fresh.frames ∧
        ∀ ops, let twin := fresh.within e.machine.keypad e.hook
          e.reset.replies ops = twin.replies ops ∧
            (e.reset.afterAll ops).unlogged = (twin.afterAll ops).unlogged ∧
            ∃ shown noted,
              (e.reset.afterAll ops).redraws = e.reset.redraws ++ shown ∧
              (twin.afterAll ops).redraws = twin.redraws ++ shown ∧
              (e.reset.afterAll ops).journal = e.reset.journal ++ noted ∧
              (twin.afterAll ops).journal = twin.journal ++ noted := by
  intro e
  have made := Created.of_createWithin created
  have prepared : Prepared e₀ e ((e₀.lastAccepted history).getD []) :=
    made.prepared.afterAll history
  obtain ⟨memory, loaded⟩ := Memory.load_of_le (.blank e₀.layout) prepared.fits
  obtain ⟨fresh, given_eq, fresh_eq⟩ := made.unlogged_given (e₀.lastAccepted history) loaded
  rw [← prepared.layout_eq, ← prepared.image_eq] at loaded
  have twin : e.reset.unlogged = (fresh.within e.machine.keypad e.hook).unlogged := by
    have machine_eq : freshMachine e.config e.layout e.machine.keypad =
        { e₀.machine with keypad := e.machine.keypad } := by
      rw [made.machine_eq, prepared.config_eq, prepared.layout_eq, made.config_eq]
      rfl
    have within_eq : (fresh.within e.machine.keypad e.hook).unlogged =
        fresh.unlogged.within e.machine.keypad e.hook := rfl
    rw [within_eq, fresh_eq, unlogged_reset loaded, machine_eq]
    simp only [unlogged, within, withKeypad, Emulator.mk.injEq, and_true, true_and]
    exact ⟨prepared.config_eq, prepared.layout_eq, prepared.origin_eq,
      prepared.origin_eq.trans (made.origin_eq.trans made.source_eq.symm), prepared.image_eq,
      made.cycles_eq.symm, made.frames_eq.symm, made.stopRequested_eq.symm⟩
  refine ⟨restart_eq_reset ?_ ?_ loaded, fresh, given_eq, ?_, ?_, ?_, ?_, lockstep twin⟩
  · rw [prepared.config_eq, prepared.layout_eq, made.config_eq, made.placed]
  · rw [prepared.config_eq, made.config_eq, made.sized]
  · have same := congrArg machine twin
    exact same
  · have same := congrArg source twin
    exact same
  · have same := congrArg cycles twin
    exact same
  · have same := congrArg frames twin
    exact same

/-- Two words that clear the picture, one of them overwritten so that the run faults, and then a
file that is not there. -/
def overwritten : List Operation :=
  [.load [0x00, 0xE0, 0x00, 0xE0], .machine (.writeByte 0x202 0xFF), .run 5,
    .loadFile (.ofText "rom.ch8") .missing]

/-- A reset after that history has the image as it was loaded. -/
theorem reset_fresh_overwritten :
    ∃ e₀ fresh, create clearing.config .silent = .ok e₀ ∧
      e₀.load [0x00, 0xE0, 0x00, 0xE0] = .ok fresh ∧
      (e₀.afterAll overwritten).reset.machine =
        { fresh.machine with keypad := (e₀.afterAll overwritten).machine.keypad } := by
  have ran : (create clearing.config .silent).toOption.any (fun e₀ =>
      decide (e₀.lastAccepted overwritten = some [0x00, 0xE0, 0x00, 0xE0])) = true := by
    decide +kernel
  obtain ⟨e₀, created, passed⟩ := exists_of_any_create ran
  have last : e₀.lastAccepted overwritten = some [0x00, 0xE0, 0x00, 0xE0] :=
    of_decide_eq_true passed
  obtain ⟨-, fresh, given_eq, machine_eq, -⟩ := reset_fresh created overwritten
  rw [last] at given_eq
  exact ⟨e₀, fresh, created, given_eq, machine_eq⟩

end Emulator

end Chip8
