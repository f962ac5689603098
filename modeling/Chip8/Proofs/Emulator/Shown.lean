import Chip8.Proofs.Emulator.Created
import Chip8.Proofs.Machine.Change

/-!
# What the hook was shown

A host that repaints only when the hook is called shows the picture of the last redraw. Changes of
the picture are marked and a mark is taken only to show the picture, so without a mark the host is
up to date. A reset is the exception: it puts a dark picture without a mark in place of the one that
was shown, and until the next redraw the host keeps the old one.
-/

namespace Chip8.Emulator

/-- The picture that the hook was shown last, dark if there is none. -/
def shown (e : Emulator) : Framebuffer :=
  match e.redraws.back? with
  | some redraw => redraw.picture
  | none => .dark e.config.size

/-- The emulator with a hook that only records. -/
def recording (e : Emulator) : Emulator := { e with hook := .record }

/-- The operations of a host that leaves marks and the hook alone. -/
def Operation.Watched : Operation → Prop
  | .machine op => op.Marking
  | .setHook _ => False
  | _ => True

/-- The hook records, and a picture without a mark is the one it was shown last, or the dark one if
it was shown none since the last reset. Without a reset, every frame is noted. -/
structure UpToDate (config : Config) (wasReset : Prop) (e : Emulator) : Prop where
  hook_eq : e.hook = .record
  config_eq : e.config = config
  picture_eq : e.machine.framebuffer.dirty = false →
    e.machine.framebuffer = if e.frames = 0 then .dark config.size else e.shown
  frames_eq : ¬ wasReset → e.frames = e.redraws.size

namespace UpToDate

variable {config : Config} {wasReset : Prop} {e e' : Emulator}

theorem mono {wasReset' : Prop} (h : UpToDate config wasReset e) (weaker : wasReset → wasReset') :
    UpToDate config wasReset' e :=
  ⟨h.hook_eq, h.config_eq, h.picture_eq, fun never => h.frames_eq fun was => never (weaker was)⟩

/-- What marks its changes of the picture and leaves hook and redraws alone is not missed. -/
theorem of_changeMarked (h : UpToDate config wasReset e) (hook : e'.hook = e.hook)
    (config_eq : e'.config = e.config) (frames : e'.frames = e.frames)
    (redraws : e'.redraws = e.redraws)
    (marked : e.machine.framebuffer.ChangeMarked e'.machine.framebuffer) :
    UpToDate config wasReset e' where
  hook_eq := hook.trans h.hook_eq
  config_eq := config_eq.trans h.config_eq
  picture_eq clean := by
    have same := marked.eq_of_not_dirty clean
    rw [same] at clean ⊢
    rw [h.picture_eq clean, frames, shown, shown, redraws, config_eq]
  frames_eq never := by
    rw [frames, redraws]
    exact h.frames_eq never

theorem advance (h : UpToDate config wasReset e) : UpToDate config wasReset e.advance.emulator := by
  refine h.of_changeMarked e.hook_advance (by rw [e.rest_advance]) e.frames_advance
    (by rw [e.rest_advance]) ?_
  rw [Emulator.advance, complete]
  split
  · exact .refl _
  · rename_i machine source executed
    have marked : e.ready.machine.framebuffer.ChangeMarked machine.framebuffer :=
      Machine.changeMarked_execute executed
    exact marked

/-- A presentation counts the frame that the hook notes. -/
theorem present (h : UpToDate config wasReset e) : UpToDate config wasReset e.present.2 := by
  rw [Emulator.present]
  split
  · rw [h.hook_eq]
    refine ⟨rfl, h.config_eq, fun _ => ?_, fun never => ?_⟩
    · simp [Hook.act, noteRedraw, shown]
    · simp [Hook.act, noteRedraw, h.frames_eq never]
  · exact h

theorem steady : Steady (UpToDate config wasReset) where
  advance _ h := h.advance
  present _ h := h.present
  unstopped _ h := h.of_changeMarked rfl rfl rfl rfl (.refl _)
  note _ _ h := h.of_changeMarked rfl rfl rfl rfl (.refl _)

theorem load {image : List Byte} (h : UpToDate config wasReset e) (loaded : e.load image = .ok e') :
    UpToDate config wasReset e' := by
  obtain ⟨memory, -, rfl⟩ := eq_of_load loaded
  exact h.of_changeMarked rfl rfl rfl rfl (.refl _)

theorem loadFile {p : Path} {entry : Entry} (h : UpToDate config wasReset e)
    (loaded : e.loadFile p entry = .ok e') : UpToDate config wasReset e' := by
  obtain ⟨image, between, -, kept, rfl⟩ := eq_of_loadFile loaded
  exact steady.note _ _ (h.load kept)

/-- The picture after a reset is dark, whatever was shown. -/
theorem reset (h : UpToDate config wasReset e) : UpToDate config True e.reset := by
  rw [e.rest_reset, restarted, h.config_eq]
  exact ⟨h.hook_eq, rfl, fun _ => rfl, fun never => absurd trivial never⟩

/-- Every operation of a host that leaves marks and hook alone keeps it up to date. -/
theorem after {op : Operation} (h : UpToDate config wasReset e) (watched : op.Watched) :
    UpToDate config (wasReset ∨ op = .reset) (e.after op) := by
  have kept {e' : Emulator} (h' : UpToDate config wasReset e') :
      UpToDate config (wasReset ∨ op = .reset) e' := h'.mono .inl
  cases op with
  | machine op =>
    exact kept (h.of_changeMarked rfl rfl rfl rfl (e.machine.changeMarked_after watched))
  | load image =>
    rw [Emulator.after]
    cases loaded : e.load image with
    | error f => exact kept h
    | ok e' => exact kept (h.load loaded)
  | loadFile p entry =>
    rw [Emulator.after]
    cases loaded : e.loadFile p entry with
    | error f => exact kept h
    | ok e' => exact kept (h.loadFile loaded)
  | reset => exact h.reset.mono fun _ => .inr rfl
  | cycle presenting => exact kept (steady.cycle presenting h)
  | present => exact kept h.present
  | step => exact kept (steady.step h)
  | run limit => exact kept (steady.run limit h)
  | runUntil target limit => exact kept (steady.runToward _ _ h)
  | runPaced seconds times decisions =>
    exact kept (steady.after_runPaced h seconds times decisions)
  | pressCode code =>
    rw [Emulator.after, Emulator.pressCode]
    cases e.machine.keypad.pressCode code with
    | error refused => exact kept h
    | ok keypad => exact kept (h.of_changeMarked rfl rfl rfl rfl (.refl _))
  | stop | press | release => exact kept (h.of_changeMarked rfl rfl rfl rfl (.refl _))
  | setHook hook => exact watched.elim

theorem afterAll {ops : List Operation} (h : UpToDate config wasReset e)
    (watched : ∀ op ∈ ops, op.Watched) :
    UpToDate config (wasReset ∨ .reset ∈ ops) (e.afterAll ops) := by
  induction ops generalizing e wasReset with
  | nil => exact h.mono .inl
  | cons op ops ih =>
    have first := h.after (watched op List.mem_cons_self)
    refine (ih first fun op' mem => watched op' (List.mem_cons_of_mem op mem)).mono ?_
    rintro ((was | rfl) | later)
    · exact .inl was
    · exact .inr List.mem_cons_self
    · exact .inr (List.mem_cons_of_mem op later)

end UpToDate

/-- A created emulator has shown nothing, and its picture is dark. -/
theorem Created.upToDate {storage : Nat} {config : Config} {origin : Random.Source} {e : Emulator}
    (h : Created storage config origin e) : UpToDate config False e.recording where
  hook_eq := rfl
  config_eq := h.config_eq
  picture_eq _ := by
    have picture : e.recording.machine.framebuffer = .dark config.size :=
      congrArg Machine.framebuffer h.machine_eq
    have none_shown : e.recording.frames = 0 := h.frames_eq
    rw [picture, if_pos none_shown]
  frames_eq _ := by
    have noted : e.frames = e.redraws.size := by rw [h.frames_eq, h.redraws_eq, Array.size_empty]
    exact noted

/-- Whatever is done to an emulator whose hook records from the start, a picture without a mark is
the one that the hook was shown last, or the dark one if no frame was shown since the last reset.
Without a reset, it is always the one that was shown last. -/
theorem picture_shown {storage : Nat} {config : Config} {origin : Random.Source} {e₀ : Emulator}
    (created : createWithin storage config origin = .ok e₀) {ops : List Operation}
    (watched : ∀ op ∈ ops, op.Watched) :
    let e := e₀.recording.afterAll ops
    e.machine.framebuffer.dirty = false →
      (e.machine.framebuffer = if e.frames = 0 then .dark config.size else e.shown) ∧
        (.reset ∉ ops → e.machine.framebuffer = e.shown) := by
  intro e clean
  have upToDate : UpToDate config (False ∨ .reset ∈ ops) e :=
    (Created.of_createWithin created).upToDate.afterAll watched
  have picture := upToDate.picture_eq clean
  refine ⟨picture, fun never => ?_⟩
  have counted : e.frames = e.redraws.size :=
    upToDate.frames_eq fun was => never (was.resolve_left id)
  by_cases none_shown : e.frames = 0
  · have no_redraws : e.redraws = #[] := Array.size_eq_zero_iff.mp (counted ▸ none_shown)
    rw [picture, if_pos none_shown, shown, no_redraws, upToDate.config_eq]
    rfl
  · rw [picture, if_neg none_shown]

/-- A host lights a pixel and has the picture shown. -/
def lighting : List Operation := [.machine (.setPixel 0 0 true), .present]

/-- The lit pixel has been shown. -/
theorem picture_shown_lighting :
    ∃ e₀, create clearing.config .silent = .ok e₀ ∧
      let e := e₀.recording.afterAll lighting
      e.frames = 1 ∧ e.machine.framebuffer = e.shown := by
  have ran : (create clearing.config .silent).toOption.any (fun e₀ =>
      let e := e₀.recording.afterAll lighting
      decide (e.machine.framebuffer.dirty = false ∧ e.frames = 1)) = true := by decide +kernel
  obtain ⟨e₀, created, passed⟩ := exists_of_any_create ran
  obtain ⟨clean, counted⟩ := of_decide_eq_true passed
  have watched : ∀ op ∈ lighting, op.Watched := by
    simp [lighting, Operation.Watched, Operation.Marking]
  have never : Operation.reset ∉ lighting := by simp [lighting]
  exact ⟨e₀, created, counted, (picture_shown created watched clean).2 never⟩

/-- After a reset the picture is dark and has no mark, and the picture that was shown last still has
the lit pixel. -/
theorem stale_after_reset :
    ∃ e₀, create clearing.config .silent = .ok e₀ ∧
      (∀ op ∈ lighting ++ [.reset], op.Watched) ∧
      let e := e₀.recording.afterAll (lighting ++ [.reset])
      e.machine.framebuffer.dirty = false ∧ e.machine.framebuffer.lit 0 0 = false ∧
        e.shown.lit 0 0 = true := by
  have ran : (create clearing.config .silent).toOption.any (fun e₀ =>
      let e := e₀.recording.afterAll (lighting ++ [.reset])
      decide (e.machine.framebuffer.dirty = false ∧ e.machine.framebuffer.lit 0 0 = false ∧
        e.shown.lit 0 0 = true)) = true := by decide +kernel
  obtain ⟨e₀, created, passed⟩ := exists_of_any_create ran
  have watched : ∀ op ∈ lighting ++ [.reset], op.Watched := by
    simp [lighting, Operation.Watched, Operation.Marking]
  exact ⟨e₀, created, watched, of_decide_eq_true passed⟩

end Chip8.Emulator
