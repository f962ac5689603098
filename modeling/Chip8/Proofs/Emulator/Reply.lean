import Chip8.Proofs.Emulator.Operation

/-!
# What a host gets back

`Emulator.reply` is the answer of an operation: that it was carried out, a value, or the reason why
it was refused. An emulator writes notes of redraws and events for readers outside and never reads
them. So an emulator with earlier notes gives the same replies, goes through the same states and
adds the same notes.
-/

namespace Chip8

/-- What a host gets back from an operation. -/
inductive Reply where
  /-- Nothing but that it was carried out. -/
  | done
  | flag (b : Bool)
  | number (n : Nat)
  | refused (r : Refusal)
  /-- Nothing yet, from a paced run that does not return within its decisions. -/
  | pending
  deriving DecidableEq

/-- The reply for a result that may be an error. -/
def Reply.ofResult (answer : α → Reply) (reason : ε → Refusal) : Except ε α → Reply
  | .ok a => answer a
  | .error e => .refused (reason e)

/-- The reply of an operation on a machine. -/
def Machine.reply (m : Machine) : Operation → Reply
  | .fetch => .number m.fetch.1.toNat
  | .pop => .ofResult (fun popped => .number popped.1.toNat) .fault m.pop
  | .takeDirty => .flag m.framebuffer.takeDirty.1
  | op => .ofResult (fun _ => .done) id (m.apply op)

namespace Emulator

/-- The reply of an operation. -/
def reply (e : Emulator) : Operation → Reply
  | .machine op => e.machine.reply op
  | .load image => .ofResult (fun _ => .done) .fault (e.load image)
  | .loadFile p entry => .ofResult (fun _ => .done) .fault (e.loadFile p entry)
  | .cycle presenting => .ofResult (fun _ => .done) .fault (e.cycle presenting).result
  | .present => .flag e.present.1
  | .step => .ofResult (fun pc => .number pc.toNat) .fault e.step.result
  | .run limit => .ofResult .number .fault (e.run limit).result
  | .runUntil target limit => .ofResult .flag .fault (e.runUntil target limit).result
  | .runPaced seconds times decisions =>
    match ((e.runPaced scriptedClock seconds decisions).run times).1 with
    | .error refused => .refused (.argument refused)
    | .ok none => .pending
    | .ok (some o) => .ofResult .number .fault o.result
  | .pressCode code => .ofResult (fun _ => .done) .argument (e.pressCode code)
  | .reset | .stop | .press _ | .release | .setHook _ => .done

/-- The replies of operations one after the other. -/
def replies (e : Emulator) : List Operation → List Reply
  | [] => []
  | op :: ops => e.reply op :: (e.after op).replies ops

/-! ## Earlier notes do not matter -/

/-- The emulator with notes before its own. -/
def withLogs (shown : Array Redraw) (noted : Array Event) (e : Emulator) : Emulator :=
  { e with redraws := shown ++ e.redraws, journal := noted ++ e.journal }

/-- The emulator without its notes. -/
def unlogged (e : Emulator) : Emulator := { e with redraws := #[], journal := #[] }

end Emulator

/-- An outcome with notes before those of its emulator. -/
def Outcome.withLogs (shown : Array Redraw) (noted : Array Event) (o : Outcome α) : Outcome α :=
  ⟨o.result, o.emulator.withLogs shown noted⟩

namespace Emulator

variable (shown : Array Redraw) (noted : Array Event) (e : Emulator)

theorem withLogs_unlogged : e.unlogged.withLogs e.redraws e.journal = e := by
  simp only [withLogs, unlogged, Array.append_empty]

theorem note_withLogs (events : List Event) :
    (e.withLogs shown noted).note events = (e.note events).withLogs shown noted := by
  simp only [note, withLogs, Array.append_assoc]

theorem noteRedraw_withLogs :
    (e.withLogs shown noted).noteRedraw = e.noteRedraw.withLogs shown noted := by
  simp only [noteRedraw, withLogs, Array.push_append]

theorem act_withLogs (hook : Hook) :
    hook.act (e.withLogs shown noted) = (hook.act e).withLogs shown noted := by
  cases hook with
  | none => rfl
  | record => exact noteRedraw_withLogs ..
  | stop => exact congrArg Emulator.stop (noteRedraw_withLogs ..)
  | press key => exact congrArg (Emulator.press · key) (noteRedraw_withLogs ..)

theorem present_withLogs :
    (e.withLogs shown noted).present = (e.present.1, e.present.2.withLogs shown noted) := by
  have same : (e.withLogs shown noted).machine = e.machine := rfl
  have acted := act_withLogs shown noted { e with
    machine := { e.machine with framebuffer := e.machine.framebuffer.clean }
    frames := e.frames + 1 } e.hook
  rw [present, present, same]
  split
  · exact congrArg (Prod.mk true) acted
  · rfl

theorem ready_withLogs : (e.withLogs shown noted).ready = e.ready.withLogs shown noted :=
  note_withLogs shown noted { e with machine := e.machine.fetch.2.tickTimers } _

theorem advance_withLogs : (e.withLogs shown noted).advance = e.advance.withLogs shown noted := by
  rw [advance, advance, ready_withLogs, complete, complete]
  have same : (e.ready.withLogs shown noted).machine.execute
      (e.withLogs shown noted).machine.currentWord.toNat
      (e.ready.withLogs shown noted).machine.keypad.reading (e.ready.withLogs shown noted).source
      (e.withLogs shown noted).machine.pc.toNat =
    e.ready.machine.execute e.machine.currentWord.toNat e.ready.machine.keypad.reading
      e.ready.source e.machine.pc.toNat := rfl
  rw [same]
  cases e.ready.machine.execute e.machine.currentWord.toNat e.ready.machine.keypad.reading
      e.ready.source e.machine.pc.toNat with
  | error f => rfl
  | ok result =>
    have completed := note_withLogs shown noted { e.ready with
        machine := result.1, source := result.2, cycles := e.ready.cycles + 1 }
      (e.ready.machine.executionEvents e.machine.currentWord)
    exact congrArg (Outcome.mk (.ok ())) completed

theorem andThen_withLogs {o : Outcome α} {next : α → Emulator → Outcome β}
    (h : ∀ a e, next a (e.withLogs shown noted) = (next a e).withLogs shown noted) :
    (o.withLogs shown noted).andThen next = (o.andThen next).withLogs shown noted := by
  cases o with
  | mk result e =>
    cases result with
    | error f => rfl
    | ok a => exact h a e

theorem cycle_withLogs (presenting : Bool) :
    (e.withLogs shown noted).cycle presenting = (e.cycle presenting).withLogs shown noted := by
  rw [cycle, cycle, advance_withLogs]
  apply andThen_withLogs
  intro _ e
  cases presenting with
  | true =>
    have presented := congrArg Prod.snd (present_withLogs shown noted e)
    exact congrArg (Outcome.mk (.ok ())) presented
  | false => rfl

theorem step_withLogs : (e.withLogs shown noted).step = e.step.withLogs shown noted := by
  rw [step, step, cycle_withLogs]
  apply andThen_withLogs
  intro _ e
  rfl

theorem runFrom_withLogs (executed budget : Nat) :
    runFrom executed budget (e.withLogs shown noted) =
      (runFrom executed budget e).withLogs shown noted := by
  induction budget generalizing e executed with
  | zero => rfl
  | succ budget ih =>
    have same : (e.withLogs shown noted).stopRequested = e.stopRequested := rfl
    rw [runFrom, runFrom, same, cycle_withLogs]
    split
    · rfl
    · apply andThen_withLogs
      intro _ e
      exact ih e (executed + 1)

theorem runToward_withLogs (target : Address) (budget : Nat) :
    runToward target budget (e.withLogs shown noted) =
      (runToward target budget e).withLogs shown noted := by
  induction budget generalizing e with
  | zero => rfl
  | succ budget ih =>
    have same : (e.withLogs shown noted).machine = e.machine := rfl
    rw [runToward, runToward, same, cycle_withLogs]
    split
    · rfl
    · apply andThen_withLogs
      intro _ e
      exact ih e

theorem run_withLogs (limit : Int) :
    (e.withLogs shown noted).run limit = (e.run limit).withLogs shown noted :=
  runFrom_withLogs shown noted e.unstopped 0 limit.toNat

theorem runUntil_withLogs (target limit : Int) :
    (e.withLogs shown noted).runUntil target limit =
      (e.runUntil target limit).withLogs shown noted :=
  runToward_withLogs shown noted e (.ofInt 12 target) limit.toNat

theorem finishPaced_withLogs (executed : Nat) (seconds : Float) :
    (e.withLogs shown noted).finishPaced executed seconds =
      (e.finishPaced executed seconds).withLogs shown noted := by
  have ended := note_withLogs shown noted e.present.2 [.paced executed seconds]
  rw [finishPaced, finishPaced, present_withLogs]
  exact congrArg (Outcome.mk (.ok executed)) ended

section

variable {m : Type → Type} [Monad m] (clock : Clock m) (periods : Periods) (seconds : Float)

theorem runPaced_eq (decisions : Nat) :
    e.runPaced clock seconds decisions =
      match Periods.ofConfig e.config with
      | .error refused => pure (.error refused)
      | .ok periods => do
        let start ← clock.now
        let ended ← runPacedFrom clock periods seconds decisions (.starting periods start)
          e.unstopped
        return .ok ended :=
  rfl

variable [LawfulMonad m]

theorem runPacedFrom_withLogs (decisions : Nat) (pace : Pace) :
    runPacedFrom clock periods seconds decisions pace (e.withLogs shown noted) =
      (Option.map (Outcome.withLogs shown noted)) <$>
        runPacedFrom clock periods seconds decisions pace e := by
  induction decisions generalizing e pace with
  | zero => simp [runPacedFrom]
  | succ decisions ih =>
    have same : (e.withLogs shown noted).stopRequested = e.stopRequested := rfl
    rw [runPacedFrom, runPacedFrom, same]
    split
    · simp [finishPaced_withLogs]
    · rw [map_bind]
      congr
      funext now
      cases pace.decide seconds now with
      | finish => simp [finishPaced_withLogs]
      | sleep pause => simp [ih]
      | cycle =>
        simp only [cycle_withLogs, Outcome.withLogs]
        cases (e.cycle (pace.frameDue now)).result with
        | error f => simp [Outcome.withLogs]
        | ok _ => exact ih ..

theorem runPaced_withLogs (decisions : Nat) :
    (e.withLogs shown noted).runPaced clock seconds decisions =
      (Except.map (Option.map (Outcome.withLogs shown noted))) <$>
        e.runPaced clock seconds decisions := by
  have same : (e.withLogs shown noted).config = e.config := rfl
  have started : (e.withLogs shown noted).unstopped = e.unstopped.withLogs shown noted := rfl
  rw [runPaced_eq, runPaced_eq, same, started]
  cases Periods.ofConfig e.config with
  | error refused => simp [Except.map]
  | ok periods => simp [runPacedFrom_withLogs, Except.map]

end

/-! ## Loading and starting again -/

theorem store_withLogs (image : List Byte) :
    (e.withLogs shown noted).store image = (e.store image).map (withLogs shown noted) := by
  have same : (e.withLogs shown noted).machine = e.machine := rfl
  rw [store, store, same]
  cases e.machine.load image with
  | error f => rfl
  | ok machine =>
    exact congrArg Except.ok (note_withLogs shown noted { e with machine := machine } _)

theorem load_withLogs (image : List Byte) :
    (e.withLogs shown noted).load image = (e.load image).map (withLogs shown noted) := by
  rw [load, load, store_withLogs]
  cases e.store image <;> rfl

theorem loadFile_withLogs (p : Path) (entry : Entry) :
    (e.withLogs shown noted).loadFile p entry =
      (e.loadFile p entry).map (withLogs shown noted) := by
  rw [loadFile, loadFile]
  cases entry.content with
  | error trouble => rfl
  | ok image =>
    simp only [load_withLogs]
    cases e.load image with
    | error f => rfl
    | ok loaded => exact congrArg Except.ok (note_withLogs shown noted loaded _)

theorem reset_withLogs : (e.withLogs shown noted).reset = e.reset.withLogs shown noted := by
  have image_eq : (e.withLogs shown noted).image = e.image := rfl
  have restarted_eq :
      (e.withLogs shown noted).restarted = e.restarted.withLogs shown noted := rfl
  rw [reset_eq, reset_eq, image_eq, restarted_eq, store_withLogs]
  split
  · rfl
  · cases e.restarted.store e.image <;> rfl

/-! ## Operations -/

/-- Earlier notes stay in front and do not matter to what an operation does. -/
theorem after_withLogs (op : Operation) :
    (e.withLogs shown noted).after op = (e.after op).withLogs shown noted := by
  cases op with
  | machine op => rfl
  | load image =>
    rw [after, after, load_withLogs]
    cases e.load image <;> rfl
  | loadFile p entry =>
    rw [after, after, loadFile_withLogs]
    cases e.loadFile p entry <;> rfl
  | reset => exact reset_withLogs ..
  | cycle presenting => exact congrArg Outcome.emulator (cycle_withLogs ..)
  | present => exact congrArg Prod.snd (present_withLogs ..)
  | step => exact congrArg Outcome.emulator (step_withLogs ..)
  | run limit => exact congrArg Outcome.emulator (run_withLogs ..)
  | runUntil target limit => exact congrArg Outcome.emulator (runUntil_withLogs ..)
  | runPaced seconds times decisions =>
    rw [after, after, runPaced_withLogs, StateT.run_map]
    rcases (e.runPaced scriptedClock seconds decisions).run times with ⟨result, times'⟩
    rcases result with refused | (_ | o) <;> rfl
  | pressCode code =>
    have same : (e.withLogs shown noted).machine = e.machine := rfl
    rw [after, after, pressCode, pressCode, same]
    cases e.machine.keypad.pressCode code <;> rfl
  | stop | press | release | setHook => rfl

theorem reply_withLogs (op : Operation) : (e.withLogs shown noted).reply op = e.reply op := by
  cases op with
  | machine op => rfl
  | load image =>
    rw [reply, reply, load_withLogs]
    cases e.load image <;> rfl
  | loadFile p entry =>
    rw [reply, reply, loadFile_withLogs]
    cases e.loadFile p entry <;> rfl
  | cycle presenting => rw [reply, reply, cycle_withLogs, Outcome.withLogs]
  | present => rw [reply, reply, present_withLogs]
  | step => rw [reply, reply, step_withLogs, Outcome.withLogs]
  | run limit => rw [reply, reply, run_withLogs, Outcome.withLogs]
  | runUntil target limit => rw [reply, reply, runUntil_withLogs, Outcome.withLogs]
  | runPaced seconds times decisions =>
    rw [reply, reply, runPaced_withLogs, StateT.run_map]
    rcases (e.runPaced scriptedClock seconds decisions).run times with ⟨result, times'⟩
    rcases result with refused | (_ | o) <;> rfl
  | pressCode code =>
    have same : (e.withLogs shown noted).machine = e.machine := rfl
    rw [reply, reply, pressCode, pressCode, same]
    cases e.machine.keypad.pressCode code <;> rfl
  | reset | stop | press | release | setHook => rfl

theorem afterAll_withLogs (ops : List Operation) :
    (e.withLogs shown noted).afterAll ops = (e.afterAll ops).withLogs shown noted := by
  induction ops generalizing e with
  | nil => rfl
  | cons op ops ih =>
    have first := after_withLogs shown noted e op
    simp only [afterAll, List.foldl_cons] at ih ⊢
    rw [first, ih]

theorem replies_withLogs (ops : List Operation) :
    (e.withLogs shown noted).replies ops = e.replies ops := by
  induction ops generalizing e with
  | nil => rfl
  | cons op ops ih => rw [replies, replies, reply_withLogs, after_withLogs, ih]

end Emulator

end Chip8
