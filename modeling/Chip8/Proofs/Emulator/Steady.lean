import Chip8.Emulator.Run
import Chip8.Proofs.Emulator.Paced

/-!
# What cycles keep, runs keep

Every way to run a program is made of cycles without presentation and of presentations, and besides
these only forgets requests to stop and notes events. A property that these parts keep is kept by
every run, however it ends.
-/

namespace Chip8.Emulator

/-- The emulator with no request to stop, as it is at the start of a run. -/
def unstopped (e : Emulator) : Emulator := { e with stopRequested := false }

/-- The parts of a run keep a property. -/
structure Steady (kept : Emulator → Prop) : Prop where
  advance : ∀ e, kept e → kept e.advance.emulator
  present : ∀ e, kept e → kept e.present.2
  unstopped : ∀ e, kept e → kept e.unstopped
  note : ∀ e events, kept e → kept (e.note events)

namespace Steady

variable {kept : Emulator → Prop} {e : Emulator}

theorem cycle (steady : Steady kept) (presenting : Bool) (h : kept e) :
    kept (e.cycle presenting).emulator := by
  have advanced := steady.advance e h
  cases ran : e.advance.result with
  | error f =>
    rw [e.emulator_cycle_of_error presenting ran]
    exact advanced
  | ok _ =>
    rw [e.emulator_cycle_of_ok presenting ran]
    cases presenting with
    | true => exact steady.present _ advanced
    | false => exact advanced

theorem step (steady : Steady kept) (h : kept e) : kept e.step.emulator := by
  have cycled := steady.cycle true h
  rw [Emulator.step, Outcome.andThen]
  split <;> exact cycled

theorem runFrom (steady : Steady kept) (executed budget : Nat) (h : kept e) :
    kept (Emulator.runFrom executed budget e).emulator := by
  induction budget generalizing e executed with
  | zero => exact h
  | succ budget ih =>
    rw [Emulator.runFrom]
    split
    · exact h
    · have cycled := steady.cycle true h
      rw [Outcome.andThen]
      split
      · exact cycled
      · exact ih _ cycled

theorem run (steady : Steady kept) (limit : Int) (h : kept e) : kept (e.run limit).emulator :=
  steady.runFrom 0 limit.toNat (steady.unstopped e h)

theorem runToward (steady : Steady kept) (target : Address) (budget : Nat) (h : kept e) :
    kept (Emulator.runToward target budget e).emulator := by
  induction budget generalizing e with
  | zero => exact h
  | succ budget ih =>
    rw [Emulator.runToward]
    split
    · exact h
    · have cycled := steady.cycle true h
      rw [Outcome.andThen]
      split
      · exact cycled
      · exact ih cycled

theorem runPaced (steady : Steady kept) {σ : Type} {clock : Clock (StateM σ)} {seconds : Float}
    {decisions : Nat} {o : Outcome Nat} {t t' : σ} (h : kept e)
    (ran : (e.runPaced clock seconds decisions).run t = (.ok (some o), t')) : kept o.emulator := by
  have ends : Ends (fun _ r => kept r) o :=
    runPaced_ends (fun _ _ presenting before _ => steady.cycle presenting before)
      (steady.unstopped e h) ran
  cases ends with
  | finished seconds before => exact steady.note _ _ (steady.present _ before)
  | faulted presenting before fault => exact steady.cycle presenting before

end Steady

end Chip8.Emulator
