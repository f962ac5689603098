import Chip8.Proofs.Emulator.Callback

/-!
# Runs to an address

A run to an address looks at the program counter before each of its cycles and after the last one.
So it ends at the first number of cycles, zero included, after which the address is reached, and
with its last cycle or the first fault if there is none. Requests to stop play no part in it.
-/

namespace Chip8.Emulator

variable {c : Callback} {e : Emulator} {target : Address}

/-- After a number of cycles, none of which faults, the program counter has an integer as its
address. -/
def Reaches (c : Callback) (e : Emulator) (address : Int) (k : Nat) : Prop :=
  ∃ s, repeated (cycleWith c) k e = ⟨.ok (), s⟩ ∧ (s.machine.pc.toNat : Int) = address % 4096

/-- An address is the one that an integer is reduced to if it is the remainder. -/
theorem eq_ofInt_iff (pc : Address) (address : Int) :
    pc = .ofInt 12 address ↔ (pc.toNat : Int) = address % 4096 := by
  rw [← BitVec.toNat_inj, BitVec.toNat_ofInt]
  omega

theorem runTowardWith_eq_repeatedUntil (c : Callback) (target : Address) (done budget : Nat)
    (e : Emulator) :
    runTowardWith c target budget e =
      (repeatedUntil (·.machine.pc = target) (cycleWith c) done budget e).andThen fun _ s =>
        ⟨.ok (s.machine.pc == target), s⟩ := by
  induction budget generalizing e done with
  | zero => rfl
  | succ budget ih =>
    rw [runTowardWith, repeatedUntil]
    split
    case isTrue here => rw [Outcome.andThen_ok, here, beq_self_eq_true]
    case isFalse =>
      rw [Outcome.andThen_assoc]
      congr
      funext _ s
      exact ih (done + 1) s

/-- A run that misses its target before `k` cycles, and that ends with them, comes to what they come
to. -/
theorem runTowardWith_eq {budget k : Nat} (le : k ≤ budget)
    (missed : ∀ j s, j < k → repeated (cycleWith c) j e = ⟨.ok (), s⟩ → s.machine.pc ≠ target)
    (ends : k = budget ∨
      ∀ s, repeated (cycleWith c) k e = ⟨.ok (), s⟩ → s.machine.pc = target) :
    runTowardWith c target budget e =
      (repeated (cycleWith c) k e).andThen fun _ s => ⟨.ok (s.machine.pc == target), s⟩ := by
  rw [runTowardWith_eq_repeatedUntil c target 0, repeatedUntil_eq 0 le missed ends,
    Outcome.andThen_assoc]
  rfl

/-- A number of cycles that does not reach the target address misses it. -/
theorem missed_of_not_reaches {address : Int} {k : Nat} (h : ¬ e.Reaches c address k) {s : Emulator}
    (reached : repeated (cycleWith c) k e = ⟨.ok (), s⟩) : s.machine.pc ≠ .ofInt 12 address := by
  intro here
  exact h ⟨s, reached, (eq_ofInt_iff _ _).mp here⟩

variable {address limit : Int}

theorem runUntilWith_of_isLeast {k : Nat}
    (h : IsLeast {k | k ≤ limit.toNat ∧ e.Reaches c address k} k) :
    ∃ s, repeated (cycleWith c) k e = ⟨.ok (), s⟩ ∧
      e.runUntilWith c address limit = ⟨.ok true, s⟩ := by
  obtain ⟨⟨le, s, reached, here⟩, least⟩ := h
  have found : s.machine.pc = .ofInt 12 address := (eq_ofInt_iff _ _).mpr here
  have missed : ∀ j t, j < k → repeated (cycleWith c) j e = ⟨.ok (), t⟩ →
      t.machine.pc ≠ .ofInt 12 address := by
    intro j t lt
    apply missed_of_not_reaches
    intro reaches
    have : k ≤ j := least ⟨by omega, reaches⟩
    omega
  have ends : ∀ t, repeated (cycleWith c) k e = ⟨.ok (), t⟩ →
      t.machine.pc = .ofInt 12 address := by
    intro t same
    rw [reached] at same
    cases same
    exact found
  have toward := runTowardWith_eq le missed (.inr ends)
  rw [reached, Outcome.andThen_ok, found, beq_self_eq_true] at toward
  exact ⟨s, reached, toward⟩

theorem runUntilWith_of_never (never : ∀ k ≤ limit.toNat, ¬ e.Reaches c address k) :
    e.runUntilWith c address limit =
      (repeated (cycleWith c) limit.toNat e).andThen fun _ s => ⟨.ok false, s⟩ := by
  have toward := runTowardWith_eq (c := c) (e := e) (Nat.le_refl limit.toNat)
    (fun j s lt => missed_of_not_reaches (never j (Nat.le_of_lt lt))) (.inl rfl)
  refine Eq.trans toward ?_
  rcases reached : repeated (cycleWith c) limit.toNat e with ⟨f | u, s⟩
  · rfl
  · have elsewhere := missed_of_not_reaches (never _ (Nat.le_refl _)) reached
    rw [Outcome.andThen_ok, Outcome.andThen_ok, beq_false_of_ne elsewhere]

/-- A run to an address with any callback ends after the least number of cycles, within its limit,
after which the program counter has that address, and tells so. If there is none, it ends after all
its cycles and tells that, or faults like the first of them that does. What is left is what that
many cycles leave, and the callback's requests to stop change nothing. A limit below zero allows no
cycle. A hook is such a callback. -/
theorem runUntilWith_reaches (c : Callback) (e : Emulator) (address limit : Int) :
    let cycled (k : Nat) := repeated (cycleWith c) k e
    let ran := e.runUntilWith c address limit
    ((∃ k ≤ limit.toNat, e.Reaches c address k) →
      ∃ k s, IsLeast {k | k ≤ limit.toNat ∧ e.Reaches c address k} k ∧
        cycled k = ⟨.ok (), s⟩ ∧ ran = ⟨.ok true, s⟩) ∧
      ((∀ k ≤ limit.toNat, ¬ e.Reaches c address k) →
        (∀ s, cycled limit.toNat = ⟨.ok (), s⟩ → ran = ⟨.ok false, s⟩) ∧
        ∀ f t, cycled limit.toNat = ⟨.error f, t⟩ → ran = ⟨.error f, t⟩ ∧
          ∃ k s, k < limit.toNat ∧ cycled k = ⟨.ok (), s⟩ ∧ s.cycleWith c = ⟨.error f, t⟩) ∧
      e.cycle true = e.cycleWith e.hook.callback ∧
      e.runUntil address limit = e.runUntilWith e.hook.callback address limit := by
  intro cycled ran
  refine ⟨?_, ?_, (cycleWith_callback e).symm, e.runToward_callback _ _⟩
  · intro reached
    obtain ⟨k, least⟩ := exists_isLeast reached
    obtain ⟨s, completed, told⟩ := runUntilWith_of_isLeast least
    exact ⟨k, s, least, completed, told⟩
  · intro never
    have missed : ran = (cycled limit.toNat).andThen fun _ s => ⟨.ok false, s⟩ :=
      runUntilWith_of_never never
    constructor
    · intro s completed
      rw [missed, completed, Outcome.andThen_ok]
    · intro f t faulted
      rw [missed, faulted, Outcome.andThen_error]
      exact ⟨rfl, exists_of_repeated_error faulted⟩

/-- The address after the first cycle is found under each of its numbers. -/
example : (clearing.runUntilWith ⟨fun _ _ _ => [.stop]⟩ 0x1002 5).result.toOption = some true := by
  decide +kernel

end Chip8.Emulator
