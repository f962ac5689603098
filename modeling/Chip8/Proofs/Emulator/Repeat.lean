import Mathlib.Data.Nat.Find
import Mathlib.Order.Bounds.Basic
import Chip8.Emulator.Cycle

/-!
# Repeated operations

An operation that may fault, carried out a number of times or up to its first fault. Repetitions of
the same operation add up, and one that faults tells where. A loop that looks for its end before
each repetition comes to what the repetitions up to there come to.
-/

namespace Chip8

theorem Outcome.andThen_assoc (o : Outcome α) (next : α → Emulator → Outcome β)
    (next' : β → Emulator → Outcome γ) :
    (o.andThen next).andThen next' = o.andThen fun a e => (next a e).andThen next' := by
  cases o with
  | mk result e => cases result <;> rfl

theorem Outcome.andThen_done (o : Outcome Unit) : (o.andThen fun _ e => ⟨.ok (), e⟩) = o := by
  cases o with
  | mk result e => cases result <;> rfl

/-- Whatever holds of some number of repetitions holds of a least one. -/
theorem exists_isLeast {p : Nat → Prop} (h : ∃ n, p n) : ∃ n, IsLeast {n | p n} n := by
  classical
  exact ⟨Nat.find h, Nat.find_spec h, fun _ hn => Nat.find_min' h hn⟩

namespace Emulator

/-- An operation done a number of times, up to the first fault. -/
def repeated (next : Emulator → Outcome α) : Nat → Emulator → Outcome Unit
  | 0, e => ⟨.ok (), e⟩
  | n + 1, e => (next e).andThen fun _ r => repeated next n r

variable {next : Emulator → Outcome α} {e s : Emulator} {n : Nat} {f : Fault}

@[simp]
theorem repeated_zero (e : Emulator) : repeated next 0 e = ⟨.ok (), e⟩ := rfl

theorem repeated_succ_of_ok {a : α} (h : next e = ⟨.ok a, s⟩) (n : Nat) :
    repeated next (n + 1) e = repeated next n s := by
  rw [repeated, h]
  rfl

theorem repeated_succ_of_error (h : next e = ⟨.error f, s⟩) (n : Nat) :
    repeated next (n + 1) e = ⟨.error f, s⟩ := by
  rw [repeated, h]
  rfl

theorem repeated_add (m n : Nat) (e : Emulator) :
    repeated next (m + n) e = (repeated next m e).andThen fun _ r => repeated next n r := by
  induction m generalizing e with
  | zero => rw [Nat.zero_add, repeated_zero, Outcome.andThen_ok]
  | succ m ih =>
    rw [Nat.succ_add, repeated, repeated, Outcome.andThen_assoc]
    congr
    funext _ r
    exact ih r

/-- The last repetition may be split off. -/
theorem repeated_succ_last (h : repeated next n e = ⟨.ok (), s⟩) :
    repeated next (n + 1) e = (next s).andThen fun _ r => ⟨.ok (), r⟩ := by
  rw [repeated_add, h]
  rfl

/-- Repetitions that come to their end without a fault go through all earlier ones. -/
theorem exists_repeated_of_le (h : repeated next n e = ⟨.ok (), s⟩) {k : Nat} (le : k ≤ n) :
    ∃ r, repeated next k e = ⟨.ok (), r⟩ := by
  obtain ⟨rest, rfl⟩ := Nat.exists_eq_add_of_le le
  rw [repeated_add] at h
  rcases ran : repeated next k e with ⟨f | u, r⟩
  · rw [ran] at h
    cases h
  · exact ⟨r, rfl⟩

/-- Repetitions that fault end with the first one that does. -/
theorem exists_of_repeated_error (h : repeated next n e = ⟨.error f, s⟩) :
    ∃ k r, k < n ∧ repeated next k e = ⟨.ok (), r⟩ ∧ next r = ⟨.error f, s⟩ := by
  induction n generalizing e with
  | zero => cases h
  | succ n ih =>
    rcases ran : next e with ⟨f' | a, r⟩
    · rw [repeated_succ_of_error ran] at h
      cases h
      exact ⟨0, e, Nat.zero_lt_succ n, rfl, ran⟩
    · rw [repeated_succ_of_ok ran] at h
      obtain ⟨k, r', lt, before, fault⟩ := ih h
      exact ⟨k + 1, r', Nat.succ_lt_succ lt, (repeated_succ_of_ok ran k).trans before, fault⟩

/-- A fault ends the repetitions, however many are asked for. -/
theorem repeated_of_fault {k : Nat} (lt : k < n) (before : repeated next k e = ⟨.ok (), s⟩)
    {r : Emulator} (fault : next s = ⟨.error f, r⟩) : repeated next n e = ⟨.error f, r⟩ := by
  obtain ⟨rest, rfl⟩ := Nat.exists_eq_add_of_lt lt
  rw [Nat.add_assoc, repeated_add, before, Outcome.andThen_ok, repeated_succ_of_error fault]

/-! ## Loops -/

/-- An operation done within a budget until the emulator halts, given how often it was done so far;
the result is how often it was done. -/
def repeatedUntil (halts : Emulator → Prop) [DecidablePred halts] (next : Emulator → Outcome α)
    (done : Nat) : Nat → Emulator → Outcome Nat
  | 0, e => ⟨.ok done, e⟩
  | budget + 1, e =>
    if halts e then ⟨.ok done, e⟩
    else (next e).andThen fun _ r => repeatedUntil halts next (done + 1) budget r

/-- A loop that goes on before `n` repetitions and ends with them comes to what they come to. -/
theorem repeatedUntil_eq {halts : Emulator → Prop} [DecidablePred halts] {budget : Nat} (done : Nat)
    (le : n ≤ budget) (going : ∀ k s, k < n → repeated next k e = ⟨.ok (), s⟩ → ¬ halts s)
    (ends : n = budget ∨ ∀ s, repeated next n e = ⟨.ok (), s⟩ → halts s) :
    repeatedUntil halts next done budget e =
      (repeated next n e).andThen fun _ s => ⟨.ok (done + n), s⟩ := by
  induction budget generalizing e done n with
  | zero =>
    obtain rfl : n = 0 := Nat.le_zero.mp le
    rfl
  | succ budget ih =>
    cases n with
    | zero =>
      have halted : halts e := by
        rcases ends with impossible | halted
        · cases impossible
        · exact halted e rfl
      rw [repeatedUntil, if_pos halted]
      rfl
    | succ n =>
      have goes : ¬ halts e := going 0 e (Nat.zero_lt_succ n) rfl
      rw [repeatedUntil, if_neg goes]
      rcases first : next e with ⟨f | a, s⟩
      · rw [repeated_succ_of_error first]
        rfl
      · rw [repeated_succ_of_ok first] at ends ⊢
        have going' : ∀ k t, k < n → repeated next k s = ⟨.ok (), t⟩ → ¬ halts t := by
          intro k t lt reached
          apply going (k + 1) t (Nat.succ_lt_succ lt)
          rw [repeated_succ_of_ok first, reached]
        have rest := ih (done + 1) (Nat.le_of_succ_le_succ le) going' (ends.imp_left Nat.succ.inj)
        rw [Outcome.andThen_ok, rest, Nat.add_right_comm]
        rfl

end Emulator

end Chip8
