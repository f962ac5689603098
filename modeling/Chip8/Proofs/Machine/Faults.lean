import Chip8.Machine.Execute
import Chip8.Proofs.Instruction.Encoding

/-!
# Faults of execution

An instruction faults only if it returns with an empty stack, and a word only if it is such a return
or fits no pattern of the instruction set.
-/

namespace Chip8.Machine

variable (m : Machine) (word : Int) (reading : Option Int) (source : Random.Source) (pc : Int)

theorem perform_eq_none_iff (i : Instruction) :
    m.perform reading source i = none ↔ i = .ret ∧ m.stack = [] := by
  cases i with
  | ret => cases stack : m.stack <;> simp [perform, stack]
  | waitKey x => cases reading <;> simp [perform]
  | _ => simp [perform]

theorem execute_eq_error_iff (f : Fault) :
    m.execute word reading source pc = .error f ↔
      (¬ Word.IsInstruction (.ofInt 16 word) ∧ f = .invalidOpcode word (some pc)) ∨
        (Pattern.ret.Matches (.ofInt 16 word) ∧ m.stack = [] ∧ f = .emptyStack (some pc)) := by
  rw [← Instruction.isSome_decode_iff, ← Instruction.decode_eq_ret_iff]
  rw [execute]
  cases Instruction.decode (.ofInt 16 word) with
  | none => simp [eq_comm]
  | some i =>
    have fails := m.perform_eq_none_iff reading source i
    cases performed : m.perform reading source i with
    | none =>
      obtain ⟨rfl, stack⟩ := fails.mp performed
      simp [performed, stack, eq_comm]
    | some result =>
      have succeeds : ¬ (i = .ret ∧ m.stack = []) := by
        rw [← fails, performed]
        exact Option.some_ne_none result
      simp only [performed, Option.isSome_some, Option.some.injEq, reduceCtorEq, not_true_eq_false,
        false_and, false_or, false_iff]
      rintro ⟨returns, empty, -⟩
      exact succeeds ⟨returns, empty⟩

/-- A word whose meaning is performed is executed. -/
theorem execute_of_perform {m m' : Machine} {word : Int} {i : Instruction} {reading : Option Int}
    {source source' : Random.Source} (pc : Int)
    (decoded : Instruction.decode (.ofInt 16 word) = some i)
    (performed : m.perform reading source i = some (m', source')) :
    m.execute word reading source pc = .ok (m', source') := by
  rw [execute, decoded]
  simp only [performed]

/-- A word that encodes an instruction is executed if that is performed. -/
theorem execute_of_encodes {m m' : Machine} {w : Word} {i : Instruction} {reading : Option Int}
    {source source' : Random.Source} (pc : Int) (encoded : w.Encodes i)
    (performed : m.perform reading source i = some (m', source')) :
    m.execute w.toNat reading source pc = .ok (m', source') := by
  apply execute_of_perform pc _ performed
  rwa [Word.ofInt_toNat, Instruction.decode_eq_some_iff]

/-- A word is executed without a fault if it has a meaning and that is performed. -/
theorem exists_of_execute {m m' : Machine} {word : Int} {reading : Option Int}
    {source source' : Random.Source} {pc : Int}
    (h : m.execute word reading source pc = .ok (m', source')) :
    ∃ i, Instruction.decode (.ofInt 16 word) = some i ∧
      m.perform reading source i = some (m', source') := by
  rw [execute] at h
  split at h
  · contradiction
  · rename_i i decoded
    split at h
    · contradiction
    · rename_i result performed
      cases h
      exact ⟨i, decoded, performed⟩

end Chip8.Machine
