import Chip8.Proofs.Instruction.Encoding
import Chip8.Proofs.Machine.Mark

/-!
# The inputs of a program

A program has two inputs: the keypad, which three instructions ask, and the random source, whose
bytes another one masks. Executing any other word comes to the same on machines that differ in their
keypads, with any two readings and any two sources.
-/

namespace Chip8

/-- The word asks for an input: `E?9E`, `E?A1` and `F?0A` ask the keypad, and words of family `C`
the random source, unless their mask lets no bit through. -/
def Word.AsksInput (w : Word) : Prop :=
  (w.family = 0xE ∧ w.nn ∈ [0x9E, 0xA1]) ∨ (w.family = 0xF ∧ w.nn = 0x0A) ∨
    (w.family = 0xC ∧ w.nn ≠ 0)

instance (w : Word) : Decidable w.AsksInput :=
  inferInstanceAs (Decidable ((_ ∧ _) ∨ (_ ∧ _) ∨ (_ ∧ _)))

namespace Machine

/-- The machine with another keypad. -/
def withKeypad (m : Machine) (keypad : Keypad) : Machine := { m with keypad := keypad }

section

variable (m : Machine) (keypad : Keypad)

@[simp]
theorem currentWord_withKeypad : (m.withKeypad keypad).currentWord = m.currentWord := rfl

@[simp]
theorem clean_withKeypad : (m.withKeypad keypad).clean = m.clean.withKeypad keypad := rfl

theorem skipIf_withKeypad (condition : Bool) :
    (m.withKeypad keypad).skipIf condition = (m.skipIf condition).withKeypad keypad := by
  cases condition <;> rfl

theorem alu_withKeypad (op : Alu) (x y : Nibble) :
    (m.withKeypad keypad).alu op x y = (m.alu op x y).withKeypad keypad := by
  cases op <;> rfl

/-- An instruction whose word asks for no input does the same beside another keypad, whatever is
read and drawn. -/
theorem perform_withKeypad {w : Word} {i : Instruction} (encoded : w.Encodes i)
    (unasked : ¬ w.AsksInput) (reading reading' : Option Int) (source source' : Random.Source) :
    ((m.withKeypad keypad).perform reading' source' i).map (·.1) =
      (m.perform reading source i).map fun result => result.1.withKeypad keypad := by
  cases i with
  | skipIfKey | skipUnlessKey | waitKey =>
    refine absurd ?_ unasked
    simp [Word.AsksInput, encoded.1, encoded.2.1]
  | random x mask =>
    obtain ⟨family, -, rfl⟩ := encoded
    -- The drawn byte is there, but the mask lets nothing of it through.
    have masked : w.nn = 0 :=
      Decidable.byContradiction fun bits => unasked (.inr (.inr ⟨family, bits⟩))
    simp only [perform, masked, Option.map_some, BitVec.ofNat_eq_ofNat, BitVec.and_zero]
    rfl
  | ret =>
    have same : (m.withKeypad keypad).stack = m.stack := rfl
    simp only [perform, same]
    cases m.stack <;> rfl
  | alu op x y => exact congrArg some (m.alu_withKeypad keypad op x y)
  | skipIfByte | skipUnlessByte | skipIfEqual | skipUnlessEqual =>
    exact congrArg some (m.skipIf_withKeypad keypad _)
  | _ => rfl

/-- Executing a word that asks for no input comes to the same beside another keypad: the same fault
or the same machine. -/
theorem execute_withKeypad {word : Int} (unasked : ¬ Word.AsksInput (.ofInt 16 word))
    (reading reading' : Option Int) (source source' : Random.Source) (pc : Int) :
    (∃ f, m.execute word reading source pc = .error f ∧
      (m.withKeypad keypad).execute word reading' source' pc = .error f) ∨
    ∃ m' rest rest', m.execute word reading source pc = .ok (m', rest) ∧
      (m.withKeypad keypad).execute word reading' source' pc =
        .ok (m'.withKeypad keypad, rest') := by
  rw [execute, execute]
  cases decoded : Instruction.decode (.ofInt 16 word) with
  | none => exact .inl ⟨_, rfl, rfl⟩
  | some i =>
    have encoded := (Instruction.decode_eq_some_iff _ i).mp decoded
    have same := m.perform_withKeypad keypad encoded unasked reading reading' source source'
    cases performed : m.perform reading source i with
    | none =>
      rw [performed, Option.map_none, Option.map_eq_none_iff] at same
      simp only [performed, same]
      exact .inl ⟨_, rfl, rfl⟩
    | some result =>
      rw [performed, Option.map_some, Option.map_eq_some_iff] at same
      obtain ⟨⟨m', rest'⟩, performed', rfl⟩ := same
      simp only [performed, performed']
      exact .inr ⟨result.1, result.2, rest', rfl, rfl⟩

end

end Machine

end Chip8
