import Chip8.Proofs.Instruction.Assembler
import Chip8.Proofs.Instruction.Encoding
import Chip8.Proofs.IntMachine.Simulation
import Chip8.Proofs.Machine.Faults

/-!
# Disassembly tells what execution does

`Word.tabulated` finds the text of a word by its digits, family after family and with tables for the
two large families, as a reader of the instruction set would and without decoding the word. It is
the text that disassembly gives. A word is shown as data exactly if executing it is refused for its
meaning, and two words with one text do the same to every machine.
-/

namespace Chip8

namespace Word

/-! ## The text of a word by its digits -/

/-- The data directive that shows a word: its four digits. -/
def dataText (w : Word) : String :=
  "DW $" ++ String.ofList ([w.family, w.x, w.y, w.n].map Text.nibbleChar)

/-- The names of operations on two registers, by the last digit. -/
def aluNames : List (Nibble × String) :=
  [(0x0, "LD"), (0x1, "OR"), (0x2, "AND"), (0x3, "XOR"), (0x4, "ADD"), (0x5, "SUB"), (0x7, "SUBN")]

/-- What stands before and after the register in texts of family `F`, by the low byte. -/
def miscForms : List (Byte × String × String) :=
  [(0x07, "LD ", ", DT"), (0x0A, "LD ", ", K"), (0x15, "LD DT, ", ""), (0x18, "LD ST, ", ""),
    (0x1E, "ADD I, ", ""), (0x29, "LD F, ", ""), (0x33, "LD B, ", ""), (0x55, "LD [I], ", ""),
    (0x65, "LD ", ", [I]")]

/-- The text of a word, found by its digits. A word that no case fits falls through to a data
directive. -/
def tabulated (w : Word) : String :=
  let vx := "V" ++ Text.hexBits 1 w.x
  let vy := "V" ++ Text.hexBits 1 w.y
  let nn := "$" ++ Text.hexBits 2 w.nn
  let nnn := "$" ++ Text.hexBits 3 w.nnn
  match w.family.toNat with
  | 0x0 => if w.nn = 0xE0 then "CLS" else if w.nn = 0xEE then "RET" else w.dataText
  | 0x1 => "JP " ++ nnn
  | 0x2 => "CALL " ++ nnn
  | 0x3 => "SE " ++ vx ++ ", " ++ nn
  | 0x4 => "SNE " ++ vx ++ ", " ++ nn
  | 0x5 => if w.n = 0 then "SE " ++ vx ++ ", " ++ vy else w.dataText
  | 0x6 => "LD " ++ vx ++ ", " ++ nn
  | 0x7 => "ADD " ++ vx ++ ", " ++ nn
  | 0x8 =>
    match aluNames.lookup w.n with
    | some name => name ++ " " ++ vx ++ ", " ++ vy
    | none =>
      if w.n = 0x6 then "SHR " ++ vx else if w.n = 0xE then "SHL " ++ vx else w.dataText
  | 0x9 => if w.n = 0 then "SNE " ++ vx ++ ", " ++ vy else w.dataText
  | 0xA => "LD I, " ++ nnn
  | 0xB => "JP V0, " ++ nnn
  | 0xC => "RND " ++ vx ++ ", " ++ nn
  | 0xD => "DRW " ++ vx ++ ", " ++ vy ++ ", " ++ toString w.n.toNat
  | 0xE =>
    if w.nn = 0x9E then "SKP " ++ vx else if w.nn = 0xA1 then "SKNP " ++ vx else w.dataText
  | _ =>
    match miscForms.lookup w.nn with
    | some (before, after) => before ++ vx ++ after
    | none => w.dataText

end Word

namespace Instruction

variable (w : Word)

theorem dataDirective_eq_dataText : dataDirective w = w.dataText := by
  rw [dataDirective, Text.hexBits_eq (by decide) (by decide)]
  rfl

theorem disassemble_eq_elim : disassemble w = (decode w).elim w.dataText mnemonic := by
  rw [disassemble, dataDirective_eq_dataText]
  cases decode w <;> rfl

theorem tabulated_alu (h : w.family = 0x8) :
    w.tabulated = (decodeAlu w).elim w.dataText mnemonic := by
  rw [decodeAlu]
  split
  case h_10 =>
    have absent : Word.aluNames.lookup w.n = none := by
      rw [List.lookup_eq_none_iff]
      simp_all [Word.aluNames]
    simp only [Word.tabulated, h, BitVec.reduceToNat, absent]
    simp_all
  all_goals
    simp_all [Word.tabulated, Word.aluNames, List.lookup_cons, mnemonic, Alu.mnemonic, registerName]

theorem tabulated_misc (h : w.family = 0xF) :
    w.tabulated = (decodeMisc w).elim w.dataText mnemonic := by
  rw [decodeMisc]
  split
  case h_10 =>
    have absent : Word.miscForms.lookup w.nn = none := by
      rw [List.lookup_eq_none_iff]
      simp_all [Word.miscForms]
    simp only [Word.tabulated, h, BitVec.reduceToNat, absent]
    rfl
  all_goals simp_all [Word.tabulated, Word.miscForms, List.lookup_cons, mnemonic, registerName]

/-- Disassembly gives the text that the digits of a word lead to. -/
theorem disassemble_eq_tabulated : disassemble w = w.tabulated := by
  rw [disassemble_eq_elim, decode]
  split
  case h_1 h => split <;> simp_all [Word.tabulated, mnemonic]
  case h_6 h =>
    by_cases blank : w.n = 0#4 <;> simp [Word.tabulated, h, blank, mnemonic, registerName]
  case h_9 h => exact (tabulated_alu w h).symm
  case h_10 h =>
    by_cases blank : w.n = 0#4 <;> simp [Word.tabulated, h, blank, mnemonic, registerName]
  case h_15 h => split <;> simp_all [Word.tabulated, mnemonic, registerName]
  case h_16 =>
    have h : w.family = 0xF#4 := by
      simp only [imp_false] at *
      bv_omega
    exact (tabulated_misc w h).symm
  all_goals simp_all [Word.tabulated, mnemonic, registerName, byteOperand, addressOperand]

/-- A word is shown as data exactly if it has no meaning. -/
theorem disassemble_eq_dataText_iff : disassemble w = w.dataText ↔ decode w = none := by
  constructor
  · intro shown
    rw [← Assembler.assemble?_disassemble, shown, ← dataDirective_eq_dataText,
      Assembler.assemble?_dataDirective]
  · intro meaningless
    rw [disassemble_eq_elim, meaningless]
    rfl

/-- Words with one text mean the same, and a word without a meaning shares its text with no
other. -/
theorem decode_eq_of_disassemble_eq {w w' : Word} (h : disassemble w = disassemble w') :
    decode w = decode w' ∧ (decode w = none → w = w') := by
  have same : decode w = decode w' := by
    rw [← Assembler.assemble?_disassemble, h, Assembler.assemble?_disassemble]
  refine ⟨same, ?_⟩
  intro meaningless
  rw [disassemble, disassemble, ← same, meaningless] at h
  exact Assembler.dataDirective_inj h

end Instruction

namespace Machine

variable (m : Machine) (reading : Option Int) (source : Random.Source) (pc : Int)

/-- Executing a word is refused for its meaning exactly if it has none. -/
theorem execute_eq_invalidOpcode_iff (w : Word) :
    (∃ opcode place, m.execute w.toNat reading source pc =
      .error (.invalidOpcode opcode place)) ↔ Instruction.decode w = none := by
  rw [execute, Word.ofInt_toNat]
  cases Instruction.decode w with
  | none => simp
  | some i => cases performed : m.perform reading source i <;> simp [performed]

theorem execute_eq_of_disassemble_eq {w w' : Word}
    (h : Instruction.disassemble w = Instruction.disassemble w') :
    m.execute w.toNat reading source pc = m.execute w'.toNat reading source pc := by
  obtain ⟨same, alone⟩ := Instruction.decode_eq_of_disassemble_eq h
  cases decoded : Instruction.decode w with
  | none => rw [alone decoded]
  | some i =>
    rw [execute, execute, Word.ofInt_toNat, Word.ofInt_toNat, ← same, decoded]

/-- Disassembly and execution find the same meaning in a word, although neither consults the other.
The text of a word, found by its digits, is a data directive exactly if executing the word is
refused for its meaning, and words with one text have one outcome: the same machine and random
source, or the same fault. The same holds of execution over the integers, which tells the families
apart on its own. -/
theorem disassemble_faithful (m : Machine) (reading : Option Int) (source : Random.Source)
    (pc : Int) :
    (∀ w : Word, Instruction.disassemble w = w.tabulated) ∧
      (∀ w : Word, (∃ opcode place, m.execute w.toNat reading source pc =
          .error (.invalidOpcode opcode place)) ↔ Instruction.disassemble w = w.dataText) ∧
      (∀ w w' : Word, Instruction.disassemble w = Instruction.disassemble w' →
        m.execute w.toNat reading source pc = m.execute w'.toNat reading source pc) ∧
      ∀ drawn : Int,
        (∀ w : Word, (∃ opcode place s, (IntMachine.execute w.toNat reading drawn pc).run m.numbers =
            .error (.fault (.invalidOpcode opcode place)) s) ↔
              Instruction.disassemble w = w.dataText) ∧
          ∀ w w' : Word, Instruction.disassemble w = Instruction.disassemble w' →
            (IntMachine.execute w.toNat reading drawn pc).run m.numbers =
              (IntMachine.execute w'.toNat reading drawn pc).run m.numbers := by
  refine ⟨Instruction.disassemble_eq_tabulated, ?_, ?_, ?_⟩
  · intro w
    rw [execute_eq_invalidOpcode_iff, Instruction.disassemble_eq_dataText_iff]
  · intro w w' same
    exact m.execute_eq_of_disassemble_eq reading source pc same
  · intro drawn
    have ran (w : Word) := IntMachine.run_execute m w.toNat reading pc
      (show BitVec.ofInt 8 drawn = (Random.Source.script #[.ofInt 8 drawn] 0).next.1 from rfl)
    constructor
    · intro w
      rw [Instruction.disassemble_eq_dataText_iff,
        ← m.execute_eq_invalidOpcode_iff reading (.script #[.ofInt 8 drawn] 0) pc, ran]
      cases m.execute w.toNat reading (.script #[.ofInt 8 drawn] 0) pc <;> simp
    · intro w w' same
      rw [ran, ran, m.execute_eq_of_disassemble_eq reading _ pc same]

/-- The register that a shift ignores is not part of its text and does not matter to it, and a word
beside the shifts is data. -/
theorem disassemble_faithful_shift (m : Machine) :
    Instruction.disassemble 0x8126 = Instruction.disassemble 0x81F6 ∧
      m.execute 0x8126 none .silent 0 = m.execute 0x81F6 none .silent 0 ∧
      ∃ opcode place, m.execute 0x8128 none .silent 0 = .error (.invalidOpcode opcode place) := by
  obtain ⟨-, data, same, -⟩ := disassemble_faithful m none .silent 0
  have text : Instruction.disassemble 0x8126 = Instruction.disassemble 0x81F6 := rfl
  have shown : Instruction.disassemble 0x8128 = Word.dataText 0x8128 :=
    (Instruction.disassemble_eq_dataText_iff 0x8128).mpr rfl
  exact ⟨text, same 0x8126 0x81F6 text, (data 0x8128).mpr shown⟩

end Machine

end Chip8
