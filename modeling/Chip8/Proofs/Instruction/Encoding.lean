import Chip8.Proofs.Instruction.Pattern

/-!
# How instructions are encoded

`Word.Encodes` says for each instruction which digits of a word tell it and in which digits its
operands stand. These are exactly the words that decode to it, so what an instruction does can be
told of the words that a program consists of.
-/

namespace Chip8

/-- A word is the one of its number. -/
theorem Word.ofInt_toNat (w : Word) : BitVec.ofInt 16 w.toNat = w := by
  rw [BitVec.ofInt_natCast, BitVec.ofNat_toNat, BitVec.setWidth_eq]

/-- The last digit of the words for a two-register operation. -/
def Alu.digit : Alu → Nibble
  | load => 0x0
  | or => 0x1
  | and => 0x2
  | xor => 0x3
  | add => 0x4
  | sub => 0x5
  | subFrom => 0x7

/-- The word has the digits that tell an instruction, and the operands of the instruction in its
other digits. -/
def Word.Encodes (w : Word) : Instruction → Prop
  | .clear => w.family = 0x0 ∧ w.nn = 0xE0
  | .ret => w.family = 0x0 ∧ w.nn = 0xEE
  | .jump target => w.family = 0x1 ∧ target = w.nnn
  | .call target => w.family = 0x2 ∧ target = w.nnn
  | .skipIfByte x value => w.family = 0x3 ∧ x = w.x ∧ value = w.nn
  | .skipUnlessByte x value => w.family = 0x4 ∧ x = w.x ∧ value = w.nn
  | .skipIfEqual x y => w.family = 0x5 ∧ w.n = 0x0 ∧ x = w.x ∧ y = w.y
  | .skipUnlessEqual x y => w.family = 0x9 ∧ w.n = 0x0 ∧ x = w.x ∧ y = w.y
  | .loadByte x value => w.family = 0x6 ∧ x = w.x ∧ value = w.nn
  | .addByte x value => w.family = 0x7 ∧ x = w.x ∧ value = w.nn
  | .alu op x y => w.family = 0x8 ∧ w.n = op.digit ∧ x = w.x ∧ y = w.y
  | .shiftRight x => w.family = 0x8 ∧ w.n = 0x6 ∧ x = w.x
  | .shiftLeft x => w.family = 0x8 ∧ w.n = 0xE ∧ x = w.x
  | .loadIndex target => w.family = 0xA ∧ target = w.nnn
  | .jumpOffset target => w.family = 0xB ∧ target = w.nnn
  | .random x mask => w.family = 0xC ∧ x = w.x ∧ mask = w.nn
  | .draw x y height => w.family = 0xD ∧ x = w.x ∧ y = w.y ∧ height = w.n
  | .skipIfKey x => w.family = 0xE ∧ w.nn = 0x9E ∧ x = w.x
  | .skipUnlessKey x => w.family = 0xE ∧ w.nn = 0xA1 ∧ x = w.x
  | .readDelay x => w.family = 0xF ∧ w.nn = 0x07 ∧ x = w.x
  | .waitKey x => w.family = 0xF ∧ w.nn = 0x0A ∧ x = w.x
  | .setDelay x => w.family = 0xF ∧ w.nn = 0x15 ∧ x = w.x
  | .setSound x => w.family = 0xF ∧ w.nn = 0x18 ∧ x = w.x
  | .addIndex x => w.family = 0xF ∧ w.nn = 0x1E ∧ x = w.x
  | .pointGlyph x => w.family = 0xF ∧ w.nn = 0x29 ∧ x = w.x
  | .storeDecimal x => w.family = 0xF ∧ w.nn = 0x33 ∧ x = w.x
  | .storeRegisters last => w.family = 0xF ∧ w.nn = 0x55 ∧ last = w.x
  | .loadRegisters last => w.family = 0xF ∧ w.nn = 0x65 ∧ last = w.x

namespace Instruction

theorem encodes_of_decodeAlu {w : Word} {i : Instruction} (h : decodeAlu w = some i)
    (family : w.family = 0x8) : w.Encodes i := by
  rw [decodeAlu] at h
  split at h <;> cases h
  all_goals
    rename_i digit
    exact ⟨family, digit, by simp⟩

theorem encodes_of_decodeMisc {w : Word} {i : Instruction} (h : decodeMisc w = some i)
    (family : w.family = 0xF) : w.Encodes i := by
  rw [decodeMisc] at h
  split at h <;> cases h
  all_goals
    rename_i low
    exact ⟨family, low, rfl⟩

theorem encodes_of_decode {w : Word} {i : Instruction} (h : decode w = some i) : w.Encodes i := by
  rw [decode] at h
  split at h
  case h_1 family =>
    split at h <;> cases h
    all_goals
      rename_i low
      exact ⟨family, low⟩
  case h_6 family | h_10 family =>
    split at h <;> cases h
    rename_i blank
    exact ⟨family, blank, rfl, rfl⟩
  case h_9 family => exact encodes_of_decodeAlu h family
  case h_15 family =>
    split at h <;> cases h
    all_goals
      rename_i low
      exact ⟨family, low, rfl⟩
  case h_16 =>
    refine encodes_of_decodeMisc h ?_
    simp only [imp_false] at *
    bv_omega
  all_goals
    rename_i family
    cases h
    simp [Word.Encodes, family]

/-- The words that decode to an instruction are those that encode it. -/
theorem decode_eq_some_iff (w : Word) (i : Instruction) : decode w = some i ↔ w.Encodes i := by
  refine ⟨encodes_of_decode, ?_⟩
  cases i with
  | alu op x y =>
    rintro ⟨family, digit, rfl, rfl⟩
    cases op <;> simp_all [decode, decodeAlu, Alu.digit]
  | _ =>
    intro encoded
    simp_all [Word.Encodes, decode, decodeAlu, decodeMisc]

end Instruction

/-- A word encodes one instruction. -/
theorem Word.Encodes.unique {w : Word} {i i' : Instruction} (h : w.Encodes i)
    (h' : w.Encodes i') : i = i' := by
  rw [← Instruction.decode_eq_some_iff] at h h'
  exact Option.some.inj (h.symm.trans h')

end Chip8
