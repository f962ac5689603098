import Chip8.Proofs.Instruction.Disassembly
import Chip8.Proofs.IntMachine.Simulation

/-!
# Fields of an integer word

Any integer can be executed or disassembled as a word. A field of it is read through a mask: the
bits under the mask are kept, in two's complement for a negative integer, and moved down. Nothing
but the fields of an integer is ever used, so it means what its remainder by 65536 means; only the
fault of a word without a meaning shows the integer as it was given.
-/

namespace Chip8

/-! ## Masks -/

namespace IntWord

/-- The bits of an integer under a mask, moved down by some places. -/
def field (mask shift : Nat) (word : Int) : Int := Int.land word mask >>> shift

/-- The most significant of four digits, which selects the instruction family. -/
def family (word : Int) : Int := field 0xF000 12 word

/-- The second digit, which names register X. -/
def x (word : Int) : Int := field 0x0F00 8 word

/-- The third digit, which names register Y. -/
def y (word : Int) : Int := field 0x00F0 4 word

/-- The least significant digit. -/
def n (word : Int) : Int := field 0x000F 0 word

/-- The high byte, which is stored first. -/
def firstByte (word : Int) : Int := field 0xFF00 8 word

/-- The low byte, an immediate operand. -/
def nn (word : Int) : Int := field 0x00FF 0 word

/-- The low three digits, an address operand. -/
def nnn (word : Int) : Int := field 0x0FFF 0 word

/-- A mask of consecutive bits keeps the field that they make up. -/
theorem field_eq_extractLsb' (word : Int) {mask start length : Nat} (below : mask < 2 ^ 16)
    (ones : mask >>> start = 2 ^ length - 1) :
    field mask start word = ((BitVec.ofInt 16 word).extractLsb' start length).toNat := by
  rw [field, IntMachine.land_natCast word below, ← Int.natCast_shiftRight,
    Nat.shiftRight_and_distrib, ones, Nat.and_two_pow_sub_one_eq_mod, BitVec.extractLsb'_toNat]

/-- The fields of an integer are those of the word that it reduces to. -/
theorem fields_eq (word : Int) :
    let w : Word := .ofInt 16 word
    family word = w.family.toNat ∧ x word = w.x.toNat ∧ y word = w.y.toNat ∧ n word = w.n.toNat ∧
      firstByte word = w.firstByte.toNat ∧ nn word = w.nn.toNat ∧ nnn word = w.nnn.toNat := by
  refine ⟨?_, ?_, ?_, ?_, ?_, ?_, ?_⟩
  all_goals exact field_eq_extractLsb' word (by decide) (by decide)

end IntWord

/-! ## Words by their digits -/

namespace Word

section

variable (w : Word)

theorem toNat_digits :
    w.toNat = 4096 * w.family.toNat + 256 * w.x.toNat + 16 * w.y.toNat + w.n.toNat := by
  have := w.isLt
  simp only [family, Word.x, Word.y, Word.n, BitVec.extractLsb'_toNat, Nat.shiftRight_eq_div_pow]
  omega

/-- A word is put together from its digits. -/
theorem ofDigits_digits : ofDigits w.family w.x w.y w.n = w := by
  apply BitVec.eq_of_toNat_eq
  rw [toNat_ofDigits, ← toNat_digits]

/-- The longer fields consist of digits. -/
theorem toNat_fields :
    w.nn.toNat = 16 * w.y.toNat + w.n.toNat ∧ w.nnn.toNat = 256 * w.x.toNat + w.nn.toNat ∧
      w.firstByte.toNat = 16 * w.family.toNat + w.x.toNat := by
  have := w.isLt
  simp only [family, Word.x, Word.y, Word.n, nn, nnn, firstByte, BitVec.extractLsb'_toNat,
    Nat.shiftRight_eq_div_pow]
  omega

end

/-- An integer is the same word as its remainder. -/
theorem ofInt_emod (word : Int) : BitVec.ofInt 16 (word % 65536) = BitVec.ofInt 16 word := by
  rw [IntMachine.word_emod, BitVec.ofInt_natCast, BitVec.ofNat_toNat, BitVec.setWidth_eq]

end Word

/-! ## Integers with one remainder -/

/-- Faults of one kind at one address. A word without a meaning is shown as it was given. -/
inductive Fault.Alike (word word' pc : Int) : Fault → Fault → Prop
  | invalidOpcode : Alike word word' pc (.invalidOpcode word (some pc))
    (.invalidOpcode word' (some pc))
  | emptyStack : Alike word word' pc (.emptyStack (some pc)) (.emptyStack (some pc))

theorem Machine.execute_emod (m : Machine) (word : Int) (reading : Option Int)
    (source : Random.Source) (pc : Int) :
    (∃ result, m.execute word reading source pc = .ok result ∧
        m.execute (word % 65536) reading source pc = .ok result) ∨
      ∃ f f', Fault.Alike word (word % 65536) pc f f' ∧
        m.execute word reading source pc = .error f ∧
        m.execute (word % 65536) reading source pc = .error f' := by
  rw [execute, execute, Word.ofInt_emod]
  cases Instruction.decode (.ofInt 16 word) with
  | none => exact .inr ⟨_, _, .invalidOpcode, rfl, rfl⟩
  | some i =>
    cases performed : m.perform reading source i with
    | none =>
      refine .inr ⟨_, _, .emptyStack, ?_⟩
      simp only [performed, and_self]
    | some result =>
      refine .inl ⟨result, ?_⟩
      simp only [performed, and_self]

theorem IntMachine.execute_emod (m : Machine) (word : Int) (reading : Option Int)
    (drawn pc : Int) :
    (∃ s, (execute word reading drawn pc).run m.numbers = .ok () s ∧
        (execute (word % 65536) reading drawn pc).run m.numbers = .ok () s) ∨
      ∃ f f', Fault.Alike word (word % 65536) pc f f' ∧
        (execute word reading drawn pc).run m.numbers = .error (.fault f) m.numbers ∧
        (execute (word % 65536) reading drawn pc).run m.numbers = .error (.fault f') m.numbers := by
  rw [run_execute_script, run_execute_script]
  rcases m.execute_emod word reading (.script #[.ofInt 8 drawn] 0) pc with
    ⟨result, executed, executed'⟩ | ⟨f, f', alike, failed, failed'⟩
  · rw [executed, executed']
    exact .inl ⟨_, rfl, rfl⟩
  · rw [failed, failed']
    exact .inr ⟨f, f', alike, rfl, rfl⟩

/-- The fields of an integer fit together and are all that is used of it. -/
structure IntWord.Recomposes (word : Int) : Prop where
  /-- A field that is read through a mask is the field of the word that the integer reduces to. -/
  fields_eq :
    let w : Word := .ofInt 16 word
    family word = w.family.toNat ∧ x word = w.x.toNat ∧ y word = w.y.toNat ∧ n word = w.n.toNat ∧
      firstByte word = w.firstByte.toNat ∧ nn word = w.nn.toNat ∧ nnn word = w.nnn.toNat
  digit_bounds : ∀ digit ∈ [family word, x word, y word, n word], 0 ≤ digit ∧ digit ≤ 15
  emod_eq : word % 65536 = 4096 * family word + 256 * x word + 16 * y word + n word
  nn_eq : nn word = 16 * y word + n word
  nnn_eq : nnn word = 256 * x word + nn word
  firstByte_eq : firstByte word = 16 * family word + x word
  /-- The integer and its remainder come to the same machine and random source, or to faults of one
  kind at one address. -/
  execute_emod : ∀ (m : Machine) (reading : Option Int) (source : Random.Source) (pc : Int),
    (∃ result, m.execute word reading source pc = .ok result ∧
        m.execute (word % 65536) reading source pc = .ok result) ∨
      ∃ f f', Fault.Alike word (word % 65536) pc f f' ∧
        m.execute word reading source pc = .error f ∧
        m.execute (word % 65536) reading source pc = .error f'
  /-- Over the integers a fault leaves every number as it was. -/
  intExecute_emod : ∀ (m : Machine) (reading : Option Int) (drawn pc : Int),
    (∃ s, (IntMachine.execute word reading drawn pc).run m.numbers = .ok () s ∧
        (IntMachine.execute (word % 65536) reading drawn pc).run m.numbers = .ok () s) ∨
      ∃ f f', Fault.Alike word (word % 65536) pc f f' ∧
        (IntMachine.execute word reading drawn pc).run m.numbers =
          .error (.fault f) m.numbers ∧
        (IntMachine.execute (word % 65536) reading drawn pc).run m.numbers =
          .error (.fault f') m.numbers
  disassemble_emod : Instruction.disassemble (.ofInt 16 word) =
    Instruction.disassemble (.ofInt 16 (word % 65536))
  disassemble_eq : Instruction.disassemble (.ofInt 16 word) =
    (Word.ofDigits (.ofInt 4 (family word)) (.ofInt 4 (x word)) (.ofInt 4 (y word))
      (.ofInt 4 (n word))).tabulated

/-- Any integer is a word by its fields. Its fields, each read through a mask, are those of the word
that it reduces to: four digits that make up its remainder by 65536, and longer fields that overlap
them. Executing an integer and executing its remainder come to the same machine and random source,
or to faults of one kind at one address, and over the integers a fault leaves every number as it
was. Disassembly gives both one text, that of the digits. -/
theorem fields_recompose (word : Int) : IntWord.Recomposes word := by
  obtain ⟨family, x, y, n, firstByte, nn, nnn⟩ := IntWord.fields_eq word
  have whole := Word.toNat_digits (.ofInt 16 word)
  have longer := Word.toNat_fields (.ofInt 16 word)
  constructor
  case fields_eq => exact IntWord.fields_eq word
  case digit_bounds =>
    have bounded (d : Nibble) : 0 ≤ (d.toNat : Int) ∧ (d.toNat : Int) ≤ 15 := by omega
    simp only [family, x, y, n, List.forall_mem_cons, bounded, true_and]
    exact List.forall_mem_nil _
  case emod_eq =>
    rw [IntMachine.word_emod]
    omega
  case nn_eq => omega
  case nnn_eq => omega
  case firstByte_eq => omega
  case execute_emod =>
    intro m reading source pc
    exact m.execute_emod word reading source pc
  case intExecute_emod =>
    intro m reading drawn pc
    exact IntMachine.execute_emod m word reading drawn pc
  case disassemble_emod => rw [Word.ofInt_emod]
  case disassemble_eq =>
    rw [Instruction.disassemble_eq_tabulated, family, x, y, n]
    simp only [BitVec.ofInt_natCast, BitVec.ofNat_toNat, BitVec.setWidth_eq, Word.ofDigits_digits]

end Chip8
