import Chip8.Instruction.Disassemble
import Chip8.Proofs.Text.Hex

/-!
# Reading assembler text

A line of assembler text is an operation and its operands. The kind of an operand can be told from
its first character, and blanks and commas only stand between the parts of a line, so a line can be
taken apart again. `assemble?` reads the instruction off a line, and on the text of a word it comes
to what the word decodes to: the text determines the instruction, and a data directive is the text
of no instruction.
-/

namespace Chip8.Assembler

/-! ## Operands -/

/-- The places besides the registers that an operand can name. -/
inductive Place where
  | index
  | delay
  | sound
  | key
  | glyph
  | decimal
  | block
  deriving DecidableEq, Repr

/-- The name of a place. -/
def Place.text : Place → List Char
  | index => ['I']
  | delay => ['D', 'T']
  | sound => ['S', 'T']
  | key => ['K']
  | glyph => ['F']
  | decimal => ['B']
  | block => ['[', 'I', ']']

/-- The place of a name. -/
def Place.ofText? (cs : List Char) : Option Place :=
  [index, delay, sound, key, glyph, decimal, block].find? fun p => p.text = cs

/-- An operand of a line. -/
inductive Operand where
  | register (x : Nibble)
  /-- A number by its hexadecimal digits. -/
  | number (digits : List Nibble)
  /-- A number of rows, written in decimal. -/
  | rows (n : Nibble)
  | place (p : Place)
  deriving DecidableEq, Repr

/-- Whether characters can stand within a part of a line: they do not separate parts. -/
def Solid (cs : List Char) : Prop := ∀ c ∈ cs, c ≠ ' ' ∧ c ≠ ','

instance (cs : List Char) : Decidable (Solid cs) :=
  List.decidableBAll (fun c => c ≠ ' ' ∧ c ≠ ',') cs

namespace Operand

/-- The text of an operand. -/
def text : Operand → List Char
  | register x => ['V', Text.nibbleChar x]
  | number digits => '$' :: digits.map Text.nibbleChar
  | rows n => (toString n.toNat).toList
  | place p => p.text

/-- The register that a single character names. -/
def register? : List Char → Option Operand
  | [c] => (Text.nibble? c).map register
  | _ => none

/-- The operand of a text. Its first character tells registers and numbers from the rest. -/
def ofText? : List Char → Option Operand
  | [] => none
  | c :: cs =>
    if c = 'V' then register? cs
    else if c = '$' then (cs.mapM Text.nibble?).map number
    else
      (Place.ofText? (c :: cs)).map place <|>
        ((List.range 16).find? fun n => (toString n).toList = c :: cs).map fun n =>
          rows (.ofNat 4 n)

@[simp]
theorem ofText?_text (o : Operand) : ofText? o.text = some o := by
  cases o with
  | register x => simp [text, ofText?, register?]
  | number digits =>
    have sign : '$' ≠ 'V' := by decide
    rw [text, ofText?, if_neg sign, if_pos rfl, Text.mapM_nibble?_map]
    rfl
  | rows n =>
    revert n
    decide
  | place p => cases p <;> rfl

theorem solid_nibbleChar (d : Nibble) :
    Text.nibbleChar d ≠ ' ' ∧ Text.nibbleChar d ≠ ',' := by
  revert d
  decide

theorem solid_text (o : Operand) : Solid o.text := by
  cases o with
  | register x =>
    simp only [text, Solid, List.mem_cons, List.not_mem_nil, or_false, forall_eq_or_imp, forall_eq]
    exact ⟨by decide, solid_nibbleChar x⟩
  | number digits =>
    simp only [text, Solid, List.mem_cons, List.mem_map, forall_eq_or_imp, forall_exists_index,
      and_imp, forall_apply_eq_imp_iff₂]
    exact ⟨by decide, fun d _ => solid_nibbleChar d⟩
  | rows n =>
    revert n
    decide
  | place p => cases p <;> decide

end Operand

/-! ## Lines -/

/-- An operation and its operands. -/
structure Line where
  operation : String
  operands : List Operand
  solid : Solid operation.toList := by decide

namespace Line

/-- The text of a line: a blank before the first operand, a comma and a blank before each other. -/
def text (l : Line) : List Char :=
  match l.operands with
  | [] => l.operation.toList
  | o :: os => l.operation.toList ++ ' ' :: o.text ++ os.flatMap fun o => ',' :: ' ' :: o.text

/-- The parts of a text between its blanks, without commas. -/
def parts (cs : List Char) : List (List Char) := (cs.filter (· ≠ ',')).splitOn ' '

/-- The operation and the operands of a line of text. -/
def read? (cs : List Char) : Option (String × List Operand) :=
  match parts cs with
  | [] => none
  | operation :: operands =>
    (operands.mapM Operand.ofText?).map fun os => (String.ofList operation, os)

theorem filter_of_solid {cs : List Char} (h : Solid cs) : cs.filter (· ≠ ',') = cs := by
  rw [List.filter_eq_self]
  intro c hc
  simpa using (h c hc).2

theorem intercalate_cons (c : Char) (cs : List Char) (css : List (List Char)) :
    [c].intercalate (cs :: css) = cs ++ css.flatMap (c :: ·) := by
  induction css generalizing cs with
  | nil => simp
  | cons ds css ih =>
    rw [List.intercalate_cons_cons, ih ds, List.flatMap_cons, List.append_assoc]
    rfl

theorem filter_operands (os : List Operand) :
    (os.flatMap fun o => ',' :: ' ' :: o.text).filter (· ≠ ',') =
      (os.map Operand.text).flatMap (' ' :: ·) := by
  induction os with
  | nil => rfl
  | cons o os ih =>
    rw [List.flatMap_cons, List.filter_append, ih, List.map_cons, List.flatMap_cons]
    congr 1
    exact congrArg (' ' :: ·) (filter_of_solid o.solid_text)

theorem parts_text (l : Line) :
    parts l.text = l.operation.toList :: l.operands.map Operand.text := by
  have plain : l.text.filter (· ≠ ',') =
      [' '].intercalate (l.operation.toList :: l.operands.map Operand.text) := by
    rw [intercalate_cons, text]
    cases l.operands with
    | nil => simpa using filter_of_solid l.solid
    | cons o os =>
      rw [List.filter_append, List.filter_append, filter_of_solid l.solid, filter_operands,
        List.map_cons, List.flatMap_cons, List.append_assoc]
      exact congrArg (fun cs => _ ++ (' ' :: cs ++ _)) (filter_of_solid o.solid_text)
  rw [parts, plain, List.splitOn_intercalate ' ' _ (List.cons_ne_nil _ _)]
  intro cs hcs blank
  rcases List.mem_cons.mp hcs with rfl | hcs
  · exact (l.solid ' ' blank).1 rfl
  · obtain ⟨o, -, rfl⟩ := List.mem_map.mp hcs
    exact (o.solid_text ' ' blank).1 rfl

theorem mapM_ofText?_map (os : List Operand) :
    (os.map Operand.text).mapM Operand.ofText? = some os := by
  induction os with
  | nil => rfl
  | cons o os ih => rw [List.map_cons, List.mapM_cons, Operand.ofText?_text, ih]; rfl

/-- A line of text is read back. -/
theorem read?_text (l : Line) : read? l.text = some (l.operation, l.operands) := by
  rw [read?, parts_text]
  simp only [mapM_ofText?_map, Option.map_some, String.ofList_toList]

end Line

/-! ## Instructions -/

open Instruction

/-- The line of an instruction. -/
def lineOf : Instruction → Line
  | clear => ⟨"CLS", [], by decide⟩
  | ret => ⟨"RET", [], by decide⟩
  | jump target => ⟨"JP", [.number (nibbles 3 target)], by decide⟩
  | call target => ⟨"CALL", [.number (nibbles 3 target)], by decide⟩
  | skipIfByte x value => ⟨"SE", [.register x, .number (nibbles 2 value)], by decide⟩
  | skipUnlessByte x value => ⟨"SNE", [.register x, .number (nibbles 2 value)], by decide⟩
  | skipIfEqual x y => ⟨"SE", [.register x, .register y], by decide⟩
  | skipUnlessEqual x y => ⟨"SNE", [.register x, .register y], by decide⟩
  | loadByte x value => ⟨"LD", [.register x, .number (nibbles 2 value)], by decide⟩
  | addByte x value => ⟨"ADD", [.register x, .number (nibbles 2 value)], by decide⟩
  | alu op x y => ⟨op.mnemonic, [.register x, .register y], by cases op <;> decide⟩
  | shiftRight x => ⟨"SHR", [.register x], by decide⟩
  | shiftLeft x => ⟨"SHL", [.register x], by decide⟩
  | loadIndex target => ⟨"LD", [.place .index, .number (nibbles 3 target)], by decide⟩
  | jumpOffset target => ⟨"JP", [.register 0, .number (nibbles 3 target)], by decide⟩
  | random x mask => ⟨"RND", [.register x, .number (nibbles 2 mask)], by decide⟩
  | draw x y height => ⟨"DRW", [.register x, .register y, .rows height], by decide⟩
  | skipIfKey x => ⟨"SKP", [.register x], by decide⟩
  | skipUnlessKey x => ⟨"SKNP", [.register x], by decide⟩
  | readDelay x => ⟨"LD", [.register x, .place .delay], by decide⟩
  | waitKey x => ⟨"LD", [.register x, .place .key], by decide⟩
  | setDelay x => ⟨"LD", [.place .delay, .register x], by decide⟩
  | setSound x => ⟨"LD", [.place .sound, .register x], by decide⟩
  | addIndex x => ⟨"ADD", [.place .index, .register x], by decide⟩
  | pointGlyph x => ⟨"LD", [.place .glyph, .register x], by decide⟩
  | storeDecimal x => ⟨"LD", [.place .decimal, .register x], by decide⟩
  | storeRegisters last => ⟨"LD", [.place .block, .register last], by decide⟩
  | loadRegisters last => ⟨"LD", [.register last, .place .block], by decide⟩

/-- The line of a data directive. -/
def directive (w : Word) : Line := ⟨"DW", [.number (nibbles 4 w)], by decide⟩

/-- The instruction of an operation with operands. -/
def instruction? (operation : String) (operands : List Operand) : Option Instruction :=
  match operation, operands with
  | "CLS", [] => some clear
  | "RET", [] => some ret
  | "JP", [.number ds] => some (jump (.ofNat 12 (spelled ds)))
  | "CALL", [.number ds] => some (call (.ofNat 12 (spelled ds)))
  | "SE", [.register x, .number ds] => some (skipIfByte x (.ofNat 8 (spelled ds)))
  | "SNE", [.register x, .number ds] => some (skipUnlessByte x (.ofNat 8 (spelled ds)))
  | "SE", [.register x, .register y] => some (skipIfEqual x y)
  | "SNE", [.register x, .register y] => some (skipUnlessEqual x y)
  | "LD", [.register x, .number ds] => some (loadByte x (.ofNat 8 (spelled ds)))
  | "ADD", [.register x, .number ds] => some (addByte x (.ofNat 8 (spelled ds)))
  | "LD", [.register x, .register y] => some (alu .load x y)
  | "OR", [.register x, .register y] => some (alu .or x y)
  | "AND", [.register x, .register y] => some (alu .and x y)
  | "XOR", [.register x, .register y] => some (alu .xor x y)
  | "ADD", [.register x, .register y] => some (alu .add x y)
  | "SUB", [.register x, .register y] => some (alu .sub x y)
  | "SUBN", [.register x, .register y] => some (alu .subFrom x y)
  | "SHR", [.register x] => some (shiftRight x)
  | "SHL", [.register x] => some (shiftLeft x)
  | "LD", [.place .index, .number ds] => some (loadIndex (.ofNat 12 (spelled ds)))
  | "JP", [.register _, .number ds] => some (jumpOffset (.ofNat 12 (spelled ds)))
  | "RND", [.register x, .number ds] => some (random x (.ofNat 8 (spelled ds)))
  | "DRW", [.register x, .register y, .rows n] => some (draw x y n)
  | "SKP", [.register x] => some (skipIfKey x)
  | "SKNP", [.register x] => some (skipUnlessKey x)
  | "LD", [.register x, .place .delay] => some (readDelay x)
  | "LD", [.register x, .place .key] => some (waitKey x)
  | "LD", [.place .delay, .register x] => some (setDelay x)
  | "LD", [.place .sound, .register x] => some (setSound x)
  | "ADD", [.place .index, .register x] => some (addIndex x)
  | "LD", [.place .glyph, .register x] => some (pointGlyph x)
  | "LD", [.place .decimal, .register x] => some (storeDecimal x)
  | "LD", [.place .block, .register x] => some (storeRegisters x)
  | "LD", [.register x, .place .block] => some (loadRegisters x)
  | _, _ => none

/-- The instruction of a line of text. -/
def assemble? (text : String) : Option Instruction :=
  (Line.read? text.toList).bind fun (operation, operands) => instruction? operation operands

theorem instruction?_lineOf (i : Instruction) :
    instruction? (lineOf i).operation (lineOf i).operands = some i := by
  have address (target : Address) : .ofNat 12 (spelled (nibbles 3 target)) = target :=
    ofNat_spelled_nibbles (by decide) target
  have byte (value : Byte) : .ofNat 8 (spelled (nibbles 2 value)) = value :=
    ofNat_spelled_nibbles (by decide) value
  cases i with
  | jump target => exact congrArg (some <| jump ·) (address target)
  | call target => exact congrArg (some <| call ·) (address target)
  | loadIndex target => exact congrArg (some <| loadIndex ·) (address target)
  | jumpOffset target => exact congrArg (some <| jumpOffset ·) (address target)
  | skipIfByte x value => exact congrArg (some <| skipIfByte x ·) (byte value)
  | skipUnlessByte x value => exact congrArg (some <| skipUnlessByte x ·) (byte value)
  | loadByte x value => exact congrArg (some <| loadByte x ·) (byte value)
  | addByte x value => exact congrArg (some <| addByte x ·) (byte value)
  | random x mask => exact congrArg (some <| random x ·) (byte mask)
  | alu op x y => cases op <;> rfl
  | _ => rfl

theorem toList_registerName (x : Nibble) : (registerName x).toList = (Operand.register x).text := by
  have single : nibbles 1 x = [x] := by simp [nibbles]
  simp [registerName, Text.hexBits_eq, single, Operand.text]

theorem toList_byteOperand (value : Byte) :
    (byteOperand value).toList = (Operand.number (nibbles 2 value)).text := by
  simp [byteOperand, Text.hexBits_eq, Operand.text]

theorem toList_addressOperand (target : Address) :
    (addressOperand target).toList = (Operand.number (nibbles 3 target)).text := by
  simp [addressOperand, Text.hexBits_eq, Operand.text]

/-- The text of an instruction is that of its line. -/
theorem toList_mnemonic (i : Instruction) : i.mnemonic.toList = (lineOf i).text := by
  have zero : Text.nibbleChar 0#4 = '0' := rfl
  cases i <;>
    simp [mnemonic, lineOf, Line.text, toList_registerName, toList_byteOperand,
      toList_addressOperand, Operand.text, Place.text, zero]

theorem toList_dataDirective (w : Word) : (dataDirective w).toList = (directive w).text := by
  simp [dataDirective, directive, Line.text, Text.hexBits_eq, Operand.text]

/-- The text of an instruction is read back as the instruction. -/
@[simp]
theorem assemble?_mnemonic (i : Instruction) : assemble? i.mnemonic = some i := by
  rw [assemble?, toList_mnemonic, Line.read?_text]
  exact instruction?_lineOf i

/-- A data directive is read as no instruction. -/
@[simp]
theorem assemble?_dataDirective (w : Word) : assemble? (dataDirective w) = none := by
  rw [assemble?, toList_dataDirective, Line.read?_text]
  rfl

/-- Assembling the text of a word comes to what the word decodes to. -/
theorem assemble?_disassemble (w : Word) : assemble? (disassemble w) = decode w := by
  rw [disassemble]
  cases decode w with
  | none => exact assemble?_dataDirective w
  | some i => exact assemble?_mnemonic i

/-- Different words have different data directives. -/
theorem dataDirective_inj {w w' : Word} (h : dataDirective w = dataDirective w') : w = w' := by
  have lines := congrArg (fun text => Line.read? text.toList) h
  simp only [toList_dataDirective, Line.read?_text, directive, Option.some.injEq, Prod.mk.injEq,
    List.cons.injEq, Operand.number.injEq, and_true, true_and] at lines
  have spellings := congrArg (fun ds => BitVec.ofNat 16 (spelled ds)) lines
  rwa [ofNat_spelled_nibbles (by decide), ofNat_spelled_nibbles (by decide)] at spellings

end Chip8.Assembler
