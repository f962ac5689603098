import Chip8.Memory.Dump
import Chip8.Proofs.Memory.ByteMap
import Chip8.Proofs.Text.Hex
import Mathlib.Algebra.Order.Floor.Div
import Mathlib.Data.List.Basic

/-!
# Dumps read back

A dump parts a range of memory into lines. Each line is led by the address of its first cell, and
each of its fields has the two digits of one byte, so that a line can be taken apart again:
`Dump.fields` gives the fields of a line, and `Dump.bytes?` the bytes that several lines spell.

The main statement says that the lines tile their range: there are as many as the width asks for,
all but the last are full, and together they spell the bytes of the range, each of them once.
-/

namespace Chip8

/-! ## Strides -/

section

variable {start stop width : Int} (positive : 0 < width)

include positive

theorem strides_of_le (h : stop ≤ start) : strides start stop width = [] := by
  have none : (stop - start + width - 1) / width < 1 := Int.ediv_lt_of_lt_mul positive (by omega)
  have count : ((stop - start + width - 1) / width).toNat = 0 := by omega
  simp only [strides, if_pos positive, count, List.range_zero, List.map_nil]

theorem strides_of_lt (h : start < stop) :
    strides start stop width = start :: strides (start + width) stop width := by
  have rest : 0 ≤ (stop - (start + width) + width - 1) / width :=
    Int.ediv_nonneg (by omega) (by omega)
  have one_more : stop - start + width - 1 = stop - (start + width) + width - 1 + 1 * width := by
    omega
  have count : ((stop - start + width - 1) / width).toNat =
      ((stop - (start + width) + width - 1) / width).toNat + 1 := by
    rw [one_more, Int.add_mul_ediv_right _ _ (by omega)]
    omega
  simp only [strides, if_pos positive, count, List.range_succ_eq_map, List.map_cons, List.map_map]
  congr 1
  · simp
  · apply List.map_congr_left
    intro k _
    simp only [Function.comp_apply, Int.natCast_succ, Int.add_mul]
    omega

/-- Strides are taken until the end is reached. -/
theorem strides_induction {motive : Int → List Int → Prop} (done : ∀ a, stop ≤ a → motive a [])
    (more : ∀ a rest, a < stop → motive (a + width) rest → motive a (a :: rest)) (start : Int) :
    motive start (strides start stop width) := by
  induction h : (stop - start).toNat using Nat.strongRecOn generalizing start with
  | ind distance ih =>
    by_cases le : stop ≤ start
    · rw [strides_of_le positive le]
      exact done start le
    · have lt : start < stop := Int.not_le.mp le
      rw [strides_of_lt positive lt]
      exact more start _ lt (ih _ (by omega) (start + width) rfl)

theorem mem_strides : ∀ a ∈ strides start stop width, start ≤ a ∧ a < stop := by
  refine strides_induction positive (motive := fun start places =>
    ∀ a ∈ places, start ≤ a ∧ a < stop) ?_ ?_ start
  · intro start le a mem
    contradiction
  · intro start rest lt ih a mem
    rcases List.mem_cons.mp mem with rfl | mem
    · exact ⟨Int.le_refl a, lt⟩
    · have := ih a mem
      omega

end

section

variable {start stop width : Nat}

theorem length_strides (le : start ≤ stop) (positive : 1 ≤ width) :
    (strides start stop width).length = (stop - start) ⌈/⌉ width := by
  have count : ((stop : Int) - start + width - 1) / width =
      ((stop - start + width - 1) / width : Nat) := by
    rw [Int.natCast_ediv]
    congr 1
    omega
  rw [strides, List.length_map, List.length_range, if_pos (by omega), count, Int.toNat_natCast,
    Nat.ceilDiv_eq_add_pred_div]

theorem getElem_strides {i : Nat} (hi : i < (strides start stop width).length) :
    (strides start stop width)[i] = (start + i * width : Nat) := by
  simp only [strides, List.getElem_map, List.getElem_range, Int.natCast_add, Int.natCast_mul]

theorem lt_of_lt_length_strides (positive : 1 ≤ width) {i : Nat}
    (hi : i < (strides start stop width).length) : start + i * width < stop := by
  have inside := mem_strides (by omega) _ (List.getElem_mem hi)
  rw [getElem_strides] at inside
  omega

end

/-! ## Fields -/

namespace Text

/-- The two characters of a byte. -/
def byteChars (b : Byte) : List Char := (nibbles 2 b).map nibbleChar

/-- The byte that two hexadecimal digits spell. -/
def byte? (cs : List Char) : Option Byte :=
  if cs.length = 2 then (cs.mapM nibble?).map fun ds => .ofNat 8 (spelled ds) else none

@[simp]
theorem byte?_byteChars (b : Byte) : byte? (byteChars b) = some b := by
  have two : ((nibbles 2 b).map nibbleChar).length = 2 := by simp
  rw [byte?, byteChars, if_pos two, mapM_nibble?_map, Option.map_some,
    ofNat_spelled_nibbles (by decide)]

theorem mapM_byte?_map (bytes : List Byte) : (bytes.map byteChars).mapM byte? = some bytes := by
  induction bytes with
  | nil => rfl
  | cons b bytes ih => simp [List.mapM_cons, ih]

theorem toList_hexBits_byte (b : Byte) : (hexBits 2 b).toList = byteChars b := by
  rw [hexBits_eq (by decide) (by decide), String.toList_ofList, byteChars]

theorem blank_notMem_byteChars (b : Byte) : ' ' ∉ byteChars b := by
  have each : ∀ d, nibbleChar d ≠ ' ' := by decide
  intro mem
  obtain ⟨d, -, same⟩ := List.mem_map.mp mem
  exact each d same

end Text

namespace Dump

/-- What stands before the fields of a line: a dollar sign, the address in upper-case hexadecimal
with at least three digits, and a colon. -/
def heading (a : Nat) : List Char :=
  '$' :: ((Nat.toDigits 16 a).map Char.toUpper).leftpad 3 '0' ++ [':']

/-- The fields of a line. Blanks separate them from the heading and from one another. -/
def fields (line : String) : List (List Char) := (line.toList.splitOn ' ').tail

/-- The bytes that the fields of several lines spell, in order. -/
def bytes? (lines : List String) : Option (List Byte) := (lines.flatMap fields).mapM Text.byte?

theorem blank_notMem_heading (a : Nat) : ' ' ∉ heading a := by
  have each : ∀ d < 16, Text.hexDigit d ≠ ' ' := by decide
  intro mem
  rw [heading, ← Text.hexDigits_eq_leftpad, Text.hexDigits] at mem
  simp only [List.cons_append, List.mem_cons, List.mem_append, List.mem_replicate, List.mem_map,
    List.not_mem_nil, or_false] at mem
  rcases mem with sign | (⟨-, zero⟩ | ⟨d, digit, same⟩) | colon
  · exact absurd sign (by decide)
  · exact absurd zero (by decide)
  · exact each d ((Text.Writes.of_digits (by decide) a).lt d digit) same
  · exact absurd colon (by decide)

end Dump

namespace Memory

variable (m : Memory)

/-! ## Ranges -/

theorem getElem?_readBytes (a count : Int) (k : Nat) :
    (m.readBytes a count)[k]? = if k < count.toNat then some (m.read (a + k)) else none := by
  rw [readBytes, getElem?_readBlock, ofInt_add_natCast]
  rfl

/-- Neighbouring ranges are read one after the other. -/
theorem readBytes_append {start middle stop : Int} (le : start ≤ middle) (le' : middle ≤ stop) :
    m.readBytes start (middle - start) ++ m.readBytes middle (stop - middle) =
      m.readBytes start (stop - start) := by
  have count : (stop - start).toNat = (middle - start).toNat + (stop - middle).toNat := by omega
  have place : BitVec.ofInt 12 start + BitVec.ofNat 12 (middle - start).toNat =
      .ofInt 12 middle := by
    rw [ofInt_add_natCast]
    congr 1
    omega
  rw [readBytes, readBytes, readBytes, count, readBlock_add, place]

/-- The cells of a range are the bytes at its addresses. -/
theorem toList_slice_cells {start stop : Int} (low : 0 ≤ start) (le : start ≤ stop)
    (high : stop ≤ 4096) :
    (Span.slice m.cells start stop).toList = m.readBytes start (stop - start) := by
  have size : 4096 ≤ m.cells.size := m.addressCount_le_size
  apply List.ext_getElem?
  intro k
  rw [Array.getElem?_toList, Span.slice, Span.index_of_nonneg low, Span.index_of_nonneg (by omega),
    Array.getElem?_extract, getElem?_readBytes]
  by_cases hk : k < (stop - start).toNat
  · have address : (BitVec.ofInt 12 (start + k)).toNat = start.toNat + k := by
      rw [BitVec.toNat_ofInt]
      omega
    rw [if_pos (by omega), if_pos hk, read, ← getElem?_cells_toNat, address]
    congr 1
    omega
  · rw [if_neg (by omega), if_neg hk]

/-! ## Lines -/

/-- The bytes of a line: those from its address on, up to the width or the end of the range. -/
def lineBytes (m : Memory) (stop width a : Int) : List Byte :=
  m.readBytes a (min (a + width) stop - a)

/-- The lines tile their range. -/
theorem flatMap_lineBytes (start stop : Int) {width : Int} (positive : 0 < width) :
    (strides start stop width).flatMap (m.lineBytes stop width) =
      m.readBytes start (stop - start) := by
  refine strides_induction positive (motive := fun start places =>
    places.flatMap (m.lineBytes stop width) = m.readBytes start (stop - start)) ?_ ?_ start
  · intro start le
    rw [readBytes, Int.toNat_of_nonpos (by omega)]
    rfl
  · intro start rest lt ih
    rw [List.flatMap_cons, ih, lineBytes]
    by_cases whole : start + width ≤ stop
    · rw [Int.min_eq_left whole, readBytes_append m (by omega) whole]
    · -- the last line ends with the range, and nothing is left after it
      have nothing : m.readBytes (start + width) (stop - (start + width)) = [] := by
        rw [readBytes, Int.toNat_of_nonpos (by omega), readBlock]
      rw [Int.min_eq_right (by omega), nothing, List.append_nil]

section

variable {stop width a : Nat} (positive : 1 ≤ width) (lt : a < stop)

include positive lt

theorem length_lineBytes : (m.lineBytes stop width a).length = min width (stop - a) := by
  rw [lineBytes, readBytes, length_readBlock]
  omega

theorem toList_dumpLine (high : stop ≤ 4096) :
    (m.dumpLine stop width a).toList = Dump.heading a ++ ' ' ::
      [' '].intercalate ((m.lineBytes stop width a).map Text.byteChars) := by
  have address : (Text.hex 3 a).toList =
      ((Nat.toDigits 16 a).map Char.toUpper).leftpad 3 '0' := by
    rw [Text.hex, if_neg (by omega), String.toList_ofList, Int.toNat_natCast,
      Text.hexDigits_eq_leftpad]
  have bytes : (Span.slice m.cells a (min (a + width) stop)).toList = m.lineBytes stop width a :=
    m.toList_slice_cells (by omega) (by omega) (by omega)
  have digits : String.toList ∘ Text.hexBits 2 = Text.byteChars := funext Text.toList_hexBits_byte
  rw [dumpLine, dumpFields]
  simp [bytes, address, digits, Dump.heading]

/-- The fields of a line are those of its bytes. -/
theorem fields_dumpLine (high : stop ≤ 4096) :
    Dump.fields (m.dumpLine stop width a) = (m.lineBytes stop width a).map Text.byteChars := by
  have count := m.length_lineBytes positive lt
  have parts : (m.dumpLine stop width a).toList =
      [' '].intercalate (Dump.heading a :: (m.lineBytes stop width a).map Text.byteChars) := by
    obtain ⟨b, rest, bytes⟩ : ∃ b rest, m.lineBytes stop width a = b :: rest :=
      List.exists_cons_of_length_pos (by omega)
    rw [m.toList_dumpLine positive lt high, bytes, List.map_cons]
    simp
  have apart : ∀ part ∈ Dump.heading a :: (m.lineBytes stop width a).map Text.byteChars,
      ' ' ∉ part := by
    refine List.forall_mem_cons.mpr ⟨Dump.blank_notMem_heading a, ?_⟩
    exact List.forall_mem_map.mpr fun b _ => Text.blank_notMem_byteChars b
  rw [Dump.fields, parts, List.splitOn_intercalate ' ' apart (List.cons_ne_nil _ _),
    List.tail_cons]

end

/-! ## Dumps -/

section

variable (start : Nat) {stop width : Nat} (positive : 1 ≤ width) (high : stop ≤ 4096)

include positive high

theorem bytes?_dumpLines :
    Dump.bytes? ((strides start stop width).map (m.dumpLine stop width)) =
      some (m.readBytes start ((stop : Int) - start)) := by
  have each : ∀ a ∈ strides start stop width, Dump.fields (m.dumpLine stop width a) =
      (m.lineBytes stop width a).map Text.byteChars := by
    intro a mem
    obtain ⟨le, lt⟩ := mem_strides (by omega) a mem
    lift a to Nat using (by omega)
    exact m.fields_dumpLine positive (by omega) high
  have tiled := m.flatMap_lineBytes start stop (show (0 : Int) < width by omega)
  rw [Dump.bytes?, List.flatMap_map, List.flatMap_congr each, ← List.map_flatMap, tiled,
    Text.mapM_byte?_map]

/-- A line shows nothing but the bytes of its range. -/
theorem dumpLine_congr {m m' : Memory}
    (same : ∀ a : Int, start ≤ a → a < stop → m'.read a = m.read a) :
    ∀ a ∈ strides start stop width, m'.dumpLine stop width a = m.dumpLine stop width a := by
  intro a mem
  obtain ⟨le, lt⟩ := mem_strides (by omega) a mem
  have bytes : m'.readBytes a (min (a + width) stop - a) =
      m.readBytes a (min (a + width) stop - a) := by
    apply List.ext_getElem?
    intro k
    rw [getElem?_readBytes, getElem?_readBytes]
    split
    · rw [same _ (by omega) (by omega)]
    · rfl
  rw [dumpLine, dumpLine, toList_slice_cells m' (by omega) (by omega) (by omega),
    toList_slice_cells m (by omega) (by omega) (by omega), bytes]

end

/-- The lines of a dump tile its range. Each begins with its address, and each but the last has a
field for every byte of the width; together they spell the bytes of the range in order. So the
memories with one dump of a range are those that agree there. -/
theorem dump_tiles (m : Memory) {start stop width : Nat} (le : start ≤ stop) (high : stop ≤ 4096)
    (positive : 1 ≤ width) :
    ∃ lines, m.dump start stop width = .ok lines ∧
      lines.length = (stop - start) ⌈/⌉ width ∧
      (∀ i (hi : i < lines.length),
        Dump.heading (start + i * width) ++ [' '] <+: lines[i].toList ∧
          1 ≤ (Dump.fields lines[i]).length ∧ (Dump.fields lines[i]).length ≤ width ∧
          (i + 1 < lines.length → (Dump.fields lines[i]).length = width)) ∧
      Dump.bytes? lines = some (m.readBytes start (stop - start : Nat)) ∧
      ∀ m' : Memory, m'.dump start stop width = .ok lines ↔
        ∀ a : Int, start ≤ a → a < stop → m'.read a = m.read a := by
  have dumped (m : Memory) : m.dump start stop width =
      .ok ((strides start stop width).map (m.dumpLine stop width)) := by
    rw [dump, if_neg (by omega)]
  refine ⟨_, dumped m, ?_, ?_, ?_, ?_⟩
  · rw [List.length_map, length_strides le positive]
  · intro i hi
    simp only [List.length_map] at hi ⊢
    have lt := lt_of_lt_length_strides positive hi
    have count := m.length_lineBytes positive lt
    rw [List.getElem_map, getElem_strides, m.fields_dumpLine positive lt high, List.length_map]
    refine ⟨?_, by omega, by omega, ?_⟩
    · rw [m.toList_dumpLine positive lt high]
      exact ⟨_, (List.append_cons ..).symm⟩
    · intro next
      have lt' := lt_of_lt_length_strides positive next
      rw [Nat.succ_mul] at lt'
      omega
  · rw [m.bytes?_dumpLines start positive high, Int.natCast_sub le]
  · intro m'
    rw [dumped m']
    constructor
    · intro same a low lt
      have bytes := m'.bytes?_dumpLines start positive high
      rw [Except.ok.inj same, m.bytes?_dumpLines start positive high] at bytes
      have byte := congrArg (·[(a - start).toNat]?) (Option.some.inj bytes)
      have address : (start : Int) + (a - start).toNat = a := by omega
      simp only [getElem?_readBytes, address] at byte
      rw [if_pos (by omega), if_pos (by omega)] at byte
      exact (Option.some.inj byte).symm
    · intro same
      rw [List.map_congr_left (dumpLine_congr start positive high same)]

/-- The last six addresses, in lines of four: the second line is led by `$FFE`, and the two lines
spell the six bytes that were stored there. -/
theorem dump_tiles_atTop :
    let m := (blank .standard).writeBytes 4090 [0x12, 0xAB, 0, 7, 0xF0, 256]
    (4090 ≤ 4096 ∧ 4096 ≤ 4096 ∧ 1 ≤ 4) ∧
      ∃ lines, m.dump 4090 4096 4 = .ok lines ∧
        (∃ two : lines.length = 2, "$FFE: ".toList <+: lines[1].toList) ∧
        Dump.bytes? lines = some [0x12, 0xAB, 0, 7, 0xF0, 0] := by
  intro m
  obtain ⟨lines, dumped, count, line, bytes, -⟩ :=
    dump_tiles m (show 4090 ≤ 4096 by decide) (Nat.le_refl 4096) (show 1 ≤ 4 by decide)
  have two : lines.length = 2 := count
  have stored : m.readBytes 4090 6 = [0x12, 0xAB, 0, 7, 0xF0, 0] :=
    (blank .standard).readBytes_writeBytes 4090 (by decide)
  have led : "$FFE: ".toList <+: lines[1].toList := (line 1 (by omega)).1
  exact ⟨by decide, lines, dumped, ⟨two, led⟩, bytes.trans (congrArg some stored)⟩

end Memory

end Chip8
