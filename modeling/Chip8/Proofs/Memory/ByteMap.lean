import Chip8.Proofs.Memory.Image

/-!
# Memory as a byte map

To a host memory is a map from the addresses modulo 4096 to bytes. It takes integers for addresses
and bytes, and a sequence that is longer than memory runs over itself: `LastPlace` tells which of
its numbers is the last to go to an address, and that one stays. A program image is put into memory
in one piece, behind a check of its length, and has the effect of its bytes stored one by one.
-/

namespace Chip8.Memory

/-! ## Integer addresses -/

/-- Integers with one remainder are one address. -/
theorem ofInt_eq_iff {a b : Int} :
    BitVec.ofInt 12 a = BitVec.ofInt 12 b ↔ a % 4096 = b % 4096 := by
  rw [← BitVec.toNat_inj, BitVec.toNat_ofInt, BitVec.toNat_ofInt]
  omega

theorem ofInt_add_natCast (a : Int) (k : Nat) :
    BitVec.ofInt 12 a + BitVec.ofNat 12 k = BitVec.ofInt 12 (a + k) := by
  rw [BitVec.ofInt_add, BitVec.ofInt_natCast]

/-- Of the places in a sequence of some length that is stored from `a` on, `k` is the last one that
goes to the address `c`. -/
structure LastPlace (a : Int) (length : Nat) (c : Int) (k : Nat) : Prop where
  lt : k < length
  address_eq : (a + k) % 4096 = c % 4096
  later_ne : ∀ j, k < j → j < length → (a + j) % 4096 ≠ c % 4096

/-! ## Stored sequences -/

variable (m : Memory) (a : Int)

/-- The last number that goes to an address is read there, reduced to a byte. -/
theorem read_writeBytes_of_last {data : List Int} {c : Int} {k : Nat}
    (h : LastPlace a data.length c k) :
    (((m.writeBytes a data).read c).toNat : Int) = data.get ⟨k, h.lt⟩ % 256 := by
  have place : BitVec.ofInt 12 c = BitVec.ofInt 12 a + BitVec.ofNat 12 k := by
    rw [ofInt_add_natCast]
    exact ofInt_eq_iff.mpr h.address_eq.symm
  have stays : ∀ j, k < j → j < (data.map (BitVec.ofInt 8)).length →
      BitVec.ofInt 12 a + BitVec.ofNat 12 k ≠ BitVec.ofInt 12 a + .ofNat 12 j := by
    intro j lt hj same
    rw [List.length_map] at hj
    rw [← place, ofInt_add_natCast] at same
    exact h.later_ne j lt hj (ofInt_eq_iff.mp same).symm
  have inside : k < (data.map (BitVec.ofInt 8)).length := by
    rw [List.length_map]
    exact h.lt
  have stored := m.get_writeBlock_of_last (.ofInt 12 a) _ inside stays
  rw [read, place, writeBytes, stored, List.getElem_map, BitVec.toNat_ofInt]
  exact Int.toNat_of_nonneg (Int.emod_nonneg _ (by decide))

/-- An address to which no number goes reads as before. -/
theorem read_writeBytes_of_ne {data : List Int} {c : Int}
    (apart : ∀ k < data.length, (a + (k : Nat)) % 4096 ≠ c % 4096) :
    (m.writeBytes a data).read c = m.read c := by
  apply get_writeBlock_of_ne
  intro k hk same
  rw [List.length_map] at hk
  rw [ofInt_add_natCast] at same
  exact apart k hk (ofInt_eq_iff.mp same).symm

/-- A sequence that fits into memory is read back, reduced to bytes. -/
theorem readBytes_writeBytes {data : List Int} (fits : data.length ≤ 4096) :
    (m.writeBytes a data).readBytes a data.length = data.map (.ofInt 8) := by
  have back := m.readBlock_writeBlock (.ofInt 12 a) (data.map (.ofInt 8))
  rw [List.length_map] at back
  exact back fits

theorem map_ofInt_toNat (bytes : List Byte) :
    (bytes.map fun b => (b.toNat : Int)).map (.ofInt 8) = bytes := by
  rw [List.map_map]
  refine Eq.trans (List.map_congr_left fun b _ => ?_) (List.map_id bytes)
  rw [Function.comp_apply, BitVec.ofInt_natCast, BitVec.ofNat_toNat, BitVec.setWidth_eq]
  rfl

/-- Storing what was read at the same address changes nothing. -/
theorem writeBytes_readBytes (count : Int) :
    m.writeBytes a ((m.readBytes a count).map fun b => (b.toNat : Int)) = m := by
  rw [writeBytes, map_ofInt_toNat]
  exact m.writeBlock_readBlock _ _

/-! ## Images -/

/-- An image that is put into memory in one piece fills the cells that its bytes fill one by one. -/
theorem load_eq_writeBytes {image : List Byte} (fits : image.length ≤ m.layout.capacity) :
    m.load image =
      .ok (m.writeBytes m.layout.programStart.toNat (image.map fun b => (b.toNat : Int))) := by
  have start := m.layout.programStart.isLt
  have cells := m.addressCount_le_size
  simp only [Layout.capacity, Layout.addressCount] at fits cells
  obtain ⟨loaded, accepted⟩ := m.load_of_le fits
  obtain ⟨layout_eq, cells_eq⟩ := cells_of_load accepted
  have address : BitVec.ofInt 12 m.layout.programStart.toNat = m.layout.programStart := by
    rw [BitVec.ofInt_natCast, BitVec.ofNat_toNat, BitVec.setWidth_eq]
  rw [accepted, writeBytes, map_ofInt_toNat, address]
  refine congrArg Except.ok (eq_of_getElem?_cells ?_ fun cell => ?_)
  · rw [layout_eq, layout_writeBlock]
  · rw [cells_eq, cellsWith,
      Span.getElem?_splice m.cells image.toArray m.layout.programStart.toNat
        (by rw [Span.index_of_nonneg (by omega)]; omega)
        (by rw [Span.index_of_nonneg (by omega), List.size_toArray]; omega),
      m.getElem?_cells_writeBlock_of_le _ image (by omega), List.size_toArray,
      List.getElem?_toArray]

/-- A memory of zeros. -/
def zeros {l : Layout} {base : Nat} (h : l.FontAt base) : Memory where
  layout := l
  cells := Array.replicate 4096 0
  size_cells := by rw [h.size_blankCells, Array.size_replicate]

/-- In a new memory the glyphs were stored one byte after the other. -/
theorem blank_eq_writeBlock {l : Layout} {base : Nat} (h : l.FontAt base) :
    blank l = (zeros h).writeBlock (.ofNat 12 base) Font.rows := by
  have room := h.2
  have start := l.programStart.isLt
  have address : (BitVec.ofNat 12 base).toNat = base := by
    rw [BitVec.toNat_ofNat]
    omega
  refine eq_of_getElem?_cells ?_ fun cell => ?_
  · rw [layout_writeBlock]
    rfl
  · have glyphs : Font.rows.length = 80 := rfl
    rw [getElem?_cells_writeBlock_of_le _ _ _ (by omega), address, glyphs]
    exact h.getElem?_blankCells cell

/-- An image that does not fit is refused. -/
theorem load_of_lt {image : List Byte} (large : m.layout.capacity < image.length) :
    m.load image = .error (.imageSize image.length m.layout.capacity) := by
  rw [load, dif_neg (by omega)]

/-! ## The byte map -/

/-- Memory is a map from the addresses modulo 4096 to bytes. After a sequence of any length was
stored, each address reads the last number that went there, reduced to a byte, or what it read
before. What fits into memory is read back, and storing what was read changes nothing. An image is
refused exactly if it is longer than the program area; otherwise it has the effect of its bytes
stored from the start of the program area on. -/
theorem byteMap (m : Memory) (a : Int) :
    (∀ (data : List Int) (c : Int),
      (∀ k (h : LastPlace a data.length c k),
        (((m.writeBytes a data).read c).toNat : Int) = data.get ⟨k, h.lt⟩ % 256) ∧
      ((∀ k : Nat, k < data.length → (a + k) % 4096 ≠ c % 4096) →
        (m.writeBytes a data).read c = m.read c)) ∧
    (∀ data : List Int, data.length ≤ 4096 →
      ((m.writeBytes a data).readBytes a data.length).map (fun b => (b.toNat : Int)) =
        data.map (· % 256)) ∧
    (∀ count : Int, m.writeBytes a ((m.readBytes a count).map fun b => (b.toNat : Int)) = m) ∧
    ∀ image : List Byte,
      let start : Int := m.layout.programStart.toNat
      ((∃ f, m.load image = .error f) ↔ 4096 - start < image.length) ∧
      (4096 - start < image.length →
        m.load image = .error (.imageSize image.length (4096 - start).toNat)) ∧
      (image.length ≤ 4096 - start →
        m.load image = .ok (m.writeBytes start (image.map fun b => (b.toNat : Int)))) := by
  refine ⟨fun data c => ⟨fun k => m.read_writeBytes_of_last a, m.read_writeBytes_of_ne a⟩, ?_,
    m.writeBytes_readBytes a, ?_⟩
  · intro data fits
    rw [m.readBytes_writeBytes a fits, List.map_map]
    apply List.map_congr_left
    intro v _
    rw [Function.comp_apply, BitVec.toNat_ofInt]
    exact Int.toNat_of_nonneg (Int.emod_nonneg v (by decide))
  · intro image start
    have start_lt := m.layout.programStart.isLt
    have capacity : m.layout.capacity = (4096 - start).toNat := by
      simp only [Layout.capacity, Layout.addressCount, start]
      omega
    have refused : 4096 - start < image.length →
        m.load image = .error (.imageSize image.length (4096 - start).toNat) := by
      intro large
      rw [← capacity]
      exact m.load_of_lt (by omega)
    have accepted : image.length ≤ 4096 - start →
        m.load image = .ok (m.writeBytes start (image.map fun b => (b.toNat : Int))) := by
      intro fits
      exact m.load_eq_writeBytes (by omega)
    refine ⟨⟨?_, fun large => ⟨_, refused large⟩⟩, refused, accepted⟩
    rintro ⟨f, failed⟩
    apply Int.not_le.mp
    intro fits
    have contrary := failed.symm.trans (accepted fits)
    contradiction

/-- Of a sequence that is one longer than memory and stored from the last address on, the number at
the end replaces the first one. -/
theorem byteMap_overrun :
    let data : List Int := List.replicate 4096 1 ++ [300]
    LastPlace (-1) data.length 4095 4096 ∧
      ((((blank .standard).writeBytes (-1) data).read 4095).toNat : Int) = 44 := by
  intro data
  have length : data.length = 4097 := by
    rw [List.length_append, List.length_replicate]
    rfl
  have last : LastPlace (-1) data.length 4095 4096 := by
    constructor
    · omega
    · rfl
    · intro j lt hj
      omega
  refine ⟨last, (((byteMap (blank .standard) (-1)).1 data 4095).1 4096 last).trans ?_⟩
  have number : data.get ⟨4096, last.lt⟩ = 300 := by
    rw [List.get_eq_getElem]
    exact List.getElem_concat_length List.length_replicate.symm _
  rw [number]
  rfl

end Chip8.Memory
