import Chip8.Proofs.Memory.Block

/-!
# Font and image in memory

Where a new memory has its font and where an image goes that is loaded into it. A font below address
zero is told by the places that spans denote from the end, while its glyphs are read at addresses
that wrap, so the two agree only if the span lies inside memory.

The main statement tells exactly for which layouts font and image never get into each other's way:
those whose font lies, with addresses wrapped, before the program area.
-/

namespace Chip8

namespace Span

/-- A span that is replaced by as many elements as it is long changes in its own places only. -/
theorem getElem?_splice (xs replacement : Array α) {start stop : Int} (lower : Nat)
    (lower_eq : index xs.size start = lower)
    (upper_eq : index xs.size stop = lower + replacement.size) (i : Nat) :
    (splice xs start stop replacement)[i]? =
      if lower ≤ i ∧ i < lower + replacement.size then replacement[i - lower]? else xs[i]? := by
  have inside : lower + replacement.size ≤ xs.size := upper_eq ▸ index_le xs.size stop
  have upper_max : max lower (lower + replacement.size) = lower + replacement.size := by omega
  have lower_min : min lower xs.size = lower := by omega
  simp only [splice, lower_eq, upper_eq, upper_max, Array.getElem?_append, Array.getElem?_extract,
    Array.size_append, Array.size_extract, Nat.sub_zero, lower_min, Nat.zero_add]
  by_cases before : i < lower
  · have outside : ¬ (lower ≤ i ∧ i < lower + replacement.size) := by omega
    rw [if_pos (by omega), if_pos before, if_pos before, if_neg outside]
  · by_cases within : i < lower + replacement.size
    · rw [if_pos within, if_neg before, if_pos ⟨by omega, within⟩]
    · have outside : ¬ (lower ≤ i ∧ i < lower + replacement.size) := by omega
      have same : lower + replacement.size + (i - (lower + replacement.size)) = i := by omega
      rw [if_neg within, if_neg outside, same]
      split
      · rfl
      · exact (Array.getElem?_eq_none (by omega)).symm

/-- What stands before a span stays. -/
theorem getElem?_splice_of_lt (xs replacement : Array α) {start : Int} (stop : Int) {i : Nat}
    (h : i < index xs.size start) : (splice xs start stop replacement)[i]? = xs[i]? := by
  have inside := index_le xs.size start
  have lower_min : min (index xs.size start) xs.size = index xs.size start := by omega
  simp only [splice, Array.getElem?_append, Array.getElem?_extract, Array.size_append,
    Array.size_extract, Nat.sub_zero, lower_min, Nat.zero_add]
  rw [if_pos (by omega), if_pos h, if_pos h]

end Span

/-! ## Layouts that are accepted -/

theorem Layout.of_ofAddresses {font start : Int} {layout : Layout}
    (h : ofAddresses font start = .ok layout) :
    layout.fontAddress = font ∧ (layout.programStart.toNat : Int) = start := by
  rw [ofAddresses] at h
  split at h
  · contradiction
  · split at h
    · rename_i inside
      cases h
      refine ⟨rfl, ?_⟩
      rw [BitVec.toNat_ofNatLT]
      omega
    · contradiction

namespace Memory

variable {m m' : Memory} {image : List Byte}

/-! ## Images that are accepted -/

theorem load_of_le (m : Memory) {image : List Byte} (h : image.length ≤ m.layout.capacity) :
    ∃ m', m.load image = .ok m' := by
  rw [load, dif_pos h]
  exact ⟨_, rfl⟩

theorem length_le_of_load (h : m.load image = .ok m') :
    image.length ≤ m.layout.capacity := by
  rw [load] at h
  split at h
  · assumption
  · contradiction

theorem cells_of_load (h : m.load image = .ok m') :
    m'.layout = m.layout ∧ m'.cells = m.cellsWith image := by
  rw [load] at h
  split at h
  · cases h
    exact ⟨rfl, rfl⟩
  · contradiction

/-- An empty image changes nothing. -/
theorem load_nil (m : Memory) : m.load [] = .ok m := by
  have cells_eq : m.cellsWith [] = m.cells := by
    have inside : Span.index m.cells.size m.layout.programStart.toNat ≤ m.cells.size :=
      Span.index_le ..
    simp [cellsWith, Span.splice, inside]
  have fits : ([] : List Byte).length ≤ m.layout.capacity := Nat.zero_le _
  rw [load, dif_pos fits]
  simp only [cells_eq]

/-! ## What is read -/

/-- The bytes of an image are read at the program area, and all others as before. -/
theorem get_of_load (h : m.load image = .ok m') (a : Address) :
    some (m'.get a) =
      if m.layout.programStart.toNat ≤ a.toNat ∧
        a.toNat < m.layout.programStart.toNat + image.length
      then image[a.toNat - m.layout.programStart.toNat]? else some (m.get a) := by
  have fits := length_le_of_load h
  have cells := m.addressCount_le_size
  have start := m.layout.programStart.isLt
  simp only [Layout.capacity, Layout.addressCount] at fits cells
  rw [← getElem?_cells_toNat, (cells_of_load h).2, cellsWith,
    Span.getElem?_splice m.cells image.toArray m.layout.programStart.toNat
      (by rw [Span.index_of_nonneg (by omega)]; omega)
      (by rw [Span.index_of_nonneg (by omega), List.size_toArray]; omega),
    List.size_toArray, List.getElem?_toArray, getElem?_cells_toNat]

end Memory

/-! ## Where the font lies -/

/-- The font begins at a natural number, its address or, if that is below zero, its address counted
from the end, and lies before the program area. -/
def Layout.FontAt (l : Layout) (base : Nat) : Prop :=
  (l.fontAddress = base ∨ l.fontAddress + 4096 = base) ∧ base + 80 ≤ l.programStart.toNat

theorem Layout.standard_fontAt : Layout.standard.FontAt 0x50 := ⟨.inl rfl, by decide⟩

namespace Layout.FontAt

variable {l : Layout} {base : Nat}

theorem index_eq (h : l.FontAt base) :
    Span.index 4096 l.fontAddress = base ∧ Span.index 4096 (l.fontAddress + 80) = base + 80 := by
  obtain ⟨placed, room⟩ := h
  have start := l.programStart.isLt
  constructor
  all_goals
    rw [Span.index]
    split <;> omega

theorem getElem?_blankCells (h : l.FontAt base) (i : Nat) :
    l.blankCells[i]? =
      if base ≤ i ∧ i < base + 80 then Font.rows[i - base]?
      else (Array.replicate 4096 (0 : Byte))[i]? := by
  obtain ⟨lower_eq, upper_eq⟩ := h.index_eq
  rw [blankCells,
    Span.getElem?_splice (Array.replicate addressCount 0) Font.rows.toArray base
      (by rw [Array.size_replicate]; exact lower_eq)
      (by rw [Array.size_replicate]; exact upper_eq),
    List.getElem?_toArray]
  rfl

theorem size_blankCells (h : l.FontAt base) : l.blankCells.size = 4096 := by
  obtain ⟨lower_eq, upper_eq⟩ := h.index_eq
  have start := l.programStart.isLt
  have room := h.2
  rw [blankCells, Span.size_splice, Array.size_replicate, addressCount, lower_eq]
  change base + 80 + (4096 - max base (Span.index 4096 (l.fontAddress + 80))) = 4096
  rw [upper_eq]
  omega

/-- A new memory holds the glyphs and zeros. -/
theorem get_blank (h : l.FontAt base) (a : Address) :
    some ((Memory.blank l).get a) =
      if base ≤ a.toNat ∧ a.toNat < base + 80 then Font.rows[a.toNat - base]? else some 0 := by
  rw [← Memory.getElem?_cells_toNat]
  change l.blankCells[a.toNat]? = _
  rw [h.getElem?_blankCells, Array.getElem?_replicate, if_pos a.isLt]

end Layout.FontAt

/-- A font below zero that does not lie before the program area lengthens memory or reaches into the
program area. -/
theorem Layout.size_or_reaches {l : Layout} (negative : l.fontAddress < 0)
    (misplaced : -4096 ≤ l.fontAddress →
      (l.programStart.toNat : Int) < l.fontAddress + 4096 + 80) :
    4096 < l.blankCells.size ∨
      (-4096 ≤ l.fontAddress ∧ l.fontAddress ≤ -81 ∧
        (l.programStart.toNat : Int) < l.fontAddress + 4096 + 80) := by
  by_cases long : 4096 < l.blankCells.size
  · exact .inl long
  · have size : (Font.rows.toArray : Array Byte).size = 80 := rfl
    have length : ((Font.rows : List Byte).length : Int) = 80 := rfl
    rw [blankCells, Span.size_splice, Array.size_replicate, addressCount, size, length] at long
    simp only [Span.index] at long
    have inside : -4096 ≤ l.fontAddress ∧ l.fontAddress ≤ -81 := by
      split at long <;> split at long <;> omega
    exact .inr ⟨inside.1, inside.2, misplaced inside.1⟩

namespace Memory

/-! ## Font and image side by side -/

/-- The memory shows the glyphs where glyphs are looked up, an image in the program area, and zeros
everywhere else, and has no further cells. -/
structure Shows (m : Memory) (image : List Byte) : Prop where
  glyph_eq : ∀ d < 16, ∀ k < 5,
    some (m.read (m.glyphAddress (d : Nat) + (k : Nat))) = Font.rows[5 * d + k]?
  image_eq : ∀ j < image.length,
    some (m.read (m.layout.programStart.toNat + (j : Nat))) = image[j]?
  blank_eq : ∀ a : Int, 0 ≤ a → a < 4096 →
    (∀ d < 16, ∀ k < 5, a ≠ (m.glyphAddress (d : Nat) + (k : Nat)) % 4096) →
    (∀ j < image.length, a ≠ m.layout.programStart.toNat + (j : Nat)) → m.read a = 0
  size_eq : m.cells.size = 4096

theorem glyphAddress_of_lt (m : Memory) {d : Nat} (h : d < 16) :
    m.glyphAddress d = m.layout.fontAddress + 5 * d := by
  have digit : (BitVec.ofInt 4 d).toNat = d := by
    rw [BitVec.toNat_ofInt]
    omega
  rw [glyphAddress, digit]
  rfl

/-- An integer address is the one that remains below 4096. -/
theorem toNat_address {a : Int} {n : Nat} (h : a % 4096 = n) : (BitVec.ofInt 12 a).toNat = n := by
  rw [BitVec.toNat_ofInt]
  omega

section

variable {l : Layout} {base : Nat} {m : Memory} {image : List Byte}

theorem read_of_load (font : l.FontAt base) (loaded : (blank l).load image = .ok m) {a : Int}
    {n : Nat} (address : a % 4096 = n) :
    some (m.read a) =
      if l.programStart.toNat ≤ n ∧ n < l.programStart.toNat + image.length
      then image[n - l.programStart.toNat]?
      else if base ≤ n ∧ n < base + 80 then Font.rows[n - base]? else some 0 := by
  have read := get_of_load loaded (.ofInt 12 a)
  rw [font.get_blank, toNat_address address] at read
  exact read

/-- A font before the program area and an image in it leave each other alone. -/
theorem shows_of_load (font : l.FontAt base) (loaded : (blank l).load image = .ok m) :
    m.Shows image := by
  have layout_eq : m.layout = l := (cells_of_load loaded).1
  have fits : image.length ≤ 4096 - l.programStart.toNat := length_le_of_load loaded
  have start := l.programStart.isLt
  have placed := font.1
  have room := font.2
  constructor
  · intro d hd k hk
    have address : (m.glyphAddress d + (k : Nat)) % 4096 = (base + (5 * d + k) : Nat) := by
      rw [m.glyphAddress_of_lt hd, layout_eq]
      omega
    rw [read_of_load font loaded address, if_neg (by omega), if_pos (by omega),
      Nat.add_sub_cancel_left]
  · intro j hj
    have address : ((l.programStart.toNat : Int) + (j : Nat)) % 4096 =
        (l.programStart.toNat + j : Nat) := by omega
    rw [layout_eq, read_of_load font loaded address, if_pos (by omega), Nat.add_sub_cancel_left]
  · intro a low high no_glyph no_image
    have address : a % 4096 = a.toNat := by omega
    have read := read_of_load font loaded address
    have outside : ¬ (l.programStart.toNat ≤ a.toNat ∧
        a.toNat < l.programStart.toNat + image.length) := by
      intro inside
      apply no_image (a.toNat - l.programStart.toNat) (by omega)
      rw [layout_eq]
      omega
    have no_row : ¬ (base ≤ a.toNat ∧ a.toNat < base + 80) := by
      intro inside
      apply no_glyph ((a.toNat - base) / 5) (by omega) ((a.toNat - base) % 5) (by omega)
      rw [m.glyphAddress_of_lt (by omega), layout_eq]
      omega
    rw [if_neg outside, if_neg no_row] at read
    exact Option.some.inj read
  · rw [m.size_cells, layout_eq]
    exact font.size_blankCells

/-- An image of zeros overwrites a font that reaches into the program area. -/
theorem not_shows_of_reaches (above : -4096 ≤ l.fontAddress) (below : l.fontAddress ≤ -81)
    (reaches : (l.programStart.toNat : Int) < l.fontAddress + 4096 + 80)
    (loaded : (blank l).load (List.replicate l.capacity 0) = .ok m) :
    ¬ m.Shows (List.replicate l.capacity 0) := by
  intro shows
  have layout_eq : m.layout = l := (cells_of_load loaded).1
  have capacity : l.capacity = 4096 - l.programStart.toNat := rfl
  -- The last row of the last glyph lies in the program area, and no row is zero.
  obtain ⟨last, place⟩ : ∃ last : Nat, (last : Int) = l.fontAddress + 4096 + 79 :=
    ⟨(l.fontAddress + 4096 + 79).toNat, by omega⟩
  have offset : last - l.programStart.toNat < l.capacity := by omega
  have row : some (m.read (m.glyphAddress (15 : Nat) + (4 : Nat))) = some 0x80 :=
    shows.glyph_eq 15 (by decide) 4 (by decide)
  have byte := shows.image_eq (last - l.programStart.toNat) (by rwa [List.length_replicate])
  rw [List.getElem?_replicate, if_pos offset, layout_eq] at byte
  have same : BitVec.ofInt 12 (m.glyphAddress (15 : Nat) + (4 : Nat)) =
      BitVec.ofInt 12 (l.programStart.toNat + (last - l.programStart.toNat : Nat)) := by
    apply BitVec.eq_of_toNat_eq
    rw [m.glyphAddress_of_lt (by decide), layout_eq, toNat_address (n := last) (by omega),
      toNat_address (n := last) (by omega)]
  rw [read, same] at row
  exact absurd (row.symm.trans byte) (by decide)

end

/-- Font and image are side by side in memory, whatever image is accepted, exactly if the font lies
before the program area, at its address or at the address that is counted from the end. -/
theorem shows_iff_font_before {font start : Int} {l : Layout}
    (accepted : Layout.ofAddresses font start = .ok l) :
    (∀ image m, (blank l).load image = .ok m → m.Shows image) ↔
      0 ≤ font ∨ (-4096 ≤ font ∧ font + 4096 + 80 ≤ start) := by
  obtain ⟨rfl, rfl⟩ := Layout.of_ofAddresses accepted
  constructor
  · intro shows
    refine Decidable.byContradiction fun misplaced => ?_
    obtain ⟨negative, reaches⟩ := not_or.mp misplaced
    have long_or_reaches : 4096 < l.blankCells.size ∨ _ :=
      Layout.size_or_reaches (by omega) (by omega)
    rcases long_or_reaches with long | ⟨above, below, reaches⟩
    · have size : l.blankCells.size = 4096 := (shows [] _ (blank l).load_nil).size_eq
      omega
    · have full : (List.replicate l.capacity (0 : Byte)).length ≤ l.capacity :=
        Nat.le_of_eq List.length_replicate
      obtain ⟨m, loaded⟩ := (blank l).load_of_le full
      exact not_shows_of_reaches above below reaches loaded (shows _ _ loaded)
  · intro before image m loaded
    have overlap : l.fontAddress + 80 ≤ l.programStart.toNat := l.font_le
    rcases before with positive | ⟨above, before⟩
    · have font : l.FontAt l.fontAddress.toNat := by
        constructor <;> omega
      exact shows_of_load font loaded
    · have font : l.FontAt (l.fontAddress + 4096).toNat := by
        constructor <;> omega
      exact shows_of_load font loaded

/-- The usual layout keeps font and image apart. -/
theorem shows_iff_font_before_standard :
    Layout.ofAddresses 0x050 0x200 = .ok .standard ∧
      ∀ image m, (blank .standard).load image = .ok m → m.Shows image := by
  have accepted : Layout.ofAddresses 0x050 0x200 = .ok .standard := rfl
  exact ⟨accepted, (shows_iff_font_before accepted).mpr (.inl (by decide))⟩

/-- The layout with the font a number of places before the end and the usual program area. -/
def fontBeforeEnd (places : Nat) (room : 0 < places) : Layout where
  fontAddress := -places
  programStart := 0x200
  start_pos := Layout.standard.start_pos
  font_le := by
    change -(places : Int) + 80 ≤ 512
    omega

/-- With the font forty places before the end, memory has grown and half of the glyphs are not where
they are looked up. With the font a hundred places before the end, an image overwrites it. -/
theorem not_shows_font_at_end :
    (∃ l m, Layout.ofAddresses (-40) 0x200 = .ok l ∧ (blank l).load [0x00, 0xE0] = .ok m ∧
      m.cells.size = 4176 ∧ m.read (m.glyphAddress 15 + 4) = 0 ∧ ¬ m.Shows [0x00, 0xE0]) ∧
    ∃ l m, Layout.ofAddresses (-100) 0x200 = .ok l ∧
      (blank l).load (List.replicate 3584 0) = .ok m ∧ ¬ m.Shows (List.replicate 3584 0) := by
  constructor
  · have fits : ([0x00, 0xE0] : List Byte).length ≤ (fontBeforeEnd 40 (by decide)).capacity := by
      decide
    obtain ⟨m, loaded⟩ := (blank _).load_of_le fits
    have layout_eq : m.layout = fontBeforeEnd 40 (by decide) := (cells_of_load loaded).1
    have size : m.cells.size = 4176 := by
      rw [m.size_cells, layout_eq, Layout.blankCells, Span.size_splice, Array.size_replicate]
      rfl
    have row : m.read (m.glyphAddress 15 + 4) = 0 := by
      have byte := get_of_load loaded 39
      have before : (39 : Address).toNat <
          Span.index (Array.replicate 4096 (0 : Byte)).size (-40) := by
        rw [Array.size_replicate]
        decide
      have cell : (fontBeforeEnd 40 (by decide)).blankCells[(39 : Address).toNat]? = some 0 := by
        rw [Layout.blankCells]
        exact (Span.getElem?_splice_of_lt _ _ _ before).trans Array.getElem?_replicate
      rw [if_neg (by decide), ← getElem?_cells_toNat (blank _)] at byte
      rw [read, glyphAddress, layout_eq]
      exact Option.some.inj (byte.trans cell)
    refine ⟨_, m, rfl, loaded, size, row, fun shows => ?_⟩
    have same := shows.size_eq
    omega
  · have fits : (List.replicate 3584 (0 : Byte)).length ≤
        (fontBeforeEnd 100 (by decide)).capacity := Nat.le_of_eq List.length_replicate
    obtain ⟨m, loaded⟩ := (blank _).load_of_le fits
    exact ⟨_, m, rfl, loaded, not_shows_of_reaches (by decide) (by decide) (by decide) loaded⟩

end Memory

end Chip8
