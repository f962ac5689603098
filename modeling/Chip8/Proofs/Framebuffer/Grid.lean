import Chip8.Proofs.Framebuffer.Imaging
import Mathlib.Algebra.BigOperators.Intervals

/-!
# The picture as a grid of bits

A framebuffer stores its pixels in one row of memory, cuts them out and scales them in several ways,
and takes integers for positions. `grid` tells the picture from the accesses alone: a bit at each
position, which is what was set there last since the picture was last cleared. The main statement
says that every way of looking at the framebuffer shows this grid, and that the mark tells whether
anything changed since it was last taken.
-/

namespace Chip8

namespace Framebuffer

/-! ## Accesses -/

/-- What a host asks of a framebuffer: to change it, to take its mark, or to show it. -/
inductive Access where
  | set (row col bit : Int)
  | clear
  | takeDirty
  | get (row col : Int)
  | toRows
  | textRows (on off : String)
  | toText (on off : String)
  | samples
  | image (scale : Int)
  | litCount
  | isBlank
  deriving DecidableEq, Repr

/-- The framebuffer after an access, whether it was refused or not. Showing it changes nothing. -/
def after (f : Framebuffer) : Access → Framebuffer
  | .set row col bit => (f.set row col (bit != 0)).toOption.getD f
  | .clear => f.clear
  | .takeDirty => f.takeDirty.2
  | _ => f

/-- The framebuffer after accesses one after the other. -/
def afterAll (f : Framebuffer) (accesses : List Access) : Framebuffer := accesses.foldl after f

/-! ## The grid -/

/-- The position lies inside the rectangle. -/
def Size.Holds (s : Size) (row col : Int) : Prop :=
  (0 ≤ row ∧ row < s.rows) ∧ 0 ≤ col ∧ col < s.cols

instance (s : Size) (row col : Int) : Decidable (s.Holds row col) :=
  inferInstanceAs (Decidable (_ ∧ _))

namespace Access

/-- The bit that an access sets at a position. -/
def bitAt? (s : Size) (r c : Nat) : Access → Option Bool
  | set row col bit => if s.Holds row col ∧ row = r ∧ col = c then some (bit != 0) else none
  | _ => none

/-- The access sets a pixel inside the rectangle or clears the picture. -/
def Changes (s : Size) : Access → Prop
  | set row col _ => s.Holds row col
  | clear => True
  | _ => False

end Access

/-- The accesses since the last one of a kind, the most recent first. -/
def since (last : Access) (accesses : List Access) : List Access :=
  accesses.reverse.takeWhile (· ≠ last)

/-- The bit that was set last at a position since the picture was cleared, dark if none was. -/
def grid (s : Size) (accesses : List Access) (r c : Nat) : Bool :=
  ((since .clear accesses).findSome? (Access.bitAt? s r c)).getD false

/-- What a function of positions gives in the rectangle, row by row from the top. -/
def Size.table (s : Size) (p : Nat → Nat → α) : List (List α) :=
  (List.range s.rows).map fun r => (List.range s.cols).map (p r)

/-! ## Single accesses -/

section

variable {f : Framebuffer} {row col : Int}

theorem exists_inside (h : f.size.Holds row col) :
    ∃ r c : Nat, row = r ∧ col = c ∧ f.Inside (r, c) := by
  obtain ⟨⟨row_nonneg, row_lt⟩, col_nonneg, col_lt⟩ := h
  obtain ⟨r, rfl⟩ := Int.eq_ofNat_of_zero_le row_nonneg
  obtain ⟨c, rfl⟩ := Int.eq_ofNat_of_zero_le col_nonneg
  exact ⟨r, c, rfl, rfl, Int.ofNat_lt.mp row_lt, Int.ofNat_lt.mp col_lt⟩

theorem get_of_holds (h : f.size.Holds row col) :
    f.get row col = .ok (f.lit row.toNat col.toNat) := by
  obtain ⟨r, c, rfl, rfl, inside⟩ := exists_inside h
  exact get_of_inside inside

theorem get_of_not_holds (h : ¬ f.size.Holds row col) :
    f.get row col = .error (.position row col) := by
  have outside : f.size.offset? row col = none := dif_neg h
  simp only [get, outside]

/-- A pixel that is set has its bit, and no other pixel is affected. -/
theorem exists_set_of_holds (h : f.size.Holds row col) (value : Bool) :
    ∃ f', f.set row col value = .ok f' ∧ f'.size = f.size ∧ f'.dirty = true ∧
      ∀ r c : Nat, f'.lit r c = if row = r ∧ col = c then value else f.lit r c := by
  obtain ⟨r₀, c₀, rfl, rfl, inside⟩ := exists_inside h
  have stored : f.set r₀ c₀ value =
      .ok (f.setAt ⟨f.size.offset r₀ c₀, Size.offset_lt_area inside.1 inside.2⟩ value) := by
    simp only [set, offset?_of_inside inside]
  refine ⟨_, stored, rfl, rfl, ?_⟩
  intro r c
  have same : (r₀ : Int) = r ∧ (c₀ : Int) = c ↔ r = r₀ ∧ c = c₀ := by omega
  rw [lit_setAt f inside.1 inside.2]
  simp only [same]

theorem set_of_not_holds (h : ¬ f.size.Holds row col) (value : Bool) :
    f.set row col value = .error (.position row col) := by
  have outside : f.size.offset? row col = none := dif_neg h
  simp only [set, outside]

end

variable (f : Framebuffer) (a : Access)

/-- Only setting a pixel inside, clearing and taking the mark do anything. -/
theorem after_of_not_changes {a : Access} (h : ¬ a.Changes f.size) (keeps : a ≠ .takeDirty) :
    f.after a = f := by
  cases a with
  | set row col bit => simp only [after, set_of_not_holds h]; rfl
  | clear => exact absurd trivial h
  | takeDirty => contradiction
  | _ => rfl

@[simp]
theorem size_after : (f.after a).size = f.size := by
  cases a with
  | set row col bit =>
    by_cases h : f.size.Holds row col
    · obtain ⟨f', stored, size_eq, -⟩ := exists_set_of_holds h (bit != 0)
      simp only [after, stored]
      exact size_eq
    · simp only [after, set_of_not_holds h]
      rfl
  | _ => rfl

theorem lit_after (r c : Nat) :
    (f.after a).lit r c =
      if a = .clear then false else (a.bitAt? f.size r c).getD (f.lit r c) := by
  cases a with
  | set row col bit =>
    rw [if_neg (by simp)]
    by_cases h : f.size.Holds row col
    · obtain ⟨f', stored, -, -, lit_eq⟩ := exists_set_of_holds h (bit != 0)
      simp only [after, stored, Access.bitAt?, h, true_and]
      refine (lit_eq r c).trans ?_
      split <;> rfl
    · simp only [after, set_of_not_holds h, Access.bitAt?, h, false_and, if_false]
      rfl
  | clear => exact lit_clear f r c
  | _ => rfl

theorem dirty_after :
    (f.after a).dirty = true ↔ a ≠ .takeDirty ∧ (a.Changes f.size ∨ f.dirty = true) := by
  cases a with
  | set row col bit =>
    by_cases h : f.size.Holds row col
    · obtain ⟨f', stored, -, dirty_eq, -⟩ := exists_set_of_holds h (bit != 0)
      simp only [after, stored, Access.Changes, h, true_or, and_true, ne_eq, reduceCtorEq,
        not_false_eq_true, iff_true]
      exact dirty_eq
    · have kept : f.after (.set row col bit) = f := f.after_of_not_changes h (by simp)
      rw [kept]
      simp [Access.Changes, h]
  | clear => simp [after, clear, Access.Changes]
  | takeDirty => simp [after, takeDirty, clean]
  | _ => simp [after, Access.Changes]

/-! ## Histories -/

section

variable (s : Size) (accesses : List Access)

theorem afterAll_concat : f.afterAll (accesses ++ [a]) = (f.afterAll accesses).after a := by
  rw [afterAll, List.foldl_append]
  rfl

theorem since_concat (last : Access) :
    since last (accesses ++ [a]) = if a = last then [] else a :: since last accesses := by
  rw [since, List.reverse_append, List.reverse_singleton, List.singleton_append,
    List.takeWhile_cons]
  by_cases h : a = last
  · rw [if_pos h, if_neg (by simpa using h)]
  · rw [if_neg h, if_pos (by simpa using h)]
    rfl

theorem grid_concat (r c : Nat) :
    grid s (accesses ++ [a]) r c =
      if a = .clear then false else (a.bitAt? s r c).getD (grid s accesses r c) := by
  rw [grid, since_concat]
  split
  · rfl
  · rw [List.findSome?_cons]
    cases a.bitAt? s r c <;> rfl

theorem size_afterAll : ((dark s).afterAll accesses).size = s := by
  induction accesses using List.reverseRecOn with
  | nil => rfl
  | append_singleton accesses a ih => rw [afterAll_concat, size_after, ih]

/-- The pixels of a framebuffer are the bits of the grid. -/
theorem lit_afterAll (r c : Nat) : ((dark s).afterAll accesses).lit r c = grid s accesses r c := by
  induction accesses using List.reverseRecOn with
  | nil => exact lit_dark s r c
  | append_singleton accesses a ih =>
    rw [afterAll_concat, lit_after, grid_concat, size_afterAll, ih]

/-- The mark tells whether something changed since it was taken. -/
theorem dirty_afterAll :
    ((dark s).afterAll accesses).dirty = true ↔ ∃ a ∈ since .takeDirty accesses, a.Changes s := by
  induction accesses using List.reverseRecOn with
  | nil => simp [afterAll, dark, since]
  | append_singleton accesses a ih =>
    rw [afterAll_concat, dirty_after, size_afterAll, ih, since_concat]
    split
    case isTrue h => simp [h]
    case isFalse h => simp [h]

end

/-! ## Ways of looking at a framebuffer -/

theorem toRows_eq_table : f.toRows = f.size.table f.lit := f.toRows_eq

theorem textRows_eq (on off : String) :
    f.textRows on off =
      (f.size.table fun r c => if f.lit r c then on else off).map String.join := by
  rw [textRows, toRows_eq_table, Size.table, Size.table, List.map_map, List.map_map]
  apply List.map_congr_left
  intro r _
  simp only [Function.comp_apply, List.map_map]
  rfl

theorem samples_eq :
    f.samples = (f.size.table fun r c => if f.lit r c then 255 else 0).flatten := by
  rw [samples, toList_pixels, toRows_eq_table, List.map_flatten, Size.table, Size.table,
    List.map_map]
  congr 1
  apply List.map_congr_left
  intro r _
  simp only [Function.comp_apply, List.map_map]
  rfl

/-- The number of lit pixels is the number of positions with a lit pixel. -/
theorem litCount_eq_card :
    f.litCount =
      {p ∈ Finset.range f.size.rows ×ˢ Finset.range f.size.cols | f.lit p.1 p.2 = true}.card := by
  have inRow (r : Nat) : (List.range f.size.cols).countP (f.lit r) =
      ∑ c ∈ Finset.range f.size.cols, if f.lit r c = true then 1 else 0 := by
    have filtered : {c ∈ Finset.range f.size.cols | f.lit r c = true}.card =
        ((List.range f.size.cols).filter fun c => decide (f.lit r c = true)).length := rfl
    rw [← Finset.card_filter, filtered, List.countP_eq_length_filter]
    simp only [Bool.decide_eq_true]
  have byRows : f.litCount = ((List.range f.size.rows).map fun r =>
      (List.range f.size.cols).countP (f.lit r)).sum := by
    rw [litCount, ← Array.countP_toList, toList_pixels, List.countP_flatten, toRows_eq,
      List.map_map]
    congr 1
    apply List.map_congr_left
    intro r _
    rw [Function.comp_apply, List.countP_map]
    rfl
  rw [byRows, Finset.card_filter, Finset.sum_product]
  simp only [inRow]
  rfl

theorem isBlank_iff : f.isBlank = true ↔ f.litCount = 0 := by
  rw [isBlank, litCount, Bool.not_eq_true', Array.any_eq_false', Array.countP_eq_zero]

/-! ## The framebuffer as a grid -/

/-- The framebuffer is read and set exactly inside its rectangle, every way of looking at it shows
the bits of a grid, and none of them changes it. -/
structure ShowsGrid (lib : Imaging) (read : List UInt8 → Option Image) (s : Size)
    (bits : Nat → Nat → Bool) (f : Framebuffer) : Prop where
  get_inside : ∀ row col : Int, s.Holds row col → f.get row col = .ok (bits row.toNat col.toNat)
  get_outside : ∀ row col : Int, ¬ s.Holds row col → f.get row col = .error (.position row col)
  set_inside : ∀ row col : Int, s.Holds row col → ∀ value, ∃ f', f.set row col value = .ok f'
  set_outside : ∀ row col : Int, ¬ s.Holds row col →
    ∀ value, f.set row col value = .error (.position row col)
  toRows_eq : f.toRows = s.table bits
  textRows_eq : ∀ on off : String,
    f.textRows on off = (s.table fun r c => if bits r c then on else off).map String.join
  toText_eq : ∀ on off : String, f.toText on off =
    "\n".intercalate ((s.table fun r c => if bits r c then on else off).map String.join)
  samples_eq : f.samples = (s.table fun r c => if bits r c then 255 else 0).flatten
  /-- Whatever file is written, its image shows every bit in a square. -/
  render_shows : ∀ k : Nat, 0 < k → ∀ bytes, f.render lib k = .ok bytes →
    ∃ i, read bytes = some i ∧ i.Shows s k bits
  /-- A file is written unless the library takes no images of its size. -/
  render_written : ∀ k : Nat, 0 < k → lib.Takes s.cols s.rows →
    lib.Takes (s.cols * k) (s.rows * k) → ∃ bytes, f.render lib k = .ok bytes
  litCount_eq : f.litCount =
    {p ∈ Finset.range s.rows ×ˢ Finset.range s.cols | bits p.1 p.2 = true}.card
  isBlank_iff : f.isBlank = true ↔ f.litCount = 0
  unchanged : ∀ a : Access, ¬ a.Changes s → a ≠ .takeDirty → f.after a = f

theorem showsGrid {lib : Imaging} {read : List UInt8 → Option Image}
    (faithful : lib.Faithful read) : f.ShowsGrid lib read f.size f.lit where
  get_inside _ _ := get_of_holds
  get_outside _ _ := get_of_not_holds
  set_inside _ _ inside value :=
    let ⟨f', stored, _⟩ := exists_set_of_holds inside value
    ⟨f', stored⟩
  set_outside _ _ := set_of_not_holds
  toRows_eq := f.toRows_eq_table
  textRows_eq := f.textRows_eq
  toText_eq on off := congrArg _ (f.textRows_eq on off)
  samples_eq := f.samples_eq
  render_shows _ positive _ written := f.shows_render faithful positive written
  render_written _ positive plain large := f.exists_render faithful positive plain large
  litCount_eq := f.litCount_eq_card
  isBlank_iff := f.isBlank_iff
  unchanged _ := f.after_of_not_changes

/-- After any accesses a framebuffer is read and set exactly inside its rectangle, and every way of
looking at it shows the bit that was set last at each position since the picture was cleared: the
single pixels, the rows, the texts, the samples, the number of lit pixels, and the image files of
every scale that an imaging library writes. It is marked if something changed since the mark was
taken. Showing it changes nothing, and neither does an access that is refused. -/
theorem shows_grid {lib : Imaging} {read : List UInt8 → Option Image}
    (faithful : lib.Faithful read) (s : Size) (accesses : List Access) :
    let f := (dark s).afterAll accesses
    f.ShowsGrid lib read s (grid s accesses) ∧
      (f.dirty = true ↔ ∃ a ∈ since .takeDirty accesses, a.Changes s) := by
  intro f
  have size_eq : f.size = s := size_afterAll s accesses
  have lit_eq : f.lit = grid s accesses := funext₂ (lit_afterAll s accesses)
  have shown := f.showsGrid faithful
  rw [size_eq, lit_eq] at shown
  exact ⟨shown, dirty_afterAll s accesses⟩

/-- A picture of two rows and three columns, of which one pixel was lit before it was cleared and
one after. The file of the usual library that shows it at twice its size is read back as an image
of four rows and six columns, white in the four samples of that pixel. -/
theorem shows_grid_imaging :
    let s : Size := ⟨2, 3, by decide, by decide⟩
    let f := (dark s).afterAll [.set 1 2 1, .clear, .set 0 1 5, .set 2 0 1]
    imaging.Faithful Png.read? ∧ f.get 0 1 = .ok true ∧ f.get 1 2 = .ok false ∧
      f.get 2 0 = .error (.position 2 0) ∧ f.dirty = true ∧
      ∃ bytes i, f.render imaging 2 = .ok bytes ∧ Png.read? bytes = some i ∧ i.width = 6 ∧
        i.height = 4 ∧ i.sample 1 3 = 255 ∧ i.sample 3 1 = 0 := by
  intro s f
  obtain ⟨shown, dirty_iff⟩ := shows_grid imaging_faithful s
    [.set 1 2 1, .clear, .set 0 1 5, .set 2 0 1]
  have plain : imaging.Takes s.cols s.rows := imaging_takes (by decide)
  have large : imaging.Takes (s.cols * 2) (s.rows * 2) := imaging_takes (by decide)
  obtain ⟨bytes, written⟩ := shown.render_written 2 (by decide) plain large
  obtain ⟨i, found, shows⟩ := shown.render_shows 2 (by decide) bytes written
  have width_eq : i.width = 6 := shows.width_eq
  have height_eq : i.height = 4 := shows.height_eq
  refine ⟨imaging_faithful, shown.get_inside 0 1 (by decide), shown.get_inside 1 2 (by decide),
    shown.get_outside 2 0 (by decide), dirty_iff.mpr ?_, bytes, i, written, found, width_eq,
    height_eq, ?_, ?_⟩
  · have inside : s.Holds 0 1 := by decide
    exact ⟨.set 0 1 5, by decide, inside⟩
  · exact shows.sample_eq 1 (by omega) 3 (by omega)
  · exact shows.sample_eq 3 (by omega) 1 (by omega)

end Framebuffer

end Chip8
