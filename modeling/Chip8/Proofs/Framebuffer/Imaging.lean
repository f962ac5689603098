import Chip8.Framebuffer.Imaging
import Chip8.Proofs.Framebuffer.Inside
import Chip8.Proofs.Framebuffer.Png

/-!
# Pictures as images

What an imaging library has to do for the images of a picture to show it: to keep the samples that
it is given in their order, to repeat each of them when an image is magnified by a whole factor, and
to write files from which the images are read back. A file of any such library shows the picture,
whatever the factor. `imaging` is one of them.
-/

namespace Chip8

/-- An action that succeeds goes through its first part. -/
theorem exists_of_bind_ok {x : Except ε α} {next : α → Except ε β} {b : β}
    (h : x >>= next = .ok b) : ∃ a, x = .ok a ∧ next a = .ok b := by
  cases x with
  | error e => contradiction
  | ok a => exact ⟨a, rfl, h⟩

/-! ## What images show -/

namespace Image

/-- The image has each sample of another one in a square of `k` samples a side. -/
structure Repeats (j i : Image) (k : Nat) : Prop where
  width_eq : j.width = i.width * k
  height_eq : j.height = i.height * k
  sample_eq : ∀ r < j.height, ∀ c < j.width, j.sample r c = i.sample (r / k) (c / k)

/-- The image has each bit of a grid in a square of `k` samples a side, white if the bit is set and
black if it is not. -/
structure Shows (i : Image) (s : Framebuffer.Size) (k : Nat) (bits : Nat → Nat → Bool) : Prop where
  width_eq : i.width = s.cols * k
  height_eq : i.height = s.rows * k
  sample_eq : ∀ r < i.height, ∀ c < i.width,
    i.sample r c = if bits (r / k) (c / k) then 255 else 0

variable {i j : Image} {s : Framebuffer.Size} {k : Nat} {bits : Nat → Nat → Bool}

/-- An image that repeats one of single samples shows what that one shows. -/
theorem Repeats.shows (repeats : j.Repeats i k) (shown : i.Shows s 1 bits) : j.Shows s k bits := by
  have width_eq : i.width = s.cols := by rw [shown.width_eq, Nat.mul_one]
  have height_eq : i.height = s.rows := by rw [shown.height_eq, Nat.mul_one]
  refine ⟨by rw [repeats.width_eq, width_eq], by rw [repeats.height_eq, height_eq], ?_⟩
  intro r hr c hc
  have row : r / k < i.height :=
    Nat.div_lt_of_lt_mul (by rwa [Nat.mul_comm, ← repeats.height_eq])
  have col : c / k < i.width :=
    Nat.div_lt_of_lt_mul (by rwa [Nat.mul_comm, ← repeats.width_eq])
  rw [repeats.sample_eq r hr c hc, shown.sample_eq _ row _ col, Nat.div_one, Nat.div_one]

/-- The rows of an image that shows a grid. -/
theorem Shows.toRows_eq (shown : i.Shows s k bits) :
    i.toRows = (List.range (s.rows * k)).map fun r =>
      (List.range (s.cols * k)).map fun c => bits (r / k) (c / k) := by
  rw [toRows, ← shown.height_eq, ← shown.width_eq]
  apply List.map_congr_left
  intro r hr
  rw [i.row_eq (List.mem_range.mp hr), List.map_map]
  apply List.map_congr_left
  intro c hc
  rw [Function.comp_apply, shown.sample_eq r (List.mem_range.mp hr) c (List.mem_range.mp hc)]
  cases bits (r / k) (c / k) <;> rfl

/-- The white samples are those that the rows show. -/
theorem whiteCount_eq (i : Image) : i.whiteCount = i.toRows.flatten.count true := by
  have rows_eq : i.toRows =
      ((List.range i.height).map i.row).map (List.map fun sample => decide (sample = 255)) := by
    rw [toRows, List.map_map]
    rfl
  rw [whiteCount, rows_eq, ← List.map_flatten, flatten_rows, ← Array.count_toList, List.count,
    List.count, List.countP_map]
  apply List.countP_congr
  intro sample _
  simp

end Image

/-! ## Imaging libraries -/

namespace Imaging

/-- What an imaging library does if it does not refuse: it keeps the samples in their order, repeats
them when it magnifies by a whole factor, and writes files that are read back. -/
structure Faithful (lib : Imaging) (read : List UInt8 → Option Image) : Prop where
  fromSamples_eq : ∀ {width height samples i}, lib.fromSamples width height samples = .ok i →
    i.width = width ∧ i.height = height ∧ i.samples.toList = samples
  resize_repeats : ∀ {i j k}, 0 < k →
    lib.resize i (i.width * k) (i.height * k) = .ok j → j.Repeats i k
  read_save : ∀ {i bytes}, lib.save i = .ok bytes → read bytes = some i

/-- An imaging library takes images of a size: it makes them, gives others that size and writes
them. -/
structure Takes (lib : Imaging) (width height : Nat) : Prop where
  fromSamples : ∀ samples, samples.length = width * height →
    ∃ i, lib.fromSamples width height samples = .ok i
  resize : ∀ i, ∃ j, lib.resize i width height = .ok j
  save : ∀ i : Image, i.width = width → i.height = height → ∃ bytes, lib.save i = .ok bytes

end Imaging

namespace Framebuffer

variable (f : Framebuffer) {lib : Imaging} {read : List UInt8 → Option Image}

/-- An image of the samples shows the pixels. -/
theorem shows_of_samples {i : Image} (width_eq : i.width = f.size.cols)
    (height_eq : i.height = f.size.rows)
    (samples_eq : i.samples.toList = f.samples.map Nat.toUInt8) : i.Shows f.size 1 f.lit := by
  refine ⟨by rw [width_eq, Nat.mul_one], by rw [height_eq, Nat.mul_one], ?_⟩
  intro r hr c hc
  rw [height_eq] at hr
  rw [width_eq] at hc
  have place : f.size.offset r c < f.pixels.size := by
    rw [f.size_pixels]
    exact Size.offset_lt_area hr hc
  have lit_eq : f.lit r c = f.pixels[f.size.offset r c] := by
    rw [lit, if_pos ⟨hr, hc⟩, Array.getElem?_eq_getElem place, Option.getD_some]
  -- A sample has the index that its pixel has.
  have sample_eq : i.samples[f.size.offset r c]? = some (if f.lit r c then 255 else 0) := by
    rw [← Array.getElem?_toList, samples_eq, List.getElem?_map, samples, List.getElem?_map,
      Array.getElem?_toList, Array.getElem?_eq_getElem place, lit_eq]
    cases f.pixels[f.size.offset r c] <;> rfl
  rw [Image.sample, width_eq, Nat.div_one, Nat.div_one]
  exact congrArg (fun sample => sample.getD 0) sample_eq

theorem magnified_natCast {k : Nat} (h : 0 < k) :
    f.magnified lib k = (do
      let i ← lib.fromSamples f.size.cols f.size.rows (f.samples.map Nat.toUInt8)
      if k = 1 then return i
      else lib.resize i (f.size.cols * k) (f.size.rows * k)) := by
  have single : (k : Int) = 1 ↔ k = 1 := by omega
  simp only [magnified, if_neg (by omega : ¬ (k : Int) ≤ 0), single, Int.toNat_natCast]

/-- A magnified image shows the pixels, each of them in a square. -/
theorem shows_magnified (faithful : lib.Faithful read) {k : Nat} (h : 0 < k) {i : Image}
    (made : f.magnified lib k = .ok i) : i.Shows f.size k f.lit := by
  rw [f.magnified_natCast h] at made
  obtain ⟨plain, taken, made⟩ := exists_of_bind_ok made
  obtain ⟨width_eq, height_eq, samples_eq⟩ := faithful.fromSamples_eq taken
  have shown := f.shows_of_samples width_eq height_eq samples_eq
  rw [← width_eq, ← height_eq] at made
  split at made
  case isTrue single =>
    rw [single, ← Except.ok.inj made]
    exact shown
  case isFalse => exact (faithful.resize_repeats h made).shows shown

/-- The file of a picture, once it is read back, shows the pixels. -/
theorem shows_render (faithful : lib.Faithful read) {k : Nat} (h : 0 < k) {bytes : List UInt8}
    (written : f.render lib k = .ok bytes) : ∃ i, read bytes = some i ∧ i.Shows f.size k f.lit := by
  obtain ⟨i, made, saved⟩ := exists_of_bind_ok written
  exact ⟨i, faithful.read_save saved, f.shows_magnified faithful h made⟩

/-- A library that takes images of the size of the picture and of the magnified one writes a
file. -/
theorem exists_render (faithful : lib.Faithful read) {k : Nat} (h : 0 < k)
    (plain : lib.Takes f.size.cols f.size.rows)
    (large : lib.Takes (f.size.cols * k) (f.size.rows * k)) :
    ∃ bytes, f.render lib k = .ok bytes := by
  have length : (f.samples.map Nat.toUInt8).length = f.size.cols * f.size.rows := by
    rw [List.length_map, samples, List.length_map, Array.length_toList, f.size_pixels, Size.area,
      Nat.mul_comm]
  obtain ⟨i, taken⟩ := plain.fromSamples _ length
  have made : ∃ j, f.magnified lib k = .ok j := by
    rw [f.magnified_natCast h, taken]
    by_cases single : k = 1
    · exact ⟨i, if_pos single⟩
    · obtain ⟨j, resized⟩ := large.resize i
      exact ⟨j, (if_neg single).trans resized⟩
  obtain ⟨j, made⟩ := made
  have shown := f.shows_magnified faithful h made
  obtain ⟨bytes, saved⟩ := large.save j shown.width_eq shown.height_eq
  refine ⟨bytes, ?_⟩
  rw [render, made]
  exact saved

end Framebuffer

/-! ## The library that writes PNG files -/

namespace Image

theorem checkRows_eq_ok {width height : Nat} :
    checkRows width height = .ok () ↔
      width ≤ rowLimit ∧ height < sideLimit ∧ width * height ≤ sampleLimit := by
  have limits : rowLimit < sideLimit ∧ rowLimit ≤ storedWidth := by decide
  rw [checkRows, checkStored]
  constructor
  · intro ok
    split at ok
    case isTrue => contradiction
    split at ok
    case isTrue => contradiction
    split at ok
    case isTrue => contradiction
    split at ok
    case isTrue => contradiction
    omega
  · rintro ⟨width_le, height_lt, samples_le⟩
    rw [if_neg (by omega), if_neg (by omega), if_neg (by omega), if_neg (by omega)]

theorem checkStored_of_checkRows {width height : Nat} (ok : checkRows width height = .ok ()) :
    checkStored width height = .ok () := by
  have width_le := (checkRows_eq_ok.mp ok).1
  rwa [checkRows, if_neg (by omega)] at ok

/-- The sample that lies under the middle of one of `k` equal parts of a sample is that sample. -/
theorem nearest_mul {length k place : Nat} (h : place < length * k) :
    nearest length (length * k) place = place / k := by
  have length_pos : 0 < length := Nat.pos_of_mul_pos_right (Nat.zero_lt_of_lt h)
  have parts : 2 * (length * k) = length * (2 * k) := by
    rw [Nat.mul_left_comm]
  rw [nearest, Nat.mul_comm _ length, parts, Nat.mul_div_mul_left _ _ length_pos,
    ← Nat.div_div_eq_div_mul]
  congr 1
  omega

theorem sample_resized (i : Image) {width height r c : Nat} (hr : r < height) (hc : c < width) :
    (i.resized width height).sample r c =
      i.sample (nearest i.height height r) (nearest i.width width c) := by
  have width_pos : 0 < width := Nat.zero_lt_of_lt hc
  have place : r * width + c < width * height := by
    have le : (r + 1) * width ≤ height * width := Nat.mul_le_mul_right _ hr
    rw [Nat.succ_mul, Nat.mul_comm height] at le
    omega
  have row : (r * width + c) / width = r := by
    rw [Nat.mul_comm, Nat.mul_add_div width_pos, Nat.div_eq_of_lt hc, Nat.add_zero]
  have col : (r * width + c) % width = c := by
    rw [Nat.mul_comm, Nat.mul_add_mod, Nat.mod_eq_of_lt hc]
  simp only [sample, resized, Array.getElem?_ofFn, dif_pos place, Option.getD_some, row, col]

theorem resized_repeats (i : Image) (k : Nat) :
    (i.resized (i.width * k) (i.height * k)).Repeats i k := by
  refine ⟨rfl, rfl, ?_⟩
  intro r hr c hc
  have hr : r < i.height * k := hr
  have hc : c < i.width * k := hc
  rw [i.sample_resized hr hc, nearest_mul hr, nearest_mul hc]

end Image

theorem eq_of_fromSamples {width height : Nat} {samples : List UInt8} {i : Image}
    (made : imaging.fromSamples width height samples = .ok i) :
    Image.ofSamples? width height samples = some i := by
  obtain ⟨-, -, made⟩ := exists_of_bind_ok made
  split at made
  case h_1 j given => rw [given, Except.ok.inj made]
  case h_2 => contradiction

/-- `imaging` keeps, repeats and writes samples as it should; `Png.read?` reads its files. -/
theorem imaging_faithful : imaging.Faithful Png.read? where
  fromSamples_eq := by
    intro width height samples i made
    have given := eq_of_fromSamples made
    rw [Image.ofSamples?] at given
    split at given
    · rw [← Option.some.inj given]
      exact ⟨rfl, rfl, rfl⟩
    · contradiction
  resize_repeats := by
    intro i j k _ made
    obtain ⟨-, -, made⟩ := exists_of_bind_ok made
    rw [← Except.ok.inj made]
    exact i.resized_repeats k
  read_save := by
    intro i bytes written
    obtain ⟨_, ok, written⟩ := exists_of_bind_ok written
    have limits : Image.rowLimit < 2 ^ 32 ∧ Image.sideLimit < 2 ^ 32 := by decide
    obtain ⟨width_le, height_lt, -⟩ := Image.checkRows_eq_ok.mp ok
    rw [← Except.ok.inj written]
    exact Png.read?_encode (by omega) (by omega)

/-- The sizes of images that `imaging` takes. -/
theorem imaging_takes {width height : Nat} (ok : Image.checkRows width height = .ok ()) :
    imaging.Takes width height where
  fromSamples := by
    intro samples length
    refine ⟨⟨width, height, samples.toArray, by rw [List.size_toArray, length]⟩, ?_⟩
    change (Image.checkRows width height >>= fun _ => _) = _
    rw [ok]
    simp only [bind, Except.bind, Image.ofSamples?, dif_pos length]
    rfl
  resize := by
    intro i
    refine ⟨i.resized width height, ?_⟩
    change (Image.checkStored width height >>= fun _ => _) = _
    rw [Image.checkStored_of_checkRows ok]
    rfl
  save := by
    intro i width_eq height_eq
    refine ⟨Png.encode i, ?_⟩
    change (Image.checkRows i.width i.height >>= fun _ => _) = _
    rw [width_eq, height_eq, ok]
    rfl

/-- The file of a picture is that of its image. -/
theorem Framebuffer.render_imaging (f : Framebuffer) (factor : Int) :
    f.render imaging factor = (f.image factor).map Png.encode := by
  rw [render, image]
  cases f.magnified imaging factor with
  | error e => rfl
  | ok i =>
    change (Image.checkRows i.width i.height >>= fun _ => .ok (Png.encode i)) =
      (Image.checkRows i.width i.height >>= fun _ => .ok i).map Png.encode
    cases Image.checkRows i.width i.height <;> rfl

end Chip8
