import Chip8.Framebuffer.Png
import Chip8.Proofs.Bytes.Reader
import Chip8.Proofs.Framebuffer.Rows
import Mathlib.Algebra.Group.Nat.Defs

/-!
# Reading PNG files

A reader of the files that `Png.encode` writes. It trusts no length and no check that it finds. What
it reads from the file of an image is the image.
-/

namespace Chip8

/-! ## Rows of an image -/

namespace Image

variable (i : Image)

/-- A row has the samples of its places, from the left. -/
theorem row_eq {r : Nat} (h : r < i.height) : i.row r = (List.range i.width).map (i.sample r) := by
  have inside : (r + 1) * i.width ≤ i.samples.size := by
    rw [i.size_samples, Nat.mul_comm i.width]
    exact Nat.mul_le_mul_right _ h
  exact stretch_eq i.samples 0 inside

theorem length_row {r : Nat} (h : r < i.height) : (i.row r).length = i.width := by
  rw [i.row_eq h, List.length_map, List.length_range]

/-- The samples are the rows one after the other. -/
theorem flatten_rows :
    ((List.range i.height).map i.row).flatten = i.samples.toList := by
  have all : i.height * i.width = i.samples.size := by rw [i.size_samples, Nat.mul_comm]
  refine (flatten_stretches i.samples i.width i.height).trans ?_
  rw [all, Array.extract_size]

theorem ofSamples?_toList :
    ofSamples? i.width i.height i.samples.toList = some i := by
  rw [ofSamples?, dif_pos (by rw [Array.length_toList, i.size_samples])]

end Image

namespace Png

/-! ## Numbers -/

/-- The number that bytes make, the most significant first. -/
def number (bytes : List UInt8) : Nat := bytes.foldl (fun n b => 256 * n + b.toNat) 0

/-- A number in four bytes, the most significant first. -/
def readNumber : Reader Nat := do
  return number (← Reader.take 4)

/-- A number in two bytes, the least significant first. -/
def readShort : Reader Nat := do
  return number (← Reader.take 2).reverse

theorem number_bigEndian {n : Nat} (h : n < 2 ^ 32) : number (bigEndian n) = n := by
  simp only [number, bigEndian, List.foldl_cons, List.foldl_nil, UInt8.toNat_ofNat', Nat.toUInt8,
    Nat.shiftRight_eq_div_pow]
  omega

theorem number_littleEndian {n : Nat} (h : n < 2 ^ 16) : number (littleEndian n).reverse = n := by
  simp only [number, littleEndian, List.reverse_cons, List.reverse_nil, List.nil_append,
    List.singleton_append, List.foldl_cons, List.foldl_nil, UInt8.toNat_ofNat', Nat.toUInt8,
    Nat.shiftRight_eq_div_pow]
  omega

theorem reads_number {n : Nat} (h : n < 2 ^ 32) : Reads readNumber (bigEndian n) n := by
  refine (Reads.take (bigEndian n)).seq_pure ?_
  rw [number_bigEndian h]
  exact Reads.pure n

theorem reads_short {n : Nat} (h : n < 2 ^ 16) : Reads readShort (littleEndian n) n := by
  refine (Reads.take (littleEndian n)).seq_pure ?_
  rw [number_littleEndian h]
  exact Reads.pure n

/-! ## Data in pieces -/

theorem flatten_pieces (bytes : List UInt8) : (pieces bytes).flatten = bytes := by
  induction bytes using pieces.induct with
  | case1 bytes short => rw [pieces, if_pos short, List.flatten_singleton]
  | case2 bytes long ih => rw [pieces, if_neg long, List.flatten_cons, ih, List.take_append_drop]

theorem length_le_of_mem_pieces {bytes piece : List UInt8} (mem : piece ∈ pieces bytes) :
    piece.length ≤ blockLimit := by
  induction bytes using pieces.induct with
  | case1 bytes short =>
    rw [pieces, if_pos short, List.mem_singleton] at mem
    rwa [mem]
  | case2 bytes long ih =>
    rw [pieces, if_neg long, List.mem_cons] at mem
    obtain rfl | later := mem
    · exact List.length_take_le blockLimit bytes
    · exact ih later

/-- There is a last piece. -/
theorem exists_pieces (bytes : List UInt8) : ∃ first last, pieces bytes = first ++ [last] := by
  have nonempty : pieces bytes ≠ [] := by
    rw [pieces]
    split <;> simp
  exact ⟨_, _, (List.dropLast_concat_getLast nonempty).symm⟩

/-! ## Stored blocks -/

/-- A stored block: whether it is the last one, and its bytes. -/
def readBlock : Reader (Bool × List UInt8) := do
  let kind ← Reader.take 1
  guard (kind = [0] ∨ kind = [1])
  let length ← readShort
  let turned ← readShort
  guard (length + turned = blockLimit)
  let piece ← Reader.take length
  return (decide (kind = [1]), piece)

/-- Data in the container of compressed data, if it is not compressed. -/
def readContainer : Reader (List UInt8) := do
  Reader.expect [0x78, 0x01]
  let blocks ← Reader.upTo (fun block => block.1) readBlock
  let data := (blocks.map fun block => block.2).flatten
  Reader.expect (bigEndian (adler data))
  return data

theorem reads_storedBlock (last : Bool) {piece : List UInt8} (h : piece.length ≤ blockLimit) :
    Reads readBlock (storedBlock last piece) (last, piece) := by
  have limit : blockLimit < 2 ^ 16 := by decide
  have form : storedBlock last piece =
      [if last then 1 else 0] ++ (littleEndian piece.length ++
        (littleEndian (blockLimit - piece.length) ++ piece)) := by
    simp only [storedBlock, List.cons_append, List.nil_append, List.append_assoc]
  have kinds : (decide (([if last then 1 else 0] : List UInt8) = [1])) = last := by
    cases last <;> rfl
  rw [form]
  refine (Reads.take [if last then 1 else 0]).bind ?_
  refine (Reads.of_check (by cases last <;> decide)).bind ?_
  refine (reads_short (by omega)).bind ?_
  refine (reads_short (by omega)).bind ?_
  refine (Reads.of_check (by omega)).bind ?_
  refine (Reads.take piece).seq_pure ?_
  rw [kinds]
  exact Reads.pure _

/-- Pieces with marks: only the last of them is marked as the last. -/
def marked (first : List (List UInt8)) (last : List UInt8) : List (Bool × List UInt8) :=
  first.map (false, ·) ++ [(true, last)]

theorem map_snd_marked (first : List (List UInt8)) (last : List UInt8) :
    (marked first last).map (fun block => block.2) = first ++ [last] := by
  have plain : (first.map (false, ·)).map (fun block => block.2) = first := by
    rw [List.map_map]
    exact List.map_id first
  rw [marked, List.map_append, plain]
  rfl

theorem storedBlocks_append (first : List (List UInt8)) (last : List UInt8) :
    storedBlocks (first ++ [last]) =
      (marked first last).flatMap fun block => storedBlock block.1 block.2 := by
  induction first with
  | nil => exact (List.append_nil _).symm
  | cons piece first ih =>
    -- A piece before others is stored as one that is not the last.
    have more : first ++ [last] ≠ [] := List.append_ne_nil_of_right_ne_nil first (by simp)
    rw [List.cons_append, storedBlocks.eq_3 piece _ more, ih]
    rfl

/-- Stored blocks are read up to the one that is marked. -/
theorem reads_storedBlocks {first : List (List UInt8)} {last : List UInt8}
    (short : ∀ piece ∈ first ++ [last], piece.length ≤ blockLimit) :
    Reads (Reader.upTo (fun block => block.1) readBlock) (storedBlocks (first ++ [last]))
      (marked first last) := by
  have earlier : ∀ block ∈ first.map (false, ·),
      Reads readBlock (storedBlock block.1 block.2) block ∧ block.1 = false ∧
        storedBlock block.1 block.2 ≠ [] := by
    intro block mem
    obtain ⟨piece, member, rfl⟩ := List.mem_map.mp mem
    have small := short piece (List.mem_append_left _ member)
    exact ⟨reads_storedBlock false small, rfl, by simp [storedBlock]⟩
  have final : Reads readBlock (storedBlock true last) (true, last) :=
    reads_storedBlock true (short last (List.mem_append_right first List.mem_cons_self))
  have blocks := Reads.upTo (fun block : Bool × List UInt8 => block.1)
    (fun block => storedBlock block.1 block.2) (true, last) earlier final rfl
  rwa [storedBlocks_append]

theorem reads_container (data : List UInt8) : Reads readContainer (container data) data := by
  obtain ⟨first, last, parts⟩ := exists_pieces data
  have short : ∀ piece ∈ first ++ [last], piece.length ≤ blockLimit := fun piece mem =>
    length_le_of_mem_pieces (parts ▸ mem)
  have joined : ((marked first last).map fun block => block.2).flatten = data := by
    rw [map_snd_marked, ← parts, flatten_pieces]
  rw [container, readContainer, List.append_assoc, parts]
  refine (Reads.expect [0x78, 0x01]).bind ?_
  refine (reads_storedBlocks short).bind ?_
  -- The check is the one of the data that the blocks hold together.
  rw [joined]
  exact (Reads.expect _).seq_pure (Reads.pure data)

/-! ## Chunks -/

/-- A chunk: the bytes of its name, and its content. -/
def readChunk : Reader (List UInt8 × List UInt8) := do
  let length ← readNumber
  let name ← Reader.take 4
  let content ← Reader.take length
  Reader.expect (bigEndian (crc (name ++ content)).toNat)
  return (name, content)

/-- The chunks of a file. -/
def readChunks : Reader (List (List UInt8 × List UInt8)) := do
  Reader.expect signature
  Reader.upTo (fun chunk => decide (chunk.1 = endName)) readChunk

/-- The content of the chunk that comes first and tells what the image is. -/
def heading? : List (List UInt8 × List UInt8) → Option (List UInt8)
  | (name, content) :: _ => if name = headerName then some content else none
  | [] => none

/-- The contents of the chunks that hold data, one after the other. -/
def contents (chunks : List (List UInt8 × List UInt8)) : List UInt8 :=
  (chunks.filter fun chunk => chunk.1 = dataName).flatMap fun chunk => chunk.2

theorem reads_chunk {name content : List UInt8} (named : name.length = 4)
    (h : content.length < 2 ^ 32) : Reads readChunk (chunk name content) (name, content) := by
  rw [chunk, readChunk, List.append_assoc, List.append_assoc, ← named]
  refine (reads_number h).bind ?_
  refine (Reads.take name).bind ?_
  refine (Reads.take content).bind ?_
  exact (Reads.expect _).seq_pure (Reads.pure _)

theorem headerName_ne : headerName ≠ dataName ∧ headerName ≠ endName := by decide

theorem dataName_ne : dataName ≠ endName := by decide

/-! ## Files -/

/-- The width and the height of an image, if its samples are of the usual kind. -/
def readHeader : Reader (Nat × Nat) := do
  let width ← readNumber
  let height ← readNumber
  Reader.expect sampleKind
  return (width, height)

/-- The samples of a row. -/
def readLine (width : Nat) : Reader (List UInt8) := do
  Reader.expect [0]
  Reader.take width

/-- The image in a file. -/
def read? (bytes : List UInt8) : Option Image := do
  let chunks ← Reader.whole readChunks bytes
  let heading ← heading? chunks
  let (width, height) ← Reader.whole readHeader heading
  let lines ← Reader.whole readContainer (contents chunks)
  let rows ← Reader.whole ((List.range height).mapM fun _ => readLine width) lines
  Image.ofSamples? width height rows.flatten

variable {i : Image}

theorem reads_scanlines :
    Reads ((List.range i.height).mapM fun _ => readLine i.width) (scanlines i)
      ((List.range i.height).map i.row) := by
  refine Reads.mapM ?_
  intro r mem
  rw [← i.length_row (List.mem_range.mp mem)]
  exact (Reads.expect [0]).bind (Reads.take (i.row r))

/-- The chunks of a file are read up to the one that ends it. -/
theorem reads_chunks (i : Image) : Reads readChunks (encode i) (chunks i) := by
  have earlier : ∀ item ∈ (headerName, header i) ::
      (pieces (container (scanlines i))).map ((dataName, ·)),
      Reads readChunk (chunk item.1 item.2) item ∧ decide (item.1 = endName) = false ∧
        chunk item.1 item.2 ≠ [] := by
    intro item mem
    obtain rfl | mem := List.mem_cons.mp mem
    · exact ⟨reads_chunk rfl (by simp [header, bigEndian, sampleKind]),
        decide_eq_false headerName_ne.2, by simp [chunk, bigEndian]⟩
    · obtain ⟨piece, member, rfl⟩ := List.mem_map.mp mem
      have short : piece.length < 2 ^ 32 :=
        Nat.lt_of_le_of_lt (length_le_of_mem_pieces member) (by decide)
      exact ⟨reads_chunk rfl short, decide_eq_false dataName_ne, by simp [chunk, bigEndian]⟩
  have final : Reads readChunk (chunk endName []) (endName, []) := reads_chunk rfl (by decide)
  have all := Reads.upTo (fun item : List UInt8 × List UInt8 => decide (item.1 = endName))
    (fun item => chunk item.1 item.2) (endName, []) earlier final (decide_eq_true rfl)
  rw [readChunks, encode]
  exact (Reads.expect signature).bind all

theorem contents_chunks (i : Image) : contents (chunks i) = container (scanlines i) := by
  have data (parts : List (List UInt8)) : contents (parts.map ((dataName, ·))) = parts.flatten := by
    rw [contents, List.filter_eq_self.mpr, List.flatMap_map]
    · exact List.flatMap_id
    · intro chunk mem
      obtain ⟨piece, -, rfl⟩ := List.mem_map.mp mem
      exact decide_eq_true rfl
  rw [← flatten_pieces (container (scanlines i)), ← data]
  simp [contents, chunks, headerName_ne, dataName_ne.symm]

theorem reads_header (width_lt : i.width < 2 ^ 32) (height_lt : i.height < 2 ^ 32) :
    Reads readHeader (header i) (i.width, i.height) := by
  rw [header, readHeader, List.append_assoc]
  refine (reads_number width_lt).bind ?_
  refine (reads_number height_lt).bind ?_
  exact (Reads.expect sampleKind).seq_pure (Reads.pure _)

/-- What is read from the file of an image is the image, if its sides fit into the header. -/
theorem read?_encode (width_lt : i.width < 2 ^ 32) (height_lt : i.height < 2 ^ 32) :
    read? (encode i) = some i := by
  have heading : heading? (chunks i) = some (header i) := by
    simp only [chunks, List.cons_append, heading?, if_true]
  rw [read?, (reads_chunks i).whole]
  simp only [Option.bind_eq_bind, Option.bind_some, heading, contents_chunks,
    (reads_header width_lt height_lt).whole, (reads_container _).whole, reads_scanlines.whole,
    Image.flatten_rows, Image.ofSamples?_toList]

end Png

end Chip8
