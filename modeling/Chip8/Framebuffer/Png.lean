import Chip8.Framebuffer.Image

/-!
# Images as PNG files

An image is written as a grey PNG of eight bits a sample. Its data is stored without compression, in
blocks of the greatest length that a stored block may have, and goes into chunks of that length.
-/

namespace Chip8.Png

/-! ## Numbers -/

/-- A number in four bytes, the most significant first. -/
def bigEndian (n : Nat) : List UInt8 :=
  [(n >>> 24).toUInt8, (n >>> 16).toUInt8, (n >>> 8).toUInt8, n.toUInt8]

/-- A number in two bytes, the least significant first. -/
def littleEndian (n : Nat) : List UInt8 := [n.toUInt8, (n >>> 8).toUInt8]

/-! ## Checks -/

/-- One step of the cyclic redundancy check, for the lowest bit. -/
def crcBit (crc : UInt32) : UInt32 :=
  if crc &&& 1 = 1 then (crc >>> 1) ^^^ 0xEDB88320 else crc >>> 1

/-- The cyclic redundancy check after one more byte. -/
def crcByte (crc : UInt32) (b : UInt8) : UInt32 :=
  (List.range 8).foldl (fun crc _ => crcBit crc) (crc ^^^ b.toUInt32)

/-- The cyclic redundancy check of a sequence of bytes. -/
def crc (bytes : List UInt8) : UInt32 := bytes.foldl crcByte 0xFFFFFFFF ^^^ 0xFFFFFFFF

/-- The check of uncompressed data: the sum of the bytes and the sum of these sums. -/
def adler (bytes : List UInt8) : Nat :=
  let (low, high) := bytes.foldl
    (fun (low, high) b =>
      let low := (low + b.toNat) % 65521
      (low, (high + low) % 65521))
    (1, 0)
  (high <<< 16) + low

/-! ## Data in pieces -/

/-- The greatest length of a stored block. -/
def blockLimit : Nat := 65535

/-- A sequence of bytes cut into pieces, all of which but the last have the greatest length. -/
def pieces (bytes : List UInt8) : List (List UInt8) :=
  if bytes.length ≤ blockLimit then [bytes]
  else bytes.take blockLimit :: pieces (bytes.drop blockLimit)
termination_by bytes.length
decreasing_by
  rw [List.length_drop]
  simp only [blockLimit] at *
  omega

/-- A piece as a stored block: whether it is the last one, its length twice, the second time with
every bit turned over, and its bytes. -/
def storedBlock (last : Bool) (piece : List UInt8) : List UInt8 :=
  (if last then 1 else 0) :: littleEndian piece.length
    ++ littleEndian (blockLimit - piece.length) ++ piece

/-- Pieces as stored blocks, of which the last is marked. -/
def storedBlocks : List (List UInt8) → List UInt8
  | [] => []
  | [piece] => storedBlock true piece
  | piece :: rest => storedBlock false piece ++ storedBlocks rest

/-- Data in the container of compressed data, though not compressed. -/
def container (data : List UInt8) : List UInt8 :=
  [0x78, 0x01] ++ storedBlocks (pieces data) ++ bigEndian (adler data)

/-! ## Files -/

/-- A name in bytes. -/
def nameBytes (name : String) : List UInt8 := name.toList.map fun c => c.toNat.toUInt8

/-- A chunk of the file: length, name, content and check. -/
def chunk (name content : List UInt8) : List UInt8 :=
  bigEndian content.length ++ name ++ content ++ bigEndian (crc (name ++ content)).toNat

/-- The name of the chunk that tells what the image is. -/
def headerName : List UInt8 := nameBytes "IHDR"

/-- The name of the chunks that hold its data. -/
def dataName : List UInt8 := nameBytes "IDAT"

/-- The name of the chunk that ends a file. -/
def endName : List UInt8 := nameBytes "IEND"

/-- The bytes that a file begins with. -/
def signature : List UInt8 := [0x89, 0x50, 0x4E, 0x47, 0x0D, 0x0A, 0x1A, 0x0A]

/-- What the file says of its samples: eight bits, grey, and the usual methods. -/
def sampleKind : List UInt8 := [8, 0, 0, 0, 0]

/-- What the file says of its image. -/
def header (i : Image) : List UInt8 := bigEndian i.width ++ bigEndian i.height ++ sampleKind

/-- The samples row by row, each row led by the number of the filter that leaves it as it is. -/
def scanlines (i : Image) : List UInt8 := (List.range i.height).flatMap fun r => 0 :: i.row r

/-- The chunks of the file of an image: what it is, its data in pieces, and the end. -/
def chunks (i : Image) : List (List UInt8 × List UInt8) :=
  (headerName, header i) :: (pieces (container (scanlines i))).map ((dataName, ·))
    ++ [(endName, [])]

/-- The file of an image. -/
def encode (i : Image) : List UInt8 :=
  signature ++ (chunks i).flatMap fun item => chunk item.1 item.2

end Chip8.Png
