import ChipEight.Image
import ChipEight.Text.Basic

/-!
# Image files

Pictures are saved as portable pixmaps, as bitmaps of 24 bits a pixel, or as PNG files whose data
is stored without compression.
-/

namespace ChipEight.Image

variable {width height : Nat}

/-- A number in four bytes, the high byte first. -/
def bigEndian (n : Nat) : List UInt8 :=
  [UInt8.ofNat (n / 16777216), UInt8.ofNat (n / 65536), UInt8.ofNat (n / 256), UInt8.ofNat n]

/-- A number in `count` bytes, the low byte first. -/
def littleEndian : Nat → Nat → List UInt8
  | 0, _ => []
  | count + 1, n => UInt8.ofNat n :: littleEndian count (n / 256)

/-- The rows from the top, each pixel as the given bytes. -/
def rowBytes (image : Image width height) (pixel : Rgb → List UInt8) : List (List UInt8) :=
  image.rows.toList.map fun row => row.toList.flatMap pixel

/-- A colour in the order red, green, blue. -/
def redFirst (color : Rgb) : List UInt8 :=
  [color.red, color.green, color.blue]

/-- A colour in the order blue, green, red. -/
def blueFirst (color : Rgb) : List UInt8 :=
  [color.blue, color.green, color.red]

/-- A portable pixmap. -/
def toPixmap (image : Image width height) : List UInt8 :=
  s!"P6\n{width} {height}\n255\n".toUTF8.toList ++ (image.rowBytes redFirst).flatten

/-- A bitmap file: rows from the bottom up, each filled up to a multiple of four bytes. -/
def toBitmap (image : Image width height) : List UInt8 :=
  let padding := List.replicate ((4 - 3 * width % 4) % 4) 0
  let body := ((image.rowBytes blueFirst).reverse.map fun row => row ++ padding).flatten
  [0x42, 0x4D] ++ littleEndian 4 (54 + body.length) ++ littleEndian 4 0 ++ littleEndian 4 54 ++
    littleEndian 4 40 ++ littleEndian 4 width ++ littleEndian 4 height ++ littleEndian 2 1 ++
    littleEndian 2 24 ++ littleEndian 4 0 ++ littleEndian 4 body.length ++
    littleEndian 4 2835 ++ littleEndian 4 2835 ++ littleEndian 4 0 ++ littleEndian 4 0 ++ body

/-- One bit of a cyclic redundancy check. -/
def crcBit (crc : UInt32) : UInt32 :=
  if crc &&& 1 = 1 then (crc >>> 1) ^^^ 0xEDB88320 else crc >>> 1

/-- The cyclic redundancy check of a chunk. -/
def crc (bytes : List UInt8) : UInt32 :=
  let step (crc : UInt32) (byte : UInt8) : UInt32 :=
    Nat.repeat crcBit 8 (crc ^^^ byte.toUInt32)
  bytes.foldl step 0xFFFFFFFF ^^^ 0xFFFFFFFF

/-- The Adler checksum of a data stream. -/
def adler (bytes : List UInt8) : Nat :=
  let (low, high) := bytes.foldl (fun (low, high) byte =>
    let low := (low + byte.toNat) % 65521
    (low, (high + low) % 65521)) (1, 0)
  high * 65536 + low

/-- A chunk of a PNG file: its length, its kind, its data and their check. -/
def chunk (kind : String) (data : List UInt8) : List UInt8 :=
  let checked := kind.toUTF8.toList ++ data
  bigEndian data.length ++ checked ++ bigEndian (crc checked).toNat

/-- The greatest number of bytes in a stored block. -/
def blockSize : Nat := 65535

/-- Data as `count` further stored blocks and a last one. -/
def storedBlocks : Nat → List UInt8 → List UInt8
  | 0, data =>
      [1] ++ littleEndian 2 data.length ++ littleEndian 2 (blockSize - data.length) ++ data
  | count + 1, data =>
      [0] ++ littleEndian 2 blockSize ++ littleEndian 2 0 ++ data.take blockSize ++
        storedBlocks count (data.drop blockSize)

/-- A PNG file. -/
def toPng (image : Image width height) : List UInt8 :=
  let data := ((image.rowBytes redFirst).map fun row => 0 :: row).flatten
  let stream := [0x78, 0x01] ++ storedBlocks ((data.length - 1) / blockSize) data ++
    bigEndian (adler data)
  [0x89, 0x50, 0x4E, 0x47, 0x0D, 0x0A, 0x1A, 0x0A] ++
    chunk "IHDR" (bigEndian width ++ bigEndian height ++ [8, 2, 0, 0, 0]) ++
    chunk "IDAT" stream ++ chunk "IEND" []

/-- The formats of image files. -/
inductive Format where
  | png
  | bitmap
  | pixmap
deriving DecidableEq

/-- The suffix of the files in a format. -/
def Format.suffix : Format → Text
  | .png => ".png"
  | .bitmap => ".bmp"
  | .pixmap => ".ppm"

/-- The format of files with a suffix. -/
def Format.ofSuffix? (suffix : Text) : Option Format :=
  [Format.png, .bitmap, .pixmap].find? fun format => format.suffix == suffix

/-- The bytes of an image file. -/
def encode (image : Image width height) : Format → List UInt8
  | .png => image.toPng
  | .bitmap => image.toBitmap
  | .pixmap => image.toPixmap

end ChipEight.Image
