import Nyx.Loaders.NyxFiles

/-! # The `.ntt` font files

`nyx::NttFile` reads the binary description of a font: for each character its metrics and the bytes
of its image, into two maps that are keyed by the character.

* **`NttFile.Character`** — the metrics of the source.
* **`NttFileData.readCharactersV1`**, **`NttFileData.load`** — the loader, read by read.
* **`NttFileData.deallocate`**, **`NttFileData.reset`** — dropping the images, and all.
* **`GlyphRecord`**, **`encodeNtt`** — what a file says, and its bytes. -/

namespace Nyx

open Foundations

/-! ## Characters -/

namespace NttFile

/-- `NttFile::ivec2`: two signed numbers. -/
structure IVec2 where
  x : Int32 := 0
  y : Int32 := 0
  deriving DecidableEq, Repr

/-- `NttFile::Character`: the size of a glyph, where it is placed, and how far the next one is. -/
structure Character where
  size : IVec2 := {}
  bearing : IVec2 := {}
  advance : UInt32 := 0
  deriving DecidableEq, Repr

end NttFile

open NttFile

/-! ## The loader -/

/-- `NttFileData`: the version of a file, its glyphs, and their images. -/
structure NttFileData where
  version : UInt32 := 0
  characters : Std.TreeMap UInt8 Character := ∅
  /-- The bytes that were read behind each pointer, unless it is null, and the size of the block. -/
  characterBuffers : Std.TreeMap UInt8 (Option (List UInt8) × UInt32) := ∅

namespace NttFileData

/-- `MAGIC`, the number that the files begin with. -/
def magic : UInt64 := 0x296f7d692e450a

/-- `NttFileData::readUnsigned`, which reads four bytes. -/
def readUnsigned : Reader UInt32 := Reader.u32

/-- `NttFileData::readMagic`, which reads eight bytes. -/
def readMagic : Reader UInt64 := Reader.u64

/-- `NttFileData::readInteger`, which reads four bytes as a signed number. -/
def readInteger : Reader Int32 := do
  let word ← Reader.u32
  pure word.toInt32

/-- `NttFileData::readCharacter`, which reads a single byte. -/
def readCharacter : Reader UInt8 := do
  let bytes ← Reader.block 1
  pure (bytes.headD 0)

/-- `NttFileData::readBytes`, which reads a block of bytes. -/
def readBytes (size : UInt32) : Reader (List UInt8) := Reader.block size.toNat

/-- The body of the loop in `readCharactersV1`: a record is read and stored in both maps. -/
def readGlyph (data : NttFileData) : Reader NttFileData := do
  let ch ← readCharacter
  let bufferSize ← readUnsigned
  let bearingX ← readInteger
  let bearingY ← readInteger
  let sizeX ← readInteger
  let sizeY ← readInteger
  let advance ← readUnsigned
  let buffer ← readBytes bufferSize
  pure { data with
    characters := data.characters.insert ch ⟨⟨sizeX, sizeY⟩, ⟨bearingX, bearingY⟩, advance⟩
    characterBuffers := data.characterBuffers.insert ch (some buffer, bufferSize) }

/-- `NttFileData::readCharactersV1`: how many glyphs there are, and then the glyphs. -/
def readCharactersV1 (data : NttFileData) : Reader NttFileData := do
  let characterCount ← readUnsigned
  Reader.fold readGlyph characterCount.toNat data

/-- What `load` reads after the magic number; only version `1` has characters. -/
def readContents (data : NttFileData) : Reader NttFileData := do
  let version ← readUnsigned
  if version = 1 then readCharactersV1 { data with version := version }
  else pure { data with version := version }

/-- What `load` does with its stream: without the magic number it returns `false`. -/
def readFile (data : NttFileData) : Reader (Bool × NttFileData) := do
  let found ← readMagic
  if found = magic then
    let data ← readContents data
    pure (true, data)
  else pure (false, data)

/-- `NttFile::deallocate`: the blocks are freed, the pointers to them set to null, and the map of
them cleared. -/
def deallocate (data : NttFileData) : NttFileData := { data with characterBuffers := ∅ }

/-- `NttFile::reset`, which frees the images and drops the glyphs. -/
def reset (data : NttFileData) : NttFileData := { data.deallocate with characters := ∅ }

/-- `NttFile::load( bytes, size )`, with what is left over in the memory its short reads go to. -/
def load (data : NttFileData) (bytes : List UInt8) (size : UInt32)
    (leftover : Option (Nat → UInt8)) : Except StreamFailure (Bool × NttFileData) :=
  (readFile data.reset).run' ⟨bytes.take size.toNat, true, leftover⟩

/-- `NttFile::characterCount`: how many characters have a glyph. -/
def characterCount (data : NttFileData) : UInt32 := .ofNat data.characters.size

/-- `NttFile::character`: the glyph of a character, or an empty one. -/
def character (data : NttFileData) (character : UInt8) : Character :=
  (data.characters[character]?).getD {}

/-- What `NttFile::characterImage` points to, unless it is null. -/
def characterImage (data : NttFileData) (character : UInt8) : Option (List UInt8) :=
  (data.characterBuffers[character]?).bind Prod.fst

/-- `NttFile::characterImageSize`: the size of the image of a character, or `0` without one. -/
def characterImageSize (data : NttFileData) (character : UInt8) : UInt32 :=
  ((data.characterBuffers[character]?).map Prod.snd).getD 0

end NttFileData

/-! ## What a file says -/

/-- A character in a file: its metrics, and the pixels of its glyph. -/
structure GlyphRecord where
  character : UInt8
  metrics : Character
  buffer : List UInt8
  deriving DecidableEq, Repr

/-- The bytes of an `int`, those of its two's complement. -/
def encodeI32 (value : Int32) : List UInt8 := encodeU32 value.toUInt32

/-- The bytes of a character: the number of its pixels comes before its metrics, and the pixels
last. -/
def GlyphRecord.encode (glyph : GlyphRecord) : List UInt8 :=
  [glyph.character] ++ encodeU32 (.ofNat glyph.buffer.length) ++
    encodeI32 glyph.metrics.bearing.x ++ encodeI32 glyph.metrics.bearing.y ++
    encodeI32 glyph.metrics.size.x ++ encodeI32 glyph.metrics.size.y ++
    encodeU32 glyph.metrics.advance ++ glyph.buffer

/-- The bytes of a version `1` file with these characters. -/
def encodeNtt (glyphs : List GlyphRecord) : List UInt8 :=
  encodeU64 NttFileData.magic ++ encodeU32 1 ++ encodeU32 (.ofNat glyphs.length) ++
    glyphs.flatMap GlyphRecord.encode

end Nyx
