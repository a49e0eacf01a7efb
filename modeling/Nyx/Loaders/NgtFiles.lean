import Nyx.Foundations.MagicNumbers
import Nyx.Loaders.NyxFiles

/-! # The `.ngt` texture files

`nyx::NgtFile` reads the binary description of a texture: its dimensions and the bytes of the image.

* **`NgtFileData.load`** — the loader, read by read.
* **`TextureFile`**, **`TextureFile.encode`** — what a file says, and its bytes.
* **`NgtFileData.reads_file`** — a whole file is read back. -/

namespace Nyx

open Foundations

/-- `NgtFileData`: the sizes of an image, the version of its file, and its bytes. -/
structure NgtFileData where
  width : UInt32 := 0
  height : UInt32 := 0
  channels : UInt32 := 0
  elementSize : UInt32 := 1
  version : UInt32
  /-- The bytes of the image, as far as they were read. -/
  bytes : List UInt8 := []
  deriving DecidableEq, Repr

namespace NgtFileData

/-- `MAGIC`, the number that the files begin with. -/
def magic : UInt64 := 0x7577755f6f776f0a

/-- `NgtFileData::readUnsigned`, which reads four bytes. -/
def readUnsigned : Reader UInt32 := Reader.u32

/-- `NgtFileData::readMagic`, which reads eight bytes. -/
def readMagic : Reader UInt64 := Reader.u64

/-- `NgtFileData::readBytes`, which reads a block of bytes. -/
def readBytes (size : UInt32) : Reader (List UInt8) := Reader.block size.toNat

/-- What `load` reads after the magic number; only version `1` has contents. -/
def readContents (data : NgtFileData) : Reader NgtFileData := do
  let version ← readUnsigned
  if version = 1 then
    let width ← readUnsigned
    let height ← readUnsigned
    let channels ← readUnsigned
    -- the product is one of `unsigned`s, and as many bytes are assigned to the vector
    let imgBytes ← readBytes (width * height * channels)
    pure { data with
      version := version, width := width, height := height, channels := channels,
      bytes := imgBytes }
  else pure { data with version := version }

/-- What `load` does with its stream: without the magic number it returns `false`. -/
def readFile (data : NgtFileData) : Reader (Bool × NgtFileData) := do
  let found ← readMagic
  if found = magic then
    let data ← readContents data
    pure (true, data)
  else pure (false, data)

/-- `NgtFile::reset`, which drops the image and keeps the version. -/
def reset (data : NgtFileData) : NgtFileData :=
  { data with width := 0, height := 0, channels := 0, elementSize := 1, bytes := [] }

/-- `NgtFile::load( bytes, size )`, with what is left over in the memory its short reads go to. -/
def load (data : NgtFileData) (bytes : List UInt8) (size : UInt32)
    (leftover : Option (Nat → UInt8)) : Except StreamFailure (Bool × NgtFileData) :=
  (readFile data.reset).run' ⟨bytes.take size.toNat, true, leftover⟩

end NgtFileData

/-- The contents of a texture file: as many bytes as its dimensions say. -/
structure TextureFile where
  width : UInt32
  height : UInt32
  channels : UInt32
  pixels : List UInt8
  length_pixels : pixels.length = width.toNat * height.toNat * channels.toNat

/-- The bytes of a version `1` file: the magic number, the version, the dimensions and the
pixels. -/
def TextureFile.encode (file : TextureFile) : List UInt8 :=
  encodeU64 NgtFileData.magic ++ encodeU32 1 ++ encodeU32 file.width ++ encodeU32 file.height ++
    encodeU32 file.channels ++ file.pixels

/-- The product of the dimensions, as the `unsigned` that the loader computes, is the number of
pixels when that fits. -/
theorem TextureFile.toNat_size {file : TextureFile} (h : file.pixels.length < 2 ^ 32) :
    (file.width * file.height * file.channels).toNat = file.pixels.length := by
  rw [UInt32.toNat_mul, UInt32.toNat_mul, Nat.mod_mul_mod, ← file.length_pixels]
  exact Nat.mod_eq_of_lt h

/-- **A whole file is read back** into any object, and the load reports success. -/
theorem NgtFileData.reads_file (data : NgtFileData) {file : TextureFile}
    (h : file.encode.length < 2 ^ 32) :
    Reads (readFile data) file.encode (true, { data with
      version := 1, width := file.width, height := file.height, channels := file.channels,
      bytes := file.pixels }) := by
  simp only [TextureFile.encode, List.length_append] at h
  simp only [TextureFile.encode, List.append_assoc]
  have hpixels : Reads (readBytes (file.width * file.height * file.channels)) file.pixels
      file.pixels := by
    rw [readBytes, TextureFile.toNat_size (by omega)]
    exact Reads.block _
  refine Reads.guarded ?_
  refine (Reads.u32 _).bind ?_
  rw [if_pos rfl]
  refine (Reads.u32 _).bind ((Reads.u32 _).bind ((Reads.u32 _).bind ?_))
  exact hpixels.bind_pure

end Nyx
