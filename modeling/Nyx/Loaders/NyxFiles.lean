import Nyx.Foundations.ByteStreams
import Nyx.Foundations.OrderedMaps

/-! # The `.nyx` shader files

`nyx::NyxFile` reads the binary description of a shader: its inputs and outputs, and for each stage
the SPIR-V words and the uniforms.

* **`NyxFileData.load`** — the loader, read by read.
* **`ShaderIterator`**, **`NyxFileData.iterators`** — going over the stages from `begin` to `end`.
* **`ShaderFile`**, **`ShaderFile.encode`** — what a file says, and its bytes. -/

namespace Nyx

open Foundations

/-! ## Stages, uniforms and attributes -/

/-- `nyx::ShaderStage`, an enumeration over all of `unsigned`. -/
abbrev ShaderStage := UInt32

namespace ShaderStage

abbrev vertex : ShaderStage := 0
abbrev fragment : ShaderStage := 1
abbrev geometry : ShaderStage := 2
abbrev tessC : ShaderStage := 3
abbrev tessE : ShaderStage := 4
abbrev compute : ShaderStage := 5

end ShaderStage

/-- `nyx::UniformType`, an enumeration over all of `unsigned`. -/
abbrev UniformType := UInt32

namespace UniformType

abbrev none : UniformType := 0
abbrev ubo : UniformType := 1
abbrev sampler : UniformType := 2
abbrev inputImage : UniformType := 3
abbrev ssbo : UniformType := 4

end UniformType

/-- What a C string shows of a string: all of it up to the first zero. -/
def cString (string : List UInt8) : List UInt8 := string.takeWhile (· ≠ 0)

/-- `nyx::Uniform`: the binding of a uniform, its size, its type and its name. -/
structure Uniform where
  binding : UInt32
  size : UInt32
  type : UniformType
  name : List UInt8
  deriving DecidableEq, Repr

/-- `nyx::Attribute`: the name of an input or an output, its type, its size and its location. -/
structure Attribute where
  name : List UInt8
  type : List UInt8
  size : UInt32
  location : UInt32
  deriving DecidableEq, Repr

/-- `nyx::Shader`: a stage, with its uniforms and its code. -/
structure Shader where
  uniforms : List Uniform
  spirv : List UInt32
  stage : ShaderStage
  deriving DecidableEq, Repr

/-! ## The file -/

/-- `NyxFileData`: the inputs and outputs of a shader, its stages, and the version of its file. -/
structure NyxFileData where
  inputs : List Attribute := []
  outputs : List Attribute := []
  map : Std.TreeMap ShaderStage Shader := ∅
  version : UInt32 := 0

namespace NyxFileData

/-- `MAGIC`, the number that the files begin with. -/
def magic : UInt64 := 0x555755200d0a

/-- `NyxFileData::readString`, which reads a length and as many bytes. -/
def readString : Reader (List UInt8) := Reader.string

/-- `NyxFileData::readUnsigned`, which reads four bytes. -/
def readUnsigned : Reader UInt32 := Reader.u32

/-- `NyxFileData::readMagic`, which reads eight bytes. -/
def readMagic : Reader UInt64 := Reader.u64

/-- `NyxFileData::readSpirv`, which reads a number of words. -/
def readSpirv (size : Nat) : Reader (List UInt32) := do
  let bytes ← Reader.block (size * 4)
  pure (leWords bytes)

/-- The body of the loops over inputs and outputs: one attribute is read and put behind the
others. -/
def readAttribute (attributes : List Attribute) : Reader (List Attribute) := do
  let name ← readString
  let type ← readString
  let size ← readUnsigned
  let location ← readUnsigned
  pure (attributes ++ [⟨name, type, size, location⟩])

/-- The body of the loop over the uniforms of a shader. -/
def readUniform (uniforms : List Uniform) : Reader (List Uniform) := do
  let name ← readString
  let type ← readUnsigned
  let binding ← readUnsigned
  let size ← readUnsigned
  pure (uniforms ++ [⟨binding, size, type, name⟩])

/-- The body of the loop over the shaders: a stage that is in the map already keeps its shader. -/
def readShader (map : Std.TreeMap ShaderStage Shader) :
    Reader (Std.TreeMap ShaderStage Shader) := do
  let spirvSize ← readUnsigned
  let spirv ← readSpirv spirvSize.toNat
  let stage ← readUnsigned
  let numUniforms ← readUnsigned
  let uniforms ← Reader.fold readUniform numUniforms.toNat []
  pure (map.insertIfNew stage ⟨uniforms, spirv, stage⟩)

/-- What `load` reads after the magic number: the version, the counts, and what they count. -/
def readContents (data : NyxFileData) : Reader NyxFileData := do
  let version ← readUnsigned
  let numShaders ← readUnsigned
  let numInputs ← readUnsigned
  let numOutputs ← readUnsigned
  -- inputs and outputs go behind those of earlier loads
  let inputs ← Reader.fold readAttribute numInputs.toNat data.inputs
  let outputs ← Reader.fold readAttribute numOutputs.toNat data.outputs
  let map ← Reader.fold readShader numShaders.toNat data.map
  pure ⟨inputs, outputs, map, version⟩

/-- What `load` does with its stream: without the magic number nothing more is read. -/
def readFile (data : NyxFileData) : Reader NyxFileData := do
  let found ← readMagic
  if found ≠ magic then pure data else readContents data

/-- `NyxFile::load( bytes, size )`, which drops the stages from before and reads at most `size`
bytes. -/
def load (data : NyxFileData) (bytes : List UInt8) (size : Nat) :
    Except StreamFailure NyxFileData :=
  (readFile { data with map := ∅ }).run' ⟨bytes.take size, true, none⟩

end NyxFileData

/-! ## Going over the stages -/

/-- `ShaderIterator`: the entries of the map from the position of the iterator on. -/
structure ShaderIterator where
  it : List (ShaderStage × Shader)

namespace ShaderIterator

/-- The entry under the iterator, if it is not at the end. -/
def entry (iter : ShaderIterator) : Option (ShaderStage × Shader) := iter.it.head?

/-- The uniforms under the iterator, none at the end. -/
def uniforms (iter : ShaderIterator) : List Uniform :=
  (iter.entry.map fun entry => entry.2.uniforms).getD []

/-- `ShaderIterator::stage`: the stage under the iterator. -/
def stage (iter : ShaderIterator) : ShaderStage := (iter.entry.map Prod.fst).getD 0

/-- The words `ShaderIterator::spirv` points to, `spirvSize` many. -/
def spirv (iter : ShaderIterator) : List UInt32 :=
  (iter.entry.map fun entry => entry.2.spirv).getD []

/-- `ShaderIterator::numUniforms`: how many uniforms the stage under the iterator has. -/
def numUniforms (iter : ShaderIterator) : Nat := iter.uniforms.length

/-- `ShaderIterator::uniformType`: the type of a uniform of the stage, or none past the last one. -/
def uniformType (iter : ShaderIterator) (id : Nat) : UniformType :=
  ((iter.uniforms[id]?).map Uniform.type).getD UniformType.none

/-- `ShaderIterator::uniformSize`: the size of a uniform of the stage, or `0` past the last one. -/
def uniformSize (iter : ShaderIterator) (id : Nat) : UInt32 :=
  ((iter.uniforms[id]?).map Uniform.size).getD 0

/-- `ShaderIterator::uniformBinding`: the binding of a uniform of the stage, or the largest number
past the last one. -/
def uniformBinding (iter : ShaderIterator) (id : Nat) : UInt32 :=
  ((iter.uniforms[id]?).map Uniform.binding).getD 0xffffffff

/-- `ShaderIterator::uniformName`: the name of a uniform of the stage, as a string of the host. -/
def uniformName (iter : ShaderIterator) (id : Nat) : List UInt8 :=
  cString (((iter.uniforms[id]?).map Uniform.name).getD [])

/-- The iterators met from this one on, `++` after `++`, until `end`. -/
def upToEnd : List (ShaderStage × Shader) → List ShaderIterator
  | [] => []
  | entry :: rest => ⟨entry :: rest⟩ :: upToEnd rest

end ShaderIterator

/-- The iterators that `for( iter = begin() ; iter != end() ; ++iter )` goes through. -/
def NyxFileData.iterators (data : NyxFileData) : List ShaderIterator :=
  ShaderIterator.upToEnd data.map.toList

/-- `NyxFile::size`: how many stages the file has. -/
def NyxFileData.size (data : NyxFileData) : Nat := data.map.size

/-! ## What a file says -/

/-- The contents of a shader file: its inputs and outputs, and the records of its stages. -/
structure ShaderFile where
  version : UInt32
  inputs : List Attribute
  outputs : List Attribute
  shaders : List Shader
  deriving DecidableEq, Repr

/-- The bytes of an input or output: its name, its type, its size and its location. -/
def Attribute.encode (attr : Attribute) : List UInt8 :=
  encodeString attr.name ++ encodeString attr.type ++ encodeU32 attr.size ++
    encodeU32 attr.location

/-- The bytes of a uniform: its name, its type, its binding and its size. -/
def Uniform.encode (uniform : Uniform) : List UInt8 :=
  encodeString uniform.name ++ encodeU32 uniform.type ++ encodeU32 uniform.binding ++
    encodeU32 uniform.size

/-- The bytes of a shader record: its words with their count, its stage, and its uniforms with their
count. -/
def Shader.encode (shader : Shader) : List UInt8 :=
  encodeU32 (.ofNat shader.spirv.length) ++ shader.spirv.flatMap encodeU32 ++
    encodeU32 shader.stage ++ encodeU32 (.ofNat shader.uniforms.length) ++
    shader.uniforms.flatMap Uniform.encode

/-- The bytes of a file: the magic number, the version, three counts, and what they count. -/
def ShaderFile.encode (file : ShaderFile) : List UInt8 :=
  encodeU64 NyxFileData.magic ++ encodeU32 file.version ++
    encodeU32 (.ofNat file.shaders.length) ++ encodeU32 (.ofNat file.inputs.length) ++
    encodeU32 (.ofNat file.outputs.length) ++ file.inputs.flatMap Attribute.encode ++
    file.outputs.flatMap Attribute.encode ++ file.shaders.flatMap Shader.encode

end Nyx
