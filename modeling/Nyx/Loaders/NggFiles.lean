import Nyx.Loaders.NyxFiles

/-! # The `.ngg` geometry files

`nyx::NggFile` reads the binary description of a model: for each mesh a name, the vertices, the
indices and the names of four kinds of textures.

* **`NggFile.Vertex`**, **`NggFile.Mesh`** — the records of the source.
* **`NggFileData.readMeshV1`**, **`NggFileData.load`** — the loader, read by read.
* **`NggFileData.loadPath`** — loading from disk, where the size of the file goes through an
  `unsigned`.
* **`MeshRecord`**, **`encodeNgg`** — what a file says, and its bytes. -/

namespace Nyx

open Foundations

namespace NggFile

/-! ## Vertices and meshes -/

/-- `NggFile::Vertex`; a `float` is kept as its four bytes. -/
structure Vertex where
  position : Vector UInt32 4
  normals : Vector UInt32 4
  weights : Vector UInt32 4
  ids : Vector UInt32 4
  uvs : Vector UInt32 2
  deriving DecidableEq, Repr

/-- `sizeof( NggFile::Vertex )`, in bytes. -/
def Vertex.size : Nat := 72

/-- The words of a vertex, one after the other as they are in memory and in the file. -/
def Vertex.words (vertex : Vertex) : List UInt32 :=
  vertex.position.toList ++ vertex.normals.toList ++ vertex.weights.toList ++ vertex.ids.toList ++
    vertex.uvs.toList

/-- The bytes of a vertex: its words one after another, four bytes each. -/
def Vertex.bytes (vertex : Vertex) : List UInt8 := vertex.words.flatMap encodeU32

/-- A vertex has as many bytes as `sizeof` says, so there is no padding in it. -/
@[simp] theorem Vertex.length_bytes (vertex : Vertex) : vertex.bytes.length = Vertex.size := by
  simp [bytes, words, size]

/-- `NggFile::Material`: the four lists of texture names, as C strings. -/
structure Material where
  diffuse : List (List UInt8) := []
  specular : List (List UInt8) := []
  normal : List (List UInt8) := []
  height : List (List UInt8) := []
  deriving DecidableEq, Repr

/-- `NggFile::Mesh`. The counts are kept beside the arrays they were allocated with. -/
structure Mesh where
  /-- The C string in `m_name`. -/
  name : List UInt8
  vertices : List Vertex
  indices : List UInt32
  numVertices : UInt32
  numIndices : UInt32
  material : Material
  deriving DecidableEq, Repr

/-- `NggFile::MAX_NAME_SIZE`, the room for the name of a mesh. -/
def maxNameSize : Nat := 50

end NggFile

/-! ## The loader -/

/-- `NggFileData`: the version of a file, and its meshes. -/
structure NggFileData where
  version : UInt32 := 0
  meshes : List NggFile.Mesh := []
  deriving DecidableEq, Repr

namespace NggFileData

open NggFile

/-- `MAGIC`, the number that the files begin with. -/
def magic : UInt64 := 0x26656d696b750a

/-- `NggFileData::readString`, which reads a length and as many bytes. -/
def readString : Reader (List UInt8) := Reader.string

/-- `NggFileData::readUnsigned`, which reads four bytes. -/
def readUnsigned : Reader UInt32 := Reader.u32

/-- `NggFileData::readMagic`, which reads eight bytes. -/
def readMagic : Reader UInt64 := Reader.u64

/-- `NggFileData::readBytes`, which reads a block of bytes. -/
def readBytes (size : UInt32) : Reader (List UInt8) := Reader.block size.toNat

/-- `std::strcpy( mesh.m_name, str.c_str() )`, which needs room for the terminating zero. -/
def copyName (str : List UInt8) : Reader (List UInt8) :=
  if (cString str).length < maxNameSize then pure (cString str) else throw .overrun

/-- One member of a vertex: `n` values of four bytes, read and copied. -/
def readValues (n : Nat) : Reader (Vector UInt32 n) := do
  let bytes ← readBytes (.ofNat (4 * n))
  pure (Vector.ofFn fun i => (leWords bytes).getD i 0)

/-- The body of the loop over the vertices: one vertex is read, member by member. -/
def readVertex (vertices : List Vertex) : Reader (List Vertex) := do
  let position ← readValues 4
  let normals ← readValues 4
  let weights ← readValues 4
  let ids ← readValues 4
  let uvs ← readValues 2
  pure (vertices ++ [⟨position, normals, weights, ids, uvs⟩])

/-- The body of the loops over the textures; the copy has room for the whole string. -/
def readTexture (textures : List (List UInt8)) : Reader (List (List UInt8)) := do
  let tmp ← readString
  pure (textures ++ [cString tmp])

/-- `NggFileData::readMeshV1`: the name and the counts of a mesh, then its vertices, its indices and
its textures. -/
def readMeshV1 : Reader Mesh := do
  let str ← readString
  let numVertices ← readUnsigned
  let numIndices ← readUnsigned
  let numDiffuse ← readUnsigned
  let numSpecular ← readUnsigned
  let numNormal ← readUnsigned
  let numHeight ← readUnsigned
  let name ← copyName str
  let vertices ← Reader.fold readVertex numVertices.toNat []
  -- the product is narrowed to `unsigned`
  let indices ← readBytes (numIndices * 4)
  let diffuse ← Reader.fold readTexture numDiffuse.toNat []
  let specular ← Reader.fold readTexture numSpecular.toNat []
  let normal ← Reader.fold readTexture numNormal.toNat []
  let height ← Reader.fold readTexture numHeight.toNat []
  pure ⟨name, vertices, leWords indices, numVertices, numIndices,
    ⟨diffuse, specular, normal, height⟩⟩

/-- The body of the loop over the meshes: one mesh is read and put behind the others. -/
def readMesh (meshes : List Mesh) : Reader (List Mesh) := do
  let mesh ← readMeshV1
  pure (meshes ++ [mesh])

/-- What `load` reads after the magic number; only version `1` has meshes. -/
def readContents (data : NggFileData) : Reader NggFileData := do
  let version ← readUnsigned
  if version = 1 then
    let count ← readUnsigned
    let meshes ← Reader.fold readMesh count.toNat []
    pure ⟨version, meshes⟩
  else pure { data with version := version }

/-- What `load` does with its stream: without the magic number it returns `false`. -/
def readFile (data : NggFileData) : Reader (Bool × NggFileData) := do
  let found ← readMagic
  if found = magic then
    let data ← readContents data
    pure (true, data)
  else pure (false, data)

/-- `NggFile::reset`, which drops the meshes and keeps the version. -/
def reset (data : NggFileData) : NggFileData := { data with meshes := [] }

/-- `NggFile::load( bytes, size )`, with what is left over in the memory its short reads go to. -/
def load (data : NggFileData) (bytes : List UInt8) (size : UInt32)
    (leftover : Option (Nat → UInt8)) : Except StreamFailure (Bool × NggFileData) :=
  (readFile data.reset).run' ⟨bytes.take size.toNat, true, leftover⟩

end NggFileData

/-- What is on disk: the bytes of the file at a path, if there is one. -/
abbrev Filesystem := String → Option (List UInt8)

/-- `NggFile::load( path )`: the size of the file is passed on as an `unsigned`. Nothing is known of
what is left over in memory. -/
def NggFileData.loadPath (files : Filesystem) (data : NggFileData) (path : String) :
    Except StreamFailure (Bool × NggFileData) :=
  match files path with
  | none => .ok (false, data)
  | some tmp => data.load tmp (.ofNat tmp.length) none

/-! ## What a file says -/

/-- The contents of a mesh in a file: the names in full, and all vertices and indices. -/
structure MeshRecord where
  name : List UInt8
  vertices : List NggFile.Vertex
  indices : List UInt32
  diffuse : List (List UInt8) := []
  specular : List (List UInt8) := []
  normal : List (List UInt8) := []
  height : List (List UInt8) := []
  deriving DecidableEq, Repr

namespace MeshRecord

/-- What the fields of a mesh hold fits their counts and lengths. -/
structure WellFormed (mesh : MeshRecord) : Prop where
  name : mesh.name.length < 2 ^ 32
  vertices : mesh.vertices.length < 2 ^ 32
  indices : mesh.indices.length < 2 ^ 32
  counts : ∀ textures ∈ [mesh.diffuse, mesh.specular, mesh.normal, mesh.height],
    textures.length < 2 ^ 32
  textures : ∀ textures ∈ [mesh.diffuse, mesh.specular, mesh.normal, mesh.height],
    ∀ texture ∈ textures, texture.length < 2 ^ 32

/-- The bytes of the vertices of a mesh, one after another. -/
def vertexBytes (mesh : MeshRecord) : List UInt8 := mesh.vertices.flatMap NggFile.Vertex.bytes

/-- The bytes of the indices of a mesh, four for each. -/
def indexBytes (mesh : MeshRecord) : List UInt8 := mesh.indices.flatMap encodeU32

/-- The bytes of a mesh: its name, its six counts, and what they count. -/
def encode (mesh : MeshRecord) : List UInt8 :=
  encodeString mesh.name ++ encodeU32 (.ofNat mesh.vertices.length) ++
    encodeU32 (.ofNat mesh.indices.length) ++ encodeU32 (.ofNat mesh.diffuse.length) ++
    encodeU32 (.ofNat mesh.specular.length) ++ encodeU32 (.ofNat mesh.normal.length) ++
    encodeU32 (.ofNat mesh.height.length) ++ mesh.vertexBytes ++ mesh.indexBytes ++
    mesh.diffuse.flatMap encodeString ++ mesh.specular.flatMap encodeString ++
    mesh.normal.flatMap encodeString ++ mesh.height.flatMap encodeString

end MeshRecord

/-- The bytes of a version `1` file with these meshes. -/
def encodeNgg (meshes : List MeshRecord) : List UInt8 :=
  encodeU64 NggFileData.magic ++ encodeU32 1 ++ encodeU32 (.ofNat meshes.length) ++
    meshes.flatMap MeshRecord.encode

end Nyx
