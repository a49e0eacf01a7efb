import Mathlib.Data.List.TakeWhile
import Nyx.Foundations.CountedLists
import Nyx.Loaders.MeshDecoding

/-! # Geometry files through their accessors

What the accessors of `nyx::NggFile` show after a file was loaded, whatever was loaded before.

* **`NggFileData.meshCount`**, **`NggFileData.mesh`**, … — the accessors.
* **`NggFile.Mesh.Shows`** — a mesh that the accessors show as a record of the file.
* **`loadable_of_length`** — a file whose size fits an `unsigned` has counts and lengths that do.
* **`NggFileData.load_shows_meshes`** — the accessors show the encoded meshes, in order. -/

namespace Nyx

open Foundations

/-! ## The accessors -/

namespace NggFile

/-- The vertex that `Mesh::vertex` shows past the end. -/
def Vertex.dummy : Vertex :=
  ⟨.replicate 4 0, .replicate 4 0, .replicate 4 0, .replicate 4 0, .replicate 2 0⟩

/-- The mesh that `NggFile::mesh` shows past the end of the meshes: a static one with nothing in
it. -/
def Mesh.dummy : Mesh := ⟨[], [], [], 0, 0, {}⟩

/-- `Mesh::vertex`: a vertex of a mesh, or the dummy past its last one. -/
def Mesh.vertex (mesh : Mesh) (index : UInt32) : Vertex :=
  readAt .dummy mesh.numVertices mesh.vertices index

/-- `Mesh::index`: an index of a mesh, or `0` past its last one. -/
def Mesh.index (mesh : Mesh) (index : UInt32) : UInt32 :=
  readAt 0 mesh.numIndices mesh.indices index

namespace Material

/-- The number of textures of one kind, as the `unsigned` that is shown. -/
def count (textures : List (List UInt8)) : UInt32 := .ofNat textures.length

/-- The name of a texture of one kind, empty past the end. -/
def texture (textures : List (List UInt8)) (index : UInt32) : List UInt8 :=
  readAt [] (count textures) textures index

variable (material : Material)

/-- `Material::diffuseCount`: how many diffuse textures a material has. -/
def diffuseCount : UInt32 := count material.diffuse

/-- `Material::specularCount`: how many specular textures a material has. -/
def specularCount : UInt32 := count material.specular

/-- `Material::normalCount`: how many normal textures a material has. -/
def normalCount : UInt32 := count material.normal

/-- `Material::heightCount`: how many height textures a material has. -/
def heightCount : UInt32 := count material.height

/-- `Material::diffuse( index )`: the name of a diffuse texture. -/
def diffuseAt : UInt32 → List UInt8 := texture material.diffuse

/-- `Material::specular( index )`: the name of a specular texture. -/
def specularAt : UInt32 → List UInt8 := texture material.specular

/-- `Material::normal( index )`: the name of a normal texture. -/
def normalAt : UInt32 → List UInt8 := texture material.normal

/-- `Material::height( index )`: the name of a height texture. -/
def heightAt : UInt32 → List UInt8 := texture material.height

end Material

/-- **Showing a record.** The name, and all that the accessors of the mesh and its material show,
is what the record says. -/
structure Mesh.Shows (mesh : Mesh) (record : MeshRecord) : Prop where
  name : mesh.name = record.name
  vertices : Lists Eq mesh.numVertices mesh.vertex record.vertices
  indices : Lists Eq mesh.numIndices mesh.index record.indices
  diffuse : Lists Eq mesh.material.diffuseCount mesh.material.diffuseAt record.diffuse
  specular : Lists Eq mesh.material.specularCount mesh.material.specularAt record.specular
  normal : Lists Eq mesh.material.normalCount mesh.material.normalAt record.normal
  height : Lists Eq mesh.material.heightCount mesh.material.heightAt record.height

end NggFile

/-- `NggFile::meshCount`: how many meshes were read. -/
def NggFileData.meshCount (data : NggFileData) : UInt32 := .ofNat data.meshes.length

/-- `NggFile::mesh`: a mesh of the file, or the dummy past the last one. -/
def NggFileData.mesh (data : NggFileData) (index : UInt32) : NggFile.Mesh :=
  readAt .dummy data.meshCount data.meshes index

/-! ## Sizes -/

/-- A string is shorter than the encoding of a list that it is in. -/
theorem length_lt_of_mem {strings : List (List UInt8)} {string : List UInt8}
    (h : string ∈ strings) : string.length < (strings.flatMap encodeString).length := by
  have hle : (encodeString string).length ≤ (strings.flatMap encodeString).length :=
    length_le_length_flatMap h
  rw [length_encodeString] at hle
  omega

/-- There are at most as many strings as their encoding has bytes. -/
theorem length_le_flatMap_encodeString (strings : List (List UInt8)) :
    strings.length ≤ (strings.flatMap encodeString).length :=
  length_le_length_flatMap_of_pos fun string _ => by
    rw [length_encodeString]
    omega

namespace MeshRecord

variable {mesh : MeshRecord}

/-- The size of a mesh in a file: seven counts, its name, its vertices and indices, and its
textures. -/
theorem length_encode (mesh : MeshRecord) : mesh.encode.length
    = 28 + mesh.name.length + mesh.vertices.length * 72 + mesh.indices.length * 4 +
      (mesh.diffuse.flatMap encodeString).length + (mesh.specular.flatMap encodeString).length +
      (mesh.normal.flatMap encodeString).length + (mesh.height.flatMap encodeString).length := by
  have hvertices : mesh.vertexBytes.length = mesh.vertices.length * 72 := by
    simp [vertexBytes, List.length_flatMap, NggFile.Vertex.size]
  have hindices : mesh.indexBytes.length = mesh.indices.length * 4 :=
    length_flatMap_encodeU32 mesh.indices
  simp only [encode, List.length_append, length_encodeString, length_encodeU32, hvertices, hindices]
  omega

/-- The textures of one kind take less room than a mesh whose size fits an `unsigned`. -/
theorem length_textures_lt (h : mesh.encode.length < 2 ^ 32) (textures : List (List UInt8))
    (hmem : textures ∈ [mesh.diffuse, mesh.specular, mesh.normal, mesh.height]) :
    (textures.flatMap encodeString).length < 2 ^ 32 := by
  rw [length_encode] at h
  simp only [List.mem_cons, List.not_mem_nil, or_false] at hmem
  rcases hmem with rfl | rfl | rfl | rfl <;> omega

/-- **A mesh whose size fits an `unsigned` has counts and lengths that do.** -/
theorem wellFormed_of_length (h : mesh.encode.length < 2 ^ 32) :
    mesh.WellFormed ∧ mesh.indices.length * 4 < 2 ^ 32 := by
  have htextures := length_textures_lt h
  rw [length_encode] at h
  refine ⟨⟨by omega, by omega, by omega, fun textures hmem => ?_,
    fun textures hmem texture hin => ?_⟩, by omega⟩
  · exact Nat.lt_of_le_of_lt (length_le_flatMap_encodeString textures) (htextures textures hmem)
  · exact Nat.lt_trans (length_lt_of_mem hin) (htextures textures hmem)

end MeshRecord

/-- **A file whose size fits an `unsigned` can be loaded**, as far as its counts go. -/
theorem loadable_of_length {meshes : List MeshRecord}
    (h : (encodeNgg meshes).length < 2 ^ 32) : Loadable meshes := by
  have hmeshes : (meshes.flatMap MeshRecord.encode).length < 2 ^ 32 := by
    rw [encodeNgg, List.length_append] at h
    omega
  have hcount : meshes.length ≤ (meshes.flatMap MeshRecord.encode).length :=
    length_le_length_flatMap_of_pos fun mesh _ => by
      rw [mesh.length_encode]
      omega
  have heach : ∀ mesh ∈ meshes, mesh.encode.length < 2 ^ 32 := fun mesh hmem =>
    Nat.lt_of_le_of_lt (length_le_length_flatMap hmem) hmeshes
  exact ⟨by omega, fun mesh hmem => (MeshRecord.wellFormed_of_length (heach mesh hmem)).1,
    fun mesh hmem => (MeshRecord.wellFormed_of_length (heach mesh hmem)).2⟩

/-! ## Loading -/

/-- A file whose names fit is loaded from any bytes that start with it, into any object. -/
theorem NggFileData.load_append (data : NggFileData) {meshes : List MeshRecord}
    (trailing : List UInt8) {size : UInt32} (hsize : (encodeNgg meshes).length ≤ size.toNat)
    (hnames : ∀ mesh ∈ meshes, mesh.NameFits) (leftover : Option (Nat → UInt8)) :
    data.load (encodeNgg meshes ++ trailing) size leftover = .ok (true, loadedNgg meshes) := by
  have hloadable := loadable_of_length (Nat.lt_of_le_of_lt hsize size.toNat_lt)
  rw [load, List.take_append, List.take_of_length_le hsize]
  exact (reads_file data.reset hloadable hnames).run' _ _

/-- A string without a zero is shown completely by its C string. -/
theorem cString_eq_self {string : List UInt8} (h : 0 ∉ string) : cString string = string := by
  rw [cString, List.takeWhile_eq_self_iff]
  intro byte hmem
  simpa using fun heq : byte = 0 => h (heq ▸ hmem)

namespace MeshRecord

variable {mesh : MeshRecord}

/-- The strings of a mesh: its name, and the names of its textures of all four kinds. -/
def strings (mesh : MeshRecord) : List (List UInt8) :=
  mesh.name :: mesh.diffuse ++ mesh.specular ++ mesh.normal ++ mesh.height

/-- Texture names without zeroes are shown as they are, if an `unsigned` counts them. -/
theorem lists_textures {textures : List (List UInt8)} (hcount : textures.length < 2 ^ 32)
    (hzero : ∀ string ∈ textures, 0 ∉ string) :
    Lists Eq (NggFile.Material.count (textures.map cString))
      (NggFile.Material.texture (textures.map cString)) textures := by
  have hself : textures.map cString = textures :=
    (List.map_congr_left fun string hmem => cString_eq_self (hzero string hmem)).trans
      (List.map_id _)
  rw [hself]
  exact lists_readAt hcount

/-- **A mesh that was loaded shows its record** through its accessors, when it is well formed and
its strings have no zeroes. -/
theorem shows_loaded (h : mesh.WellFormed) (hzero : ∀ string ∈ mesh.strings, 0 ∉ string) :
    mesh.loaded.Shows mesh := by
  have htextures : ∀ textures ∈ [mesh.diffuse, mesh.specular, mesh.normal, mesh.height],
      ∀ string ∈ textures, 0 ∉ string := by
    intro textures hmem string hstring
    refine hzero string ?_
    simp only [List.mem_cons, List.not_mem_nil, or_false] at hmem
    rcases hmem with rfl | rfl | rfl | rfl <;> simp [strings, hstring]
  have hshown := fun textures hmem =>
    lists_textures (h.counts textures hmem) (htextures textures hmem)
  exact ⟨cString_eq_self (hzero _ (by simp [strings])), lists_readAt h.vertices,
    lists_readAt h.indices, hshown _ (by simp), hshown _ (by simp), hshown _ (by simp),
    hshown _ (by simp)⟩

end MeshRecord

/-- **The loader decodes the whole format.** From any bytes that start with the encoding of a list
of meshes, whatever was loaded before and whatever is left over in memory, `load` returns true, and
the accessors show these meshes in order: their names have at most 49 bytes, and no string has a
zero in it. -/
theorem NggFileData.load_shows_meshes (data : NggFileData) (meshes : List MeshRecord)
    (trailing : List UInt8) (size : UInt32) (leftover : Option (Nat → UInt8))
    (hsize : (encodeNgg meshes).length ≤ size.toNat)
    (hnames : ∀ mesh ∈ meshes, mesh.name.length ≤ 49)
    (hzero : ∀ mesh ∈ meshes, ∀ string ∈ mesh.strings, 0 ∉ string) :
    ∃ data', data.load (encodeNgg meshes ++ trailing) size leftover = .ok (true, data') ∧
      Lists NggFile.Mesh.Shows data'.meshCount data'.mesh meshes := by
  have hloadable := loadable_of_length (Nat.lt_of_le_of_lt hsize size.toNat_lt)
  refine ⟨loadedNgg meshes, data.load_append trailing hsize (fun mesh hmem => ?_) leftover, ?_⟩
  · -- a C string is no longer than its string
    have hle : (cString mesh.name).length ≤ mesh.name.length :=
      (List.takeWhile_sublist _).length_le
    exact Nat.lt_of_le_of_lt hle (Nat.lt_succ_of_le (hnames mesh hmem))
  · exact lists_readAt_map hloadable.count fun mesh hmem =>
      mesh.shows_loaded (hloadable.wellFormed mesh hmem) (hzero mesh hmem)

/-- A mesh with a texture and one without anything, loaded over an earlier mesh. -/
theorem NggFileData.load_shows_twoMeshes :
    let meshes : List MeshRecord :=
      [{ name := [97], vertices := [.dummy], indices := [0, 0, 0], diffuse := [[98, 99]] },
        { name := [], vertices := [], indices := [] }]
    ∃ data', (⟨1, [.dummy]⟩ : NggFileData).load (encodeNgg meshes ++ [7, 7]) 180 none
        = .ok (true, data') ∧
      Lists NggFile.Mesh.Shows data'.meshCount data'.mesh meshes :=
  NggFileData.load_shows_meshes ⟨1, [.dummy]⟩ _ [7, 7] 180 none
    (by simp [encodeNgg, MeshRecord.length_encode]) (by decide) (by decide)

end Nyx
