import Nyx.Foundations.MagicNumbers
import Nyx.Loaders.NggFiles

/-! # Decoding geometry files

`NggFile::load` on the encoding of a list of meshes:

* **`reads_meshV1`** — a mesh whose name fits `m_name` is read back.
* **`throws_meshV1`** — one whose name does not fit overruns it.
* **`takes_meshV1`** — what `readMeshV1` does when the stream ends within the mesh.
* **`NggFileData.load_of_fits`**, **`NggFileData.fails_load`** — loading the file: it succeeds when
  all names fit and the size of the file fits an `unsigned`, and fails otherwise. -/

namespace Nyx

open Foundations

namespace NggFileData

open NggFile

/-! ## Parts of a mesh -/

/-- A vector is made again of its words, read back by their places. -/
theorem ofFn_getD_toList {n : Nat} (values : Vector UInt32 n) :
    (Vector.ofFn fun i : Fin n => values.toList.getD i 0) = values := by
  ext i hi
  simp

/-- The size of one member of a vertex, at most four values, is the number of its bytes. -/
theorem toNat_valuesSize {n : Nat} (h : n ≤ 4) : (UInt32.ofNat (4 * n)).toNat = n * 4 := by
  rw [toNat_ofNat_count (by omega), Nat.mul_comm]

/-- One member of a vertex is read back from its bytes. -/
theorem reads_values {n : Nat} (h : n ≤ 4) (values : Vector UInt32 n) :
    Reads (readValues n) (values.toList.flatMap encodeU32) values := by
  have hread := (Reads.block (values.toList.flatMap encodeU32)).bind_pure
    (f := fun bytes => Vector.ofFn fun i : Fin n => (leWords bytes).getD i 0)
  rwa [length_flatMap_encodeU32, Vector.length_toList, ← toNat_valuesSize h,
    leWords_flatMap_encodeU32, ofFn_getD_toList] at hread

/-- A member of a vertex is needed whole: when the stream ends in it, reading it fails. -/
theorem takes_values {n : Nat} (h : n ≤ 4) (values : Vector UInt32 n) :
    Takes 0 (readValues n) (values.toList.flatMap encodeU32) := by
  have hread := (Takes.block (values.toList.flatMap encodeU32)).bind_pure
    (f := fun bytes => Vector.ofFn fun i : Fin n => (leWords bytes).getD i 0)
  rwa [length_flatMap_encodeU32, Vector.length_toList, ← toNat_valuesSize h] at hread

/-- The bytes of a vertex are those of its five members, one after another. -/
theorem Vertex.bytes_eq (vertex : Vertex) :
    vertex.bytes = vertex.position.toList.flatMap encodeU32 ++
      (vertex.normals.toList.flatMap encodeU32 ++ (vertex.weights.toList.flatMap encodeU32 ++
        (vertex.ids.toList.flatMap encodeU32 ++ vertex.uvs.toList.flatMap encodeU32))) := by
  simp [Vertex.bytes, Vertex.words]

/-- A vertex is read back from its bytes, and goes behind the others. -/
theorem reads_vertex (vertex : Vertex) (vertices : List Vertex) :
    Reads (readVertex vertices) vertex.bytes (vertices ++ [vertex]) := by
  rw [Vertex.bytes_eq]
  refine (reads_values (by omega) _).bind ?_
  refine (reads_values (by omega) _).bind ?_
  refine (reads_values (by omega) _).bind ?_
  exact (reads_values (by omega) _).bind (reads_values (by omega) _).bind_pure

/-- A vertex is needed whole: when the stream ends in it, reading it fails. -/
theorem takes_vertex (vertex : Vertex) (vertices : List Vertex) :
    Takes 0 (readVertex vertices) vertex.bytes := by
  rw [Vertex.bytes_eq]
  refine (takes_values (by omega) _).bind fun _ => ?_
  refine (takes_values (by omega) _).bind fun _ => ?_
  refine (takes_values (by omega) _).bind fun _ => ?_
  exact (takes_values (by omega) _).bind fun _ => (takes_values (by omega) _).bind_pure

/-- The textures of one kind are read back, each up to its first zero. -/
theorem reads_textures {textures : List (List UInt8)} (hcount : textures.length < 2 ^ 32)
    (hlength : ∀ texture ∈ textures, texture.length < 2 ^ 32) :
    Reads (Reader.fold readTexture (UInt32.ofNat textures.length).toNat [])
      (textures.flatMap encodeString) (textures.map cString) := by
  rw [toNat_ofNat_count hcount]
  exact Reads.collect_map
    (fun texture hmem acc => (Reads.string (hlength texture hmem)).bind_pure) []

/-- The names of textures are taken from a stream that may end in them, in which case zeroes stand
for what is missing. -/
theorem takes_textures {textures : List (List UInt8)} (hcount : textures.length < 2 ^ 32)
    (hlength : ∀ texture ∈ textures, texture.length < 2 ^ 32) :
    Takes (2 ^ 32) (Reader.fold readTexture (UInt32.ofNat textures.length).toNat [])
      (textures.flatMap encodeString) := by
  rw [toNat_ofNat_count hcount]
  exact Takes.fold (fun texture hmem acc => (Takes.string (hlength texture hmem)).bind_pure) []

/-! ## Meshes -/

/-- The name of a mesh is copied up to its first zero, when that fits the field for it. -/
theorem reads_name {str : List UInt8} (h : (cString str).length < maxNameSize) :
    Reads (copyName str) [] (cString str) := by
  rw [copyName, if_pos h]
  exact Reads.pure _

/-- The name of a mesh that does not fit the field for it runs over that, and the loader fails. -/
theorem throws_name {str : List UInt8} (h : ¬ (cString str).length < maxNameSize) :
    Throws (copyName str) [] := by
  intro rest leftover
  rw [copyName, if_neg h]
  exact ⟨.overrun, rfl⟩

/-- The name of a mesh is copied from a string, not from the stream. -/
theorem takes_name (str : List UInt8) : Takes (2 ^ 32) (copyName str) [] := by
  rw [copyName]
  split
  · exact Takes.pure ..
  · exact Takes.throw ..

/-- The vertices of a mesh are read back by the loop over them. -/
theorem reads_vertices {vertices : List Vertex} (h : vertices.length < 2 ^ 32) :
    Reads (Reader.fold readVertex (UInt32.ofNat vertices.length).toNat [])
      (vertices.flatMap Vertex.bytes) vertices := by
  rw [toNat_ofNat_count h]
  exact Reads.collect (fun vertex _ acc => reads_vertex vertex acc) []

/-- The vertices of a mesh are needed whole: when the stream ends in them, reading them fails. -/
theorem takes_vertices {vertices : List Vertex} (h : vertices.length < 2 ^ 32) :
    Takes 0 (Reader.fold readVertex (UInt32.ofNat vertices.length).toNat [])
      (vertices.flatMap Vertex.bytes) := by
  rw [toNat_ofNat_count h]
  exact Takes.fold (fun vertex _ acc => takes_vertex vertex acc) []

/-- The size of the indices in bytes, as the `unsigned` that the loader computes, is right when it
fits. -/
theorem toNat_indexSize {n : Nat} (h : n * 4 < 2 ^ 32) : (UInt32.ofNat n * 4).toNat = n * 4 := by
  have hn : (UInt32.ofNat n).toNat = n := toNat_ofNat_count (by omega)
  rw [UInt32.toNat_mul, hn]
  exact Nat.mod_eq_of_lt h

/-- The indices of a mesh are read back as one block. -/
theorem reads_indices {indices : List UInt32} (h : indices.length * 4 < 2 ^ 32) :
    Reads (readBytes (.ofNat indices.length * 4)) (indices.flatMap encodeU32)
      (indices.flatMap encodeU32) := by
  rw [readBytes, toNat_indexSize h, ← length_flatMap_encodeU32]
  exact Reads.block _

/-- The indices of a mesh are needed whole: when the stream ends in them, reading them fails. -/
theorem takes_indices {indices : List UInt32} (h : indices.length * 4 < 2 ^ 32) :
    Takes 0 (readBytes (.ofNat indices.length * 4)) (indices.flatMap encodeU32) := by
  rw [readBytes, toNat_indexSize h, ← length_flatMap_encodeU32]
  exact Takes.block _

end NggFileData

namespace MeshRecord

open NggFileData

/-- A mesh whose name the field of the object has room for. -/
def NameFits (mesh : MeshRecord) : Prop := (cString mesh.name).length < NggFile.maxNameSize

instance (mesh : MeshRecord) : Decidable mesh.NameFits := inferInstanceAs (Decidable (_ < _))

/-- The mesh in the object after its record was loaded. -/
def loaded (mesh : MeshRecord) : NggFile.Mesh where
  name := cString mesh.name
  vertices := mesh.vertices
  indices := mesh.indices
  numVertices := .ofNat mesh.vertices.length
  numIndices := .ofNat mesh.indices.length
  material :=
    ⟨mesh.diffuse.map cString, mesh.specular.map cString, mesh.normal.map cString,
      mesh.height.map cString⟩

variable {mesh : MeshRecord}

/-- The textures of each of the four kinds of a well formed mesh are read back. -/
theorem WellFormed.reads_textures (h : mesh.WellFormed) (textures : List (List UInt8))
    (hmem : textures ∈ [mesh.diffuse, mesh.specular, mesh.normal, mesh.height]) :
    Reads (Reader.fold readTexture (UInt32.ofNat textures.length).toNat [])
      (textures.flatMap encodeString) (textures.map cString) :=
  NggFileData.reads_textures (h.counts _ hmem) (h.textures _ hmem)

/-- The textures of each of the four kinds of a well formed mesh are taken from a stream that may
end in them. -/
theorem WellFormed.takes_textures (h : mesh.WellFormed) (textures : List (List UInt8))
    (hmem : textures ∈ [mesh.diffuse, mesh.specular, mesh.normal, mesh.height]) :
    Takes (2 ^ 32) (Reader.fold readTexture (UInt32.ofNat textures.length).toNat [])
      (textures.flatMap encodeString) :=
  NggFileData.takes_textures (h.counts _ hmem) (h.textures _ hmem)

/-- **A mesh whose name fits is read back** from its encoding, whatever follows it. -/
theorem reads_meshV1 (h : mesh.WellFormed) (hindices : mesh.indices.length * 4 < 2 ^ 32)
    (hname : mesh.NameFits) : Reads readMeshV1 mesh.encode mesh.loaded := by
  simp only [encode, List.append_assoc]
  refine (Reads.string h.name).bind ?_
  refine (Reads.u32 _).bind ((Reads.u32 _).bind ((Reads.u32 _).bind ((Reads.u32 _).bind
    ((Reads.u32 _).bind ((Reads.u32 _).bind ?_)))))
  refine (reads_name hname).bind_nil ?_
  refine (reads_vertices h.vertices).bind ?_
  refine (reads_indices hindices).bind ?_
  refine (h.reads_textures mesh.diffuse (by simp)).bind ?_
  refine (h.reads_textures mesh.specular (by simp)).bind ?_
  refine (h.reads_textures mesh.normal (by simp)).bind ?_
  have hloaded : mesh.loaded
      = { mesh.loaded with indices := leWords (mesh.indices.flatMap encodeU32) } := by
    rw [leWords_flatMap_encodeU32]
    rfl
  rw [hloaded]
  exact (h.reads_textures mesh.height (by simp)).bind_pure

/-- **A mesh whose name does not fit** overruns the field for it, and reading it fails. -/
theorem throws_meshV1 (h : mesh.WellFormed) (hname : ¬ mesh.NameFits) :
    Throws readMeshV1 mesh.encode := by
  simp only [encode, List.append_assoc]
  refine .bind_right (Reads.string h.name) ?_
  refine .bind_right (Reads.u32 _) (.bind_right (Reads.u32 _) (.bind_right (Reads.u32 _)
    (.bind_right (Reads.u32 _) (.bind_right (Reads.u32 _) (.bind_right (Reads.u32 _) ?_)))))
  exact (throws_name hname).bind_left _

/-- **A mesh that the stream may not hold to the end.** Only the last texture name can be cut
without a failure. -/
theorem takes_meshV1 (h : mesh.WellFormed) (hindices : mesh.indices.length * 4 < 2 ^ 32) :
    Takes (2 ^ 32) readMeshV1 mesh.encode := by
  simp only [encode, List.append_assoc]
  refine (Takes.string h.name).bind fun str => ?_
  -- the counts are needed whole, and say what comes next
  refine .bind_u32 (.bind_u32 (.bind_u32 (.bind_u32 (.bind_u32 (.bind_u32 ?_)))))
  refine (takes_name str).bind_nil fun _ => ?_
  refine ((takes_vertices h.vertices).mono (Nat.zero_le _)).bind fun _ => ?_
  refine ((takes_indices hindices).mono (Nat.zero_le _)).bind fun _ => ?_
  refine (h.takes_textures mesh.diffuse (by simp)).bind fun _ => ?_
  refine (h.takes_textures mesh.specular (by simp)).bind fun _ => ?_
  refine (h.takes_textures mesh.normal (by simp)).bind fun _ => ?_
  exact (h.takes_textures mesh.height (by simp)).bind_pure

end MeshRecord

/-! ## Files -/

/-- What the loader can take of a list of meshes: the fields fit their counts, and the size of the
indices of a mesh fits the `unsigned` it is narrowed to. -/
structure Loadable (meshes : List MeshRecord) : Prop where
  count : meshes.length < 2 ^ 32
  wellFormed : ∀ mesh ∈ meshes, mesh.WellFormed
  indices : ∀ mesh ∈ meshes, mesh.indices.length * 4 < 2 ^ 32

/-- The object after a file with these meshes was loaded. -/
def loadedNgg (meshes : List MeshRecord) : NggFileData := ⟨1, meshes.map MeshRecord.loaded⟩

namespace NggFileData

variable {meshes : List MeshRecord}

/-- **A file is read back** when the names of all meshes fit, and the load reports success. -/
theorem reads_file (data : NggFileData) (h : Loadable meshes)
    (hnames : ∀ mesh ∈ meshes, mesh.NameFits) :
    Reads (readFile data) (encodeNgg meshes) (true, loadedNgg meshes) := by
  have hmeshes : Reads (Reader.fold readMesh (UInt32.ofNat meshes.length).toNat [])
      (meshes.flatMap MeshRecord.encode) (meshes.map MeshRecord.loaded) := by
    rw [toNat_ofNat_count h.count]
    exact Reads.collect_map (fun mesh hmem acc =>
      (mesh.reads_meshV1 (h.wellFormed mesh hmem) (h.indices mesh hmem)
        (hnames mesh hmem)).bind_pure) []
  simp only [encodeNgg, List.append_assoc]
  refine Reads.guarded ?_
  refine (Reads.u32 _).bind ?_
  rw [if_pos rfl]
  exact (Reads.u32 _).bind hmeshes.bind_pure

/-- **A name that does not fit**, of any of the meshes, makes loading the file fail. -/
theorem throws_file (data : NggFileData) (h : Loadable meshes)
    (hname : ∃ mesh ∈ meshes, ¬ mesh.NameFits) :
    Throws (readFile data) (encodeNgg meshes) := by
  have hmeshes : Throws (Reader.fold readMesh (UInt32.ofNat meshes.length).toNat [])
      (meshes.flatMap MeshRecord.encode) := by
    rw [toNat_ofNat_count h.count]
    refine Throws.fold (fun mesh hmem hfits acc => ?_) (fun mesh hmem hover acc => ?_) hname []
    · exact ⟨_, (mesh.reads_meshV1 (h.wellFormed mesh hmem) (h.indices mesh hmem)
        (not_not.mp hfits)).bind_pure⟩
    · exact (mesh.throws_meshV1 (h.wellFormed mesh hmem) hover).bind_pure
  simp only [encodeNgg, List.append_assoc]
  refine .bind_right (Reads.u64 _) ?_
  rw [if_pos rfl]
  refine Throws.bind_pure (f := fun data => (true, data)) ?_
  refine .bind_right (Reads.u32 _) ?_
  rw [if_pos rfl]
  exact .bind_right (Reads.u32 _) hmeshes.bind_pure

/-- **A file on a stream that may end in it** is taken up to there: loading it fails, or goes on
with zeroes in the last string. -/
theorem takes_file (data : NggFileData) (h : Loadable meshes) :
    Takes (2 ^ 32) (readFile data) (encodeNgg meshes) := by
  have hmeshes : Takes (2 ^ 32) (Reader.fold readMesh (UInt32.ofNat meshes.length).toNat [])
      (meshes.flatMap MeshRecord.encode) := by
    rw [toNat_ofNat_count h.count]
    exact Takes.fold (fun mesh hmem acc =>
      (mesh.takes_meshV1 (h.wellFormed mesh hmem) (h.indices mesh hmem)).bind_pure) []
  simp only [encodeNgg, List.append_assoc]
  refine .bind_u64 ?_
  rw [if_pos rfl]
  refine Takes.bind_pure (f := fun data => (true, data)) ?_
  refine .bind_u32 ?_
  rw [if_pos rfl]
  exact .bind_u32 hmeshes.bind_pure

/-- When a file of the given meshes can be loaded: every name fits, and so does the size. -/
def Fits (meshes : List MeshRecord) : Prop :=
  (∀ mesh ∈ meshes, mesh.NameFits) ∧ (encodeNgg meshes).length < 2 ^ 32

/-- **Loading a file that fits** returns success and the meshes of the file, whatever the object
held before. -/
theorem load_of_fits (data : NggFileData) (h : Loadable meshes) (hfits : Fits meshes) :
    data.load (encodeNgg meshes) (.ofNat (encodeNgg meshes).length) none
      = .ok (true, loadedNgg meshes) := by
  rw [load, toNat_ofNat_count hfits.2, List.take_length]
  have hread := (reads_file data.reset h hfits.1).run' [] none
  rwa [List.append_nil] at hread

/-- **Loading a file that does not fit** fails, whatever the object held before. -/
theorem fails_load (data : NggFileData) (h : Loadable meshes) (hfits : ¬ Fits meshes) :
    Fails (data.load (encodeNgg meshes) (.ofNat (encodeNgg meshes).length) none) := by
  rw [load, StateT.run'_eq]
  by_cases hsize : (encodeNgg meshes).length < 2 ^ 32
  · have hname : ∃ mesh ∈ meshes, ¬ mesh.NameFits := by
      by_contra hall
      push Not at hall
      exact hfits ⟨hall, hsize⟩
    have hthrows := throws_file data.reset h hname [] none
    rw [toNat_ofNat_count hsize, List.take_length]
    rw [List.append_nil] at hthrows
    exact hthrows.map
  · -- the size is taken modulo `2 ^ 32`, so that at least as many bytes are missing
    have hlt := (UInt32.ofNat (encodeNgg meshes).length).toNat_lt
    have hmissing : 2 ^ 32 ≤ ((encodeNgg meshes).drop
        (UInt32.ofNat (encodeNgg meshes).length).toNat).length := by
      rw [List.length_drop, UInt32.toNat_ofNat']
      omega
    have htakes := takes_file data.reset h
    rw [← List.take_append_drop (UInt32.ofNat (encodeNgg meshes).length).toNat
      (encodeNgg meshes)] at htakes
    refine (htakes.fails_of_le hmissing ?_).map
    exact List.ne_nil_of_length_pos (by omega)

end NggFileData

end Nyx
