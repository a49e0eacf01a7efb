import Nyx.Foundations.Leftovers
import Nyx.Loaders.NggFiles

/-! # The buffers of a mesh

`NggFile::load` copies the name of a mesh into `m_name`, which has room for `MAX_NAME_SIZE` bytes,
and reads its indices into a buffer whose size goes through an `unsigned`. The name and the number
of indices are taken from the file as they are.

* **`NggFileData.StaysInside`** — loading wrote inside of `m_name`, and the accessors read inside of
  the buffers.
* **`MeshHeader`**, **`NggFileData.headers`** — what the file says of its meshes.
* **`NggFileData.load_staysInside_iff`** — loading stays inside exactly when all headers fit. -/

namespace Nyx

open Foundations

/-! ## Buffers that are large enough -/

/-- The buffers of a mesh have as many elements as its counts say, and the accessors, which look at
the counts, read inside of them. -/
structure NggFile.Mesh.Buffered (mesh : NggFile.Mesh) : Prop where
  vertices : mesh.numVertices.toNat ≤ mesh.vertices.length
  indices : mesh.numIndices.toNat ≤ mesh.indices.length
  vertex : ∀ index < mesh.numVertices, index.toNat < mesh.vertices.length
  index : ∀ index < mesh.numIndices, index.toNat < mesh.indices.length

/-- Whether the buffers of a mesh are filled is decided by its two counts. -/
theorem NggFile.Mesh.buffered_iff (mesh : NggFile.Mesh) : mesh.Buffered ↔
    mesh.numVertices.toNat ≤ mesh.vertices.length ∧
      mesh.numIndices.toNat ≤ mesh.indices.length := by
  refine ⟨fun h => ⟨h.vertices, h.indices⟩, fun h => ⟨h.1, h.2, ?_, ?_⟩⟩
  · intro index hlt
    exact Nat.lt_of_lt_of_le (UInt32.lt_iff_toNat_lt.mp hlt) h.1
  · intro index hlt
    exact Nat.lt_of_lt_of_le (UInt32.lt_iff_toNat_lt.mp hlt) h.2

/-! ## What a file says of its meshes -/

/-- What stands in a file before the contents of a mesh. -/
structure MeshHeader where
  str : List UInt8
  numVertices : UInt32
  numIndices : UInt32
  numDiffuse : UInt32
  numSpecular : UInt32
  numNormal : UInt32
  numHeight : UInt32

namespace MeshHeader

/-- There is room for the name and the zero behind it, and the bytes of the indices can be counted
in 32 bits. -/
def Fits (header : MeshHeader) : Prop :=
  (cString header.str).length < NggFile.maxNameSize ∧ header.numIndices.toNat < 2 ^ 30

/-- The header that a mesh starts with: its name and its counts. -/
def scan : Reader MeshHeader := do
  let str ← Reader.string
  let numVertices ← Reader.u32
  let numIndices ← Reader.u32
  let numDiffuse ← Reader.u32
  let numSpecular ← Reader.u32
  let numNormal ← Reader.u32
  let numHeight ← Reader.u32
  pure ⟨str, numVertices, numIndices, numDiffuse, numSpecular, numNormal, numHeight⟩

end MeshHeader

namespace NggFileData

open NggFile

/-- The names of the textures that a header announces. -/
def readTextures (header : MeshHeader) : Reader Material := do
  let diffuse ← Reader.fold readTexture header.numDiffuse.toNat []
  let specular ← Reader.fold readTexture header.numSpecular.toNat []
  let normal ← Reader.fold readTexture header.numNormal.toNat []
  let height ← Reader.fold readTexture header.numHeight.toNat []
  pure ⟨diffuse, specular, normal, height⟩

/-- The header of a mesh. Its vertices, its indices and the names of its textures are passed
over. -/
def scanMesh (headers : List MeshHeader) : Reader (List MeshHeader) := do
  let header ← MeshHeader.scan
  let _ ← Reader.block (Vertex.size * header.numVertices.toNat + 4 * header.numIndices.toNat)
  let _ ← readTextures header
  pure (headers ++ [header])

/-- The headers in a file; only version `1` has meshes. -/
def scanFile : Reader (List MeshHeader) := do
  let found ← Reader.u64
  if found = magic then
    let version ← Reader.u32
    if version = 1 then
      let count ← Reader.u32
      Reader.fold scanMesh count.toNat []
    else pure []
  else pure []

/-- What the bytes say of the meshes: their headers, as far as they are read. -/
def headers (bytes : List UInt8) (size : UInt32) (leftover : Nat → UInt8) : List MeshHeader :=
  match scanFile.run (LeftoverStream.start (bytes.take size.toNat) leftover).stream with
  | .ok (headers, _) => headers
  | .error _ => []

/-! ## One mesh -/

/-- A member of a vertex takes its bytes, four for each value, and always returns. -/
theorem run_readValues {n : Nat} (h : n ≤ 4) (input : LeftoverStream) :
    ∃ values, (readValues n).run input.stream = .ok (values, (input.fill (4 * n)).2.stream) := by
  have hsize : (UInt32.ofNat (4 * n)).toNat = 4 * n := toNat_ofNat_count (by omega)
  unfold readValues readBytes
  rw [hsize, Reader.run_bind_of_ok (Reader.run_block _ _)]
  exact ⟨_, rfl⟩

/-- A vertex takes the bytes of a vertex, goes behind the others, and is always returned. -/
theorem run_readVertex (vertices : List Vertex) (input : LeftoverStream) :
    ∃ vertex, (readVertex vertices).run input.stream =
      .ok (vertices ++ [vertex], (input.fill Vertex.size).2.stream) := by
  obtain ⟨position, hposition⟩ := run_readValues (n := 4) (by omega) input
  obtain ⟨normals, hnormals⟩ := run_readValues (n := 4) (by omega) (input.fill 16).2
  obtain ⟨weights, hweights⟩ := run_readValues (n := 4) (by omega) ((input.fill 16).2.fill 16).2
  obtain ⟨ids, hids⟩ := run_readValues (n := 4) (by omega)
    (((input.fill 16).2.fill 16).2.fill 16).2
  obtain ⟨uvs, huvs⟩ := run_readValues (n := 2) (by omega)
    ((((input.fill 16).2.fill 16).2.fill 16).2.fill 16).2
  refine ⟨⟨position, normals, weights, ids, uvs⟩, ?_⟩
  unfold readVertex
  rw [Reader.run_bind_of_ok hposition, Reader.run_bind_of_ok hnormals,
    Reader.run_bind_of_ok hweights, Reader.run_bind_of_ok hids, Reader.run_bind_of_ok huvs]
  simp only [← LeftoverStream.fill_add]
  rfl

/-- The vertices of a mesh take the bytes of so many vertices, and all of them are returned. -/
theorem run_readVertices (n : Nat) (vertices : List Vertex) (input : LeftoverStream) :
    ∃ more, (Reader.fold readVertex n vertices).run input.stream =
      .ok (vertices ++ more, (input.fill (Vertex.size * n)).2.stream) ∧ more.length = n := by
  induction n generalizing vertices input with
  | zero =>
      refine ⟨[], ?_, rfl⟩
      rw [Nat.mul_zero, LeftoverStream.fill_zero, List.append_nil]
      rfl
  | succ n ih =>
      obtain ⟨vertex, hvertex⟩ := run_readVertex vertices input
      obtain ⟨more, hmore, hlength⟩ := ih (vertices ++ [vertex]) (input.fill Vertex.size).2
      refine ⟨vertex :: more, ?_, by simp [hlength]⟩
      rw [Reader.fold, Reader.run_bind_of_ok hvertex, hmore, ← LeftoverStream.fill_add,
        Nat.mul_succ, Nat.add_comm]
      simp

/-- What `readMeshV1` does after the header: it copies the name and reads the vertices, indices and
textures. -/
def readBody (header : MeshHeader) : Reader Mesh := do
  let name ← copyName header.str
  let vertices ← Reader.fold readVertex header.numVertices.toNat []
  let indices ← readBytes (header.numIndices * 4)
  let material ← readTextures header
  pure ⟨name, vertices, leWords indices, header.numVertices, header.numIndices, material⟩

/-- A mesh is read by reading its header and then what is behind it. -/
theorem readMeshV1_eq : readMeshV1 = MeshHeader.scan >>= readBody := by
  simp only [readMeshV1, MeshHeader.scan, readBody, readTextures, readString, readUnsigned,
    bind_assoc, pure_bind]

/-- The names of the textures are returned on every stream with known leftovers. -/
theorem returns_readTextures (header : MeshHeader) : Returns (readTextures header) := by
  have hfold : ∀ n : UInt32, Returns (Reader.fold readTexture n.toNat []) := fun n =>
    Returns.fold (fun _ => Returns.string.bind fun _ => Returns.pure _) _ _
  refine (hfold _).bind fun _ => (hfold _).bind fun _ => ?_
  exact (hfold _).bind fun _ => (hfold _).bind fun _ => Returns.pure _

/-- Headers are returned on every stream with known leftovers. -/
theorem returns_scan : Returns MeshHeader.scan := by
  refine Returns.string.bind fun _ => Returns.u32.bind fun _ => Returns.u32.bind fun _ => ?_
  refine Returns.u32.bind fun _ => Returns.u32.bind fun _ => Returns.u32.bind fun _ => ?_
  exact Returns.u32.bind fun _ => Returns.pure _

/-- The number of indices in a buffer of as many bytes as 32 bits count. -/
theorem le_narrowed_iff (n : UInt32) : n.toNat ≤ (n * 4).toNat / 4 ↔ n.toNat < 2 ^ 30 := by
  have hmul : (n * 4).toNat = n.toNat * 4 % 2 ^ 32 := UInt32.toNat_mul n 4
  omega

/-- A mesh whose name fits is read, with buffers that are large enough when the header fits. -/
theorem run_readBody {header : MeshHeader} (h : (cString header.str).length < maxNameSize)
    (input : LeftoverStream) :
    ∃ mesh after, (readBody header).run input.stream = .ok (mesh, after) ∧
      (mesh.Buffered ↔ header.Fits) ∧ ∃ material, (readTextures header).run (input.fill
        (Vertex.size * header.numVertices.toNat + (header.numIndices * 4).toNat)).2.stream =
          .ok (material, after) := by
  obtain ⟨vertices, hvertices, hlength⟩ := run_readVertices header.numVertices.toNat [] input
  obtain ⟨material, after, hmaterial⟩ := returns_readTextures header (input.fill
    (Vertex.size * header.numVertices.toNat + (header.numIndices * 4).toNat)).2
  have hname : (copyName header.str).run input.stream =
      .ok (cString header.str, input.stream) := by
    rw [copyName, if_pos h]
    rfl
  unfold readBody readBytes
  rw [Reader.run_bind_of_ok hname, Reader.run_bind_of_ok hvertices,
    Reader.run_bind_of_ok (Reader.run_block _ _), ← LeftoverStream.fill_add,
    Reader.run_bind_of_ok hmaterial]
  refine ⟨_, _, rfl, ?_, material, hmaterial⟩
  rw [Mesh.buffered_iff, MeshHeader.Fits, and_iff_right h, List.nil_append, hlength,
    and_iff_right (Nat.le_refl _), length_leWords, LeftoverStream.length_fill, le_narrowed_iff]

/-- **One mesh.** Its header is scanned; when it fits, the mesh is read with buffers that are large
enough, from the same bytes, and otherwise it is not. -/
theorem run_readMeshV1 (headers : List MeshHeader) (input : LeftoverStream) :
    ∃ header, ∃ after : LeftoverStream,
      (scanMesh headers).run input.stream = .ok (headers ++ [header], after.stream) ∧
      (header.Fits → ∃ mesh, readMeshV1.run input.stream = .ok (mesh, after.stream) ∧
        mesh.Buffered) ∧
      (¬ header.Fits → ∀ mesh after', readMeshV1.run input.stream = .ok (mesh, after') →
        ¬ mesh.Buffered) := by
  obtain ⟨header, mid, hscan⟩ := returns_scan input
  obtain ⟨skipped, after, hskipped⟩ := returns_readTextures header (mid.fill
    (Vertex.size * header.numVertices.toNat + 4 * header.numIndices.toNat)).2
  refine ⟨header, after, ?_, ?_, ?_⟩
  · unfold scanMesh
    rw [Reader.run_bind_of_ok hscan, Reader.run_bind_of_ok (Reader.run_block _ _),
      Reader.run_bind_of_ok hskipped]
    rfl
  · intro hfits
    obtain ⟨mesh, after', hbody, hbuffered, material, hmaterial⟩ := run_readBody hfits.1 mid
    -- all of the indices are read, so that the textures are read from where the scan reads them
    have hsize : (header.numIndices * 4).toNat = 4 * header.numIndices.toNat := by
      have hmul : (header.numIndices * 4).toNat = header.numIndices.toNat * 4 % 2 ^ 32 :=
        UInt32.toNat_mul _ 4
      have hlt := hfits.2
      omega
    rw [hsize, hskipped] at hmaterial
    cases hmaterial
    refine ⟨mesh, ?_, hbuffered.mpr hfits⟩
    rw [readMeshV1_eq, Reader.run_bind_of_ok hscan, hbody]
  · intro hfits mesh after' hmesh
    rw [readMeshV1_eq, Reader.run_bind_of_ok hscan] at hmesh
    by_cases hname : (cString header.str).length < maxNameSize
    · obtain ⟨mesh', after'', hbody, hbuffered, -⟩ := run_readBody hname mid
      rw [hbody] at hmesh
      cases hmesh
      exact fun h => hfits (hbuffered.mp h)
    · -- the name is copied past the end of `m_name`
      rw [readBody, copyName, if_neg hname] at hmesh
      cases hmesh

/-! ## All meshes -/

/-- The loop over the meshes keeps the meshes that it has read before. -/
theorem mem_of_run_readMeshes {n : Nat} {meshes all : List Mesh} {input after : ByteStream}
    (h : (Reader.fold readMesh n meshes).run input = .ok (all, after)) {mesh : Mesh}
    (hmem : mesh ∈ meshes) : mesh ∈ all := by
  induction n generalizing meshes input with
  | zero =>
      cases h
      exact hmem
  | succ n ih =>
      obtain ⟨meshes', mid, hfirst, hrest⟩ := exists_of_run_bind h
      obtain ⟨mesh', mid', -, hpush⟩ := exists_of_run_bind hfirst
      cases hpush
      exact ih hrest (List.mem_append_left _ hmem)

/-- **All meshes.** The loop over the meshes reads them all with buffers that are large enough
exactly when the headers fit. -/
theorem run_readMeshes_iff (n : Nat) (meshes : List Mesh) (headers : List MeshHeader)
    (hbefore : ∀ mesh ∈ meshes, mesh.Buffered) (input : LeftoverStream) :
    ∃ more after, (Reader.fold scanMesh n headers).run input.stream = .ok (headers ++ more, after) ∧
      ((∃ all after', (Reader.fold readMesh n meshes).run input.stream = .ok (all, after') ∧
        ∀ mesh ∈ all, mesh.Buffered) ↔ ∀ header ∈ more, header.Fits) := by
  induction n generalizing meshes headers input with
  | zero =>
      refine ⟨[], input.stream, ?_, iff_of_true ⟨meshes, input.stream, rfl, hbefore⟩ (by simp)⟩
      rw [List.append_nil]
      rfl
  | succ n ih =>
      obtain ⟨header, mid, hscan, hgood, hbad⟩ := run_readMeshV1 headers input
      by_cases hfits : header.Fits
      · obtain ⟨mesh, hmesh, hbuffered⟩ := hgood hfits
        have hread : (readMesh meshes).run input.stream = .ok (meshes ++ [mesh], mid.stream) := by
          rw [readMesh, Reader.run_bind_of_ok hmesh]
          rfl
        obtain ⟨more, after, hmore, hiff⟩ := ih (meshes ++ [mesh]) (headers ++ [header])
          (by simpa [or_imp, forall_and] using ⟨hbefore, hbuffered⟩) mid
        refine ⟨header :: more, after, ?_, ?_⟩
        · rw [Reader.fold, Reader.run_bind_of_ok hscan, hmore, List.append_assoc]
          rfl
        · rw [Reader.fold, Reader.run_bind_of_ok hread, hiff, List.forall_mem_cons,
            and_iff_right hfits]
      · -- whatever is read after this mesh, its buffers stay too small
        obtain ⟨more, after, hmore, -⟩ := ih [] (headers ++ [header]) (by simp) mid
        refine ⟨header :: more, after, ?_, iff_of_false ?_ ?_⟩
        · rw [Reader.fold, Reader.run_bind_of_ok hscan, hmore, List.append_assoc]
          rfl
        · rintro ⟨all, after', hall, hbuffered⟩
          obtain ⟨meshes', mid', hfirst, hrest⟩ := exists_of_run_bind hall
          obtain ⟨mesh, mid'', hmesh, hpush⟩ := exists_of_run_bind hfirst
          cases hpush
          refine hbad hfits mesh _ hmesh (hbuffered mesh (mem_of_run_readMeshes hrest ?_))
          exact List.mem_append_right _ List.mem_cons_self
        · exact fun h => hfits (h header List.mem_cons_self)

/-- Loading copied every name inside of `m_name`, and every mesh has buffers that are large
enough. -/
def StaysInside (result : Except StreamFailure (Bool × NggFileData)) : Prop :=
  ∃ success data, result = .ok (success, data) ∧ ∀ mesh ∈ data.meshes, mesh.Buffered

/-- The contents of a version `1` file are the meshes that the loop reads, as many as the file
says. -/
theorem run_readContents_of_eq (data : NggFileData) {input : LeftoverStream}
    (h : input.wordAt 0 = 1) :
    (readContents data).run input.stream = ((Reader.fold readMesh (input.wordAt 4).toNat
      []).run (input.fill 8).2.stream).map fun result => (⟨1, result.1⟩, result.2) := by
  unfold readContents readUnsigned
  rw [Reader.run_bind_of_ok (Reader.run_u32 _), if_pos h, Reader.run_bind_of_ok (Reader.run_u32 _),
    ← LeftoverStream.fill_add, LeftoverStream.wordAt_fill, h, StateT.run_bind]
  cases (Reader.fold readMesh (input.wordAt 4).toNat []).run (input.fill 8).2.stream <;> rfl

/-- A load whose meshes are read stays inside when the buffers of all of them are filled. -/
theorem staysInside_map_iff {result : Except StreamFailure (List Mesh × ByteStream)} :
    StaysInside (result.map fun result => (true, ⟨1, result.1⟩)) ↔
      ∃ all after, result = .ok (all, after) ∧ ∀ mesh ∈ all, mesh.Buffered := by
  cases result with
  | error failure => simp [StaysInside, Except.map]
  | ok result => simp [StaysInside, Except.map, Prod.ext_iff]

/-- What is read of a file stays inside exactly when its headers fit. -/
theorem readFile_staysInside_iff (data : NggFileData) (hdata : data.meshes = [])
    (input : LeftoverStream) :
    ∃ headers after, scanFile.run input.stream = .ok (headers, after) ∧
      (StaysInside ((readFile data).run' input.stream) ↔ ∀ header ∈ headers, header.Fits) := by
  unfold readFile scanFile readMagic
  rw [StateT.run'_eq, Reader.run_bind_of_ok (Reader.run_u64 _),
    Reader.run_bind_of_ok (Reader.run_u64 _)]
  by_cases hmagic : input.longAt 0 = magic
  · rw [if_pos hmagic, if_pos hmagic, Reader.run_bind_of_ok (Reader.run_u32 _)]
    by_cases hversion : (input.fill 8).2.wordAt 0 = 1
    · obtain ⟨headers, after, hscan, hiff⟩ := run_readMeshes_iff
        ((input.fill 8).2.wordAt 4).toNat [] [] (by simp) ((input.fill 8).2.fill 8).2
      have hcount := LeftoverStream.wordAt_fill 4 (input.fill 8).2 0
      have hnext := (input.fill 8).2.fill_add 4 4
      rw [if_pos hversion, Reader.run_bind_of_ok (Reader.run_u32 _), hcount, ← hnext,
        StateT.run_bind, run_readContents_of_eq _ hversion]
      refine ⟨headers, after, hscan, ?_⟩
      rw [← hiff, ← staysInside_map_iff]
      generalize (Reader.fold readMesh ((input.fill 8).2.wordAt 4).toNat []).run _ = result
      cases result <;> rfl
    · rw [if_neg hversion]
      unfold readContents readUnsigned
      rw [StateT.run_bind, Reader.run_bind_of_ok (Reader.run_u32 _), if_neg hversion]
      exact ⟨[], _, rfl, iff_of_true ⟨true, _, rfl, by simp [hdata]⟩ (by simp)⟩
  · rw [if_neg hmagic, if_neg hmagic]
    exact ⟨[], _, rfl, iff_of_true ⟨false, _, rfl, by simp [hdata]⟩ (by simp)⟩

/-- **Loading stays inside its buffers.** For all bytes and whatever was left over in memory, and
whatever was loaded before: every copy of a name stays inside of `m_name` and every mesh has as many
vertices and indices in its buffers as it says, exactly when every mesh in the file has a name
shorter than `MAX_NAME_SIZE` and fewer than `2 ^ 30` indices. -/
theorem load_staysInside_iff (data : NggFileData) (bytes : List UInt8) (size : UInt32)
    (leftover : Nat → UInt8) :
    StaysInside (data.load bytes size (some leftover)) ↔
      ∀ header ∈ headers bytes size leftover, header.Fits := by
  obtain ⟨found, after, hscan, hiff⟩ := readFile_staysInside_iff data.reset rfl
    (.start (bytes.take size.toNat) leftover)
  rw [headers, hscan]
  exact hiff

/-- A name of fifty characters is copied past the end of `m_name`. -/
theorem not_load_staysInside : ¬ ∀ (data : NggFileData) (bytes : List UInt8) (size : UInt32)
    (leftover : Nat → UInt8), StaysInside (data.load bytes size (some leftover)) := by
  intro h
  let mesh : MeshRecord := { name := .replicate 50 97, vertices := [], indices := [] }
  obtain ⟨success, data, hload, -⟩ := h {} (encodeNgg [mesh]) 94 fun _ => 0
  have hoverrun : ({} : NggFileData).load (encodeNgg [mesh]) 94 (some fun _ => 0)
      = .error .overrun := by
    decide +kernel
  rw [hoverrun] at hload
  cases hload

end NggFileData

end Nyx
