import Mathlib.Data.List.Forall2
import Nyx.Loaders.MeshDecoding
import Nyx.Transfers.Uploads

/-! # Models

`mars::Model::initialize` loads a geometry file and uploads it: for each mesh it makes an array for
the vertices and one for the indices, and fills each by a copy, a submit and a `synchronize` on a
chain of its own.

* **`Model.initializePath`**, **`Model.initializeBytes`**, **`Model.initializeFile`** — the three
  ways to initialise a model.
* **`Session.fillArray_of_atRest`** — what one copy does: the array holds the bytes, and no other
  array changes.
* **`ModelLoad.Holding`** — what holds part way through: the meshes so far are in their arrays,
  although every copy went through the same staging buffer.
* **`Model.initialize_iff`** — when a model holds the file after it was initialised. -/

namespace Nyx

open Foundations

/-! ## The program -/

/-- `nyx::Array`, as a chain sees it: its buffer, and the number of its elements. -/
structure DeviceArray where
  buffer : Buffer
  count : UInt32
  deriving DecidableEq, Repr

/-- `mars::Mesh`, with its arrays; nothing sets its name. -/
structure ModelMesh where
  vertices : DeviceArray
  indices : DeviceArray
  deriving DecidableEq, Repr

/-- `mars::Model`: the meshes that were uploaded, in order. -/
structure Model where
  meshes : List ModelMesh := []
  deriving DecidableEq, Repr

/-- What the initialisation of a model depends on, the file apart. -/
structure ModelContext where
  env : Environment
  /-- The GPU to allocate the model on. -/
  gpu : Nat
  /-- The local chain. -/
  chain : ChainId
  /-- What the memory of an array holds when it is allocated. -/
  allocated : Nat → Nat → UInt8

/-- The GPU `0` with an environment that does nothing beyond the copies, and zeros in new arrays. -/
def ModelContext.inert : ModelContext := ⟨.inert, 0, 0, fun _ _ => 0⟩

/-- The state of the program: what the chains share, and the first array that was never
allocated. -/
structure Program where
  world : World
  nextArray : Nat

/-- The initialisation of a model part way through: the chain, how many arrays there are, and the
meshes so far. -/
structure ModelLoad where
  session : Session
  nextArray : Nat
  model : Model

/-- What goes wrong in the initialisation of a model: its file, or a chain operation. -/
inductive ModelFailure
  | file (failure : StreamFailure)
  | chain (failure : ChainFailure)
  deriving DecidableEq, Repr

/-- The host memory behind `NggFile::Mesh::vertices`, vertex by vertex. -/
def NggFile.Mesh.vertexBytes (mesh : NggFile.Mesh) : List UInt8 :=
  mesh.vertices.flatMap Vertex.bytes

/-- The host memory behind `NggFile::Mesh::indices`, index by index. -/
def NggFile.Mesh.indexBytes (mesh : NggFile.Mesh) : List UInt8 := mesh.indices.flatMap encodeU32

/-- The world with a new buffer of `byteSize` bytes, and what its memory holds at first. -/
def World.allocate (world : World) (id byteSize : Nat) (contents : Nat → UInt8) : World :=
  { world with memory := Function.update world.memory (.array id) ⟨byteSize, contents⟩ }

/-- The new buffer is of that size, and holds what its memory held. -/
@[simp] theorem World.memory_allocate_self (world : World) (id byteSize : Nat)
    (contents : Nat → UInt8) :
    (world.allocate id byteSize contents).memory (.array id) = ⟨byteSize, contents⟩ :=
  Function.update_self ..

/-- All buffers but the new one are as they were. -/
@[simp] theorem World.memory_allocate_of_ne (world : World) {handle : BufferHandle} {id : Nat}
    (h : handle ≠ .array id) (byteSize : Nat) (contents : Nat → UInt8) :
    (world.allocate id byteSize contents).memory handle = world.memory handle :=
  Function.update_of_ne h ..

/-- `Array::initialize( gpu, count, false, flags )`: the size in bytes is an `unsigned`. -/
def ModelLoad.newArray (ctx : ModelContext) (load : ModelLoad) (count : UInt32)
    (elementSize : Nat) : DeviceArray × ModelLoad :=
  let byteSize := count.toNat * elementSize % 2 ^ 32
  let world := load.session.world.allocate load.nextArray byteSize (ctx.allocated load.nextArray)
  (⟨⟨.array load.nextArray, ctx.gpu⟩, count⟩,
    { load with session.world := world, nextArray := load.nextArray + 1 })

/-- `chain.copy( src, dst )` with its defaults, `chain.submit()` and `chain.synchronize()`. -/
def Session.fillArray (env : Environment) (s : Session) (src : List UInt8) (dst : DeviceArray)
    (elementSize : Nat) : Except ChainFailure Session :=
  runSteps (ListOp.step env) s
    [.recording (.upload src dst.buffer dst.count.toNat elementSize 0 0), .submit, .synchronize]

/-- The body of the loop over the meshes, which makes and fills two arrays. -/
def ModelLoad.uploadMesh (ctx : ModelContext) (load : ModelLoad) (mesh : NggFile.Mesh) :
    Except ChainFailure ModelLoad := do
  let (vertices, load) := load.newArray ctx mesh.numVertices NggFile.Vertex.size
  let (indices, load) := load.newArray ctx mesh.numIndices 4
  let s ← load.session.fillArray ctx.env mesh.vertexBytes vertices NggFile.Vertex.size
  let s ← s.fillArray ctx.env mesh.indexBytes indices 4
  pure { load with session := s, model.meshes := load.model.meshes ++ [⟨vertices, indices⟩] }

namespace Model

/-- What the three ways of initialising a model do with the loaded file. -/
def upload (ctx : ModelContext) (model : Model) (file : NggFileData) (program : Program) :
    Except ChainFailure (Model × Program) := do
  let data := ({} : ChainData).initializeType ctx.gpu .compute
  let load ← runSteps (ModelLoad.uploadMesh ctx)
    ⟨⟨ctx.chain, data, program.world⟩, program.nextArray, model⟩ file.meshes
  let s ← runSteps (ListOp.step ctx.env) load.session [.submit, .synchronize]
  -- the chain is local, and its reset touches nothing that outlives it
  let s := { s with data := s.data.reset }
  pure (load.model, ⟨s.world, load.nextArray⟩)

/-- `Model::initialize( file, gpu )`, which uploads the meshes of a file that was loaded. -/
def initializeFile (ctx : ModelContext) (model : Model) (file : NggFileData) (program : Program) :
    Except ModelFailure (Model × Program) :=
  (model.upload ctx file program).mapError .chain

/-- `Model::initialize( path, gpu )`, which loads a file and uploads its meshes, if it has any. -/
def initializePath (ctx : ModelContext) (files : Filesystem) (model : Model) (path : String)
    (program : Program) : Except ModelFailure (Model × Program) := do
  let (_, file) ← (({} : NggFileData).loadPath files path).mapError .file
  if file.meshes.length ≠ 0 then (model.upload ctx file program).mapError .chain
  else pure (model, program)

/-- `Model::initialize( bytes, size, gpu )`, which loads the bytes of a file and uploads its meshes,
if it has any. -/
def initializeBytes (ctx : ModelContext) (model : Model) (bytes : List UInt8) (size : UInt32)
    (program : Program) : Except ModelFailure (Model × Program) := do
  let (_, file) ← (({} : NggFileData).load bytes size none).mapError .file
  if file.meshes.length ≠ 0 then (model.upload ctx file program).mapError .chain
  else pure (model, program)

/-- A file is loaded from disk into an object, and the model is initialised with the object. -/
def initializeLoaded (ctx : ModelContext) (files : Filesystem) (model : Model)
    (file : NggFileData) (path : String) (program : Program) :
    Except ModelFailure (Model × Program) := do
  let (_, file) ← (file.loadPath files path).mapError .file
  model.initializeFile ctx file program

end Model

/-! ## What a model holds -/

/-- The bytes that an array has on the device, all of them. -/
def DeviceArray.contents (memory : DeviceMemory) (array : DeviceArray) : List UInt8 :=
  (memory array.buffer.handle).read 0 (memory array.buffer.handle).size

/-- A mesh of a model holds a mesh of a file, byte for byte. -/
def ModelMesh.Holds (memory : DeviceMemory) (mesh : ModelMesh) (record : MeshRecord) : Prop :=
  mesh.vertices.contents memory = record.vertexBytes ∧
    mesh.indices.contents memory = record.indexBytes

/-- A model has one mesh for each mesh of a file, in the order of the file, and each holds it. -/
def Model.Holds (memory : DeviceMemory) (model : Model) (records : List MeshRecord) : Prop :=
  List.Forall₂ (ModelMesh.Holds memory) model.meshes records

/-- An initialisation returns, and then the model holds the file. -/
def Faithful (result : Except ModelFailure (Model × Program)) (records : List MeshRecord) : Prop :=
  ∃ model program, result = .ok (model, program) ∧ model.Holds program.world.memory records

/-- The vertices and the indices of every mesh fit a staging buffer. -/
def FitStaging (records : List MeshRecord) : Prop :=
  ∀ record ∈ records, record.vertexBytes.length ≤ stagingBufferSize ∧
    record.indexBytes.length ≤ stagingBufferSize

/-! ## Filling an array -/

/-- A chain between two uploads: in `Sequential` mode, with nothing recorded, in a world whose
staging pool is ready. -/
structure Session.AtRest (s : Session) : Prop where
  sequential : s.data.Sequential
  idle : s.data.cmd.recording = false
  clean : s.data.dirty = false
  ready : s.world.Ready

/-- A new array, which is no staging buffer, leaves a ready pool ready. -/
theorem World.Ready.allocate {world : World} (h : world.Ready) (id byteSize : Nat)
    (contents : Nat → UInt8) : (world.allocate id byteSize contents).Ready where
  free := h.free
  large := h.large
  backed staging hmem := by
    rw [World.memory_allocate_of_ne _ (BufferHandle.array_ne_staging _ _).symm]
    exact h.backed staging hmem
  fresh := h.fresh

namespace Session

variable {env : Environment} {s : Session}

/-- **One copy.** An array as large as the host memory is filled from there; no other array changes,
and the chain is at rest again. -/
theorem fillArray_of_atRest (env : Environment) (h : s.AtRest) {src : List UInt8}
    (dst : DeviceArray) {elementSize id : Nat} (hdst : dst.buffer.handle = .array id)
    (hsrc : dst.count.toNat * elementSize = src.length) (hstaging : src.length ≤ stagingBufferSize)
    (hsize : (s.world.memory (.array id)).size = src.length) :
    ∃ t, s.fillArray env src dst elementSize = .ok t ∧ t.AtRest ∧
      dst.contents t.world.memory = src ∧
      ∀ other, other ≠ id → t.world.memory (.array other) = s.world.memory (.array other) := by
  let upload : Upload := ⟨src, dst.buffer, dst.count.toNat, elementSize, 0, 0⟩
  have hbytes : upload.byteSize = src.length := hsrc
  have hall : upload.bytes = src := by
    simp [Upload.bytes, hbytes, upload]
  have hfit : upload.Fits s.world.memory :=
    { array := ⟨id, hdst⟩
      source := by simp [hbytes, upload]
      staging := by rw [hbytes]; exact hstaging
      target := by
        have hhandle : upload.dst.handle = .array id := hdst
        rw [hhandle, hsize, hbytes]
        simp [upload] }
  obtain ⟨list, block, hblock, hrun, hfilled, hothers, hidle, hclean⟩ :=
    CommandList.run_uploads env s.list (List.cons_ne_nil upload []) h.ready h.idle
      (List.forall_mem_singleton.mpr hfit) (by simp)
  obtain ⟨t, ht, rfl⟩ := exists_run_of_list h.sequential hrun
  have hdone := hfilled upload List.mem_cons_self
  refine ⟨t, ht, ⟨sequential_run h.sequential ht, hidle, hclean,
    CommandList.ready_run h.ready hrun⟩, ?_, fun other hother => ?_⟩
  · -- the staging buffer holds the bytes at the submit, and the copy brings them into the array
    have hmem : t.world.memory dst.buffer.handle = (s.world.memory dst.buffer.handle).write 0
        (((block.write 0 src)).read 0 src.length) := by
      simpa [hall, hbytes, upload, Session.list] using hdone
    have hread : (block.write 0 src).read 0 src.length = src :=
      Block.read_write (by omega)
    have hback : ((s.world.memory (.array id)).write 0 src).read 0 src.length = src :=
      Block.read_write (by omega)
    rw [DeviceArray.contents, hmem, hread, hdst, Block.size_write, hsize, hback]
  · refine hothers other ?_
    simpa [upload, hdst] using Ne.symm hother

/-- **A submit without a recording** returns, and changes no memory. -/
theorem submit_of_atRest (env : Environment) (h : s.AtRest) :
    ∃ t, runSteps (ListOp.step env) s [.submit, .synchronize] = .ok t ∧
      t.world.memory = s.world.memory := by
  have hstop : s.list.tape.stop = s.list.tape := Tape.stop_of_idle h.idle
  have hnot : ¬ s.list.tape.Ready := fun hready => by
    cases hready.2.symm.trans h.clean
  have hsubmit : s.list.submit env = s.list := by
    simp only [CommandList.submit, hstop, hnot, if_false]
  have hrun : runSteps (CommandList.step env) s.list [.submit, .synchronize] = .ok s.list := by
    rw [runSteps_cons_of_ok (show s.list.step env .submit = .ok s.list by
      rw [CommandList.step, hsubmit])]
    rfl
  obtain ⟨t, ht, hlist⟩ := exists_run_of_list h.sequential hrun
  have hworld : t.world = s.world := congrArg CommandList.world hlist
  exact ⟨t, ht, by rw [hworld]⟩

end Session

/-! ## Uploading the meshes -/

/-- The arrays of a mesh are among the first `next` ones. -/
structure ModelMesh.Below (next : Nat) (mesh : ModelMesh) : Prop where
  vertices : ∃ id < next, mesh.vertices.buffer.handle = .array id
  indices : ∃ id < next, mesh.indices.buffer.handle = .array id

/-- Arrays that are among the first ones are so when there are more of them. -/
theorem ModelMesh.Below.mono {next next' : Nat} {mesh : ModelMesh} (h : mesh.Below next)
    (hle : next ≤ next') : mesh.Below next' := by
  obtain ⟨⟨i, hi, hvertices⟩, ⟨j, hj, hindices⟩⟩ := h
  exact ⟨⟨i, by omega, hvertices⟩, ⟨j, by omega, hindices⟩⟩

/-- A mesh holds what it held while its arrays do not change, whatever happens to later ones. -/
theorem ModelMesh.Holds.congr {memory memory' : DeviceMemory} {mesh : ModelMesh}
    {record : MeshRecord} {next : Nat} (h : mesh.Holds memory record) (hbelow : mesh.Below next)
    (hsame : ∀ id < next, memory' (.array id) = memory (.array id)) :
    mesh.Holds memory' record := by
  obtain ⟨i, hi, hvertices⟩ := hbelow.vertices
  obtain ⟨j, hj, hindices⟩ := hbelow.indices
  refine ⟨?_, ?_⟩
  · rw [DeviceArray.contents, hvertices, hsame i hi, ← hvertices]
    exact h.1
  · rw [DeviceArray.contents, hindices, hsame j hj, ← hindices]
    exact h.2

/-- **Part way through.** The chain is at rest, and the meshes that were added hold those of the
file so far, in arrays that were allocated. -/
structure ModelLoad.Holding (load : ModelLoad) (before : List ModelMesh)
    (records : List MeshRecord) : Prop where
  atRest : load.session.AtRest
  meshes : ∃ uploaded, load.model.meshes = before ++ uploaded ∧
    List.Forall₂ (fun mesh record => mesh.Holds load.session.world.memory record ∧
      mesh.Below load.nextArray) uploaded records

/-- The size in bytes of an array for elements that fit a staging buffer. -/
theorem arraySize_mod {n elementSize length : Nat} (hlength : length = n * elementSize)
    (hpos : 0 < elementSize) (hfit : length ≤ stagingBufferSize) :
    (UInt32.ofNat n).toNat * elementSize = length ∧
      (UInt32.ofNat n).toNat * elementSize % 2 ^ 32 = length := by
  have hle : n ≤ n * elementSize := Nat.le_mul_of_pos_right n hpos
  rw [stagingBufferSize] at hfit
  rw [toNat_ofNat_count (by omega), ← hlength]
  exact ⟨rfl, Nat.mod_eq_of_lt (by omega)⟩

/-- The vertices of a mesh take as many bytes as there are vertices, times the size of one. -/
theorem MeshRecord.length_vertexBytes (record : MeshRecord) :
    record.vertexBytes.length = record.vertices.length * NggFile.Vertex.size := by
  simp [MeshRecord.vertexBytes, List.length_flatMap]

/-- The indices of a mesh take four bytes each. -/
theorem MeshRecord.length_indexBytes (record : MeshRecord) :
    record.indexBytes.length = record.indices.length * 4 :=
  length_flatMap_encodeU32 _

/-- **One mesh.** Its arrays are new and hold it, and no array from before changes. -/
theorem ModelLoad.uploadMesh_of_atRest (ctx : ModelContext) {load : ModelLoad}
    (h : load.session.AtRest) {record : MeshRecord}
    (hvertices : record.vertexBytes.length ≤ stagingBufferSize)
    (hindices : record.indexBytes.length ≤ stagingBufferSize) :
    ∃ (t : Session) (mesh : ModelMesh),
      load.uploadMesh ctx record.loaded
        = .ok ⟨t, load.nextArray + 2, ⟨load.model.meshes ++ [mesh]⟩⟩ ∧
      t.AtRest ∧ mesh.Holds t.world.memory record ∧ mesh.Below (load.nextArray + 2) ∧
      ∀ id < load.nextArray,
        t.world.memory (.array id) = load.session.world.memory (.array id) := by
  obtain ⟨hvertexCount, hvertexSize⟩ :=
    arraySize_mod record.length_vertexBytes (by decide) hvertices
  obtain ⟨hindexCount, hindexSize⟩ := arraySize_mod record.length_indexBytes (by decide) hindices
  let next := load.nextArray
  let vertices : DeviceArray := ⟨⟨.array next, ctx.gpu⟩, .ofNat record.vertices.length⟩
  let indices : DeviceArray := ⟨⟨.array (next + 1), ctx.gpu⟩, .ofNat record.indices.length⟩
  let world := (load.session.world.allocate next record.vertexBytes.length
    (ctx.allocated next)).allocate (next + 1) record.indexBytes.length (ctx.allocated (next + 1))
  have hrest : ({ load.session with world := world } : Session).AtRest :=
    ⟨h.sequential, h.idle, h.clean, (h.ready.allocate ..).allocate ..⟩
  obtain ⟨s, hs, hsrest, hfilled, hsothers⟩ := Session.fillArray_of_atRest ctx.env hrest
    vertices rfl hvertexCount hvertices (by simp [world])
  obtain ⟨t, ht, htrest, htfilled, htothers⟩ := Session.fillArray_of_atRest ctx.env hsrest
    indices rfl hindexCount hindices
    (by rw [hsothers _ (Nat.succ_ne_self next)]; simp [world])
  refine ⟨t, ⟨vertices, indices⟩, ?_, htrest, ⟨?_, htfilled⟩,
    ⟨⟨next, by simp [next], rfl⟩, ⟨next + 1, by simp [next], rfl⟩⟩, fun id hid => ?_⟩
  · have hstep : load.uploadMesh ctx record.loaded
        = (({ load.session with world := world } : Session).fillArray ctx.env record.vertexBytes
            vertices NggFile.Vertex.size) >>= fun s =>
          s.fillArray ctx.env record.indexBytes indices 4 >>= fun t =>
            .ok ⟨t, next + 2, ⟨load.model.meshes ++ [⟨vertices, indices⟩]⟩⟩ := by
      simp only [ModelLoad.uploadMesh, newArray, MeshRecord.loaded, hvertexSize, hindexSize]
      rfl
    rw [hstep, hs]
    show s.fillArray ctx.env record.indexBytes indices 4 >>= _ = _
    rw [ht]
    rfl
  · -- the copy of the indices leaves the vertices alone
    have hkept : t.world.memory (.array next) = s.world.memory (.array next) :=
      htothers next (Nat.succ_ne_self next).symm
    rw [DeviceArray.contents, hkept]
    exact hfilled
  · have hnew : id ≠ next + 1 ∧ id ≠ next := by omega
    rw [htothers id hnew.1, hsothers id hnew.2]
    simp [world, hnew]

/-- One mesh more is added and holds its record, and the meshes so far hold what they held. -/
theorem ModelLoad.Holding.uploadMesh (ctx : ModelContext) {load : ModelLoad}
    {before : List ModelMesh} {records : List MeshRecord} (h : load.Holding before records)
    {record : MeshRecord} (hvertices : record.vertexBytes.length ≤ stagingBufferSize)
    (hindices : record.indexBytes.length ≤ stagingBufferSize) :
    ∃ load', load.uploadMesh ctx record.loaded = .ok load' ∧
      load'.Holding before (records ++ [record]) := by
  obtain ⟨t, mesh, hstep, hrest, hmesh, hbelow, hearlier⟩ :=
    load.uploadMesh_of_atRest ctx h.atRest hvertices hindices
  obtain ⟨uploaded, hmeshes, hholds⟩ := h.meshes
  refine ⟨_, hstep, hrest, uploaded ++ [mesh], by simp [hmeshes], List.rel_append ?_ ?_⟩
  · exact hholds.imp fun mesh record hboth =>
      ⟨hboth.1.congr hboth.2 hearlier, hboth.2.mono (Nat.le_add_right load.nextArray 2)⟩
  · exact .cons ⟨hmesh, hbelow⟩ .nil

/-- **All meshes of a file** that fit a staging buffer are added, mesh by mesh, and hold it. -/
theorem ModelLoad.Holding.uploadMeshes (ctx : ModelContext) {load : ModelLoad}
    {before : List ModelMesh} {records : List MeshRecord} (h : load.Holding before records)
    {rest : List MeshRecord} (hfit : FitStaging rest) :
    ∃ load', runSteps (ModelLoad.uploadMesh ctx) load (rest.map MeshRecord.loaded) = .ok load' ∧
      load'.Holding before (records ++ rest) := by
  induction rest generalizing load records with
  | nil => exact ⟨load, rfl, by rwa [List.append_nil]⟩
  | cons record rest ih =>
      obtain ⟨hvertices, hindices⟩ := hfit record List.mem_cons_self
      obtain ⟨next, hnext, hholding⟩ := h.uploadMesh ctx hvertices hindices
      obtain ⟨load', hrun, hdone⟩ := ih hholding fun other hmem =>
        hfit other (List.mem_cons_of_mem record hmem)
      refine ⟨load', ?_, by rwa [List.append_assoc] at hdone⟩
      rw [List.map_cons, runSteps_cons_of_ok hnext]
      exact hrun

namespace Model

/-- **The upload of a loaded file** whose meshes fit adds its meshes to the model, and they hold
it. -/
theorem upload_loadedNgg (ctx : ModelContext) (model : Model) {program : Program}
    (hready : program.world.Ready) {records : List MeshRecord} (hfit : FitStaging records) :
    ∃ model' program', model.upload ctx (loadedNgg records) program = .ok (model', program') ∧
      ∃ uploaded, model'.meshes = model.meshes ++ uploaded ∧
        List.Forall₂ (ModelMesh.Holds program'.world.memory) uploaded records := by
  have hfresh := (ChainData.JustInitialized.type ctx.gpu .compute :
    ChainData.JustInitialized ctx.env program.world.passes _).fresh
  let start : ModelLoad :=
    ⟨⟨ctx.chain, ({} : ChainData).initializeType ctx.gpu .compute, program.world⟩,
      program.nextArray, model⟩
  have hstart : start.Holding model.meshes [] :=
    ⟨⟨hfresh.sequential_data, hfresh.idle, hfresh.clean, hready⟩, [], by simp [start], .nil⟩
  obtain ⟨load, hload, hholding⟩ := hstart.uploadMeshes ctx hfit
  obtain ⟨uploaded, hmeshes, hholds⟩ := hholding.meshes
  obtain ⟨t, ht, hmemory⟩ := Session.submit_of_atRest ctx.env hholding.atRest
  refine ⟨load.model, ⟨t.world, load.nextArray⟩, ?_, uploaded, hmeshes, ?_⟩
  · have hmeshes : runSteps (ModelLoad.uploadMesh ctx)
        ⟨⟨ctx.chain, ({} : ChainData).initializeType ctx.gpu .compute, program.world⟩,
          program.nextArray, model⟩ (loadedNgg records).meshes = .ok load := hload
    simp only [upload, hmeshes, ht, bind, Except.bind, pure, Except.pure]
  · rw [hmemory]
    exact hholds.imp fun mesh record hboth => hboth.1

/-! ## The three ways -/

variable {program : Program} {records : List MeshRecord}

/-- An initialisation that fails is not faithful. -/
theorem not_faithful_of_fails {result : Except ModelFailure (Model × Program)} (h : Fails result) :
    ¬ Faithful result records := by
  rintro ⟨model', program', hok, -⟩
  exact h.ne_ok hok

/-- After the upload of a loaded file the model holds the file if it held no mesh before. -/
theorem faithful_upload_iff (ctx : ModelContext) (model : Model) (hready : program.world.Ready)
    (hfit : FitStaging records) :
    Faithful ((model.upload ctx (loadedNgg records) program).mapError .chain) records ↔
      model.meshes = [] := by
  obtain ⟨model', program', hupload, uploaded, hmeshes, hholds⟩ :=
    model.upload_loadedNgg ctx hready hfit
  rw [hupload]
  constructor
  · rintro ⟨model'', program'', hok, hall⟩
    cases hok
    -- the file has as many meshes as were added
    have hall' := hall.length_eq
    have hadded := hholds.length_eq
    rw [hmeshes, List.length_append] at hall'
    exact List.length_eq_zero_iff.mp (by omega)
  · intro hempty
    refine ⟨model', program', rfl, ?_⟩
    rw [Holds, hmeshes, hempty]
    exact hholds

/-- The same with the check for a file without meshes, which leaves the model as it is. -/
theorem faithful_checked_iff (ctx : ModelContext) (model : Model) (hready : program.world.Ready)
    (hfit : FitStaging records) :
    Faithful (if (loadedNgg records).meshes.length ≠ 0 then
        (model.upload ctx (loadedNgg records) program).mapError .chain
      else .ok (model, program)) records ↔ model.meshes = [] := by
  cases records with
  | nil =>
      constructor
      · rintro ⟨model', program', hok, hall⟩
        cases hok
        exact List.forall₂_nil_right_iff.mp hall
      · intro hempty
        exact ⟨model, program, rfl, by rw [Holds, hempty]; exact .nil⟩
  | cons record records => exact faithful_upload_iff ctx model hready hfit

/-- **When a model is uploaded faithfully.** Take a version `1` file in which the vertices and the
indices of each mesh fit a staging buffer, and a world whose staging pool is ready. After
`initialize`, from the path, from the bytes, or from a file object that was loaded from the path,
the model has one mesh for each mesh of the file, in order, and its arrays hold the vertices and
indices byte for byte, exactly if the model had no mesh before, the name of every mesh fits `m_name`
with its terminating zero, and the size of the file fits an `unsigned`. -/
theorem initialize_iff (ctx : ModelContext) (files : Filesystem) (path : String) (model : Model)
    (file : NggFileData) (program : Program) (records : List MeshRecord)
    (hready : program.world.Ready) (hcount : records.length < 2 ^ 32)
    (hwellFormed : ∀ record ∈ records, record.WellFormed) (hfit : FitStaging records)
    (hfile : files path = some (encodeNgg records)) :
    (Faithful (model.initializePath ctx files path program) records ↔
        model.meshes = [] ∧ NggFileData.Fits records) ∧
      (Faithful (model.initializeBytes ctx (encodeNgg records)
          (.ofNat (encodeNgg records).length) program) records ↔
        model.meshes = [] ∧ NggFileData.Fits records) ∧
      (Faithful (model.initializeLoaded ctx files file path program) records ↔
        model.meshes = [] ∧ NggFileData.Fits records) := by
  have hloadable : Loadable records :=
    { count := hcount
      wellFormed := hwellFormed
      indices := fun record hmem => by
        have hindices := (hfit record hmem).2
        rw [record.length_indexBytes, stagingBufferSize] at hindices
        omega }
  have hpath : ∀ file : NggFileData, file.loadPath files path
      = file.load (encodeNgg records) (.ofNat (encodeNgg records).length) none := by
    intro file
    rw [NggFileData.loadPath, hfile]
  by_cases hfits : NggFileData.Fits records
  · have hload := fun file => NggFileData.load_of_fits file hloadable hfits
    have hchecked := faithful_checked_iff ctx model hready hfit
    refine ⟨?_, ?_, ?_⟩
    · rw [initializePath, hpath, hload, and_iff_left hfits]
      exact hchecked
    · rw [initializeBytes, hload, and_iff_left hfits]
      exact hchecked
    · rw [initializeLoaded, hpath, hload, and_iff_left hfits]
      exact faithful_upload_iff ctx model hready hfit
  · have hload := fun file => NggFileData.fails_load file hloadable hfits
    have hnot : ¬ (model.meshes = [] ∧ NggFileData.Fits records) := fun hall => hfits hall.2
    refine ⟨iff_of_false (not_faithful_of_fails ?_) hnot,
      iff_of_false (not_faithful_of_fails ?_) hnot, iff_of_false (not_faithful_of_fails ?_) hnot⟩
    · rw [initializePath, hpath]
      exact (hload {}).mapError.bind
    · rw [initializeBytes]
      exact (hload {}).mapError.bind
    · rw [initializeLoaded, hpath]
      exact (hload file).mapError.bind

/-- A vertex at the origin, whose normal shows upwards. -/
def originVertex : NggFile.Vertex :=
  ⟨#v[0, 0, 0, 1], #v[0, 1, 0, 0], #v[1, 0, 0, 0], #v[0, 0, 0, 0], #v[0, 0]⟩

/-- A mesh of one point, with a name of the given length. -/
def pointMesh (nameLength : Nat) : MeshRecord where
  name := List.replicate nameLength 97
  vertices := [originVertex]
  indices := [0]
  diffuse := [[116, 101, 120]]

/-- A mesh of one point is well formed, for a name as long as a file can say. -/
theorem wellFormed_pointMesh {nameLength : Nat} (h : nameLength < 2 ^ 32) :
    (pointMesh nameLength).WellFormed where
  name := by simpa [pointMesh] using h
  vertices := by simp [pointMesh]
  indices := by simp [pointMesh]
  counts := by simp [pointMesh]
  textures := by simp [pointMesh]

/-- A mesh of one point fits a staging buffer, whatever its name is. -/
theorem fitStaging_pointMesh (nameLength : Nat) : FitStaging [pointMesh nameLength] := by
  simp [FitStaging, MeshRecord.length_vertexBytes, MeshRecord.length_indexBytes, pointMesh,
    stagingBufferSize, NggFile.Vertex.size]

/-- A model is initialised, in all three forms, with a file of one such mesh whose name has room. -/
theorem initialize_iff_point :
    (Faithful (({} : Model).initializePath .inert (fun _ => some (encodeNgg [pointMesh 4])) "point"
        ⟨.start, 0⟩) [pointMesh 4] ↔
      ({} : Model).meshes = [] ∧ NggFileData.Fits [pointMesh 4]) ∧
      (Faithful (({} : Model).initializeBytes .inert (encodeNgg [pointMesh 4])
          (.ofNat (encodeNgg [pointMesh 4]).length) ⟨.start, 0⟩) [pointMesh 4] ↔
        ({} : Model).meshes = [] ∧ NggFileData.Fits [pointMesh 4]) ∧
      (Faithful (({} : Model).initializeLoaded .inert (fun _ => some (encodeNgg [pointMesh 4])) {}
          "point" ⟨.start, 0⟩) [pointMesh 4] ↔
        ({} : Model).meshes = [] ∧ NggFileData.Fits [pointMesh 4]) :=
  initialize_iff .inert (fun _ => some (encodeNgg [pointMesh 4])) "point" {} {} ⟨.start, 0⟩
    [pointMesh 4] (World.ready_of_nil rfl) (by decide)
    (List.forall_mem_singleton.mpr (wellFormed_pointMesh (by decide))) (fitStaging_pointMesh 4) rfl

/-- Not every initialisation is faithful: a name of a hundred bytes overruns `m_name`. -/
theorem not_initialize_faithful :
    ¬ ∀ (ctx : ModelContext) (files : Filesystem) (path : String) (program : Program)
      (records : List MeshRecord), program.world.Ready → records.length < 2 ^ 32 →
        (∀ record ∈ records, record.WellFormed) → FitStaging records →
          files path = some (encodeNgg records) →
            Faithful (({} : Model).initializePath ctx files path program) records := by
  intro h
  have hfaithful := h .inert (fun _ => some (encodeNgg [pointMesh 100])) "point" ⟨.start, 0⟩
    [pointMesh 100] (World.ready_of_nil rfl) (by decide)
    (List.forall_mem_singleton.mpr (wellFormed_pointMesh (by decide))) (fitStaging_pointMesh 100)
    rfl
  have hload : ({} : NggFileData).loadPath (fun _ => some (encodeNgg [pointMesh 100])) "point"
      = .error .overrun := by decide +kernel
  refine not_faithful_of_fails ?_ hfaithful
  rw [initializePath, hload]
  exact ⟨.file .overrun, rfl⟩

end Model

end Nyx
