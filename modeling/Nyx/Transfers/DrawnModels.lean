import Nyx.Recording.Draws
import Nyx.Transfers.Models

/-! # Models that are drawn

`mars::Model::draw` draws each mesh of a model with its indices. This file follows a geometry file
from the disk, through its upload, to the vertices that the GPU fetches for these draws.

* **`Model.draw`** — the operation of the source.
* **`DrawCall.fetched`** — the vertices that a draw reads from its buffers, in order.
* **`MeshRecord.corners`** — the vertices that the indices of a mesh in a file name.
* **`DeviceArray.fetched_eq`** — an indexed draw of arrays that hold a mesh fetches its corners.
* **`Model.drawn_file`** — what the frames that draw a loaded model fetch. -/

namespace Nyx

open Foundations

/-! ## Drawing -/

/-- `Model::draw`. The number of indices is the size of their array. -/
def Model.draw (model : Model) (renderer : Renderer) : List RecordingOp :=
  model.meshes.map fun mesh =>
    .drawIndexed renderer mesh.indices.buffer mesh.indices.count.toNat mesh.vertices.buffer

/-- **What a draw fetches** for each of its instances: the vertices that it covers, of `stride`
bytes each, as they are in device memory. -/
def DrawCall.fetched (memory : DeviceMemory) (stride : Nat) (call : DrawCall) :
    List (List UInt8) :=
  match call.vertices, call.range with
  | some (buffer, offset), .vertices count _ first _ =>
      (List.range count).map fun k => (memory buffer).read (offset + (first + k) * stride) stride
  | some (buffer, offset), .indices (some indices) count _ first vertexOffset _ =>
      (List.range count).map fun k =>
        let index := UInt32.ofNat (leValue ((memory indices).read ((first + k) * 4) 4))
        (memory buffer).read (offset + (vertexOffset + index.toNat) * stride) stride
  | none, _ | some _, .indices none .. => []

/-- The vertices that the indices of a mesh name, in order; an index that names none gives no
bytes. -/
def MeshRecord.corners (record : MeshRecord) : List (List UInt8) :=
  record.indices.map fun index =>
    (record.vertices[index.toNat]?.map NggFile.Vertex.bytes).getD []

/-- The values of a list, read position by position. -/
theorem map_range_getElem? {α β : Type} (f : Option α → β) (xs : List α) :
    (List.range xs.length).map (fun k => f xs[k]?) = xs.map fun x => f (some x) := by
  refine List.ext_getElem (by simp) fun k hk hk' => ?_
  have hlt : k < xs.length := by simpa using hk'
  simp [hlt]

/-- **A mesh that is drawn** fetches the corners of the mesh of the file that it holds. -/
theorem ModelMesh.fetched_eq {memory : DeviceMemory} {mesh : ModelMesh} {record : MeshRecord}
    (hholds : mesh.Holds memory record) (hcount : mesh.indices.count.toNat = record.indices.length)
    {renderer : Renderer} {call : DrawCall}
    (hcall : (RecordingOp.drawIndexed renderer mesh.indices.buffer mesh.indices.count.toNat
      mesh.vertices.buffer).Asks call) :
    call.fetched memory NggFile.Vertex.size = record.corners := by
  obtain ⟨-, hvertices, hrange⟩ := hcall
  have hindex : ∀ k, (memory mesh.indices.buffer.handle).read (k * 4) 4
      = (record.indices[k]?.map encodeU32).getD [] :=
    Block.read_record length_encodeU32 hholds.2
  have hvertex : ∀ k, (memory mesh.vertices.buffer.handle).read (k * NggFile.Vertex.size)
      NggFile.Vertex.size = (record.vertices[k]?.map NggFile.Vertex.bytes).getD [] :=
    Block.read_record NggFile.Vertex.length_bytes hholds.1
  simp only [DrawCall.fetched, hvertices, hrange, Nat.zero_add, hindex, hvertex, hcount]
  rw [map_range_getElem? (fun index : Option UInt32 =>
    (record.vertices[(UInt32.ofNat (leValue ((index.map encodeU32).getD []))).toNat]?.map
      NggFile.Vertex.bytes).getD [])]
  refine List.map_congr_left fun index _ => ?_
  rw [Option.map_some, Option.getD_some, ofNat_leValue_encodeU32]

/-- A model that is drawn fetches the corners of all meshes of the file that it holds, mesh by
mesh. -/
theorem Model.fetched_eq {memory : DeviceMemory} {model : Model} {records : List MeshRecord}
    (hholds : model.Holds memory records)
    (hcounts : model.meshes.map (·.indices.count.toNat) = records.map (·.indices.length))
    {renderer : Renderer} {calls : List DrawCall} (hcalls : Asked (model.draw renderer) calls) :
    calls.map (·.fetched memory NggFile.Vertex.size) = records.map MeshRecord.corners := by
  obtain ⟨meshes⟩ := model
  have hmeshes : List.Forall₂ (ModelMesh.Holds memory) meshes records := hholds
  clear hholds
  induction hmeshes generalizing calls with
  | nil =>
      cases hcalls
      rfl
  | cons hmesh _ ih =>
      cases hcalls with
      | cons hcall hrest =>
          obtain ⟨hcount, hcounts⟩ := List.cons.inj hcounts
          rw [List.map_cons, List.map_cons, ih hcounts hrest,
            ModelMesh.fetched_eq hmesh hcount hcall]

/-- Each of the draws that a model asks for uses the renderer. -/
theorem Model.uses_of_asked {model : Model} {renderer : Renderer} {calls : List DrawCall}
    (hcalls : Asked (model.draw renderer) calls) : ∀ call ∈ calls, call.Uses renderer := by
  rw [Asked, draw, List.forall₂_map_left_iff] at hcalls
  generalize model.meshes = meshes at hcalls
  induction hcalls with
  | nil => exact fun call hmem => absurd hmem List.not_mem_nil
  | cons hcall _ ih => exact List.forall_mem_cons.mpr ⟨hcall.1, ih⟩

/-! ## Frames -/

namespace Model

/-- A frame that draws a model that holds a file executes draws of the renderer that fetch the
corners of all meshes. -/
theorem fetched_frame {env : Environment} {s t : Session} {model : Model}
    {records : List MeshRecord} {renderer : Renderer}
    (h : s.Submits) (hidle : s.data.cmd.recording = false)
    (hholds : model.Holds s.world.memory records)
    (hcounts : model.meshes.map (·.indices.count.toNat) = records.map (·.indices.length))
    (hrun : runSteps (ListOp.step env) s ((model.draw renderer).map .recording ++ [.submit])
      = .ok t) :
    ∃ calls, t.executed = s.executed ++ calls ∧ (∀ call ∈ calls, call.Uses renderer) ∧
      calls.map (·.fetched s.world.memory NggFile.Vertex.size)
        = records.map MeshRecord.corners := by
  have hops : ∀ op ∈ (model.draw renderer).map ListOp.recording, op ≠ .stop :=
    List.forall_mem_map.mpr fun _ _ => ListOp.noConfusion
  obtain ⟨calls, hcalls, hasked⟩ := h.executed_run hidle hops hrun
  have hdraws : ((model.draw renderer).map ListOp.recording).flatMap ListOp.draws
      = model.draw renderer := by
    simp [draw, List.flatMap_map, ListOp.draws, RecordingOp.draws, ← List.map_eq_flatMap]
  rw [hdraws] at hasked
  exact ⟨calls, hcalls, uses_of_asked hasked, fetched_eq hholds hcounts hasked⟩

/-- A round of the loop adds a mesh with as many indices as the mesh of the file says. -/
theorem count_uploadMesh (ctx : ModelContext) {load load' : ModelLoad} {mesh : NggFile.Mesh}
    (h : load.uploadMesh ctx mesh = .ok load') :
    load'.model.meshes.map (·.indices.count)
      = load.model.meshes.map (·.indices.count) ++ [mesh.numIndices] := by
  simp only [ModelLoad.uploadMesh, ModelLoad.newArray, bind, Except.bind, pure, Except.pure] at h
  split at h
  · cases h
  · split at h
    · cases h
    · cases h
      simp

/-- An upload adds meshes with as many indices as the meshes of the file say, in their order. -/
theorem counts_upload (ctx : ModelContext) {model model' : Model} {file : NggFileData}
    {program program' : Program} (h : model.upload ctx file program = .ok (model', program')) :
    model'.meshes.map (·.indices.count)
      = model.meshes.map (·.indices.count) ++ file.meshes.map (·.numIndices) := by
  have hmeshes : ∀ {meshes : List NggFile.Mesh} {load load' : ModelLoad},
      runSteps (ModelLoad.uploadMesh ctx) load meshes = .ok load' →
      load'.model.meshes.map (·.indices.count)
        = load.model.meshes.map (·.indices.count) ++ meshes.map (·.numIndices) := by
    intro meshes
    induction meshes with
    | nil =>
        intro load load' hrun
        cases hrun
        simp
    | cons mesh meshes ih =>
        intro load load' hrun
        obtain ⟨next, hstep, hrest⟩ := runSteps_cons_ok_iff.mp hrun
        rw [ih hrest, count_uploadMesh ctx hstep, List.append_assoc]
        rfl
  simp only [upload, bind, Except.bind, pure, Except.pure] at h
  split at h
  · cases h
  next load hload =>
    split at h
    · cases h
    · cases h
      exact hmeshes hload

/-- **From the file to the vertices that are drawn.** Take a version `1` file in which the vertices
and the indices of each mesh fit a staging buffer and whose names and size fit the loader, and a
world whose staging pool is ready. A new model that is initialised from the path holds the file. As
long as it does, each frame that draws the model on a chain in `Sequential` mode, whatever the chain
recorded and submitted before, executes one draw a mesh, in the order of the file, with the renderer
that was given, and these fetch the vertices that the indices of the file name. -/
theorem drawn_file (ctx : ModelContext) (files : Filesystem) (path : String) (program : Program)
    (records : List MeshRecord) (hready : program.world.Ready) (hcount : records.length < 2 ^ 32)
    (hwellFormed : ∀ record ∈ records, record.WellFormed) (hfit : FitStaging records)
    (hfits : NggFileData.Fits records) (hfile : files path = some (encodeNgg records)) :
    ∃ model program', ({} : Model).initializePath ctx files path program = .ok (model, program') ∧
      model.Holds program'.world.memory records ∧
      ∀ (env : Environment) (start s t : Session) (before : List ListOp) (renderer : Renderer),
        start.data.JustInitialized env start.world.passes → (∀ op ∈ before, op ≠ .stop) →
        (before = [] ∨ before.getLast? = some .submit) →
        runSteps (ListOp.step env) start before = .ok s → model.Holds s.world.memory records →
        runSteps (ListOp.step env) s ((model.draw renderer).map .recording ++ [.submit]) = .ok t →
          ∃ calls, t.executed = s.executed ++ calls ∧ (∀ call ∈ calls, call.Uses renderer) ∧
            calls.map (·.fetched s.world.memory NggFile.Vertex.size)
              = records.map MeshRecord.corners := by
  have hindices : ∀ record ∈ records, record.indices.length * 4 < 2 ^ 32 := by
    intro record hmem
    have hlength := (hfit record hmem).2
    rw [record.length_indexBytes, stagingBufferSize] at hlength
    omega
  have hload : (({} : NggFileData).loadPath files path) = .ok (true, loadedNgg records) := by
    rw [NggFileData.loadPath, hfile]
    exact NggFileData.load_of_fits {} ⟨hcount, hwellFormed, hindices⟩ hfits
  obtain ⟨model, program', hmodel, hholds, hcounts⟩ : ∃ model program',
      ({} : Model).initializePath ctx files path program = .ok (model, program') ∧
        model.Holds program'.world.memory records ∧
        model.meshes.map (·.indices.count) = (loadedNgg records).meshes.map (·.numIndices) := by
    cases records with
    | nil => exact ⟨{}, program, by rw [initializePath, hload]; rfl, .nil, rfl⟩
    | cons record records =>
        obtain ⟨model, program', hupload, uploaded, hmeshes, hholds⟩ :=
          ({} : Model).upload_loadedNgg ctx hready hfit
        refine ⟨model, program', ?_, ?_, by simpa using counts_upload ctx hupload⟩
        · rw [initializePath, hload]
          exact congrArg (Except.mapError ModelFailure.chain) hupload
        · rw [Holds, hmeshes]
          exact hholds
  refine ⟨model, program', hmodel, hholds, ?_⟩
  intro env start s t before renderer hinit hbefore hlast hstart hnow hrun
  have hsubmits := (Session.submits_of_justInitialized hinit).run hbefore hstart
  have hidle := (Session.submits_of_justInitialized hinit).idle_of_getLast? hinit.fresh.idle
    hbefore hstart hlast
  refine fetched_frame hsubmits hidle hnow ?_ hrun
  have htoNat := congrArg (List.map UInt32.toNat) hcounts
  rw [List.map_map, List.map_map, loadedNgg, List.map_map] at htoNat
  refine htoNat.trans (List.map_congr_left fun record hmem => ?_)
  have hlt := hindices record hmem
  exact toNat_ofNat_count (by omega)

/-- **One frame.** A file with one point is loaded into a new world, and the first frame of a new
graphics chain draws the model: it executes one draw, which fetches the bytes of that point. -/
theorem drawn_file_point :
    ∃ model program' t, ({} : Model).initializePath .inert
        (fun _ => some (encodeNgg [pointMesh 4])) "point" ⟨.start, 0⟩ = .ok (model, program') ∧
      model.Holds program'.world.memory [pointMesh 4] ∧
      runSteps (ListOp.step .inert) { Session.newGraphics with world := program'.world }
        ((model.draw Session.plainRenderer).map .recording ++ [.submit]) = .ok t ∧
      ∃ calls, t.executed = calls ∧ (∀ call ∈ calls, call.Uses Session.plainRenderer) ∧
        calls.map (·.fetched program'.world.memory NggFile.Vertex.size)
          = [[NggFile.Vertex.bytes originVertex]] := by
  obtain ⟨⟨meshes⟩, program', hmodel, hholds, hframes⟩ :=
    drawn_file .inert (fun _ => some (encodeNgg [pointMesh 4])) "point" ⟨.start, 0⟩ [pointMesh 4]
      (World.ready_of_nil rfl) (by decide)
      (List.forall_mem_singleton.mpr (wellFormed_pointMesh (by decide))) (fitStaging_pointMesh 4)
      ⟨by decide, by decide +kernel⟩ rfl
  -- the file has one mesh, so the frame is one draw and a submit
  obtain ⟨mesh, rfl⟩ : ∃ mesh, meshes = [mesh] := List.length_eq_one_iff.mp hholds.length_eq
  have hnew : Session.newGraphics.data.JustInitialized .inert program'.world.passes :=
    .type 0 .graphics
  refine ⟨⟨[mesh]⟩, program', _, hmodel, hholds, rfl, ?_⟩
  exact hframes .inert { Session.newGraphics with world := program'.world } _ _ []
    Session.plainRenderer hnew (List.forall_mem_nil _) (Or.inl rfl) rfl hholds rfl

end Model

end Nyx
