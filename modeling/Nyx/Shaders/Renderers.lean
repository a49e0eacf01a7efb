import Nyx.Foundations.HandleSlots
import Nyx.Memory.HandleLives
import Nyx.Shaders.DescriptorSets

/-! # Renderers

A `vkg::Renderer` keeps a shader, a pipeline for it and one descriptor. It makes the pipeline anew
when a viewport is added, and `reset` destroys the pipeline without forgetting it.

* **`RendererData`**, **`RendererCall`**, **`RendererData.step`** — a renderer and its methods.
* **`RendererData.created_eq`** — what all pipelines of a run are created with: the viewport that was
  added first, and the depth test once it was asked for.
* **`RendererData.tidy_iff`** — a run destroys all layouts and pipelines exactly once exactly when
  initialisations and resets alternate, with viewports only before a reset. -/

namespace Nyx

open Foundations

/-! ## Renderers -/

/-- `nyx::Viewport`, with the largest depth by its bits. -/
structure Viewport where
  xpos : UInt32 := 0
  ypos : UInt32 := 0
  width : UInt32 := 1280
  height : UInt32 := 1024
  maxDepth : UInt32 := 0x3f800000
  deriving DecidableEq, Repr

/-- `vk::Viewport`, before its sizes are rounded to floats. -/
structure VkViewport where
  x : UInt32
  y : UInt32
  width : UInt32
  height : UInt32
  minDepth : UInt32
  maxDepth : UInt32
  deriving DecidableEq, Repr

/-- `vk::Rect2D`. -/
structure Rect2D where
  x : UInt32
  y : UInt32
  width : UInt32
  height : UInt32
  deriving DecidableEq, Repr

/-- The viewport that `Pipeline::addViewport` adds. Its position is not the one it is given. -/
def Viewport.view (viewport : Viewport) : VkViewport :=
  ⟨0, 0, viewport.width, viewport.height, 0, viewport.maxDepth⟩

/-- The scissor that goes with a viewport: all of it, from the origin. -/
def Viewport.scissor (viewport : Viewport) : Rect2D := ⟨0, 0, viewport.width, viewport.height⟩

/-- What a pipeline was created with. The viewport count is always one, and a pointer to the first
of no viewports points to nothing. -/
inductive PipelineInfo
  | graphics (viewport : Option VkViewport) (scissor : Option Rect2D) (depthTest : Bool)
  | compute
  deriving DecidableEq, Repr

/-- `RendererData`, with the objects that it makes on its device. -/
structure RendererData where
  shader : ShaderSession := {}
  pipeline : PipelineData := {}
  viewports : List VkViewport := []
  scissors : List Rect2D := []
  /-- Whether the depth test is enabled in the configuration of the pipeline. -/
  depthTest : Bool := false
  /-- The pool and the descriptor, both with number `0`. -/
  descriptors : DescriptorWorld := {}
  /-- The layouts and pipelines. -/
  registry : Registry := {}
  /-- What all pipelines were created with, in order. -/
  created : List PipelineInfo := []

/-- The methods of a renderer. Where a pipeline may be created, they say whether the render pass is
initialised then. -/
inductive RendererCall
  | initializeBytes (bytes : List UInt8) (size : Nat) (pass : Bool)
  | addViewport (viewport : Viewport) (pass : Bool)
  | bindBuffer (name : List UInt8) (buffer : Nat)
  | bindImage (name : List UInt8) (image : SampledImage)
  | bindImages (name : List UInt8) (images : List SampledImage)
  | setTestDepth (value : Bool)
  | reset

namespace RendererData

/-- `Pipeline::initialize( pass, shader )`, for the renderer's own shader. -/
def initializePipeline (data : RendererData) (pass : Bool) : RendererData :=
  let made := data.pipeline.initializeShader data.registry 0
  { data with
    pipeline := made.1
    registry := made.2
    created := data.created ++
      [if pass then .graphics data.viewports.head? data.scissors.head? data.depthTest
        else .compute] }

/-- `Pipeline::reset`, which destroys the handles and keeps them. -/
def resetPipeline (data : RendererData) : RendererData :=
  -- the handles stay in the pipeline
  { data with registry := data.pipeline.reset data.registry }

/-- `RendererImpl::initialize`; the form with a path reads the bytes from the file. -/
def initializeBytes (freed : VkShaderStage → List UInt32 → List UInt32) (data : RendererData)
    (bytes : List UInt8) (size : Nat) (pass : Bool) : Except StreamFailure RendererData :=
  (data.shader.initializeBytes freed bytes size).map fun shader =>
    -- the pipeline from before is not reset first
    let data := { data with shader := shader }.initializePipeline pass
    { data with
      descriptors := data.descriptors.calls
        [.initializeShader 0 shader.shader.data.nyxfile 1, .make 0 0] }

/-- `RendererImpl::addViewport`, which makes the pipeline anew if there was one. -/
def addViewport (data : RendererData) (viewport : Viewport) (pass : Bool) : RendererData :=
  let data :=
    { data with
      viewports := data.viewports ++ [viewport.view]
      scissors := data.scissors ++ [viewport.scissor] }
  -- a pipeline that was reset still counts as initialised
  if data.pipeline.initialized then data.resetPipeline.initializePipeline pass else data

/-- `Pipeline::setTestDepth`: it enables the test, or leaves it as it is. -/
def setTestDepth (data : RendererData) (value : Bool) : RendererData :=
  if value then { data with depthTest := true } else data

/-- One call on the descriptors that a renderer makes. -/
def describe (data : RendererData) (c : DescriptorCall) : RendererData :=
  { data with descriptors := data.descriptors.call c }

/-- One call on a renderer, with the failure that reading a shader may come to. -/
def step (freed : VkShaderStage → List UInt32 → List UInt32) (data : RendererData) :
    RendererCall → Except StreamFailure RendererData
  | .initializeBytes bytes size pass => data.initializeBytes freed bytes size pass
  | .addViewport viewport pass => .ok (data.addViewport viewport pass)
  | .bindBuffer name buffer => .ok (data.describe (.setBuffer 0 name buffer))
  | .bindImage name image => .ok (data.describe (.setImage 0 name image))
  | .bindImages name images => .ok (data.describe (.setImages 0 name images))
  | .setTestDepth value => .ok (data.setTestDepth value)
  | .reset => .ok (data.resetPipeline.describe (.reset 0))

end RendererData

/-! ## What pipelines are created with -/

/-- The viewport that a call adds, if it adds one. -/
def RendererCall.viewport : RendererCall → Option Viewport
  | .addViewport viewport _ => some viewport
  | _ => none

/-- Whether a call asks for the depth test to be made. -/
def RendererCall.testsDepth : RendererCall → Bool
  | .setTestDepth value => value
  | _ => false

/-- Whether a call makes the renderer an initialised one. -/
def RendererCall.initializes : RendererCall → Bool
  | .initializeBytes _ _ _ => true
  | _ => false

/-- What a pipeline is created with after some calls, on a render pass or without one. -/
def infoAfter (before : List RendererCall) (pass : Bool) : PipelineInfo :=
  let first := (before.filterMap RendererCall.viewport).head?
  if pass then
    .graphics (first.map Viewport.view) (first.map Viewport.scissor)
      (before.any RendererCall.testsDepth)
  else .compute

/-- The pipelines that a call creates, after some others. -/
def creations (before : List RendererCall) : RendererCall → List PipelineInfo
  | .initializeBytes _ _ pass => [infoAfter before pass]
  | .addViewport viewport pass =>
      if before.any RendererCall.initializes then
        [infoAfter (before ++ [.addViewport viewport pass]) pass]
      else []
  | _ => []

/-- The pipelines that some calls create, after some others. -/
def allCreations : List RendererCall → List RendererCall → List PipelineInfo
  | _, [] => []
  | before, c :: calls => creations before c ++ allCreations (before ++ [c]) calls

namespace RendererData

/-- What a renderer keeps of the calls that were made on it. -/
structure Reflects (before : List RendererCall) (data : RendererData) : Prop where
  viewports : data.viewports = (before.filterMap RendererCall.viewport).map Viewport.view
  scissors : data.scissors = (before.filterMap RendererCall.viewport).map Viewport.scissor
  depthTest : data.depthTest = before.any RendererCall.testsDepth
  initialized : data.pipeline.initialized = before.any RendererCall.initializes

variable {freed : VkShaderStage → List UInt32 → List UInt32} {data data' : RendererData}
  {before : List RendererCall} {c : RendererCall}

/-- A pipeline is created with what was asked for: the first viewport, its scissor, and the depth
test if any call set it. -/
theorem Reflects.info (h : Reflects before data) (pass : Bool) :
    (if pass then PipelineInfo.graphics data.viewports.head? data.scissors.head? data.depthTest
      else .compute) = infoAfter before pass := by
  rw [h.viewports, h.scissors, h.depthTest, List.head?_map, List.head?_map]
  rfl

/-- A call that adds no viewport and initialises nothing leaves a renderer with what it keeps of the
calls. -/
theorem Reflects.frame (h : Reflects before data) (hviewport : c.viewport = none)
    (hinitializes : c.initializes = false) (hviewports : data'.viewports = data.viewports)
    (hscissors : data'.scissors = data.scissors) (hpipeline : data'.pipeline = data.pipeline)
    (hdepth : data'.depthTest = (data.depthTest || c.testsDepth)) :
    Reflects (before ++ [c]) data' := by
  refine ⟨?_, ?_, ?_, ?_⟩
  · simp [hviewports, h.viewports, hviewport]
  · simp [hscissors, h.scissors, hviewport]
  · simp [hdepth, h.depthTest]
  · simp [hpipeline, h.initialized, hinitializes]

/-- **Step lemma.** A call creates the pipelines that are expected of it. -/
theorem Reflects.next (h : Reflects before data) (hstep : data.step freed c = .ok data') :
    Reflects (before ++ [c]) data' ∧ data'.created = data.created ++ creations before c := by
  cases c with
  | initializeBytes bytes size pass =>
      obtain ⟨shader, -, rfl⟩ := exists_of_map_eq_ok hstep
      refine ⟨⟨?_, ?_, ?_, ?_⟩, ?_⟩
      · simpa [initializePipeline, RendererCall.viewport, List.filterMap_cons] using h.viewports
      · simpa [initializePipeline, RendererCall.viewport, List.filterMap_cons] using h.scissors
      · simpa [initializePipeline, RendererCall.testsDepth] using h.depthTest
      · simp [initializePipeline, RendererCall.initializes, PipelineData.initializeShader,
          PipelineData.initialized, PipelineData.createPipeline]
      · exact congrArg (fun info => data.created ++ [info]) (h.info pass)
  | addViewport viewport pass =>
      obtain rfl : data.addViewport viewport pass = data' := Except.ok.inj hstep
      have hviewports : data.viewports ++ [viewport.view] =
          ((before ++ [RendererCall.addViewport viewport pass]).filterMap
            RendererCall.viewport).map
            Viewport.view := by
        simp [h.viewports, RendererCall.viewport]
      have hscissors : data.scissors ++ [viewport.scissor] =
          ((before ++ [RendererCall.addViewport viewport pass]).filterMap
            RendererCall.viewport).map
            Viewport.scissor := by
        simp [h.scissors, RendererCall.viewport]
      have hdepth : data.depthTest =
          (before ++ [RendererCall.addViewport viewport pass]).any RendererCall.testsDepth := by
        simp [h.depthTest, RendererCall.testsDepth]
      rw [addViewport]
      by_cases hready : data.pipeline.initialized = true
      · have hany : before.any RendererCall.initializes = true := h.initialized ▸ hready
        rw [if_pos hready]
        refine ⟨⟨hviewports, hscissors, hdepth, ?_⟩, ?_⟩
        · simp [initializePipeline, PipelineData.initializeShader, PipelineData.initialized,
            PipelineData.createPipeline, hany]
        · rw [creations, if_pos hany]
          refine congrArg (fun info => data.created ++ [info]) ?_
          simp only [resetPipeline]
          rw [hviewports, hscissors, hdepth, List.head?_map, List.head?_map]
          rfl
      · have hany : ¬ before.any RendererCall.initializes = true := h.initialized ▸ hready
        rw [if_neg hready]
        refine ⟨⟨hviewports, hscissors, hdepth, ?_⟩, ?_⟩
        · simp [h.initialized, RendererCall.initializes]
        · simp [creations, hany]
  | setTestDepth value =>
      obtain rfl : data.setTestDepth value = data' := Except.ok.inj hstep
      rw [setTestDepth]
      cases value with
      | true =>
          exact ⟨h.frame rfl rfl rfl rfl rfl (by simp [RendererCall.testsDepth]),
            (List.append_nil _).symm⟩
      | false =>
          exact ⟨h.frame rfl rfl rfl rfl rfl (by simp [RendererCall.testsDepth]),
            (List.append_nil _).symm⟩
  | bindBuffer name buffer | bindImage name image | bindImages name images | reset =>
      cases hstep
      exact ⟨h.frame rfl rfl rfl rfl rfl (Bool.or_false _).symm, (List.append_nil _).symm⟩

/-- **Run lemma.** Some calls create the pipelines that are expected of them. -/
theorem Reflects.run (h : Reflects before data) {calls : List RendererCall}
    (hrun : runSteps (step freed) data calls = .ok data') :
    Reflects (before ++ calls) data' ∧
      data'.created = data.created ++ allCreations before calls := by
  induction calls generalizing before data with
  | nil =>
      cases hrun
      simpa [allCreations] using h
  | cons c calls ih =>
      obtain ⟨next, hstep, hrest⟩ := runSteps_cons_ok_iff.mp hrun
      obtain ⟨hnext, hcreated⟩ := h.next hstep
      obtain ⟨hdone, hall⟩ := ih hnext hrest
      refine ⟨by simpa using hdone, ?_⟩
      rw [hall, hcreated, allCreations, List.append_assoc]

/-- **The first viewport is the one.** In every run of a renderer each initialisation creates a
pipeline, and so does each viewport that is added after the first initialisation. All of them have
the viewport and the scissor that were added first, and none where there was none yet; and from the
first time the depth test is asked for it stays enabled. -/
theorem created_eq (calls : List RendererCall)
    (hrun : runSteps (step freed) {} calls = .ok data) :
    data.created = allCreations [] calls := by
  have hnew : Reflects [] ({} : RendererData) := ⟨rfl, rfl, rfl, rfl⟩
  simpa using (hnew.run hrun).2

/-- A renderer is initialised by the bytes of any complete shader file, whatever follows them. -/
theorem exists_step_initializeBytes (freed : VkShaderStage → List UInt32 → List UInt32)
    (data : RendererData) (file : ShaderFile) (trailing : List UInt8) (size : Nat) (pass : Bool)
    (hfile : file.encode.length ≤ size) (hsize : size < 2 ^ 32) :
    ∃ data', step freed data (.initializeBytes (file.encode ++ trailing) size pass)
      = .ok data' := by
  rw [step, initializeBytes, ShaderSession.initializeBytes,
    load_eq_loadedInto _ file trailing size hfile hsize]
  exact ⟨_, rfl⟩

/-- A renderer is initialised with two stages and without a viewport, then it gets two viewports:
the three pipelines have no viewport, the first one, and the first one again. -/
theorem created_eq_two :
    ∃ data, runSteps (step fun _ words => words) {}
        [.initializeBytes (twoStageFile.encode ++ []) 105 true, .addViewport {} true,
          .addViewport ⟨0, 0, 640, 480, 0⟩ true] = .ok data ∧
      data.created = [.graphics none none false,
        .graphics (some ⟨0, 0, 1280, 1024, 0, 0x3f800000⟩) (some ⟨0, 0, 1280, 1024⟩) false,
        .graphics (some ⟨0, 0, 1280, 1024, 0, 0x3f800000⟩) (some ⟨0, 0, 1280, 1024⟩) false] := by
  obtain ⟨loaded, hloaded⟩ := exists_step_initializeBytes (fun _ words => words) {} twoStageFile []
    105 true (by decide) (by decide)
  have hrest : runSteps (step fun _ words => words) loaded
      [.addViewport {} true, .addViewport ⟨0, 0, 640, 480, 0⟩ true] =
        .ok ((loaded.addViewport {} true).addViewport ⟨0, 0, 640, 480, 0⟩ true) := rfl
  have hrun := (runSteps_cons_of_ok hloaded).trans hrest
  exact ⟨_, hrun, (created_eq _ hrun).trans rfl⟩

end RendererData

/-! ## What becomes of the pipelines -/

/-- What a call does to the layout and the pipeline of a renderer, after some other calls. -/
def slotOps (before : List RendererCall) : RendererCall → List SlotOp
  | .initializeBytes _ _ _ => [.make 2]
  | .addViewport _ _ => if before.any RendererCall.initializes then [.release, .make 2] else []
  | .reset => [.release]
  | _ => []

/-- What some calls do to the layout and the pipeline of a renderer, in order. -/
def allSlotOps : List RendererCall → List RendererCall → List SlotOp
  | _, [] => []
  | before, c :: calls => slotOps before c ++ allSlotOps (before ++ [c]) calls

namespace RendererData

/-- All layouts and pipelines that were created have been destroyed exactly once. -/
def Tidy (data : RendererData) : Prop :=
  ∀ n < data.registry.created, data.registry.destroyed.count (.own n) = 1

/-- A renderer keeps its layout and its pipeline as a slot keeps handles. -/
structure KeepsSlot (slot : HandleSlot) (data : RendererData) : Prop where
  created : data.registry.created = slot.created
  destroyed : ∀ n, data.registry.destroyed.count (.own n) = slot.destroyed.count n
  stored : slot.stored = [] ∧ data.pipeline.layout = none ∧ data.pipeline.pipeline = none ∨
    ∃ n, slot.stored = [n, n + 1] ∧ data.pipeline.layout = some (.own n) ∧
      data.pipeline.pipeline = some (.own (n + 1))

variable {freed : VkShaderStage → List UInt32 → List UInt32} {data data' : RendererData}
  {before : List RendererCall} {c : RendererCall} {slot : HandleSlot}

/-- A renderer is tidy exactly when the slot that stands for its handles is. -/
theorem KeepsSlot.tidy_congr (h : KeepsSlot slot data) : data.Tidy ↔ slot.Tidy := by
  simp only [Tidy, HandleSlot.Tidy, h.created, h.destroyed]

/-- A change that leaves the pipeline and the registry alone leaves the handles as the slot has
them. -/
theorem KeepsSlot.frame (h : KeepsSlot slot data) (hpipeline : data'.pipeline = data.pipeline)
    (hregistry : data'.registry = data.registry) : KeepsSlot slot data' := by
  refine ⟨?_, ?_, ?_⟩
  · rw [hregistry, h.created]
  · rw [hregistry]
    exact h.destroyed
  · rw [hpipeline]
    exact h.stored

/-- To make a new pipeline with its layout makes two handles in the slot. -/
theorem KeepsSlot.make (h : KeepsSlot slot data) (pass : Bool) :
    KeepsSlot (slot.apply (.make 2)) (data.initializePipeline pass) := by
  refine ⟨congrArg (· + 2) h.created, h.destroyed, Or.inr ⟨slot.created, rfl, ?_, ?_⟩⟩
  · rw [← h.created]
    rfl
  · rw [← h.created]
    rfl

/-- To destroy the pipeline and its layout releases the handles of the slot. -/
theorem KeepsSlot.release (h : KeepsSlot slot data) :
    KeepsSlot (slot.apply .release) data.resetPipeline := by
  rcases h.stored with ⟨hstored, hlayout, hpipeline⟩ | ⟨n, hstored, hlayout, hpipeline⟩
  · have hregistry : data.resetPipeline.registry = data.registry := by
      rw [resetPipeline, PipelineData.reset, hlayout, hpipeline]
      rfl
    have hslot : slot.apply .release = slot := by
      obtain ⟨created, stored, destroyed⟩ := slot
      obtain rfl : stored = [] := hstored
      simp [HandleSlot.apply]
    rw [hslot]
    exact h.frame rfl hregistry
  · have hregistry : data.resetPipeline.registry =
        { data.registry with
          destroyed := data.registry.destroyed ++ [.own (n + 1)] ++ [.own n] } := by
      rw [resetPipeline, PipelineData.reset, hlayout, hpipeline]
      rfl
    refine ⟨?_, fun k => ?_, Or.inr ⟨n, hstored, hlayout, hpipeline⟩⟩
    · rw [hregistry]
      exact h.created
    · -- they are destroyed in the other order
      rw [hregistry]
      simp only [HandleSlot.apply, hstored, List.count_append, h.destroyed, List.count_cons,
        List.count_nil, beq_iff_eq, Handle.own.injEq]
      omega

/-- **Step lemma.** A call does to the pipeline what is expected of it. -/
theorem KeepsSlot.next (h : KeepsSlot slot data) (hbefore : Reflects before data)
    (hstep : data.step freed c = .ok data') :
    KeepsSlot ((slotOps before c).foldl HandleSlot.apply slot) data' := by
  cases c with
  | initializeBytes bytes size pass =>
      obtain ⟨shader, -, rfl⟩ := exists_of_map_eq_ok hstep
      have hshader : KeepsSlot slot { data with shader := shader } := h.frame rfl rfl
      exact (hshader.make pass).frame rfl rfl
  | addViewport viewport pass =>
      obtain rfl : data.addViewport viewport pass = data' := Except.ok.inj hstep
      rw [addViewport, slotOps, ← hbefore.initialized]
      have hadded : KeepsSlot slot
          { data with
            viewports := data.viewports ++ [viewport.view]
            scissors := data.scissors ++ [viewport.scissor] } := h.frame rfl rfl
      by_cases hready : data.pipeline.initialized = true
      · rw [if_pos hready, if_pos hready]
        exact hadded.release.make pass
      · rw [if_neg hready, if_neg hready]
        exact hadded
  | setTestDepth value =>
      obtain rfl : data.setTestDepth value = data' := Except.ok.inj hstep
      rw [setTestDepth]
      split
      · exact h.frame rfl rfl
      · exact h
  | bindBuffer name buffer | bindImage name image | bindImages name images =>
      cases hstep
      exact h.frame rfl rfl
  | reset =>
      cases hstep
      exact h.release.frame rfl rfl

/-- **Run lemma.** After some calls a renderer keeps its handles as the slot does after what they do
to it. -/
theorem KeepsSlot.run (h : KeepsSlot slot data) (hbefore : Reflects before data)
    {calls : List RendererCall} (hrun : runSteps (step freed) data calls = .ok data') :
    KeepsSlot ((allSlotOps before calls).foldl HandleSlot.apply slot) data' := by
  induction calls generalizing before data slot with
  | nil =>
      cases hrun
      exact h
  | cons c calls ih =>
      obtain ⟨next, hstep, hrest⟩ := runSteps_cons_ok_iff.mp hrun
      rw [allSlotOps, List.foldl_append]
      exact ih (h.next hbefore hstep) (hbefore.next hstep).1 hrest

/-- Where some calls make handles, these are never none, for they are made two at a time. -/
theorem pos_of_make_mem (before calls : List RendererCall) {count : Nat}
    (hmake : .make count ∈ allSlotOps before calls) : 0 < count := by
  induction calls generalizing before with
  | nil => simp [allSlotOps] at hmake
  | cons c calls ih =>
      rcases List.mem_append.mp hmake with hmem | hmem
      · have hcount : count = 2 := by
          cases c with
          | addViewport viewport pass =>
              simp only [slotOps] at hmem
              split at hmem
              · simpa using hmem
              · cases hmem
          | initializeBytes bytes size pass => simpa [slotOps] using hmem
          | reset | setTestDepth value | bindBuffer name buffer | bindImage name image
          | bindImages name images => simp [slotOps] at hmem
        rw [hcount]
        exact Nat.two_pos
      · exact ih _ hmem

/-- **Renderers clean up exactly when they are reset in turn.** In every run of a renderer all
layouts and pipelines it created are destroyed exactly once if and only if initialisations and
resets alternate, a reset comes last, and no viewport is added between a reset and the next
initialisation. Otherwise a pipeline is lost, or one is destroyed that was destroyed before. -/
theorem tidy_iff (calls : List RendererCall)
    (hrun : runSteps (step freed) {} calls = .ok data) :
    data.Tidy ↔ alternates .blank (allSlotOps [] calls) = true := by
  have hnew : KeepsSlot {} ({} : RendererData) := ⟨rfl, fun _ => rfl, Or.inl ⟨rfl, rfl, rfl⟩⟩
  have hbefore : Reflects [] ({} : RendererData) := ⟨rfl, rfl, rfl, rfl⟩
  rw [(hnew.run hbefore hrun).tidy_congr]
  exact HandleSlot.tidy_iff_alternates fun count => pos_of_make_mem [] calls

/-- A renderer with two stages is reset, and then gets a viewport: the pipeline that it makes for the
viewport is never destroyed, and the one before is destroyed twice. -/
theorem tidy_iff_late :
    ∃ data, runSteps (step fun _ words => words) {}
        [.initializeBytes (twoStageFile.encode ++ []) 105 true, .reset, .addViewport {} true] =
          .ok data ∧ ¬ data.Tidy := by
  obtain ⟨loaded, hloaded⟩ := exists_step_initializeBytes (fun _ words => words) {} twoStageFile []
    105 true (by decide) (by decide)
  have hrest : runSteps (step fun _ words => words) loaded [.reset, .addViewport {} true] =
      .ok (loaded.resetPipeline.addViewport {} true) := rfl
  have hrun := (runSteps_cons_of_ok hloaded).trans hrest
  exact ⟨_, hrun, mt (tidy_iff _ hrun).mp (by decide)⟩

end RendererData

end Nyx
