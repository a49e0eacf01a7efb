import Nyx.Recording.Chains

/-! # Recording operations as moves

Each of the recording operations of a chain is a short list of the same few moves on the chain's
data, together with an effect on the world that does not depend on that data:

* **`Move`**, **`ChainData.move`** — begin the command buffers if they are not being recorded,
  append commands to each, store a barrier, set a flag.
* **`RecordingOp.recipe`** — the moves of an operation and the world after it.
* **`RecordingOp.step_eq`** — every operation is its recipe. What a chain does with a sequence of
  operations can so be shown once, for moves. -/

namespace Nyx

open Foundations

/-! ## Moves -/

/-- One thing an operation does with the data of its chain. -/
inductive Move
  | storeImageBarrier (barrier : ImageMemoryBarrier)
  | storeBufferBarrier (barrier : BufferMemoryBarrier)
  /-- `data().record( use_render_pass )`. -/
  | record (useRenderPass : Bool)
  /-- `has_record = true`. -/
  | markRecord
  /-- Record the commands on each command buffer, after a `bind` when `bound` is a pipeline. -/
  | each (bound : Option PipelineState) (commands : List Command)
  /-- `Vulkan::deviceSynchronize` of the device given, or of that of the command buffers. -/
  | synchronize (device : Option Nat)
  deriving DecidableEq, Repr

/-- Record commands on the command buffer under the cursor, remembering a bound pipeline. -/
def CommandBuffer.issueBound (cmd : CommandBuffer) (bound : Option PipelineState)
    (commands : List Command) : CommandBuffer :=
  { cmd with bound := bound.or cmd.bound }.issue commands

/-- One move on the data of a chain, in a world with these render passes. -/
def ChainData.move (passes : PassId → RenderPass) (data : ChainData) : Move → ChainData
  | .storeImageBarrier barrier => { data with imageBarriers := data.imageBarriers ++ [barrier] }
  | .storeBufferBarrier barrier => { data with bufferBarriers := data.bufferBarriers ++ [barrier] }
  | .record useRenderPass => data.record passes useRenderPass
  | .markRecord => { data with hasRecord := true }
  | .each bound commands => { data.broadcast (·.issueBound bound commands) with dirty := true }
  | .synchronize device => data.deviceSynchronize (device.or data.cmd.queue.device)

/-- The data of a chain after a list of moves, which are done in order. -/
def ChainData.moves (passes : PassId → RenderPass) (data : ChainData) (moves : List Move) :
    ChainData :=
  moves.foldl (ChainData.move passes) data

/-! ## The recipes -/

/-- `Chain::transition`: the moves and the world after it. -/
def transitionRecipe (world : World) (image : Image) (layout : ImageLayout) :
    List Move × World :=
  let newLayout := Vulkan.convertLayout layout
  let oldLayout := Vulkan.convertLayout (world.imageLayout image)
  let barrier : ImageMemoryBarrier := ⟨oldLayout, newLayout, image.handle, image.layers⟩
  if newLayout ≠ .undefined then
    ([.storeImageBarrier barrier, .record false, .each none [.imageBarrier barrier]],
      world.setLayout image (Vulkan.convertVkLayout newLayout))
  else ([.storeImageBarrier barrier, .record false], world)

/-- `Chain::copy( buffer, image )`: a transition for the transfer, the copy, and a transition
back. -/
def copyBufferToImageRecipe (world : World) (src : BufferHandle) (dst : Image) (dstOffset : Nat) :
    List Move × World :=
  let region : BufferImageCopy := ⟨⟨dst.width, dst.height, dst.layers⟩, dstOffset, dst.subresource⟩
  let toTransfer := transitionRecipe world dst .transferDst
  let back := transitionRecipe toTransfer.2 dst (world.imageLayout dst)
  (toTransfer.1 ++
    .each none [.copyBufferToImage src dst.handle .transferDstOptimal region] :: back.1,
    back.2)

/-- `Chain::copy( buffer, buffer )`: the list is recorded, and the copy is emitted. -/
def copyBufferMoves (src dst : BufferHandle) (copyAmt elementSize srcOffset dstOffset : Nat) :
    List Move :=
  [.record false, .each none
    [.copyBuffer src dst ⟨srcOffset, dstOffset, copyAmt * elementSize % 2 ^ 32⟩]]

/-- `Chain::copy( image, buffer )`: the list is recorded, and the copy of all of the image is
emitted. -/
def copyImageToBufferMoves (src : Image) (dst : BufferHandle) (dstOffset : Nat) : List Move :=
  [.record false, .each none
    [.copyImageToBuffer src.handle .transferSrcOptimal dst
      ⟨⟨src.width, src.height, src.layers⟩, dstOffset, src.subresource⟩]]

/-- The end of a download: the wait for the device, and the world after the read back. -/
def readBackRecipe (device : Option Nat) (world : World) (staging : StagingBuffer)
    (dst byteSize : Nat) : List Move × World :=
  let (synced, hostData) := world.syncToHost staging
  ([.synchronize device],
    (synced.writeHost dst (hostData.take byteSize)).setLocked staging.id false)

/-- The commands that bind a renderer: its pipeline, and its descriptor set if it has one. -/
def Renderer.bindCommands (renderer : Renderer) : List Command :=
  .bindPipeline renderer.pipeline.boundState.bindPoint renderer.pipeline.boundState.pipeline ::
    (renderer.descriptor.set.map
      (Command.bindDescriptorSets (some renderer.pipeline.boundState))).toList

/-- A draw: record with the render pass, bind the renderer, draw. -/
def drawMoves (renderer : Renderer) (commands : List Command) : List Move :=
  [.record true, .markRecord, .each (some renderer.pipeline.boundState)
    (renderer.bindCommands ++ commands)]

/-- The commands of a push; a value of 256 bytes or more is not pushed. -/
def pushCommands (pipeline : Pipeline) (value : List UInt8) (offset : Nat) : List Command :=
  .bindPipeline pipeline.boundState.bindPoint pipeline.boundState.pipeline ::
    if value.length < 256 then
      [.pushConstants (some pipeline.boundState.layout) offset
        ((256 + 2 ^ 32 - offset) % 2 ^ 32) value]
    else []

/-- The moves of a recording operation and the world after it, for a chain with render pass `pass`
whose queue is on `device`. -/
def RecordingOp.recipe (env : Environment) (pass : Option PassId) (device : Option Nat)
    (world : World) : RecordingOp → Except ChainFailure (List Move × World)
  | .transition image layout => .ok (transitionRecipe world image layout)
  | .copyImage src dst srcOffset dstOffset =>
      .ok ([.record false, .each none
        [.copyImage src.handle (Vulkan.convertLayout (world.imageLayout src)) dst.handle
          (Vulkan.convertLayout (world.imageLayout dst))
          ⟨⟨dst.width, dst.height, dst.layers⟩, srcOffset, dstOffset, src.subresource,
            dst.subresource⟩]], world)
  | .copyBuffer src dst copyAmt elementSize srcOffset dstOffset =>
      .ok (copyBufferMoves src.handle dst.handle copyAmt elementSize srcOffset dstOffset, world)
  | .copyImageToBuffer src dst dstOffset =>
      .ok (copyImageToBufferMoves src dst.handle dstOffset, world)
  | .copyBufferToImage src dst dstOffset =>
      .ok (copyBufferToImageRecipe world src.handle dst dstOffset)
  | .upload src dst copyAmt elementSize srcOffset dstOffset =>
      match world.findStaging env device with
      | none => .error .spinning
      | some (found, staging) =>
          let written := found.copyToDevice staging src (copyAmt * elementSize % 2 ^ 32) srcOffset
          .ok (copyBufferMoves staging.handle dst.handle copyAmt elementSize 0 dstOffset,
            written.setLocked staging.id false)
  | .uploadImage src dst =>
      match world.findStaging env device with
      | none => .error .spinning
      | some (found, staging) =>
          let written := found.copyToDevice staging src dst.byteSize 0
          let copied := copyBufferToImageRecipe written staging.handle dst 0
          .ok (copied.1, copied.2.setLocked staging.id false)
  | .download src dst copyAmt elementSize srcOffset dstOffset =>
      match world.findStaging env device with
      | none => .error .spinning
      | some (found, staging) =>
          let byteSize := copyAmt * elementSize % 2 ^ 32
          let back := readBackRecipe (some src.device) found staging dst byteSize
          if staging.byteSize < byteSize then .error .hostOverrun
          else
            .ok (copyBufferMoves src.handle staging.handle copyAmt elementSize srcOffset dstOffset
              ++ back.1, back.2)
  | .downloadImage src dst =>
      match world.findStaging env device with
      | none => .error .spinning
      | some (found, staging) =>
          let back := readBackRecipe none found staging dst src.byteSize
          if staging.byteSize < src.byteSize then .error .hostOverrun
          else .ok (copyImageToBufferMoves src staging.handle 0 ++ back.1, back.2)
  | .memoryBarrier src =>
      .ok ([.record false, .storeBufferBarrier ⟨src.handle⟩,
        .each none [.bufferBarrier ⟨src.handle⟩]], world)
  | .memoryBarrierImage src =>
      .ok ([.record false, .each none [.bufferBarrier ⟨src.handle⟩]], world)
  | .pipelineBarrier src dst => .ok ([.record false, .each none [.pipelineBarrier src dst]], world)
  | .push renderer value offset =>
      .ok ([.record pass.isSome, .each (some renderer.pipeline.boundState)
        (pushCommands renderer.pipeline value offset)], world)
  | .draw renderer vertices count offset =>
      .ok (drawMoves renderer [.bindVertexBuffers vertices.handle offset, .draw count 1 0 0], world)
  | .drawIndexed renderer indices indexCount vertices =>
      .ok (drawMoves renderer [.bindVertexBuffers vertices.handle 0,
        .bindIndexBuffer indices.handle, .drawIndexed indexCount 1 0 0 0], world)
  | .drawInstancedIndexed instanceCount renderer indices indexCount vertices =>
      .ok (drawMoves renderer [.bindVertexBuffers vertices.handle 0,
        .bindIndexBuffer indices.handle, .drawIndexed indexCount instanceCount 0 0 0], world)
  | .drawInstanced instanceCount renderer vertices vertexCount =>
      .ok (drawMoves renderer [.bindVertexBuffers vertices.handle 0,
        .draw vertexCount instanceCount 0 0], world)

/-! ## Every operation is its recipe -/

/-- Commands that are recorded in two goes are recorded as in one. -/
theorem CommandBuffer.issue_append (cmd : CommandBuffer) (xs ys : List Command) :
    (cmd.issue xs).issue ys = cmd.issue (xs ++ ys) :=
  List.foldl_append.symm

/-- Where no pipeline is to be bound, the commands are just recorded. -/
@[simp] theorem CommandBuffer.issueBound_none (cmd : CommandBuffer) (commands : List Command) :
    cmd.issueBound none commands = cmd.issue commands := by
  rw [issueBound, Option.none_or]

/-- Moves in two goes are done as in one. -/
theorem ChainData.moves_append (passes : PassId → RenderPass) (data : ChainData)
    (xs ys : List Move) :
    data.moves passes (xs ++ ys) = (data.moves passes xs).moves passes ys :=
  List.foldl_append

/-- Waiting for a device completes what the chain submitted, or does nothing to it. -/
theorem ChainData.deviceSynchronize_cases (data : ChainData) (device : Option Nat) :
    data.deviceSynchronize device = { data with cmd := data.cmd.completeAll } ∨
      data.deviceSynchronize device = data := by
  unfold deviceSynchronize
  by_cases own : data.queue.device.isSome ∧ data.queue.device = device
  · exact Or.inl (if_pos own)
  · exact Or.inr (if_neg own)

/-- To record commands does not change which pipeline the command buffer has bound. -/
theorem CommandBuffer.bound_issue (cmd : CommandBuffer) (commands : List Command) :
    (cmd.issue commands).bound = cmd.bound := by
  rw [issue_eq, act]

/-- The body of a push binds the pipeline and records the commands of the push. -/
theorem CommandBuffer.push_eq (cmd : CommandBuffer) (pipeline : Pipeline) (value : List UInt8)
    (offset : Nat) :
    (cmd.bindPipeline pipeline).pushConstantBase value offset
      = cmd.issueBound (some pipeline.boundState) (pushCommands pipeline value offset) := by
  have hbound : (cmd.bindPipeline pipeline).bound = some pipeline.boundState :=
    bound_issue _ _
  rw [pushConstantBase, pushCommands, issueBound, Option.some_or, hbound, bindPipeline]
  split
  · rw [issue_append]
    rfl
  · rfl

/-- The bindings that every draw starts with record the commands that bind its renderer. -/
theorem CommandBuffer.bind_eq (cmd : CommandBuffer) (renderer : Renderer) :
    (cmd.bindPipeline renderer.pipeline).bindDescriptor renderer.descriptor
      = cmd.issueBound (some renderer.pipeline.boundState) renderer.bindCommands := by
  have hbound : (cmd.bindPipeline renderer.pipeline).bound = some renderer.pipeline.boundState :=
    bound_issue _ _
  rw [bindDescriptor, Renderer.bindCommands, issueBound, Option.some_or, hbound, bindPipeline]
  cases renderer.descriptor.set with
  | none => rfl
  | some set => rfl

/-- A transition of an image leaves the render passes of the world alone. -/
@[simp] theorem passes_transitionRecipe (world : World) (image : Image) (layout : ImageLayout) :
    (transitionRecipe world image layout).2.passes = world.passes := by
  by_cases h : Vulkan.convertLayout layout = .undefined
  · simp only [transitionRecipe, h, ne_eq, not_true_eq_false, if_false]
  · simp only [transitionRecipe, h, ne_eq, not_false_eq_true, if_true, World.passes_setLayout]

namespace Session

variable (s : Session)

/-- A session after the moves and the world of a recipe. -/
def follow (recipe : List Move × World) : Session :=
  { s with data := s.data.moves s.world.passes recipe.1, world := recipe.2 }

/-- `Chain::transition` carries out its recipe. -/
theorem transition_eq (image : Image) (layout : ImageLayout) :
    s.transition image layout = s.follow (transitionRecipe s.world image layout) := by
  rw [transition, transitionRecipe]
  dsimp only
  split
  · simp only [follow, ChainData.moves, List.foldl_cons, List.foldl_nil, ChainData.move,
      CommandBuffer.issueBound_none]
    rfl
  · rfl

/-- `Chain::copy( buffer, buffer )` carries out its moves, and leaves the world alone. -/
theorem copyBuffer_eq (src dst : BufferHandle) (copyAmt elementSize srcOffset dstOffset : Nat) :
    s.copyBuffer src dst copyAmt elementSize srcOffset dstOffset
      = s.follow (copyBufferMoves src dst copyAmt elementSize srcOffset dstOffset, s.world) := by
  simp only [copyBuffer, copyBufferMoves, follow, ChainData.moves, List.foldl_cons, List.foldl_nil,
    ChainData.move, CommandBuffer.issueBound_none]
  rfl

/-- `Chain::copy( image, buffer )` carries out its moves, and leaves the world alone. -/
theorem copyImageToBuffer_eq (src : Image) (dst : BufferHandle) (dstOffset : Nat) :
    s.copyImageToBuffer src dst dstOffset
      = s.follow (copyImageToBufferMoves src dst dstOffset, s.world) := by
  simp only [copyImageToBuffer, copyImageToBufferMoves, follow, ChainData.moves, List.foldl_cons,
    List.foldl_nil, ChainData.move, CommandBuffer.issueBound_none]
  rfl

/-- `Chain::copy( buffer, image )` carries out its recipe, which tracks the layout of the image. -/
theorem copyBufferToImage_eq (src : BufferHandle) (dst : Image) (dstOffset : Nat) :
    s.copyBufferToImage src dst dstOffset
      = s.follow (copyBufferToImageRecipe s.world src dst dstOffset) := by
  rw [copyBufferToImage, transition_eq, transition_eq]
  simp only [copyBufferToImageRecipe, follow, broadcast, ChainData.moves_append,
    passes_transitionRecipe]
  simp only [ChainData.moves, List.foldl_cons, ChainData.move, CommandBuffer.issueBound_none]

/-- The end of a download, which waits and reads the staging buffer back, carries out its recipe. -/
theorem readBack_eq (device : Option Nat) (staging : StagingBuffer) (dst byteSize : Nat) :
    (s.deviceSynchronize (device.or s.data.cmd.queue.device)).readBack staging dst byteSize
      = s.follow (readBackRecipe device s.world staging dst byteSize) :=
  rfl

/-- A draw whose body records some commands carries out its moves, and leaves the world alone. -/
theorem drawWith_eq (renderer : Renderer) {body : CommandBuffer → CommandBuffer}
    {commands : List Command} (hbody : ∀ cmd, body cmd = cmd.issue commands) :
    s.drawWith renderer body = s.follow (drawMoves renderer commands, s.world) := by
  have heach : ∀ cmd : CommandBuffer,
      body ((cmd.bindPipeline renderer.pipeline).bindDescriptor renderer.descriptor)
        = cmd.issueBound (some renderer.pipeline.boundState)
            (renderer.bindCommands ++ commands) := by
    intro cmd
    rw [CommandBuffer.bind_eq, hbody, CommandBuffer.issueBound, CommandBuffer.issue_append]
    rfl
  simp only [drawWith, drawMoves, follow, heach, ChainData.moves, List.foldl_cons, List.foldl_nil,
    ChainData.move]
  rfl

/-- Two recipes, one after the other, the first of which leaves the render passes alone. -/
theorem follow_follow (first second : List Move × World) (h : first.2.passes = s.world.passes) :
    (s.follow first).follow second = s.follow (first.1 ++ second.1, second.2) := by
  simp only [follow, ChainData.moves_append, h]

/-- A recipe does not look at the world it replaces, the render passes apart. -/
theorem follow_world (world : World) (recipe : List Move × World)
    (h : world.passes = s.world.passes) :
    { s with world := world }.follow recipe = s.follow recipe := by
  simp only [follow, h]

/-- A copy to a staging buffer and the end of a download, from a world with the staging buffer
handed out. -/
theorem follow_readBack {found : World} (hfound : found.passes = s.world.passes)
    (moves : List Move) (device : Option Nat) (staging : StagingBuffer) (dst byteSize : Nat) :
    (({ s with world := found }.follow (moves, found)).deviceSynchronize (device.or
        ({ s with world := found }.follow (moves, found)).data.cmd.queue.device)).readBack
        staging dst byteSize
      = s.follow (moves ++ (readBackRecipe device found staging dst byteSize).1,
          (readBackRecipe device found staging dst byteSize).2) := by
  rw [readBack_eq, follow_world s found _ hfound, follow_follow s (moves, found) _ hfound]
  rfl

end Session

/-- **Every recording operation carries out its recipe**, or fails as that does. -/
theorem RecordingOp.step_eq (env : Environment) (s : Session) (op : RecordingOp) :
    op.step env s
      = (op.recipe env s.data.pass s.data.queue.device s.world).map s.follow := by
  cases op with
  | transition image layout => exact congrArg Except.ok (s.transition_eq image layout)
  | copyImage src dst srcOffset dstOffset =>
      simp only [step, recipe, Except.map, Session.copyImage, Session.follow, ChainData.moves,
        List.foldl_cons, List.foldl_nil, ChainData.move, CommandBuffer.issueBound_none]
      rfl
  | copyBuffer src dst copyAmt elementSize srcOffset dstOffset =>
      exact congrArg Except.ok (s.copyBuffer_eq ..)
  | copyImageToBuffer src dst dstOffset => exact congrArg Except.ok (s.copyImageToBuffer_eq ..)
  | copyBufferToImage src dst dstOffset => exact congrArg Except.ok (s.copyBufferToImage_eq ..)
  | upload src dst copyAmt elementSize srcOffset dstOffset =>
      rw [step, Session.upload, recipe]
      cases hfind : s.world.findStaging env s.data.queue.device with
      | none => rfl
      | some pair =>
          obtain ⟨found, staging⟩ := pair
          have hpasses : (found.copyToDevice staging src (copyAmt * elementSize % 2 ^ 32)
              srcOffset).passes = s.world.passes :=
            (World.passes_copyToDevice ..).trans (World.passes_findStaging hfind)
          simp only [Except.map, Session.copyBuffer_eq]
          rw [Session.follow_world s _ _ hpasses]
          rfl
  | uploadImage src dst =>
      rw [step, Session.uploadImage, recipe]
      cases hfind : s.world.findStaging env s.data.queue.device with
      | none => rfl
      | some pair =>
          obtain ⟨found, staging⟩ := pair
          have hpasses : (found.copyToDevice staging src dst.byteSize 0).passes = s.world.passes :=
            (World.passes_copyToDevice ..).trans (World.passes_findStaging hfind)
          simp only [Except.map, Session.copyBufferToImage_eq]
          rw [Session.follow_world s _ _ hpasses]
          rfl
  | download src dst copyAmt elementSize srcOffset dstOffset =>
      rw [step, Session.download, recipe]
      cases hfind : s.world.findStaging env s.data.queue.device with
      | none => rfl
      | some pair =>
          obtain ⟨found, staging⟩ := pair
          have hpasses := World.passes_findStaging hfind
          by_cases hover : staging.byteSize < copyAmt * elementSize % 2 ^ 32
          · simp only [if_pos hover, Except.map]
          · simp only [if_neg hover, Except.map, Session.copyBuffer_eq]
            exact congrArg Except.ok (s.follow_readBack hpasses _ (some src.device) _ _ _)
  | downloadImage src dst =>
      rw [step, Session.downloadImage, recipe]
      cases hfind : s.world.findStaging env s.data.queue.device with
      | none => rfl
      | some pair =>
          obtain ⟨found, staging⟩ := pair
          have hpasses := World.passes_findStaging hfind
          by_cases hover : staging.byteSize < src.byteSize
          · simp only [if_pos hover, Except.map]
          · simp only [if_neg hover, Except.map, Session.copyImageToBuffer_eq]
            exact congrArg Except.ok (s.follow_readBack hpasses _ none _ _ _)
  | memoryBarrier src =>
      simp only [step, recipe, Except.map, Session.memoryBarrier, Session.follow, ChainData.moves,
        List.foldl_cons, List.foldl_nil, ChainData.move, CommandBuffer.issueBound_none]
      rfl
  | memoryBarrierImage src =>
      simp only [step, recipe, Except.map, Session.memoryBarrierImage, Session.follow,
        ChainData.moves, List.foldl_cons, List.foldl_nil, ChainData.move,
        CommandBuffer.issueBound_none]
      rfl
  | pipelineBarrier src dst =>
      simp only [step, recipe, Except.map, Session.pipelineBarrier, Session.follow,
        ChainData.moves, List.foldl_cons, List.foldl_nil, ChainData.move,
        CommandBuffer.issueBound_none]
      rfl
  | push renderer value offset =>
      simp only [step, recipe, Except.map, Session.push, CommandBuffer.push_eq, Session.follow,
        ChainData.moves, List.foldl_cons, List.foldl_nil, ChainData.move]
      rfl
  | draw renderer vertices count offset =>
      exact congrArg Except.ok (s.drawWith_eq renderer fun _ => rfl)
  | drawIndexed renderer indices indexCount vertices =>
      exact congrArg Except.ok (s.drawWith_eq renderer fun _ => rfl)
  | drawInstancedIndexed instanceCount renderer indices indexCount vertices =>
      exact congrArg Except.ok (s.drawWith_eq renderer fun _ => rfl)
  | drawInstanced instanceCount renderer vertices vertexCount =>
      exact congrArg Except.ok (s.drawWith_eq renderer fun _ => rfl)

/-- A recording operation that returned has a recipe, and carried it out. -/
theorem RecordingOp.exists_recipe {env : Environment} {s t : Session} (op : RecordingOp)
    (h : op.step env s = .ok t) :
    ∃ recipe, op.recipe env s.data.pass s.data.queue.device s.world = .ok recipe ∧
      t = s.follow recipe := by
  rw [op.step_eq] at h
  exact exists_of_map_eq_ok h

/-! ## The recipes that use a staging buffer -/

section Staging

variable {env : Environment} {pass : Option PassId} {device : Option Nat} {world : World}
  {recipe : List Move × World}

/-- A download that returned found a staging buffer with room for the bytes, and is the copy there
and the end of a download. -/
theorem exists_of_recipe_download {src : Buffer} {dst copyAmt elementSize srcOffset dstOffset : Nat}
    (h : (RecordingOp.download src dst copyAmt elementSize srcOffset dstOffset).recipe env pass
      device world = .ok recipe) :
    ∃ found staging, world.findStaging env device = some (found, staging) ∧
      copyAmt * elementSize % 2 ^ 32 ≤ staging.byteSize ∧
      recipe =
        (copyBufferMoves src.handle staging.handle copyAmt elementSize srcOffset dstOffset ++
          (readBackRecipe (some src.device) found staging dst (copyAmt * elementSize % 2 ^ 32)).1,
        (readBackRecipe (some src.device) found staging dst
          (copyAmt * elementSize % 2 ^ 32)).2) := by
  rw [RecordingOp.recipe] at h
  cases hfind : world.findStaging env device with
  | none =>
      rw [hfind] at h
      cases h
  | some pair =>
      obtain ⟨found, staging⟩ := pair
      simp only [hfind] at h
      by_cases hover : staging.byteSize < copyAmt * elementSize % 2 ^ 32
      · rw [if_pos hover] at h
        cases h
      · rw [if_neg hover] at h
        exact ⟨found, staging, rfl, Nat.le_of_not_lt hover, (Except.ok.inj h).symm⟩

/-- A download of an image that returned found a staging buffer with room for the image, and is the
copy there and the end of a download. -/
theorem exists_of_recipe_downloadImage {src : Image} {dst : Nat}
    (h : (RecordingOp.downloadImage src dst).recipe env pass device world = .ok recipe) :
    ∃ found staging, world.findStaging env device = some (found, staging) ∧
      src.byteSize ≤ staging.byteSize ∧
      recipe = (copyImageToBufferMoves src staging.handle 0 ++
          (readBackRecipe none found staging dst src.byteSize).1,
        (readBackRecipe none found staging dst src.byteSize).2) := by
  rw [RecordingOp.recipe] at h
  cases hfind : world.findStaging env device with
  | none =>
      rw [hfind] at h
      cases h
  | some pair =>
      obtain ⟨found, staging⟩ := pair
      simp only [hfind] at h
      by_cases hover : staging.byteSize < src.byteSize
      · rw [if_pos hover] at h
        cases h
      · rw [if_neg hover] at h
        exact ⟨found, staging, rfl, Nat.le_of_not_lt hover, (Except.ok.inj h).symm⟩

end Staging

/-! ## Operations record before they emit -/

/-- A list of moves that only records commands after a `record`; `recorded` says whether there was
one before. -/
def Recorded : Bool → List Move → Prop
  | _, [] => True
  | _, .record _ :: moves => Recorded true moves
  | recorded, .each _ _ :: moves => recorded = true ∧ Recorded recorded moves
  | recorded, .storeImageBarrier _ :: moves => Recorded recorded moves
  | recorded, .storeBufferBarrier _ :: moves => Recorded recorded moves
  | recorded, .markRecord :: moves => Recorded recorded moves
  | recorded, .synchronize _ :: moves => Recorded recorded moves

/-- Moves that record commands only after a `record` of their own do so after an earlier one as
well. -/
theorem Recorded.mono {moves : List Move} (h : Recorded false moves) : Recorded true moves := by
  induction moves with
  | nil => trivial
  | cons move moves ih =>
      cases move with
      | each bound commands => exact absurd h.1 Bool.false_ne_true
      | record useRenderPass => exact h
      | storeImageBarrier barrier => exact ih h
      | storeBufferBarrier barrier => exact ih h
      | markRecord => exact ih h
      | synchronize device => exact ih h

/-- Moves that record nothing before their own `record` may follow any others. -/
theorem Recorded.append {xs ys : List Move} {recorded : Bool} (hxs : Recorded recorded xs)
    (hys : Recorded false ys) : Recorded recorded (xs ++ ys) := by
  induction xs generalizing recorded with
  | nil =>
      cases recorded with
      | false => exact hys
      | true => exact hys.mono
  | cons move xs ih =>
      cases move with
      | each bound commands => exact ⟨hxs.1, ih hxs.2⟩
      | record useRenderPass => exact ih (show Recorded true xs from hxs)
      | storeImageBarrier barrier => exact ih hxs
      | storeBufferBarrier barrier => exact ih hxs
      | markRecord => exact ih hxs
      | synchronize device => exact ih hxs

/-- A transition records its list before it emits its barrier. -/
theorem recorded_transitionRecipe (world : World) (image : Image) (layout : ImageLayout) :
    Recorded false (transitionRecipe world image layout).1 := by
  by_cases h : Vulkan.convertLayout layout = .undefined
  · simp [transitionRecipe, h, Recorded]
  · simp [transitionRecipe, h, Recorded]

/-- A copy from a buffer to an image records its list before it emits its commands. -/
theorem recorded_copyBufferToImageRecipe (world : World) (src : BufferHandle) (dst : Image)
    (dstOffset : Nat) : Recorded false (copyBufferToImageRecipe world src dst dstOffset).1 := by
  -- the transition to `TransferDst` is never the one to `Undefined`, so it records
  have hback := (recorded_transitionRecipe (transitionRecipe world dst .transferDst).2 dst
    (world.imageLayout dst)).mono
  exact ⟨rfl, rfl, hback⟩

/-- The end of a download emits no command. -/
theorem recorded_readBackRecipe (device : Option Nat) (world : World) (staging : StagingBuffer)
    (dst byteSize : Nat) : Recorded false (readBackRecipe device world staging dst byteSize).1 :=
  trivial

/-- A draw records its list before it emits its commands. -/
theorem recorded_drawMoves (renderer : Renderer) (commands : List Command) :
    Recorded false (drawMoves renderer commands) := ⟨rfl, trivial⟩

/-- **Every recording operation records before it emits commands.** -/
theorem RecordingOp.recorded {env : Environment} {pass : Option PassId} {device : Option Nat}
    {world : World} {op : RecordingOp} {recipe : List Move × World}
    (h : op.recipe env pass device world = .ok recipe) : Recorded false recipe.1 := by
  cases op with
  | transition image layout =>
      cases h
      exact recorded_transitionRecipe world image layout
  | copyBufferToImage src dst dstOffset =>
      cases h
      exact recorded_copyBufferToImageRecipe world src.handle dst dstOffset
  | upload src dst copyAmt elementSize srcOffset dstOffset =>
      rw [RecordingOp.recipe] at h
      cases hfind : world.findStaging env device <;> rw [hfind] at h <;> cases h
      exact ⟨rfl, trivial⟩
  | uploadImage src dst =>
      rw [RecordingOp.recipe] at h
      cases hfind : world.findStaging env device <;> rw [hfind] at h <;> cases h
      exact recorded_copyBufferToImageRecipe ..
  | download src dst copyAmt elementSize srcOffset dstOffset =>
      obtain ⟨found, staging, -, -, rfl⟩ := exists_of_recipe_download h
      exact Recorded.append (show Recorded false (copyBufferMoves ..) from ⟨rfl, trivial⟩)
        (recorded_readBackRecipe ..)
  | downloadImage src dst =>
      obtain ⟨found, staging, -, -, rfl⟩ := exists_of_recipe_downloadImage h
      exact Recorded.append (show Recorded false (copyImageToBufferMoves ..) from ⟨rfl, trivial⟩)
        (recorded_readBackRecipe ..)
  | copyImage | copyBuffer | copyImageToBuffer | memoryBarrier | memoryBarrierImage
  | pipelineBarrier | push =>
      cases h
      exact ⟨rfl, trivial⟩
  | draw | drawIndexed | drawInstancedIndexed | drawInstanced =>
      cases h
      exact recorded_drawMoves ..

end Nyx
