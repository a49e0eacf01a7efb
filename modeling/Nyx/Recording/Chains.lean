import Nyx.Foundations.StepMachines
import Nyx.Recording.StagingPools

/-! # Chains

`vkg::Chain`, operation by operation. A chain records commands into a ring of command buffers: in
`Sequential` mode into the buffer under its cursor, in `All` mode into each of them.

* **`ChainData`** — the fields of the source.
* **`Session`** — a chain together with the world it works in; the methods of `Chain` are functions
  on sessions.
* **`RecordingOp`**, **`Op`**, **`Op.step`** — the public operations as inputs of a machine.
  Undefined behaviour and a loop that cannot end are failures.

The queue executes what it is given in order; a submitted command buffer takes its effect on device
memory at the submit, and `deviceSynchronize` waits for work that was submitted, which leaves
memory alone. -/

namespace Nyx

open Foundations

/-- What goes wrong in a chain operation: it never returns, reads past a block, or follows a null
pointer. -/
inductive ChainFailure
  /-- `findStaging` spins over a pool whose buffers are all locked. -/
  | spinning
  /-- A download reads past the end of the host block of the staging buffer. -/
  | hostOverrun
  /-- `data().pass->subpassCount()` on a null render pass. -/
  | nullPass
  deriving DecidableEq, Repr

/-- `nyx::ChainMode`: whether an operation is recorded into one command buffer or into all. -/
inductive ChainMode
  | sequential | all
  deriving DecidableEq, Repr

/-- `nyx::ChainType`: what the queue of a chain is for. -/
inductive ChainType
  | graphics | compute | transfer
  deriving DecidableEq, Repr

/-- What the chain reads of a `vkg::Renderer`: its pipeline and its descriptor. -/
structure Renderer where
  pipeline : Pipeline
  descriptor : Descriptor
  deriving DecidableEq, Repr

/-- `ChainData`: the command buffers of a chain, its queue, its parent and its render pass, and how
far it has come. -/
structure ChainData where
  /-- The maps of barriers, keyed by the order of insertion. -/
  imageBarriers : List ImageMemoryBarrier := []
  bufferBarriers : List BufferMemoryBarrier := []
  queue : Queue := {}
  cmd : CommandBuffer := {}
  parent : Option ChainId := none
  pass : Option PassId := none
  /-- `UINT32_MAX` until the chain is initialised as a child. -/
  subpassId : Nat := 2 ^ 32 - 1
  hasRecord : Bool := false
  numCmd : Nat := 1
  current : Nat := 0
  dirty : Bool := false

namespace ChainData

/-! ## Initialisation -/

/-- `Chain::reset`, which drops the command buffers and the render pass, and nothing else. -/
def reset (data : ChainData) : ChainData := { data with cmd := data.cmd.reset, pass := none }

/-- The queue a chain type gets from `Vulkan`; `Transfer` falls to the compute queue. -/
def typeQueue (gpu : Option Nat) : ChainType → Queue
  | .graphics => ⟨gpu, some .graphics⟩
  | .compute | .transfer => ⟨gpu, some .compute⟩

/-- `Chain::initialize( gpu, type )`, which resets the chain and makes primary command buffers for a
queue of the device. -/
def initializeType (data : ChainData) (gpu : Nat) (type : ChainType) : ChainData :=
  let data := { data.reset with queue := typeQueue (some gpu) type }
  { data with cmd := data.cmd.initializeBuffers data.queue commandBufferCount .primary false }

/-- `Chain::initialize( gpu, window_id )`: nothing without the window. -/
def initializeWindow (env : Environment) (data : ChainData) (gpu windowId : Nat) : ChainData :=
  if env.hasWindow windowId then
    let queue : Queue := ⟨some gpu, some (.present windowId)⟩
    { data with
      queue := queue
      cmd := data.cmd.initializeBuffers queue commandBufferCount .primary false }
  else data

/-- `Chain::initialize( pass, type, multi_pass )`, which resets the chain and makes primary command
buffers that the render pass is recorded in. -/
def initializePass (data : ChainData) (pass : PassId) (renderPass : RenderPass) (type : ChainType)
    (multiPass : Bool) : ChainData :=
  let queue := typeQueue renderPass.device type
  let data := { data.reset with pass := some pass, queue := queue }
  { data with cmd := data.cmd.initializeBuffers queue commandBufferCount .primary multiPass }

/-- `Chain::initialize( pass, window_id, multi_pass )`: without the window only the render pass is
set. -/
def initializePassWindow (env : Environment) (data : ChainData) (pass : PassId)
    (renderPass : RenderPass) (windowId : Nat) (multiPass : Bool) : ChainData :=
  let data := { data.reset with pass := some pass }
  if env.hasWindow windowId then
    let queue : Queue := ⟨renderPass.device, some (.present windowId)⟩
    { data with
      queue := queue
      cmd := data.cmd.initializeBuffers queue commandBufferCount .primary multiPass }
  else data

/-- `Chain::initialize( parent, subpass_id )`, which makes secondary command buffers for the queue
of the parent, and resets nothing. -/
def initializeChild (data : ChainData) (parentId : ChainId) (parent : ChainData)
    (subpassId : Nat) : ChainData :=
  { data with
    pass := parent.pass
    parent := some parentId
    subpassId := subpassId
    cmd := data.cmd.initializeChild parent.cmd }

/-- `Chain::initialized`: whether there are command buffers. -/
def initialized (data : ChainData) : Bool := data.cmd.initialized

/-! ## Recording -/

/-- How `ChainData::record` begins one command buffer. -/
def recordBody (passes : PassId → RenderPass) (data : ChainData) (useRenderPass : Bool) :
    CommandBuffer → CommandBuffer :=
  match data.pass with
  | none => CommandBuffer.record
  | some pass =>
      if (passes pass).initialized && useRenderPass then
        match data.parent with
        | some _ => fun cmd => cmd.recordSubpass (passes pass) data.subpassId
        | none => fun cmd => cmd.recordPass (passes pass)
      else CommandBuffer.record

/-- `ChainData::record`, which begins the command buffers that the mode says, unless the chain is
recording. -/
def record (passes : PassId → RenderPass) (data : ChainData) (useRenderPass : Bool) : ChainData :=
  let cmd :=
    if data.cmd.recording then data.cmd
    else data.cmd.forEach data.numCmd (data.recordBody passes useRenderPass)
  { data with cmd := cmd.setActive data.current }

/-- The loop over the command buffers that every operation makes, with the cursor put back. -/
def broadcast (data : ChainData) (body : CommandBuffer → CommandBuffer) : ChainData :=
  { data with cmd := (data.cmd.forEach data.numCmd body).setActive data.current }

/-- `Chain::end`, which ends the command buffers that the mode says, if the chain is recording. -/
def stop (data : ChainData) : ChainData :=
  if data.cmd.recording then { data.broadcast CommandBuffer.stop with hasRecord := true } else data

/-- `Chain::setMode`, which says how many command buffers are visited from now on. -/
def setMode (data : ChainData) : ChainMode → ChainData
  | .all => { data with numCmd := commandBufferCount }
  | .sequential => { data with numCmd := 1 }

/-- `Vulkan::deviceSynchronize`, which waits for what was submitted on the device. A chain whose
queue was never set has submitted nothing. -/
def deviceSynchronize (data : ChainData) (device : Option Nat) : ChainData :=
  if data.queue.device.isSome ∧ data.queue.device = device then
    { data with cmd := data.cmd.completeAll }
  else data

end ChainData

/-- A chain, named `self` by the chains around it, and the world that it works in. -/
structure Session where
  self : ChainId
  data : ChainData
  world : World

namespace Session

/-- A new chain on the graphics queue of device `0`, at the start of a program. -/
def newGraphics : Session := ⟨0, ({} : ChainData).initializeType 0 .graphics, .start⟩

/-- `ChainData::record`, for a chain in its world. -/
def record (s : Session) (useRenderPass : Bool) : Session :=
  { s with data := s.data.record s.world.passes useRenderPass }

/-- The loop over the command buffers, after which the chain is dirty. -/
def broadcast (s : Session) (body : CommandBuffer → CommandBuffer) : Session :=
  { s with data := { s.data.broadcast body with dirty := true } }

/-! ## Copies and barriers -/

/-- `Chain::transition`, which stores a barrier, and records it unless the layout is `Undefined`. -/
def transition (s : Session) (image : Image) (layout : ImageLayout) : Session :=
  let newLayout := Vulkan.convertLayout layout
  let oldLayout := Vulkan.convertLayout (s.world.imageLayout image)
  let barrier : ImageMemoryBarrier := ⟨oldLayout, newLayout, image.handle, image.layers⟩
  -- the barrier is stored before the chain begins to record, and for every layout
  let stored := { s with data.imageBarriers := s.data.imageBarriers ++ [barrier] }
  let recorded := stored.record false
  if newLayout ≠ .undefined then
    let done := recorded.broadcast (·.issue [.imageBarrier barrier])
    { done with world := done.world.setLayout image (Vulkan.convertVkLayout newLayout) }
  else recorded

/-- `Chain::copy( image, image )`; the amount is not used. -/
def copyImage (s : Session) (src dst : Image) (srcOffset dstOffset : Nat) : Session :=
  let region : ImageCopy :=
    ⟨⟨dst.width, dst.height, dst.layers⟩, srcOffset, dstOffset, src.subresource, dst.subresource⟩
  let srcLayout := Vulkan.convertLayout (s.world.imageLayout src)
  let dstLayout := Vulkan.convertLayout (s.world.imageLayout dst)
  (s.record false).broadcast (·.issue [.copyImage src.handle srcLayout dst.handle dstLayout region])

/-- `Chain::copy( buffer, buffer )`, which reads nothing of the buffers but their handles. -/
def copyBuffer (s : Session) (src dst : BufferHandle)
    (copyAmt elementSize srcOffset dstOffset : Nat) : Session :=
  let region : BufferCopy := ⟨srcOffset, dstOffset, copyAmt * elementSize % 2 ^ 32⟩
  (s.record false).broadcast (·.issue [.copyBuffer src dst region])

/-- `Chain::copy( image, buffer )`; the amount and the source offset are not used. This is the
overload that records: the public template over it calls itself, and a call of that never
returns. -/
def copyImageToBuffer (s : Session) (src : Image) (dst : BufferHandle) (dstOffset : Nat) :
    Session :=
  let region : BufferImageCopy := ⟨⟨src.width, src.height, src.layers⟩, dstOffset, src.subresource⟩
  (s.record false).broadcast
    (·.issue [.copyImageToBuffer src.handle .transferSrcOptimal dst region])

/-- `Chain::copy( buffer, image )`, between two transitions; the amount, the element size and the
source offset are not used. -/
def copyBufferToImage (s : Session) (src : BufferHandle) (dst : Image) (dstOffset : Nat) :
    Session :=
  let oldLayout := s.world.imageLayout dst
  let region : BufferImageCopy := ⟨⟨dst.width, dst.height, dst.layers⟩, dstOffset, dst.subresource⟩
  -- no `record` of its own: the transition before it has begun the buffers
  let copied := (s.transition dst .transferDst).broadcast
    (·.issue [.copyBufferToImage src dst.handle .transferDstOptimal region])
  copied.transition dst oldLayout

/-- `Chain::memoryBarrier( buffer, buffer )`, which records a barrier for the source and stores
it. -/
def memoryBarrier (s : Session) (src : Buffer) : Session :=
  let barrier : BufferMemoryBarrier := ⟨src.handle⟩
  let recorded := s.record false
  let stored := { recorded with data.bufferBarriers := recorded.data.bufferBarriers ++ [barrier] }
  stored.broadcast (·.issue [.bufferBarrier barrier])

/-- `Chain::memoryBarrier( buffer, image )`, which records a barrier for the source. -/
def memoryBarrierImage (s : Session) (src : Buffer) : Session :=
  (s.record false).broadcast (·.barrier src)

/-- `Chain::pipelineBarrier`, which records a barrier between two stages. -/
def pipelineBarrier (s : Session) (src dst : GPUStages) : Session :=
  (s.record false).broadcast (·.issue [.pipelineBarrier src dst])

/-! ## Pushes and draws -/

/-- `Chain::pushBase`, which binds the pipeline of the renderer and pushes the value. -/
def push (s : Session) (renderer : Renderer) (value : List UInt8) (offset : Nat) : Session :=
  (s.record s.data.pass.isSome).broadcast fun cmd =>
    (cmd.bindPipeline renderer.pipeline).pushConstantBase value offset

/-- The frame of the four draws: record with the render pass, bind the renderer, draw. -/
def drawWith (s : Session) (renderer : Renderer) (body : CommandBuffer → CommandBuffer) :
    Session :=
  let recorded := s.record true
  { recorded with data.hasRecord := true }.broadcast fun cmd =>
    body ((cmd.bindPipeline renderer.pipeline).bindDescriptor renderer.descriptor)

/-- `Chain::drawBase`, which binds the renderer and the vertices, and draws them. -/
def draw (s : Session) (renderer : Renderer) (vertices : Buffer) (count offset : Nat) : Session :=
  s.drawWith renderer (·.drawBase vertices count offset)

/-- `Chain::drawIndexedBase`, which binds the renderer, the vertices and the indices, and draws
them. -/
def drawIndexed (s : Session) (renderer : Renderer) (indices : Buffer) (indexCount : Nat)
    (vertices : Buffer) : Session :=
  s.drawWith renderer (·.drawIndexedBase indices vertices indexCount)

/-- `Chain::drawInstancedBase` with indices: all indices of the buffer are drawn over the vertices,
for each instance. -/
def drawInstancedIndexed (s : Session) (instanceCount : Nat) (renderer : Renderer)
    (indices : Buffer) (indexCount : Nat) (vertices : Buffer) : Session :=
  s.drawWith renderer (·.drawInstancedIndexed indices indexCount vertices instanceCount)

/-- `Chain::drawInstancedBase` without indices: the vertices are drawn in their order, for each
instance. -/
def drawInstanced (s : Session) (instanceCount : Nat) (renderer : Renderer) (vertices : Buffer)
    (vertexCount : Nat) : Session :=
  s.drawWith renderer (·.drawInstanced vertices vertexCount instanceCount)

/-! ## Host transfers -/

/-- `Chain::copy( host, buffer )`: the bytes go to a staging buffer at the call, the copy from there
is recorded, and the staging buffer is free again. -/
def upload (env : Environment) (s : Session) (src : List UInt8) (dst : Buffer)
    (copyAmt elementSize srcOffset dstOffset : Nat) : Except ChainFailure Session :=
  let byteSize := copyAmt * elementSize % 2 ^ 32
  match s.world.findStaging env s.data.queue.device with
  | none => .error .spinning
  | some (world, staging) =>
      let written := { s with world := world.copyToDevice staging src byteSize srcOffset }
      -- `Chain::copy( buffer, buffer )`, from the start of the staging buffer
      let copied := written.copyBuffer staging.handle dst.handle copyAmt elementSize 0 dstOffset
      .ok { copied with world := copied.world.setLocked staging.id false }

/-- `Chain::copy( host, image )`: the bytes go to a staging buffer at the call, and the copy from
there to the image is recorded. -/
def uploadImage (env : Environment) (s : Session) (src : List UInt8) (dst : Image) :
    Except ChainFailure Session :=
  match s.world.findStaging env s.data.queue.device with
  | none => .error .spinning
  | some (world, staging) =>
      let written := { s with world := world.copyToDevice staging src dst.byteSize 0 }
      let copied := written.copyBufferToImage staging.handle dst 0
      .ok { copied with world := copied.world.setLocked staging.id false }

/-- `Vulkan::deviceSynchronize`, which waits for all that was submitted to a device. -/
def deviceSynchronize (s : Session) (device : Option Nat) : Session :=
  { s with data := s.data.deviceSynchronize device }

/-- The end of a download: the staging buffer is read back, its first `byteSize` bytes are copied to
`dst`, and the staging buffer is free again. -/
def readBack (s : Session) (staging : StagingBuffer) (dst byteSize : Nat) : Session :=
  let (world, hostData) := s.world.syncToHost staging
  { s with world := (world.writeHost dst (hostData.take byteSize)).setLocked staging.id false }

/-- `Chain::copy( buffer, host )`: the copy to a staging buffer is recorded, and this buffer is read
back at the call. -/
def download (env : Environment) (s : Session) (src : Buffer) (dst : Nat)
    (copyAmt elementSize srcOffset dstOffset : Nat) : Except ChainFailure Session :=
  let byteSize := copyAmt * elementSize % 2 ^ 32
  match s.world.findStaging env s.data.queue.device with
  | none => .error .spinning
  | some (world, staging) =>
      let copied := { s with world := world }.copyBuffer src.handle staging.handle copyAmt
        elementSize srcOffset dstOffset
      -- the copy was recorded, not submitted: the wait does not cover it
      if staging.byteSize < byteSize then .error .hostOverrun
      else .ok ((copied.deviceSynchronize (some src.device)).readBack staging dst byteSize)

/-- `Chain::copy( image, host )`, with the overload that records for the copy to the staging buffer;
in the source the call finds the template that calls itself. -/
def downloadImage (env : Environment) (s : Session) (src : Image) (dst : Nat) :
    Except ChainFailure Session :=
  match s.world.findStaging env s.data.queue.device with
  | none => .error .spinning
  | some (world, staging) =>
      let copied := { s with world := world }.copyImageToBuffer src staging.handle 0
      if staging.byteSize < src.byteSize then .error .hostOverrun
      else
        .ok ((copied.deviceSynchronize copied.data.cmd.queue.device).readBack staging dst
          src.byteSize)

/-! ## Begin, end, submit -/

/-- `Chain::begin`, which records with the render pass if there is one; a child goes on to its next
command buffer before. -/
def begin (s : Session) : Session :=
  -- only a child moves on to its next buffer
  let s := match s.data.parent with
    | some _ =>
        let cmd := s.data.cmd.advance
        { s with data := { s.data with cmd := cmd, current := cmd.current } }
    | none => s
  s.record s.data.pass.isSome

/-- `Chain::end`, for a chain in its world. -/
def stop (s : Session) : Session := { s with data := s.data.stop }

/-- `Chain::advance`, which moves the cursor of the command buffers and not that of the chain. -/
def advance (s : Session) : Session := { s with data.cmd := s.data.cmd.advance }

/-- `Chain::setMode`, for a chain in its world. -/
def setMode (s : Session) (mode : ChainMode) : Session := { s with data := s.data.setMode mode }

/-- `Chain::submit`. The queue executes the buffer under the cursor. -/
def submit (env : Environment) (s : Session) : Session :=
  let ended := s.stop
  let data := ended.data
  let submitted :=
    if data.parent = none ∧ data.hasRecord ∧ data.dirty then
      let memory := executeCommands env.effect data.cmd.active.vk.commands ended.world.memory
      -- what the buffer holds takes effect now; the fence is signaled when the GPU is done
      let cmd := Queue.submit data.cmd
      { ended with
        data := { data with cmd := cmd, current := cmd.current, dirty := false }
        world := { ended.world with memory := memory }.advancePass data.pass }
    else ended
  -- the barriers are dropped whether or not anything was submitted
  { submitted with data := { submitted.data with imageBarriers := [], bufferBarriers := [] } }

/-- `Chain::synchronize`, which waits for the queue: all submissions of the chain have completed
then. -/
def synchronize (s : Session) : Session :=
  if s.data.initialized then { s with data.cmd := s.data.cmd.completeAll } else s

/-- `Chain::combine`: record the child's buffer on every command buffer, and move to the next
subpass if the render pass has more than one. -/
def combine (s : Session) (childId : ChainId) (child : ChainData) : Except ChainFailure Session :=
  if s.data.parent = none ∧ child.parent = some s.self ∧ child.cmd.recording = false then
    let executed : ChainData :=
      { s.data with hasRecord := true }.broadcast (·.combine childId child.cmd)
    -- `data().pass->subpassCount()`
    match executed.pass with
    | none => .error .nullPass
    | some pass =>
        let moved :=
          if 1 < (s.world.passes pass).subpassCount then executed.broadcast (·.nextSubpass)
          else executed
        .ok { s with data := { moved with dirty := true } }
  else .ok s

end Session

/-! ## The operations as a machine -/

/-- The operations that record commands, with the arguments they read. -/
inductive RecordingOp
  | transition (image : Image) (layout : ImageLayout)
  | copyImage (src dst : Image) (srcOffset dstOffset : Nat)
  | copyBuffer (src dst : Buffer) (copyAmt elementSize srcOffset dstOffset : Nat)
  | copyImageToBuffer (src : Image) (dst : Buffer) (dstOffset : Nat)
  | copyBufferToImage (src : Buffer) (dst : Image) (dstOffset : Nat)
  | upload (src : List UInt8) (dst : Buffer) (copyAmt elementSize srcOffset dstOffset : Nat)
  | uploadImage (src : List UInt8) (dst : Image)
  | download (src : Buffer) (dst : Nat) (copyAmt elementSize srcOffset dstOffset : Nat)
  | downloadImage (src : Image) (dst : Nat)
  | memoryBarrier (src : Buffer)
  | memoryBarrierImage (src : Buffer)
  | pipelineBarrier (src dst : GPUStages)
  | push (renderer : Renderer) (value : List UInt8) (offset : Nat)
  | draw (renderer : Renderer) (vertices : Buffer) (count offset : Nat)
  | drawIndexed (renderer : Renderer) (indices : Buffer) (indexCount : Nat) (vertices : Buffer)
  | drawInstancedIndexed (instanceCount : Nat) (renderer : Renderer) (indices : Buffer)
      (indexCount : Nat) (vertices : Buffer)
  | drawInstanced (instanceCount : Nat) (renderer : Renderer) (vertices : Buffer)
      (vertexCount : Nat)
  deriving DecidableEq, Repr

/-- One recording operation, with the failure that it may come to. -/
def RecordingOp.step (env : Environment) (s : Session) :
    RecordingOp → Except ChainFailure Session
  | .transition image layout => .ok (s.transition image layout)
  | .copyImage src dst srcOffset dstOffset => .ok (s.copyImage src dst srcOffset dstOffset)
  | .copyBuffer src dst copyAmt elementSize srcOffset dstOffset =>
      .ok (s.copyBuffer src.handle dst.handle copyAmt elementSize srcOffset dstOffset)
  | .copyImageToBuffer src dst dstOffset => .ok (s.copyImageToBuffer src dst.handle dstOffset)
  | .copyBufferToImage src dst dstOffset => .ok (s.copyBufferToImage src.handle dst dstOffset)
  | .upload src dst copyAmt elementSize srcOffset dstOffset =>
      s.upload env src dst copyAmt elementSize srcOffset dstOffset
  | .uploadImage src dst => s.uploadImage env src dst
  | .download src dst copyAmt elementSize srcOffset dstOffset =>
      s.download env src dst copyAmt elementSize srcOffset dstOffset
  | .downloadImage src dst => s.downloadImage env src dst
  | .memoryBarrier src => .ok (s.memoryBarrier src)
  | .memoryBarrierImage src => .ok (s.memoryBarrierImage src)
  | .pipelineBarrier src dst => .ok (s.pipelineBarrier src dst)
  | .push renderer value offset => .ok (s.push renderer value offset)
  | .draw renderer vertices count offset => .ok (s.draw renderer vertices count offset)
  | .drawIndexed renderer indices indexCount vertices =>
      .ok (s.drawIndexed renderer indices indexCount vertices)
  | .drawInstancedIndexed instanceCount renderer indices indexCount vertices =>
      .ok (s.drawInstancedIndexed instanceCount renderer indices indexCount vertices)
  | .drawInstanced instanceCount renderer vertices vertexCount =>
      .ok (s.drawInstanced instanceCount renderer vertices vertexCount)

/-- The public operations of a chain. A `combine` is given the child as it is at the call. -/
inductive Op
  | begin
  | advance
  | setMode (mode : ChainMode)
  | stop
  | submit
  | synchronize
  | recording (op : RecordingOp)
  | combine (childId : ChainId) (child : ChainData)

/-- One operation of a chain in its world, with the failure that it may come to. -/
def Op.step (env : Environment) (s : Session) : Op → Except ChainFailure Session
  | .begin => .ok s.begin
  | .advance => .ok s.advance
  | .setMode mode => .ok (s.setMode mode)
  | .stop => .ok s.stop
  | .submit => .ok (s.submit env)
  | .synchronize => .ok s.synchronize
  | .recording op => op.step env s
  | .combine childId child => s.combine childId child

end Nyx
