import Mathlib.Algebra.Group.Nat.Defs
import Mathlib.Logic.Function.Basic
import Nyx.Foundations.Blocks

/-! # Vulkan commands and their effect on device memory

The commands the library records into command buffers, with the data it passes to each, and the
effect of a recorded command once the GPU executes it. Handles stand for the objects they denote.

* **`Command`** — one constructor for each `vkCmd…` call the library makes.
* **`Vulkan.convertLayout`**, **`Vulkan.convertVkLayout`** — the two `Vulkan::convert` functions
  between `nyx::ImageLayout` and `vk::ImageLayout`.
* **`Command.execute`** — what a command does to device memory. A `copyBuffer` moves bytes; what
  the other commands write (draws, image copies, executed secondary buffers) is GPU code and
  enters as a parameter. -/

namespace Nyx

open Foundations

/-- Names a chain object; two chains are the same object exactly when these agree. -/
abbrev ChainId := Nat

/-- Names a render pass object of the program; the objects are kept in a table by these names. -/
abbrev PassId := Nat

/-! ## Enumerations and plain records -/

/-- `nyx::ImageLayout`: the layouts that the library names. -/
inductive ImageLayout
  | undefined | general | colorAttachment | shaderRead | transferSrc | transferDst | presentSrc
  | depthRead | depthStencil
  deriving DecidableEq, Repr

/-- The values of `vk::ImageLayout` the library names. -/
inductive VkImageLayout
  | undefined | general | colorAttachmentOptimal | shaderReadOnlyOptimal | transferSrcOptimal
  | transferDstOptimal | presentSrcKHR | depthReadOnlyOptimalKHR | depthStencilAttachmentOptimal
  deriving DecidableEq, Repr

/-- `nyx::GPUStages`: the stages that barriers are placed between. -/
inductive GPUStages
  | accelerationStructureBuild | allGraphics | allCommands | bottomOfPipe | colorAttachmentOutput
  | computeShader | commandPreprocess | drawIndirect | earlyFragmentTests | fragmentShader
  | geometryShader | host | lateFragmentTests | meshShader | rayTracing | shadingRateImage | top
  | taskShader | transfer | tessellationControlShader | tessellationEvaluationShader | vertexInput
  | vertexShader
  deriving DecidableEq, Repr

/-- `vk::SubpassContents`: whether a subpass is recorded inline, or in secondary command buffers. -/
inductive SubpassContents
  | inline | secondaryCommandBuffers
  deriving DecidableEq, Repr

/-- `vk::PipelineBindPoint`: what a pipeline is bound for. -/
inductive PipelineBindPoint
  | graphics | compute
  deriving DecidableEq, Repr

/-- A `vk::Buffer`: either the buffer of a staging array of the pool, or any other buffer. -/
inductive BufferHandle
  | staging (id : Nat)
  | array (id : Nat)
  deriving DecidableEq, Repr

/-- The handle of an array is never the handle of a staging buffer. -/
theorem BufferHandle.array_ne_staging (i j : Nat) : BufferHandle.array i ≠ .staging j :=
  BufferHandle.noConfusion

/-- What the chain reads of a `vkg::Buffer`: the Vulkan handle, and the device that it is on. -/
structure Buffer where
  /-- `buffer()`. -/
  handle : BufferHandle
  /-- `device()`. -/
  device : Nat
  deriving DecidableEq, Repr

/-- `vk::ImageSubresourceLayers` of an image, always for all of its layers of one level. -/
structure Subresource where
  mipLevel : Nat
  layerCount : Nat
  deriving DecidableEq, Repr

/-- What the chain reads of a `vkg::Image`, its tracked layout apart. -/
structure Image where
  /-- `image()`. -/
  handle : Nat
  width : Nat
  height : Nat
  layers : Nat
  /-- `byteSize()`, the size of the image's memory. -/
  byteSize : Nat
  subresource : Subresource
  deriving DecidableEq, Repr

/-- `vk::Extent3D`. -/
structure Extent3D where
  width : Nat
  height : Nat
  depth : Nat
  deriving DecidableEq, Repr

/-- `vk::BufferCopy`: the region of a copy between two buffers, in bytes. -/
structure BufferCopy where
  srcOffset : Nat
  dstOffset : Nat
  size : Nat
  deriving DecidableEq, Repr

/-- `vk::ImageCopy`: the region of a copy between two images. -/
structure ImageCopy where
  extent : Extent3D
  srcOffset : Nat
  dstOffset : Nat
  srcSubresource : Subresource
  dstSubresource : Subresource
  deriving DecidableEq, Repr

/-- `vk::BufferImageCopy`; the library leaves the buffer's row length and height at `0`. -/
structure BufferImageCopy where
  extent : Extent3D
  imageOffset : Nat
  subresource : Subresource
  deriving DecidableEq, Repr

/-- `vk::ImageMemoryBarrier` over the colour aspect of level `0`, queue families ignored. -/
structure ImageMemoryBarrier where
  oldLayout : VkImageLayout
  newLayout : VkImageLayout
  image : Nat
  layerCount : Nat
  deriving DecidableEq, Repr

/-- `vk::BufferMemoryBarrier` over the whole buffer, from memory writes to memory reads. -/
structure BufferMemoryBarrier where
  buffer : BufferHandle
  deriving DecidableEq, Repr

/-- The image a `vk::ImageView` shows: image `index` of a swapchain, or an image the render pass
created itself. -/
inductive ImageView
  | swapchain (swapchain : Option Nat) (index : Nat)
  | own (image : Nat)
  deriving DecidableEq, Repr

/-- A `vk::Framebuffer`: the views attached to it, in attachment order, and its size. -/
structure Framebuffer where
  views : List ImageView := []
  width : Nat := 0
  height : Nat := 0
  deriving DecidableEq, Repr

/-- `vk::RenderPassBeginInfo`: the render pass, the framebuffer and the area that a pass is begun
with. -/
structure RenderPassBeginInfo where
  /-- The render pass handle, `none` when it is null. -/
  renderPass : Option Nat
  /-- The framebuffer, `none` when the read of it was past the end of the vector. -/
  framebuffer : Option Framebuffer
  width : Nat
  height : Nat
  clearValueCount : Nat
  deriving DecidableEq, Repr

/-- `vk::CommandBufferInheritanceInfo`, as far as the library sets it. -/
structure InheritanceInfo where
  renderPass : Option Nat
  subpass : Nat
  deriving DecidableEq, Repr

/-- `vk::CommandBufferBeginInfo`: the inheritance, present together with the flag
`eRenderPassContinue`. -/
structure BeginInfo where
  inheritance : Option InheritanceInfo := none
  deriving DecidableEq, Repr

/-- The pipeline state a command buffer remembers from its last `bind`. -/
structure PipelineState where
  bindPoint : PipelineBindPoint
  pipeline : Nat
  layout : Nat
  deriving DecidableEq, Repr

/-! ## Image layouts -/

/-- `Vulkan::convert( nyx::ImageLayout )`: the layout of Vulkan for one of the library. -/
def Vulkan.convertLayout : ImageLayout → VkImageLayout
  | .undefined => .undefined
  | .general => .general
  | .colorAttachment => .colorAttachmentOptimal
  | .shaderRead => .shaderReadOnlyOptimal
  | .transferSrc => .transferSrcOptimal
  | .transferDst => .transferDstOptimal
  | .presentSrc => .presentSrcKHR
  | .depthRead => .depthReadOnlyOptimalKHR
  | .depthStencil => .depthStencilAttachmentOptimal

/-- `Vulkan::convert( vk::ImageLayout )`; what it has no case for becomes `Undefined`. -/
def Vulkan.convertVkLayout : VkImageLayout → ImageLayout
  | .undefined => .undefined
  | .general => .general
  | .colorAttachmentOptimal => .colorAttachment
  | .shaderReadOnlyOptimal => .shaderRead
  | .transferSrcOptimal => .transferSrc
  | .transferDstOptimal => .transferDst
  | .presentSrcKHR => .presentSrc
  | .depthReadOnlyOptimalKHR => .depthRead
  | .depthStencilAttachmentOptimal => .undefined

/-- Of the layouts of the library only `Undefined` converts to the undefined Vulkan layout. -/
theorem Vulkan.convertLayout_eq_undefined_iff (layout : ImageLayout) :
    Vulkan.convertLayout layout = .undefined ↔ layout = .undefined := by
  cases layout <;> simp [Vulkan.convertLayout]

/-! ## Commands -/

/-- The commands the library records, one constructor for each `vkCmd…` call. -/
inductive Command
  | beginRenderPass (info : RenderPassBeginInfo) (contents : SubpassContents)
  | endRenderPass
  | nextSubpass (contents : SubpassContents)
  | executeCommands (child : ChainId) (slot : Nat)
  | copyBuffer (src dst : BufferHandle) (region : BufferCopy)
  | copyImage (src : Nat) (srcLayout : VkImageLayout) (dst : Nat) (dstLayout : VkImageLayout)
      (region : ImageCopy)
  | copyImageToBuffer (src : Nat) (layout : VkImageLayout) (dst : BufferHandle)
      (region : BufferImageCopy)
  | copyBufferToImage (src : BufferHandle) (dst : Nat) (layout : VkImageLayout)
      (region : BufferImageCopy)
  | imageBarrier (barrier : ImageMemoryBarrier)
  | bufferBarrier (barrier : BufferMemoryBarrier)
  | pipelineBarrier (src dst : GPUStages)
  | bindPipeline (bindPoint : PipelineBindPoint) (pipeline : Nat)
  | bindDescriptorSets (state : Option PipelineState) (set : Nat)
  | bindVertexBuffers (buffer : BufferHandle) (offset : Nat)
  | bindIndexBuffer (buffer : BufferHandle)
  | draw (vertexCount instanceCount firstVertex firstInstance : Nat)
  | drawIndexed (indexCount instanceCount firstIndex vertexOffset firstInstance : Nat)
  /-- `values` fills the start of the pushed range; the rest of `size` bytes is unspecified. -/
  | pushConstants (layout : Option Nat) (offset size : Nat) (values : List UInt8)
  deriving DecidableEq, Repr

/-- Whether a command opens a render pass instance, which a later command has to close. -/
def Command.opensPass : Command → Bool
  | .beginRenderPass _ _ => true
  | _ => false

/-! ## Device memory -/

/-- The bytes of every buffer on the device, as the copies find and leave them. -/
abbrev DeviceMemory := BufferHandle → Block UInt8

/-- What a command does to device memory when the GPU executes it. `effect` says it for the
commands whose result is not a plain copy between buffers. -/
def Command.execute (effect : Command → DeviceMemory → DeviceMemory) :
    Command → DeviceMemory → DeviceMemory
  | .copyBuffer src dst region, memory =>
      Function.update memory dst
        ((memory dst).write region.dstOffset ((memory src).read region.srcOffset region.size))
  | command, memory => effect command memory

/-- Execute the commands of a buffer in order, each on the memory that the one before left. -/
def executeCommands (effect : Command → DeviceMemory → DeviceMemory) (commands : List Command)
    (memory : DeviceMemory) : DeviceMemory :=
  commands.foldl (fun memory command => command.execute effect memory) memory

end Nyx
