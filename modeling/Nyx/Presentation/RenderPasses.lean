import Nyx.Foundations.RingSweeps
import Nyx.Presentation.Swapchains
import Nyx.Vulkan.Commands

/-! # Render passes

`vkg::RenderPass`, with or without a window. A window render pass owns a swapchain, attaches its
images to three framebuffers and presents one image a frame:

* **`RenderPass.makeFramebuffers`** — the three framebuffers and the views attached to each.
* **`RenderPass.initializeWindow`**, **`RenderPass.present`** — the start of a run of frames and the
  end of each frame.
* **`RenderPass.advance`**, **`RenderPass.current`** — the cursor over the framebuffers.
* **`RenderPass.frames`** — a whole run: `initialize( device, window )` and any number of `present`.

Render passes and images are numbered, for each render pass object, as it creates them. -/

namespace Nyx

open Foundations

/-- What the library sets of a `vk::AttachmentDescription` and reads again. -/
structure Attachment where
  format : VkFormat
  finalLayout : VkImageLayout
  deriving DecidableEq, Repr

/-- What a render pass initialises of an image of its own. -/
structure RenderImage where
  /-- The handle, `none` before the image is initialised. -/
  image : Option Nat := none
  format : VkFormat := .undefined
  extent : Nat × Nat := (0, 0)
  /-- Whether `setUsage( DepthStencil )` was called. -/
  depthStencil : Bool := false
  deriving DecidableEq, Repr

/-- `RenderPassData`, as far as initialising, recording and presenting use it. -/
structure RenderPass where
  /-- The device, `none` before `initialize`. -/
  device : Option Nat := none
  attachments : List Attachment := []
  /-- `subpasses.size()`. -/
  subpasses : Nat := 0
  images : List RenderImage := []
  framebuffers : List Framebuffer := []
  swapchain : Swapchain := {}
  /-- The handle, `none` when null. -/
  pass : Option Nat := none
  area : Nat × Nat := (1280, 1024)
  currentFramebuffer : Nat := 0
  windowId : Nat := 0
  /-- How many render passes and images this object created so far. -/
  handles : Nat := 0
  deriving DecidableEq, Repr

namespace RenderPass

/-- A new render pass with one attachment for colour, and nothing else. -/
def oneColour : RenderPass := { attachments := [⟨.undefined, .undefined⟩] }

/-- `RenderPass::initialized`: whether a device is set and there is a render pass of the driver. -/
def initialized (renderPass : RenderPass) : Bool :=
  renderPass.device.isSome && renderPass.pass.isSome

/-- `RenderPass::subpassCount`: how many subpasses were added. -/
def subpassCount (renderPass : RenderPass) : Nat := renderPass.subpasses

/-- `RenderPass::count`: how many attachments the render pass has. -/
def count (renderPass : RenderPass) : Nat := renderPass.attachments.length

/-- `RenderPass::current`; `none` is a read past the end of the vector. -/
def current (renderPass : RenderPass) : Option Framebuffer :=
  renderPass.framebuffers[renderPass.currentFramebuffer]?

/-- `RenderPass::advance`, which goes on to the next framebuffer around the ring. -/
def advance (renderPass : RenderPass) : RenderPass :=
  { renderPass with
    currentFramebuffer := ringNext renderPass.framebuffers.length renderPass.currentFramebuffer }

/-- The `vk::RenderPassBeginInfo` that `CommandBuffer::record` fills in. -/
def beginInfo (renderPass : RenderPass) : RenderPassBeginInfo where
  renderPass := renderPass.pass
  framebuffer := renderPass.current
  width := renderPass.area.1
  height := renderPass.area.2
  clearValueCount := renderPass.count

/-! ## Framebuffers -/

/-- `NUM_BUFFERS`, the number of framebuffers of a render pass without a swapchain. -/
def numBuffers : Nat := 3

/-- The inner loop of `makeFramebuffers`: attach the view for attachment `index` to the framebuffer
in the making. -/
def attachView (attach : Nat) (made : RenderPass × Framebuffer) (entry : Attachment × Nat) :
    RenderPass × Framebuffer :=
  let (renderPass, info) := made
  let (attachment, index) := entry
  let idx := attach * index
  if renderPass.swapchain.initialized ∧ attachment.format ≠ .d24UnormS8Uint then
    -- the view is that of a swapchain image
    let view := ImageView.swapchain renderPass.swapchain.swapchain
      (renderPass.swapchain.imageIndex (attach - 1))
    (renderPass, { info with
      views := info.views ++ [view]
      width := renderPass.swapchain.extent.1
      height := renderPass.swapchain.extent.2 })
  else
    -- an image of the render pass's own is initialised for it, whatever it was before
    let old := renderPass.images.getD idx {}
    let image : RenderImage :=
      { image := some renderPass.handles
        format := attachment.format
        extent := renderPass.area
        depthStencil := old.depthStencil || attachment.format == .d24UnormS8Uint }
    ({ renderPass with
        images := renderPass.images.set idx image
        handles := renderPass.handles + 1 },
      { info with
        views := info.views ++ [ImageView.own renderPass.handles]
        width := renderPass.area.1
        height := renderPass.area.2 })

/-- The outer loop of `makeFramebuffers`: make framebuffer number `attach - 1`. -/
def attachFramebuffer (made : RenderPass × Framebuffer) (attach : Nat) :
    RenderPass × Framebuffer :=
  let (renderPass, info) := made.1.attachments.zipIdx.foldl (attachView attach) made
  ({ renderPass with framebuffers := renderPass.framebuffers.set (attach - 1) info },
    -- `views.clear()`; the size stays in the create info for the next framebuffer
    { info with views := [] })

/-- `RenderPassData::makeFramebuffers`, which makes three framebuffers with images of their own. -/
def makeFramebuffers (renderPass : RenderPass) : RenderPass :=
  let resized := { renderPass with
    images := renderPass.images.takeD (numBuffers * renderPass.attachments.length) {}
    framebuffers := renderPass.framebuffers.takeD numBuffers {} }
  ((List.range' 1 numBuffers).foldl attachFramebuffer (resized, {})).1

/-- `RenderPassData::makeRenderPass`, which makes a render pass in place of the one from before. -/
def makeRenderPass (renderPass : RenderPass) : RenderPass :=
  { renderPass with pass := some renderPass.handles, handles := renderPass.handles + 1 }

/-! ## Initialising and presenting -/

/-- `RenderPass::initialize( device )`, for a render pass without a swapchain. -/
def initializeDevice (renderPass : RenderPass) (device : Nat) : RenderPass :=
  { renderPass with device := some device }.makeRenderPass.makeFramebuffers

/-- `RenderPass::initialize( device, window_id )` up to the first acquire; `none` when there is no
last attachment to set. -/
def prepareWindow (driver : Driver) (renderPass : RenderPass) (device windowId : Nat) :
    Option RenderPass :=
  let swapchain := renderPass.swapchain.initializeSwapchain driver
  match renderPass.attachments.getLast? with
  | none => none
  | some last =>
      let last : Attachment :=
        { last with format := swapchain.surfaceFormat, finalLayout := .presentSrcKHR }
      let prepared := { renderPass with
        device := some device
        swapchain := swapchain
        windowId := windowId
        area := swapchain.extent
        attachments := renderPass.attachments.dropLast ++ [last] }
      some prepared.makeRenderPass.makeFramebuffers

/-- `RenderPass::initialize( device, window_id )`. What the first acquire returns is not looked
at. -/
def initializeWindow (driver : Driver) (renderPass : RenderPass) (device windowId : Nat) :
    Except FrameFailure RenderPass :=
  match renderPass.prepareWindow driver device windowId with
  | none => .error .attachments
  | some prepared =>
      match prepared.swapchain.acquire driver with
      | .error failure => .error failure
      | .ok (swapchain, _) => .ok { prepared with swapchain := swapchain }

/-- The recovery of `RenderPass::present`, the same for both callers of it. -/
def recreate (driver : Driver) (renderPass : RenderPass) :
    Except FrameFailure (RenderPass × Bool) :=
  -- the attachments and the swapchain, with its frame counter and its queue, stay as they are
  let cleared := { renderPass with images := [], framebuffers := [], currentFramebuffer := 0 }
  match cleared.initializeWindow driver (renderPass.device.getD 0) renderPass.windowId with
  | .error failure => .error failure
  | .ok renderPass => .ok (renderPass, true)

/-- `RenderPass::present`, which submits to the swapchain and acquires the next image, and makes all
anew when one of them finds that the surface has changed. -/
def present (driver : Driver) (renderPass : RenderPass) :
    Except FrameFailure (RenderPass × Bool) :=
  if renderPass.swapchain.initialized then
    match renderPass.swapchain.submit driver with
    | .error failure => .error failure
    | .ok (submitted, .recreateSwapchain) =>
        -- the surface changed when the frame was presented
        { renderPass with swapchain := submitted }.recreate driver
    | .ok (submitted, _) =>
        match submitted.acquire driver with
        | .error failure => .error failure
        | .ok (acquired, .recreateSwapchain) =>
            -- it changed when the next image was acquired
            { renderPass with swapchain := acquired }.recreate driver
        | .ok (acquired, _) => .ok ({ renderPass with swapchain := acquired }, false)
  else .ok (renderPass, false)

/-- A run of `initialize( device, window )` and `k` calls of `present`. -/
def frames (driver : Driver) (renderPass : RenderPass) (device windowId : Nat) :
    Nat → Except FrameFailure RenderPass
  | 0 => renderPass.initializeWindow driver device windowId
  | k + 1 =>
      match renderPass.frames driver device windowId k with
      | .error failure => .error failure
      | .ok renderPass =>
          match renderPass.present driver with
          | .error failure => .error failure
          | .ok (renderPass, _) => .ok renderPass

end RenderPass

end Nyx
