import Nyx.Recording.CommandBuffers

/-! # The world of a chain

What the chains of a program share: the render passes, the tracked layouts of the images, the pool
of staging buffers, device memory and the host memory that downloads write to.

* **`Environment`** — what the model does not fix: the effect of GPU code, and the memory a staging
  buffer gets from Vulkan.
* **`World.findStaging`** — `ChainData::findStaging`, which hands out the first staging buffer that
  is not locked and grows the pool up to `MAX_STAGING_BUFFERS`.
* **`World.copyToDevice`**, **`World.syncToHost`** — host access to a staging buffer, which takes
  effect at the call. -/

namespace Nyx

open Foundations

/-- `COMMAND_BUFFER_COUNT`, the number of command buffers that a chain has. -/
def commandBufferCount : Nat := 4

/-- `MAX_STAGING_BUFFERS`, the number of staging buffers that a pool grows to. -/
def maxStagingBuffers : Nat := 4

/-- `STAGING_BUFFER_SIZE`, the number of bytes that a staging buffer is asked for. -/
def stagingBufferSize : Nat := 10000000

/-- What Vulkan and the GPU decide: what commands do to memory, what a buffer requires, what new
memory holds, and which windows are there. -/
structure Environment where
  /-- What a command other than `copyBuffer` does to device memory. -/
  effect : Command → DeviceMemory → DeviceMemory
  /-- A command changes bytes, not the size of a buffer. -/
  size_effect : ∀ command memory handle,
    (effect command memory handle).size = (memory handle).size
  /-- The size of the memory Vulkan requires for staging buffer `id` of the given size. -/
  requirements : Nat → Nat → Nat
  /-- The memory required is at least what was asked for. -/
  le_requirements : ∀ id size, size ≤ requirements id size
  /-- What the memory of staging buffer `id` holds when it is allocated. -/
  allocated : Nat → Nat → UInt8
  /-- `Vulkan::hasWindow`. -/
  hasWindow : Nat → Bool

/-- An environment where only `copyBuffer` touches memory, Vulkan requires for a buffer just what
was asked for, and every window exists. -/
def Environment.inert : Environment where
  effect _ memory := memory
  size_effect _ _ _ := rfl
  requirements _ size := size
  le_requirements _ _ := Nat.le_refl _
  allocated _ _ := 0
  hasWindow _ := true

/-- `StagingBuffer`: the name of a staging buffer, its lock, its device and its size, and the host
block. -/
structure StagingBuffer where
  id : Nat
  /-- Whether `mutex` is held. -/
  locked : Bool
  /-- The device the buffer was initialised on; `none` when a queue gave it that never was set. -/
  device : Option Nat
  /-- `memory().size()`. -/
  byteSize : Nat
  /-- What the host block `memory().hostData()` holds, as far as it was ever written. -/
  hostData : List UInt8
  deriving DecidableEq, Repr

/-- `buffer()` of a staging buffer, by its number. -/
def StagingBuffer.handle (staging : StagingBuffer) : BufferHandle := .staging staging.id

/-- What the chains of a program share: render passes, layouts, staging buffers and memory. -/
structure World where
  passes : PassId → RenderPass
  /-- The `vk::ImageLayout` each image tracks. -/
  layouts : Nat → VkImageLayout
  /-- `staging_buffers`, in the order of the map. -/
  staging : List StagingBuffer
  /-- The counter `id` of `findStaging`. -/
  nextId : Nat
  memory : DeviceMemory
  /-- The memory behind the host pointers given to downloads. -/
  host : Nat → List UInt8

namespace World

/-- `Image::layout`: the layout that is tracked for an image, as the library names it. -/
def imageLayout (world : World) (image : Image) : ImageLayout :=
  Vulkan.convertVkLayout (world.layouts image.handle)

/-- `Image::setLayout`, which tracks another layout for an image. -/
def setLayout (world : World) (image : Image) (layout : ImageLayout) : World :=
  { world with
    layouts := Function.update world.layouts image.handle (Vulkan.convertLayout layout) }

/-- The world at the start of a program: no render pass is initialised, no image was laid out and
the staging pool is empty. -/
def start : World where
  passes _ := {}
  layouts _ := .undefined
  staging := []
  nextId := 0
  memory _ := ⟨0, fun _ => 0⟩
  host _ := []

/-- `pass->advance()`, for a chain that has a render pass. -/
def advancePass (world : World) : Option PassId → World
  | none => world
  | some pass =>
      { world with
        passes := Function.update world.passes pass (world.passes pass).advance }

/-! ## The staging pool -/

/-- Insert a new staging buffer, initialised on `device`; `locked` is whether it is locked at
once. -/
def insertStaging (env : Environment) (world : World) (device : Option Nat) (locked : Bool) :
    World × StagingBuffer :=
  let byteSize := env.requirements world.nextId stagingBufferSize
  let staging : StagingBuffer := ⟨world.nextId, locked, device, byteSize, []⟩
  ({ world with
      staging := world.staging ++ [staging]
      nextId := world.nextId + 1
      memory := Function.update world.memory (.staging staging.id)
        ⟨byteSize, env.allocated staging.id⟩ }, staging)

/-- Lock the staging buffer with this id, or unlock it. -/
def setLocked (world : World) (id : Nat) (locked : Bool) : World :=
  { world with
    staging := world.staging.map fun staging =>
      if staging.id = id then { staging with locked := locked } else staging }

/-- `ChainData::findStaging`: the first buffer whose lock can be taken, else a new one while there
are fewer than `MAX_STAGING_BUFFERS`, on the device of the queue. With all of them locked the loop
spins; that is `none`. -/
def findStaging (env : Environment) (world : World) (device : Option Nat) :
    Option (World × StagingBuffer) :=
  -- an empty pool gets its first buffer before the search, which then finds it free
  let world := if world.staging = [] then (world.insertStaging env device false).1 else world
  match world.staging.find? fun staging => !staging.locked with
  | some staging => some (world.setLocked staging.id true, { staging with locked := true })
  | none =>
      if world.staging.length < maxStagingBuffers then
        -- the search goes on at the buffer just inserted, whose lock nobody else has
        some (world.insertStaging env device true)
      else none

/-! ## Host access -/

/-- `Memory::copyToDevice( src, byte_amt, src_offset, 0 )` on a staging buffer: the amount is cut
to the size of the memory. -/
def copyToDevice (world : World) (staging : StagingBuffer) (src : List UInt8)
    (byteAmt srcOffset : Nat) : World :=
  let amt := if byteAmt > staging.byteSize then staging.byteSize else byteAmt
  { world with
    memory := Function.update world.memory (.staging staging.id)
      ((world.memory (.staging staging.id)).write 0 ((src.drop srcOffset).take amt)) }

/-- `Memory::syncToHost` on a staging buffer, and the bytes its host block then holds. -/
def syncToHost (world : World) (staging : StagingBuffer) : World × List UInt8 :=
  let bytes := (world.memory (.staging staging.id)).read 0 staging.byteSize
  ({ world with
      staging := world.staging.map fun entry =>
        if entry.id = staging.id then { entry with hostData := bytes } else entry }, bytes)

/-- `std::copy` of `bytes` to a host pointer, past which the block keeps what it had. -/
def writeHost (world : World) (dst : Nat) (bytes : List UInt8) : World :=
  { world with
    host := Function.update world.host dst (bytes ++ (world.host dst).drop bytes.length) }

@[simp] theorem passes_setLayout (world : World) (image : Image) (layout : ImageLayout) :
    (world.setLayout image layout).passes = world.passes := rfl

@[simp] theorem passes_copyToDevice (world : World) (staging : StagingBuffer) (src : List UInt8)
    (byteAmt srcOffset : Nat) :
    (world.copyToDevice staging src byteAmt srcOffset).passes = world.passes := rfl

/-- Handing out a staging buffer leaves alone what inserting and locking one leave alone. -/
theorem findStaging_frame {α : Type} (f : World → α) {env : Environment} {world found : World}
    {device : Option Nat} {staging : StagingBuffer}
    (hinsert : ∀ (world : World) (locked : Bool),
      f (world.insertStaging env device locked).1 = f world)
    (hlock : ∀ (world : World) (id : Nat), f (world.setLocked id true) = f world)
    (h : world.findStaging env device = some (found, staging)) : f found = f world := by
  have hstart : f (if world.staging = [] then (world.insertStaging env device false).1
      else world) = f world := by
    split
    · exact hinsert world false
    · rfl
  simp only [findStaging] at h
  generalize (if world.staging = [] then (world.insertStaging env device false).1
    else world) = start at h hstart
  split at h
  · cases h
    exact (hlock start _).trans hstart
  · split at h
    · cases h
      exact (hinsert start true).trans hstart
    · cases h

/-- To hand out a staging buffer leaves the render passes of the world alone. -/
theorem passes_findStaging {env : Environment} {world found : World}
    {device : Option Nat} {staging : StagingBuffer}
    (h : world.findStaging env device = some (found, staging)) :
    found.passes = world.passes :=
  findStaging_frame passes (fun _ _ => rfl) (fun _ _ => rfl) h

/-- To hand out a staging buffer leaves the layouts that the world tracks alone. -/
theorem layouts_findStaging {env : Environment} {world found : World}
    {device : Option Nat} {staging : StagingBuffer}
    (h : world.findStaging env device = some (found, staging)) :
    found.layouts = world.layouts :=
  findStaging_frame layouts (fun _ _ => rfl) (fun _ _ => rfl) h

end World

end Nyx
