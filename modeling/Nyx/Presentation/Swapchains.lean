import Mathlib.Data.List.Basic
import Mathlib.Tactic.Common
import Nyx.Vulkan.Formats

/-! # Swapchains

`vkg::Swapchain` and the `vkg::Synchronization` objects it keeps, one for each swapchain image. What
the presentation engine and the surface answer enters as a `Driver`, so a theorem about every
driver is a theorem about every order of images and every pattern of failures.

* **`Synchronization`** — signal and wait semaphores of one frame.
* **`Driver`** — the answers of the presentation engine, call by call.
* **`Swapchain.initializeSwapchain`**, **`Swapchain.acquire`**, **`Swapchain.submit`** — the
  operations of a frame. An index past the end of `syncs` or `fences` and a read of an empty
  `acquired` queue are undefined behaviour in the source and failures here.

Swapchains, semaphores and fences are numbered in the order of their creation. -/

namespace Nyx

/-! ## Results -/

/-- The values of `vk::Result` that `Vulkan::convert` distinguishes. -/
inductive VkResult
  | success | suboptimalKHR | errorOutOfDateKHR | errorDeviceLost | errorFeatureNotPresent
  | errorInitializationFailed | errorOutOfDeviceMemory | errorMemoryMapFailed
  | errorValidationFailedEXT | errorNativeWindowInUseKHR | other
  deriving DecidableEq, Repr

/-- `Vulkan::Error`, as far as `Vulkan::convert` returns it. -/
inductive Vulkan.Error
  | success | recreateSwapchain | deviceLost | featureNotPresent | initializationFailed
  | outOfDeviceMemory | memoryMapFailed | validationFailed | nativeWindowInUse | unknown
  deriving DecidableEq, Repr

/-- `Vulkan::convert( vk::Result )`: the error of the library for a result of the driver. -/
def Vulkan.convertResult : VkResult → Vulkan.Error
  | .errorDeviceLost => .deviceLost
  | .success => .success
  | .errorFeatureNotPresent => .featureNotPresent
  | .errorInitializationFailed => .initializationFailed
  | .errorOutOfDateKHR => .recreateSwapchain
  | .suboptimalKHR => .recreateSwapchain
  | .errorOutOfDeviceMemory => .outOfDeviceMemory
  | .errorMemoryMapFailed => .memoryMapFailed
  | .errorValidationFailedEXT => .validationFailed
  | .errorNativeWindowInUseKHR => .nativeWindowInUse
  | .other => .unknown

/-- The results on which `Swapchain::acquire` creates the swapchain anew. -/
def VkResult.recreates (result : VkResult) : Bool :=
  result == .errorOutOfDateKHR || result == .suboptimalKHR

/-- `acquire` and `submit` recreate on the same results: what `acquire` tests by name is what
`Vulkan::convert` sends to `RecreateSwapchain`. -/
theorem VkResult.recreates_iff (result : VkResult) :
    result.recreates = true ↔ Vulkan.convertResult result = .recreateSwapchain := by
  cases result <;> decide

/-- What goes wrong when the frame bookkeeping leaves its tables. -/
inductive FrameFailure
  /-- `fences[ index ]` with `index` not below the size. -/
  | fences (index size : Nat)
  /-- `syncs[ index ]` with `index` not below the size. -/
  | syncs (index size : Nat)
  /-- `acquired.front()` on an empty queue. -/
  | acquired
  /-- `attachments[ attachments.size() - 1 ]` without attachments. -/
  | attachments
  deriving DecidableEq, Repr

/-! ## Synchronizations -/

/-- `SynchronizationData`: handles of the semaphores and fences. -/
structure Synchronization where
  signalSems : List Nat := []
  signalFence : Option Nat := none
  waitFences : List Nat := []
  waitSems : List Nat := []
  shouldMakeFence : Bool := true
  deriving DecidableEq, Repr

namespace Synchronization

/-- `Synchronization::initialize`: fresh signal semaphores, numbered from `next`, and a fresh fence
after them. What the object already waits on stays. -/
def initializeSync (sync : Synchronization) (numSems next : Nat) : Synchronization :=
  { sync with
    signalSems := (List.range numSems).map (next + ·)
    signalFence := if sync.shouldMakeFence then some (next + numSems) else sync.signalFence }

/-- `Synchronization::waitOn`, which waits for what the other one signals as well. -/
def waitOn (sync other : Synchronization) : Synchronization :=
  { sync with
    waitSems := sync.waitSems ++ other.signalSems
    waitFences := sync.waitFences ++ other.signalFence.toList }

/-- `Synchronization::clear`, which drops all that is waited for. -/
def clear (sync : Synchronization) : Synchronization :=
  { sync with waitFences := [], waitSems := [] }

/-- `Synchronization::signal()`: the first signal semaphore, or a null handle. -/
def signal (sync : Synchronization) : Option Nat := sync.signalSems[0]?

@[simp] theorem signalSems_waitOn (sync other : Synchronization) :
    (sync.waitOn other).signalSems = sync.signalSems := rfl

@[simp] theorem waitSems_waitOn (sync other : Synchronization) :
    (sync.waitOn other).waitSems = sync.waitSems ++ other.signalSems := rfl

@[simp] theorem signalSems_clear (sync : Synchronization) :
    sync.clear.signalSems = sync.signalSems := rfl

@[simp] theorem waitSems_clear (sync : Synchronization) : sync.clear.waitSems = [] := rfl

end Synchronization

/-! ## The presentation engine -/

/-- The answers of the surface and the presentation engine, numbered by the calls that get them. -/
structure Driver where
  /-- How many images the swapchain created as number `k` has. -/
  imageCount : Nat → Nat
  /-- A swapchain has at least one image. -/
  imageCount_pos : ∀ k, 0 < imageCount k
  /-- Whether the surface offers `eB8G8R8A8Srgb` when swapchain `k` is created. -/
  offersSrgb : Nat → Bool
  /-- The extent `SwapchainData::chooseExtent` arrives at for swapchain `k`. -/
  extent : Nat → Nat × Nat
  /-- The result of the `k`-th `acquireNextImageKHR`. -/
  acquireResult : Nat → VkResult
  /-- The image index of the `k`-th `acquireNextImageKHR`, made on a swapchain of `n` images. -/
  acquireImage : Nat → Nat → Nat
  /-- The presentation engine hands out images of the swapchain. -/
  acquireImage_lt : ∀ k n, 0 < n → acquireImage k n < n
  /-- The result of the `k`-th `presentKHR`. -/
  presentResult : Nat → VkResult

/-- A driver that answers its first calls from two lists and succeeds afterwards, and hands out the
images in order, starting `first` images into the swapchain. -/
def Driver.scripted (imageCount : Nat → Nat) (imageCount_pos : ∀ k, 0 < imageCount k)
    (first : Nat) (acquires presents : List VkResult) : Driver where
  imageCount := imageCount
  imageCount_pos := imageCount_pos
  offersSrgb := fun _ => true
  extent := fun _ => (1280, 1024)
  acquireResult := fun k => acquires.getD k .success
  acquireImage := fun k n => (k + first) % n
  acquireImage_lt := fun k _ => Nat.mod_lt (k + first)
  presentResult := fun k => presents.getD k .success

/-- A driver that always succeeds and hands out `n` images in order. -/
def Driver.inOrder (n : Nat) (positive : 0 < n) : Driver :=
  .scripted (fun _ => n) (fun _ => positive) 0 [] []

/-- What a swapchain asked the presentation engine for. -/
inductive FrameEvent
  /-- An acquire on `swapchain` returned `image` and was told to signal `signal`. -/
  | acquired (swapchain : Option Nat) (image : Nat) (signal : Option Nat)
  /-- An acquire on `swapchain` asked for a new swapchain. -/
  | acquireFailed (swapchain : Option Nat)
  /-- `presentKHR` of `image`, acquired on `source`, to `swapchain`, waiting on `waits`. -/
  | presented (swapchain : Option Nat) (image : Nat) (source : Option Nat) (waits : List Nat)
  /-- A submit that made no `presentKHR` call. -/
  | skipped (swapchain : Option Nat) (image : Nat) (source : Option Nat)
  deriving DecidableEq, Repr

/-- An entry of the `acquired` queue: the image index, and for the record the swapchain it was
acquired on. -/
structure Acquired where
  image : Nat
  source : Option Nat
  deriving DecidableEq, Repr

/-! ## The swapchain -/

/-- `SwapchainData`, with counters of the calls made to the driver and a record of them. -/
structure Swapchain where
  syncs : List Synchronization := []
  /-- The frame fences, `none` when null. -/
  fences : List (Option Nat) := []
  /-- `images.size()`. -/
  images : Nat := 0
  surfaceFormat : VkFormat := .undefined
  extent : Nat × Nat := (0, 0)
  /-- The handle, `none` when null. -/
  swapchain : Option Nat := none
  acquired : List Acquired := []
  currentFrame : Nat := 0
  skipFrame : Bool := false
  /-- How many swapchains, semaphores and fences, acquires and presents there were so far. -/
  creations : Nat := 0
  handles : Nat := 0
  acquires : Nat := 0
  presents : Nat := 0
  log : List FrameEvent := []
  deriving DecidableEq, Repr

namespace Swapchain

/-- `Swapchain::count`: how many images the swapchain has. -/
def count (swapchain : Swapchain) : Nat := swapchain.images

/-- `Swapchain::initialized`: whether there is a swapchain of the driver. -/
def initialized (swapchain : Swapchain) : Bool := swapchain.swapchain.isSome

/-- `Swapchain::image( idx ).view()`: past the end it is the first image. -/
def imageIndex (swapchain : Swapchain) (idx : Nat) : Nat :=
  if idx < swapchain.images then idx else 0

/-- `SwapchainData::makeSwapchain` and `SwapchainData::generateImages`. -/
def makeSwapchain (driver : Driver) (swapchain : Swapchain) : Swapchain :=
  { swapchain with
    surfaceFormat :=
      if driver.offersSrgb swapchain.creations then .b8g8r8a8Srgb else swapchain.surfaceFormat
    extent := driver.extent swapchain.creations
    swapchain := some swapchain.creations
    images := driver.imageCount swapchain.creations
    creations := swapchain.creations + 1 }

/-- `Swapchain::initialize`. The frame counter, the `acquired` queue and the skip flag stay. -/
def initializeSwapchain (driver : Driver) (swapchain : Swapchain) : Swapchain :=
  let made := swapchain.makeSwapchain driver
  { made with
    -- `resize`: an entry that exists keeps the semaphores it waits on
    syncs := (made.syncs.takeD made.count {}).mapIdx fun i sync =>
      sync.initializeSync 1 (made.handles + 2 * i)
    -- `clear` and `resize`: every frame fence is null again
    fences := List.replicate made.count none
    handles := made.handles + 2 * made.count }

/-- `Swapchain::acquire`, which waits for the fence of the frame and queues the next image, or makes
the swapchain anew. -/
def acquire (driver : Driver) (swapchain : Swapchain) :
    Except FrameFailure (Swapchain × Vulkan.Error) :=
  let index := swapchain.currentFrame
  match swapchain.fences[index]?, swapchain.syncs[index]? with
  | none, _ => .error (.fences index swapchain.fences.length)
  | _, none => .error (.syncs index swapchain.syncs.length)
  | some _, some sync =>
      -- the wait for the frame's fence and its reset leave the tables alone
      let call := swapchain.acquires
      if (driver.acquireResult call).recreates then
        let failed := { swapchain with
          acquires := call + 1
          log := swapchain.log ++ [FrameEvent.acquireFailed swapchain.swapchain] }
        -- no image is queued and the frame counter stays
        .ok ({ failed.initializeSwapchain driver with skipFrame := true }, .recreateSwapchain)
      else
        let image := driver.acquireImage call swapchain.count
        .ok ({ swapchain with
          acquires := call + 1
          log := swapchain.log ++ [FrameEvent.acquired swapchain.swapchain image sync.signal]
          fences := swapchain.fences.set index sync.signalFence
          acquired := swapchain.acquired ++ [⟨image, swapchain.swapchain⟩]
          currentFrame := (index + 1) % swapchain.syncs.length
          -- the frame's synchronization waits on its own signal semaphore
          syncs := swapchain.syncs.set index (sync.waitOn sync) }, .success)

/-- `acquired.pop()` and `syncs[ index ].clear()`, the end of a frame. -/
def retire (swapchain : Swapchain) (index : Nat) (rest : List Acquired) (result : Vulkan.Error) :
    Except FrameFailure (Swapchain × Vulkan.Error) :=
  match swapchain.syncs[index]? with
  | none => .error (.syncs index swapchain.syncs.length)
  | some sync =>
      .ok ({ swapchain with acquired := rest, syncs := swapchain.syncs.set index sync.clear },
        result)

/-- `Swapchain::submit`, which presents the image that was acquired first, unless the frame is to be
skipped. -/
def submit (driver : Driver) (swapchain : Swapchain) :
    Except FrameFailure (Swapchain × Vulkan.Error) :=
  match swapchain.acquired with
  | [] => .error .acquired
  | ⟨index, source⟩ :: rest =>
      if swapchain.skipFrame = false then
        match swapchain.syncs[index]? with
        | none => .error (.syncs index swapchain.syncs.length)
        | some sync =>
            let call := swapchain.presents
            let presented := { swapchain with
              presents := call + 1
              log := swapchain.log ++
                [FrameEvent.presented swapchain.swapchain index source sync.waitSems] }
            if Vulkan.convertResult (driver.presentResult call) = .recreateSwapchain then
              -- an image index of the old swapchain, used on the tables of the new one
              retire (presented.initializeSwapchain driver) index rest .recreateSwapchain
            else
              retire presented index rest .success
      else
        let skipped := { swapchain with
          -- the source sets the flag it has just found set
          skipFrame := true
          log := swapchain.log ++ [FrameEvent.skipped swapchain.swapchain index source] }
        retire skipped index rest .success

end Swapchain

end Nyx
