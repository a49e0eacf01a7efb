import Nyx.Foundations.MatchedNames
import Nyx.Foundations.ReusedBlocks

/-! # Devices

`vkg::Device` makes a logical device of a physical one, with all of its queues, and hands the queues
out.

* **`PhysicalDevice`** — what the driver says of a physical device.
* **`DeviceData`**, **`QueueFamily`**, **`QueueData`** — a device, its queue families, and the queues
  that were made so far.
* **`DeviceData.generateDevice`**, **`DeviceData.initializeOn`** — making the logical device; what
  `createDevice` reads is kept as the device.
* **`QueueFamily.makeQueue`**, **`DeviceData.graphicsQueue`**, **`DeviceData.computeQueue`**,
  **`DeviceData.presentQueue`** — handing out a queue. -/

namespace Nyx

open Foundations

/-! ## The driver's side -/

/-- `UINT32_MAX`, which stands for a number that was never set. -/
def uint32Max : Nat := 0xFFFFFFFF

/-- `vk::QueueFlagBits::eGraphics`. -/
def queueGraphics : UInt32 := 0x1

/-- `vk::QueueFlagBits::eCompute`. -/
def queueCompute : UInt32 := 0x2

/-- `vk::QueueFamilyProperties`: what the queues of a family can do, and how many there are. -/
structure QueueFamilyProperties where
  queueFlags : UInt32
  queueCount : Nat
  deriving DecidableEq, Repr

/-- A `vk::PhysicalDevice`: what the driver says of it. -/
structure PhysicalDevice where
  /-- `enumerateDeviceExtensionProperties()`. -/
  extensions : List String := []
  /-- `enumerateDeviceLayerProperties()`. -/
  layers : List String := []
  /-- `getQueueFamilyProperties()`. -/
  queueFamilies : List QueueFamilyProperties := []
  /-- `getSurfaceSupportKHR( family, surface )`. -/
  surfaceSupport : Nat → Nat → Bool := fun _ _ => false
  /-- The `propertyFlags` of the types that `getMemoryProperties()` has. -/
  memoryTypes : List UInt32 := []

/-- `vk::PhysicalDeviceFeatures`, as far as the library sets it. -/
structure PhysicalDeviceFeatures where
  samplerAnisotropy : Bool := false
  dualSrcBlend : Bool := false
  robustBufferAccess : Bool := false
  shaderInt64 : Bool := false
  fragmentStoresAndAtomics : Bool := false
  vertexPipelineStoresAndAtomics : Bool := false
  deriving DecidableEq, Repr

/-- `vk::DeviceQueueCreateInfo`, with the block of priorities that it points to. -/
structure DeviceQueueCreateInfo where
  queueFamilyIndex : Nat
  queueCount : Nat
  pQueuePriorities : Option BlockPointer
  deriving DecidableEq, Repr

/-- The queues of a family, as `createDevice` reads them. -/
structure RequestedQueues where
  family : Nat
  count : Nat
  /-- `none` when the pointer leads to what is not there any more. -/
  priorities : Option (List UInt32)
  deriving DecidableEq, Repr

/-- What `createDevice` reads. A `vk::Device` stands for it. -/
structure VkDevice where
  queues : List RequestedQueues
  extensions : List String
  layers : List String
  features : PhysicalDeviceFeatures
  deriving DecidableEq, Repr

/-- A `vk::Queue`, by what `getQueue` was asked for. -/
structure VkQueue where
  family : Nat
  index : Nat
  deriving DecidableEq, Repr

/-! ## Queues -/

/-- `QueueData`, the state of a `Queue` that was given its handle; a new one has no family. -/
structure QueueData where
  devId : Nat := 0
  queue : Option VkQueue := none
  family : Nat := uint32Max
  mask : UInt32 := 0
  deriving DecidableEq, Repr

namespace QueueData

/-- `Queue::valid`: there is a handle, and the family is not the one that stands for none. -/
def valid (queue : QueueData) : Bool := queue.queue.isSome && queue.family != uint32Max

/-- `Queue::initialized`: whether there is a queue of the driver behind the object. -/
def initialized (queue : QueueData) : Bool := queue.queue.isSome

/-- `Queue::graphics`: the mask of the family has the bit for graphics. -/
def graphics (queue : QueueData) : Bool := queue.mask &&& queueGraphics != 0

/-- `Queue::compute`: the mask of the family has the bit for compute. -/
def compute (queue : QueueData) : Bool := queue.mask &&& queueCompute != 0

end QueueData

/-- `QueueFamily`: what the driver says of a family, and the queues that were made for it so far. -/
structure QueueFamily where
  prop : QueueFamilyProperties
  family : Nat
  queues : List QueueData := []
  deriving DecidableEq, Repr

namespace QueueFamily

/-- `QueueFamily::compute`: whether the queues of the family can compute. -/
def compute (family : QueueFamily) : Bool := family.prop.queueFlags &&& queueCompute != 0

/-- `QueueFamily::graphics`: whether the queues of the family can draw. -/
def graphics (family : QueueFamily) : Bool := family.prop.queueFlags &&& queueGraphics != 0

/-- `QueueFamily::present`: whether the queues of the family can present to a surface of the
device. -/
def present (physicalDevice : PhysicalDevice) (surface : Nat) (family : QueueFamily) : Bool :=
  physicalDevice.surfaceSupport family.family surface

/-- `QueueFamily::makeQueue`, for the device with an id: the family afterwards, and the first queue
of it; `none` is a read past the end of the vector. -/
def makeQueue (devId : Nat) (family : QueueFamily) : QueueFamily × Option QueueData :=
  let family :=
    -- each call makes a queue as long as the family has more
    if family.queues.length < family.prop.queueCount then
      let queue : QueueData :=
        { devId := devId
          queue := some ⟨family.family, family.queues.length⟩
          family := family.family
          mask := family.prop.queueFlags }
      { family with queues := family.queues ++ [queue] }
    else family
  -- the first queue is handed out, whichever was made
  (family, family.queues[0]?)

end QueueFamily

/-- The families of a physical device, none of them with queues yet. -/
def PhysicalDevice.families (physicalDevice : PhysicalDevice) : List QueueFamily :=
  physicalDevice.queueFamilies.zipIdx.map fun entry => { prop := entry.1, family := entry.2 }

/-! ## Devices -/

/-- `DeviceData`: what was requested for a device, what was found, and the device once it is
generated. -/
structure DeviceData where
  gpu : Option VkDevice := none
  physicalDevice : PhysicalDevice := {}
  surface : Nat := 0
  features : PhysicalDeviceFeatures := {}
  id : Nat := uint32Max
  extensionList : List String := ["VK_KHR_buffer_device_address", "VK_KHR_swapchain"]
  layerList : List String := []
  /-- The queue families, `none` before they were found. -/
  queues : Option (List QueueFamily) := none

namespace DeviceData

/-- `DeviceData::filterExtensions`: the extensions of the physical device that are on the list, each
as often as it is there. -/
def filterExtensions (data : DeviceData) : List String :=
  matchedNames data.physicalDevice.extensions data.extensionList

/-- `DeviceData::filterLayers`: the layers of the physical device that are on the list, each as
often as it is there. -/
def filterLayers (data : DeviceData) : List String :=
  matchedNames data.physicalDevice.layers data.layerList

/-- `DeviceData::findQueueFamilies`: the families of the physical device, without queues yet. -/
def findQueueFamilies (data : DeviceData) : DeviceData :=
  { data with queues := some data.physicalDevice.families }

/-- The bits of `1.0f`, the priority that is asked for every queue. -/
def onePriority : UInt32 := 0x3f800000

/-- The body of the loop over the families of `generateDevice`. The vector of the priorities is one
for all families. -/
def queueInfo (policy : RoomPolicy) (made : List DeviceQueueCreateInfo × ReusedBlock UInt32)
    (entry : QueueFamily × Nat) : List DeviceQueueCreateInfo × ReusedBlock UInt32 :=
  let count := entry.1.prop.queueCount
  -- cleared and resized: earlier infos keep the pointer into the block they were given
  let priorities := made.2.refill policy 0 onePriority count
  (made.1 ++ [⟨entry.2, count, priorities.data⟩], priorities)

/-- The queues that the driver reads behind the infos: it follows the pointers when the loop is
over. -/
def readQueues (made : List DeviceQueueCreateInfo × ReusedBlock UInt32) : List RequestedQueues :=
  made.1.map fun info => ⟨info.queueFamilyIndex, info.queueCount,
    made.2.readBlock info.pQueuePriorities info.queueCount⟩

/-- `DeviceData::generateDevice`, which filters what was requested, asks for all queues of all
families, and creates the device. -/
def generateDevice (policy : RoomPolicy) (data : DeviceData) : DeviceData :=
  let data := { data with
    -- the filtered names take the place of those that were requested
    extensionList := data.filterExtensions
    layerList := data.filterLayers
    features := { data.features with
      shaderInt64 := true
      fragmentStoresAndAtomics := true
      vertexPipelineStoresAndAtomics := true } }
  -- `createDevice` reads the priorities after the loop, behind all pointers at once
  let made := (data.queues.getD []).zipIdx.foldl (queueInfo policy) ([], {})
  let gpu : VkDevice :=
    { queues := readQueues made
      extensions := data.extensionList
      layers := data.layerList
      features := data.features }
  { data with gpu := some gpu }

/-- `Device::initialize( physical_device, id )`, which finds the queue families and generates the
device. -/
def initializeOn (policy : RoomPolicy) (data : DeviceData) (physicalDevice : PhysicalDevice)
    (id : Nat) : DeviceData :=
  { data with physicalDevice := physicalDevice, id := id }.findQueueFamilies.generateDevice policy

/-- `Device::initialize( physical_device, id, surface )`, which is the same with the surface set
before. -/
def initializeSurface (policy : RoomPolicy) (data : DeviceData) (physicalDevice : PhysicalDevice)
    (id surface : Nat) : DeviceData :=
  { data with surface := surface }.initializeOn policy physicalDevice id

/-- `Device::initialized`: whether a device was generated. -/
def initialized (data : DeviceData) : Bool := data.gpu.isSome

/-- `Device::addExtension`, which requests an extension for the device. -/
def addExtension (data : DeviceData) (name : String) : DeviceData :=
  { data with extensionList := data.extensionList ++ [name] }

/-- `Device::addValidationLayer`, which requests a layer for the device. -/
def addValidationLayer (data : DeviceData) (name : String) : DeviceData :=
  { data with layerList := data.layerList ++ [name] }

/-- `Device::hasExtension`: whether an extension is in the list, requested or filtered. -/
def hasExtension (data : DeviceData) (name : String) : Bool := data.extensionList.contains name

/-! ### Handing out queues -/

/-- The loop that all three getters have: make a queue of the first family that is wanted. Without
one a queue is returned that is not valid. -/
def firstQueue (devId : Nat) (wanted : QueueFamily → Bool) :
    List QueueFamily → List QueueFamily × Option QueueData
  | [] => ([], some {})
  | family :: families =>
      if wanted family then
        -- the loop returns here
        let made := family.makeQueue devId
        (made.1 :: families, made.2)
      else
        let rest := firstQueue devId wanted families
        (family :: rest.1, rest.2)

/-- A getter: the device afterwards, and the queue that it finds for what is wanted. -/
def getQueue (data : DeviceData) (wanted : QueueFamily → Bool) : DeviceData × Option QueueData :=
  match data.queues with
  -- the pointer to the families is null before `initialize`
  | none => (data, some {})
  | some families =>
      let made := firstQueue data.id wanted families
      ({ data with queues := some made.1 }, made.2)

/-- `Device::graphicsQueue`: a queue of a family that can draw. -/
def graphicsQueue (data : DeviceData) : DeviceData × Option QueueData :=
  data.getQueue QueueFamily.graphics

/-- `Device::presentQueue`: a queue of a family that can present to the surface, and draw. -/
def presentQueue (data : DeviceData) (surface : Nat) : DeviceData × Option QueueData :=
  data.getQueue fun family => family.present data.physicalDevice surface && family.graphics

/-- `Device::computeQueue`: a queue of a family that can compute. -/
def computeQueue (data : DeviceData) : DeviceData × Option QueueData :=
  data.getQueue QueueFamily.compute

end DeviceData

end Nyx
