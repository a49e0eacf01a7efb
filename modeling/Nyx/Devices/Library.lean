import Std.Data.TreeMap
import Nyx.Devices.Devices

/-! # The library

`vkg::Vulkan` keeps one instance and its devices for the whole program. What it is configured with
is collected until the first function is called that needs a device.

* **`VulkanLoader`** — what the system has.
* **`InstanceData`**, **`InstanceData.initializeWith`** — the instance.
* **`Library`** — the data of `Vulkan`, and what the driver created for it.
* **`Library.initializeLibrary`** — `Vulkan::initialize`.
* **`LibraryCall`**, **`Library.call`** — the functions of `Vulkan` as inputs of a machine. -/

namespace Nyx

open Foundations

/-! ## Instances -/

/-- What the loader of Vulkan says of the system: its extensions and layers, and the physical
devices. -/
structure VulkanLoader where
  /-- `vk::enumerateInstanceExtensionProperties()`. -/
  extensions : List String := []
  /-- `vk::enumerateInstanceLayerProperties()`. -/
  layers : List String := []
  /-- `enumeratePhysicalDevices()`. -/
  physicalDevices : List PhysicalDevice := []

/-- `Version`, in its three parts. -/
structure Version where
  major : UInt32
  minor : UInt32
  revision : UInt32
  deriving DecidableEq, Repr

/-- `VK_MAKE_VERSION`, which packs the three parts into one number. -/
def Version.make (version : Version) : UInt32 :=
  version.major <<< 22 ||| version.minor <<< 12 ||| version.revision

/-- `vk::ApplicationInfo`, without the engine. -/
structure ApplicationInfo where
  applicationName : String
  applicationVersion : UInt32
  apiVersion : UInt32
  deriving DecidableEq, Repr

/-- A `vk::Instance`, by what it was created with. -/
structure VkInstance where
  applicationInfo : Option ApplicationInfo := none
  extensions : List String := []
  layers : List String := []
  deriving DecidableEq, Repr

/-- `InstanceData`: what was requested for the instance, and the physical devices that it found. -/
structure InstanceData where
  vkInstance : Option VkInstance := none
  appVersion : Version := ⟨0, 0, 1⟩
  apiVersion : Version := ⟨1, 1, 0⟩
  appName : String := "NYX_DEFAULT_NAME"
  extList : List String := ["VK_KHR_surface", "VK_KHR_surface"]
  layerList : List String := []
  physicalDev : List PhysicalDevice := []
  debug : Bool := true

namespace InstanceData

/-- `InstanceData::makeAppInfo`: the names and versions that the driver is told. -/
def makeAppInfo (data : InstanceData) : ApplicationInfo where
  applicationName := data.appName
  applicationVersion := data.appVersion.make
  apiVersion := data.apiVersion.make

/-- `InstanceData::filterExtensions`: the extensions that were requested and that the loader has. -/
def filterExtensions (loader : VulkanLoader) (data : InstanceData) : List String :=
  matchedNames loader.extensions data.extList

/-- `InstanceData::filterValidationLayers`: the layers that were requested and that the loader has,
when debugging. -/
def filterValidationLayers (loader : VulkanLoader) (data : InstanceData) : List String :=
  if data.debug then matchedNames loader.layers data.layerList else []

/-- `Instance::initialize`: the instance afterwards, and all that were created. The first one is
created to load functions only. -/
def initializeWith (loader : VulkanLoader) (data : InstanceData) :
    InstanceData × List VkInstance :=
  let extensions := data.filterExtensions loader
  -- this one is asked for without looking whether it is available
  let extensions := if data.debug then extensions ++ ["VK_EXT_debug_utils"] else extensions
  let created : VkInstance :=
    { applicationInfo := some data.makeAppInfo
      extensions := extensions
      layers := data.filterValidationLayers loader }
  ({ data with vkInstance := some created, physicalDev := loader.physicalDevices },
    [{}, created])

/-- `Instance::initialized`: whether there is an instance of the driver. -/
def initialized (data : InstanceData) : Bool := data.vkInstance.isSome

/-- `Instance::numDevices`: how many physical devices were found. -/
def numDevices (data : InstanceData) : Nat := data.physicalDev.length

/-- `Instance::device`: a physical device by its number, or the first one when there are not so
many. -/
def device (data : InstanceData) (id : Nat) : PhysicalDevice :=
  data.physicalDev.getD id (data.physicalDev.headD {})

/-- `Instance::addExtension`, which requests an extension for the instance. -/
def addExtension (data : InstanceData) (name : String) : InstanceData :=
  { data with extList := data.extList ++ [name] }

/-- `Instance::addValidationLayer`, which requests a layer for the instance. -/
def addValidationLayer (data : InstanceData) (name : String) : InstanceData :=
  { data with layerList := data.layerList ++ [name] }

end InstanceData

/-! ## Memory types -/

/-- Whether a memory type is in a filter and has all flags. -/
def suitsMemory (filter flag : UInt32) (memoryTypes : List UInt32) (index : Nat) : Bool :=
  filter &&& ((1 : UInt32) <<< UInt32.ofNat index) != 0 &&
    memoryTypes.getD index 0 &&& flag == flag

/-- `memType`: the first type of memory that suits a filter and a flag, or the first of all. -/
def memType (filter flag : UInt32) (device : PhysicalDevice) : Nat :=
  ((List.range device.memoryTypes.length).find? (suitsMemory filter flag device.memoryTypes)).getD 0

/-- An allocation, as `allocateMemory` is called for it. -/
structure MemoryAllocation where
  /-- The device, `none` when null. -/
  device : Option VkDevice
  size : UInt32
  memoryTypeIndex : Nat
  deriving DecidableEq, Repr

/-! ## The data of the library -/

/-- `VulkanData`, and what was created for it: instances and allocations are listed in order. -/
structure Library where
  inst : InstanceData := {}
  devices : List DeviceData := []
  validationLayers : List String := []
  deviceExt : List String := []
  /-- The surface of each window. -/
  windows : Std.TreeMap Nat Nat := ∅
  /-- All instances that were created, in order. None is destroyed. -/
  instances : List VkInstance := []
  /-- All logical devices that were created, in order. -/
  gpus : List VkDevice := []
  /-- How many surfaces were created. -/
  surfaces : Nat := 0
  allocations : List MemoryAllocation := []
  /-- The ids for which `DeviceNotFound` was reported. -/
  notFound : List Nat := []

namespace Library

variable (policy : RoomPolicy) (loader : VulkanLoader)

/-- `Vulkan::initialized`: whether there are an instance and devices. -/
def initialized (lib : Library) : Bool := lib.inst.initialized && lib.devices.length != 0

/-- The body of the loop over the devices of `Vulkan::initialize`. -/
def makeDevice (lib : Library) (inst : InstanceData) (entry : DeviceData × Nat) : DeviceData :=
  -- the layers and extensions requested so far, for each device alike
  let device := lib.validationLayers.foldl DeviceData.addValidationLayer entry.1
  let device := lib.deviceExt.foldl DeviceData.addExtension device
  device.initializeOn policy (inst.device entry.2) entry.2

/-- `Vulkan::initialize`, which makes the instance and all devices once, and nothing when this was
done. -/
def initializeLibrary (lib : Library) : Library :=
  let lib :=
    if lib.initialized then lib
    else
      let made :=
        (lib.validationLayers.foldl InstanceData.addValidationLayer lib.inst).initializeWith loader
      let devices := (lib.devices.takeD made.1.numDevices {}).zipIdx.map
        (lib.makeDevice policy made.1)
      { lib with
        inst := made.1
        devices := devices
        instances := lib.instances ++ made.2
        gpus := lib.gpus ++ devices.filterMap (·.gpu) }
  -- whatever was requested is forgotten, also when the library was initialised before
  { lib with deviceExt := [], validationLayers := [] }

/-- `Vulkan::device`: the index of the device, `none` for the dummy. -/
def device (lib : Library) (id : Nat) : Library × Option Nat :=
  if id < lib.devices.length then (lib, some id)
  else
    -- an id that is too large gets the first device, if there is one
    ({ lib with notFound := lib.notFound ++ [id] },
      if lib.devices.isEmpty then none else some 0)

/-- The device with an index; without an index it is the dummy, which is as new. -/
def deviceAt (lib : Library) (index : Option Nat) : DeviceData :=
  match index with
  | none => {}
  | some index => lib.devices.getD index {}

/-- What the three getters of queues do with the device. -/
def queue (lib : Library) (gpu : Nat) (request : DeviceData → DeviceData × Option QueueData) :
    Library × Option QueueData :=
  let (lib, index) := lib.device gpu
  let made := request (lib.deviceAt index)
  match index with
  -- the dummy has no families, so it stays as it is
  | none => (lib, made.2)
  | some index => ({ lib with devices := lib.devices.set index made.1 }, made.2)

/-- `Vulkan::graphicsQueue`, which initialises the library when this was not done. -/
def graphicsQueue (lib : Library) (gpu : Nat) : Library × Option QueueData :=
  (lib.initializeLibrary policy loader).queue gpu DeviceData.graphicsQueue

/-- `Vulkan::computeQueue`, which initialises the library when this was not done. -/
def computeQueue (lib : Library) (gpu : Nat) : Library × Option QueueData :=
  (lib.initializeLibrary policy loader).queue gpu DeviceData.computeQueue

/-- `Vulkan::presentQueue`; a window that is not there has an invalid queue. -/
def presentQueue (lib : Library) (window gpu : Nat) : Library × Option QueueData :=
  let lib := lib.initializeLibrary policy loader
  match lib.windows[window]? with
  | none => (lib, some {})
  | some surface => lib.queue gpu (·.presentQueue surface)

/-- `Vulkan::hasWindow`: whether a window was added by this number. -/
def hasWindow (lib : Library) (id : Nat) : Bool := lib.windows.contains id

/-- `Vulkan::addWindow`, with the surface that `contextFromBaseWindow` creates. Surface `0` is the
null one. -/
def addWindow (lib : Library) (id : Nat) : Library :=
  if lib.hasWindow id then lib
  else
    let lib := lib.initializeLibrary policy loader
    let lib :=
      -- a surface is created of the instance, which may have no devices
      if lib.inst.initialized then { lib with surfaces := lib.surfaces + 1 } else lib
    { lib with
      windows := lib.windows.insert id (if lib.inst.initialized then lib.surfaces else 0) }

/-- `Vulkan::createMemory`. The device is looked up before the library is initialised, once for the
logical and once for the physical device. -/
def createMemory (lib : Library) (gpu : Nat) (size flags filter : UInt32) : Library :=
  let (lib, index) := lib.device gpu
  let device := lib.deviceAt index
  let (lib, index) := lib.device gpu
  let physical := (lib.deviceAt index).physicalDevice
  -- too late for `device` and `physical`, which are copies
  let lib := lib.initializeLibrary policy loader
  { lib with
    allocations := lib.allocations ++ [⟨device.gpu, size, memType filter flags physical⟩] }

end Library

/-! ## The functions as inputs -/

/-- A function of `Vulkan`, with what it is called with. -/
inductive LibraryCall
  | setApplicationName (name : String)
  | addInstanceExtension (name : String)
  | addDeviceExtension (name : String)
  | addValidationLayer (name : String)
  | initializeLibrary
  /-- `copyToDevice` and `copyToHost`, and `free` of a memory. -/
  | useDevice (gpu : Nat)
  | deviceSynchronize (gpu : Nat)
  | graphicsQueue (gpu : Nat)
  | computeQueue (gpu : Nat)
  | presentQueue (window gpu : Nat)
  | addWindow (id : Nat)
  | createMemory (gpu : Nat) (size flags filter : UInt32)
  deriving DecidableEq, Repr

namespace Library

variable (policy : RoomPolicy) (loader : VulkanLoader)

/-- What a call makes of the library. -/
def call (lib : Library) : LibraryCall → Library
  | .setApplicationName name => { lib with inst := { lib.inst with appName := name } }
  | .addInstanceExtension name => { lib with inst := lib.inst.addExtension name }
  | .addDeviceExtension name => { lib with deviceExt := lib.deviceExt ++ [name] }
  | .addValidationLayer name => { lib with validationLayers := lib.validationLayers ++ [name] }
  | .initializeLibrary => lib.initializeLibrary policy loader
  | .useDevice gpu => ((lib.initializeLibrary policy loader).device gpu).1
  | .deviceSynchronize gpu => (lib.device gpu).1
  | .graphicsQueue gpu => (lib.graphicsQueue policy loader gpu).1
  | .computeQueue gpu => (lib.computeQueue policy loader gpu).1
  | .presentQueue window gpu => (lib.presentQueue policy loader window gpu).1
  | .addWindow id => lib.addWindow policy loader id
  | .createMemory gpu size flags filter => lib.createMemory policy loader gpu size flags filter

/-- One call after the other, as a program makes them. -/
def calls (lib : Library) (asked : List LibraryCall) : Library :=
  asked.foldl (call policy loader) lib

end Library

end Nyx
