import Mathlib.Data.List.Induction
import Nyx.Devices.Library

/-! # Starting the library

What the library is configured with is asked for by calls that collect names. The first call that
needs a device creates the instance and the devices. This file says what every run of calls leaves.

* **`LibraryCall.initializes`** — the calls that need a device.
* **`Configuration`** — what was asked for.
* **`Library.Running`** — what the library keeps once it has devices.
* **`Library.configured_once`** — in every run the first call that needs a device fixes the instance
  and all devices.
* **`Library.instances_without_devices`** — without a physical device there are two instances more
  for each call that initialises.
* **`Library.allocations_iff`** — memory is allocated on a device exactly when an earlier call
  created it. -/

namespace Nyx

open Foundations

/-- Whether a call initialises the library first. A window that is there already is not added again,
but then the library was initialised when it was. -/
def LibraryCall.initializes : LibraryCall → Bool
  | .setApplicationName _ | .addInstanceExtension _ | .addDeviceExtension _
  | .addValidationLayer _ | .deviceSynchronize _ => false
  | .initializeLibrary | .useDevice _ | .graphicsQueue _ | .computeQueue _ | .presentQueue _ _
  | .addWindow _ | .createMemory _ _ _ _ => true

/-! ## Configurations -/

/-- What was asked for before the library was initialised: its name, and the extensions and
layers. -/
structure Configuration where
  appName : String := "NYX_DEFAULT_NAME"
  instanceExtensions : List String := []
  deviceExtensions : List String := []
  layers : List String := []
  deriving DecidableEq, Repr

/-- What the calls that configure the library add to the configuration; the other calls add
nothing. -/
def Configuration.request (config : Configuration) : LibraryCall → Configuration
  | .setApplicationName name => { config with appName := name }
  | .addInstanceExtension name =>
      { config with instanceExtensions := config.instanceExtensions ++ [name] }
  | .addDeviceExtension name =>
      { config with deviceExtensions := config.deviceExtensions ++ [name] }
  | .addValidationLayer name => { config with layers := config.layers ++ [name] }
  | _ => config

/-- What some calls ask for, one after another, beginning with the defaults. -/
def configured (asked : List LibraryCall) : Configuration := asked.foldl Configuration.request {}

/-- The instance that is made for a configuration: the extensions for surfaces come first, and the
name is the one that was set last. -/
def instanceFor (loader : VulkanLoader) (config : Configuration) : VkInstance where
  applicationInfo := some ⟨config.appName, Version.make ⟨0, 0, 1⟩, Version.make ⟨1, 1, 0⟩⟩
  extensions :=
    matchedNames loader.extensions
        (["VK_KHR_surface", "VK_KHR_surface"] ++ config.instanceExtensions) ++
      ["VK_EXT_debug_utils"]
  layers := matchedNames loader.layers config.layers

/-- The device that is made for a configuration and a physical device. -/
def deviceFor (policy : RoomPolicy) (config : Configuration) (entry : PhysicalDevice × Nat) :
    DeviceData :=
  ({ extensionList := ({} : DeviceData).extensionList ++ config.deviceExtensions
     layerList := config.layers } : DeviceData).initializeOn policy entry.1 entry.2

namespace Library

variable (policy : RoomPolicy) (loader : VulkanLoader)

/-! ## Before the first device -/

/-- A library that was only configured, and asked for devices that it does not have. -/
def configuring (config : Configuration) (notFound : List Nat) : Library where
  inst :=
    { appName := config.appName
      extList := ["VK_KHR_surface", "VK_KHR_surface"] ++ config.instanceExtensions }
  validationLayers := config.layers
  deviceExt := config.deviceExtensions
  notFound := notFound

/-- **Step lemma.** A call that does not initialise the library adds what it asks for. -/
theorem call_configuring (config : Configuration) (notFound : List Nat) {c : LibraryCall}
    (hc : c.initializes = false) :
    ∃ notFound', (configuring config notFound).call policy loader c =
      configuring (config.request c) notFound' := by
  cases c with
  | deviceSynchronize gpu => exact ⟨notFound ++ [gpu], rfl⟩
  | setApplicationName name => exact ⟨notFound, rfl⟩
  | addInstanceExtension name =>
      refine ⟨notFound, ?_⟩
      simp [call, configuring, Configuration.request, InstanceData.addExtension]
  | addDeviceExtension name => exact ⟨notFound, rfl⟩
  | addValidationLayer name => exact ⟨notFound, rfl⟩
  | _ => cases hc

/-- **Run lemma.** All calls before the first one that initialises only add to the configuration. -/
theorem calls_configuring (config : Configuration) (notFound : List Nat)
    {before : List LibraryCall} (hbefore : ∀ c ∈ before, c.initializes = false) :
    ∃ notFound', (configuring config notFound).calls policy loader before =
      configuring (before.foldl Configuration.request config) notFound' := by
  induction before generalizing config notFound with
  | nil => exact ⟨notFound, rfl⟩
  -- the requests of the first call are part of the configuration for the rest
  | cons c before ih =>
      obtain ⟨hc, hbefore⟩ := List.forall_mem_cons.mp hbefore
      obtain ⟨notFound', hstep⟩ := call_configuring policy loader config notFound hc
      obtain ⟨notFound'', hrest⟩ := ih (config.request c) notFound' hbefore
      refine ⟨notFound'', ?_⟩
      rw [calls, List.foldl_cons, hstep]
      exact hrest

/-! ## With devices -/

/-- What the library keeps once it has devices: two instances, of which the last is in use, and a
logical device for each physical one. -/
structure Running (config : Configuration) (lib : Library) : Prop where
  inst : lib.inst.vkInstance = some (instanceFor loader config)
  instances : lib.instances = [{}, instanceFor loader config]
  devices : lib.devices.map (·.gpu) =
    loader.physicalDevices.zipIdx.map fun entry => (deviceFor policy config entry).gpu
  gpus : lib.devices.map (·.gpu) = lib.gpus.map some
  nonempty : lib.devices ≠ []

variable {policy loader}

/-- A library that has devices counts as initialised. -/
theorem Running.initialized {config : Configuration} {lib : Library}
    (h : lib.Running policy loader config) : lib.initialized = true := by
  have hlength : lib.devices.length ≠ 0 := by simpa using h.nonempty
  simp [Library.initialized, InstanceData.initialized, h.inst, hlength]

/-- A library that has devices is not initialised again: the call leaves everything as it is. -/
theorem Running.initializeLibrary {config : Configuration} {lib : Library}
    (h : lib.Running policy loader config) :
    (lib.initializeLibrary policy loader).Running policy loader config := by
  rw [Library.initializeLibrary, if_pos h.initialized]
  exact ⟨h.inst, h.instances, h.devices, h.gpus, h.nonempty⟩

/-- Looking a device up changes nothing of what the library runs with; it only reports a number that
there is no device for. -/
theorem Running.device {config : Configuration} {lib : Library}
    (h : lib.Running policy loader config) (id : Nat) :
    (lib.device id).1.Running policy loader config := by
  rw [Library.device]
  split
  · exact h
  · exact ⟨h.inst, h.instances, h.devices, h.gpus, h.nonempty⟩

/-- A request for a queue that leaves the logical device as it is leaves what the library runs with
as it is. -/
theorem Running.queue {config : Configuration} {lib : Library}
    (h : lib.Running policy loader config) (gpu : Nat)
    {request : DeviceData → DeviceData × Option QueueData}
    (hrequest : ∀ data, (request data).1.gpu = data.gpu) :
    (lib.queue gpu request).1.Running policy loader config := by
  have hdevice := h.device gpu
  unfold Library.queue
  generalize lib.device gpu = found at hdevice ⊢
  obtain ⟨lib', index⟩ := found
  cases index with
  | none => exact hdevice
  | some index =>
      -- the device that handed out a queue is replaced, and has the same logical device
      have hgpus : (lib'.devices.set index (request (lib'.deviceAt (some index))).1).map (·.gpu) =
          lib'.devices.map (·.gpu) := by
        refine List.ext_getElem (by simp) fun i hi hi' => ?_
        rw [List.getElem_map, List.getElem_map, List.getElem_set]
        split
        · next heq =>
          subst heq
          have hlt : index < lib'.devices.length := by simpa using hi'
          simp [hrequest, deviceAt, List.getElem?_eq_getElem hlt]
        · rfl
      refine ⟨hdevice.inst, hdevice.instances, hgpus.trans hdevice.devices,
        hgpus.trans hdevice.gpus, ?_⟩
      simpa using hdevice.nonempty

/-- No getter of a queue changes the logical device; it only counts what it hands out. -/
theorem gpu_getQueue (data : DeviceData) (wanted : QueueFamily → Bool) :
    (data.getQueue wanted).1.gpu = data.gpu := by
  rw [DeviceData.getQueue]
  split <;> rfl

/-- **Step lemma.** No call changes what the library runs with, once it has devices. -/
theorem Running.call {config : Configuration} {lib : Library}
    (h : lib.Running policy loader config) (c : LibraryCall) :
    (lib.call policy loader c).Running policy loader config := by
  cases c with
  | setApplicationName name | addInstanceExtension name | addDeviceExtension name
  | addValidationLayer name =>
      exact ⟨h.inst, h.instances, h.devices, h.gpus, h.nonempty⟩
  | initializeLibrary => exact h.initializeLibrary
  | useDevice gpu => exact h.initializeLibrary.device gpu
  | deviceSynchronize gpu => exact h.device gpu
  | graphicsQueue gpu => exact h.initializeLibrary.queue gpu fun data => gpu_getQueue data _
  | computeQueue gpu => exact h.initializeLibrary.queue gpu fun data => gpu_getQueue data _
  | presentQueue window gpu =>
      simp only [Library.call, Library.presentQueue]
      split
      · exact h.initializeLibrary
      · exact h.initializeLibrary.queue gpu fun data => gpu_getQueue data _
  | addWindow id =>
      have hinit := h.initializeLibrary
      simp only [Library.call, Library.addWindow]
      split
      · exact h
      · split <;> exact ⟨hinit.inst, hinit.instances, hinit.devices, hinit.gpus, hinit.nonempty⟩
  -- it looks its device up twice, and initialises the library then
  | createMemory gpu size flags filter =>
      have hinit := ((h.device gpu).device gpu).initializeLibrary
      exact ⟨hinit.inst, hinit.instances, hinit.devices, hinit.gpus, hinit.nonempty⟩

/-- **Run lemma.** No sequence of calls changes what the library runs with, once it has devices. -/
theorem Running.calls {config : Configuration} {lib : Library}
    (h : lib.Running policy loader config) (asked : List LibraryCall) :
    (lib.calls policy loader asked).Running policy loader config := by
  induction asked generalizing lib with
  | nil => exact h
  | cons c asked ih => exact ih (h.call c)

/-! ## The first device -/

/-- Layers that are added to an instance one by one go behind those that are there. -/
theorem foldl_instance_layers (inst : InstanceData) (layers : List String) :
    layers.foldl InstanceData.addValidationLayer inst =
      { inst with layerList := inst.layerList ++ layers } := by
  induction layers generalizing inst with
  | nil => simp
  | cons layer layers ih => simp [ih, InstanceData.addValidationLayer]

/-- Layers that are added to a device one by one go behind those that are there. -/
theorem foldl_device_layers (data : DeviceData) (layers : List String) :
    layers.foldl DeviceData.addValidationLayer data =
      { data with layerList := data.layerList ++ layers } := by
  induction layers generalizing data with
  | nil => simp
  | cons layer layers ih => simp [ih, DeviceData.addValidationLayer]

/-- Extensions that are added to a device one by one go behind those that are there. -/
theorem foldl_device_extensions (data : DeviceData) (extensions : List String) :
    extensions.foldl DeviceData.addExtension data =
      { data with extensionList := data.extensionList ++ extensions } := by
  induction extensions generalizing data with
  | nil => simp
  | cons extension extensions ih => simp [ih, DeviceData.addExtension]

/-- The devices that a configured library makes are those for its configuration, one for each
physical device. -/
theorem makeDevice_configuring (policy : RoomPolicy) (config : Configuration) (notFound : List Nat)
    {inst : InstanceData} (hinst : inst.physicalDev = loader.physicalDevices) :
    (List.replicate loader.physicalDevices.length ({} : DeviceData)).zipIdx.map
        ((configuring config notFound).makeDevice policy inst) =
      loader.physicalDevices.zipIdx.map (deviceFor policy config) := by
  refine List.ext_getElem (by simp) fun i hi hi' => ?_
  -- a device is new when its layers and extensions are added, so the order of the two is lost
  have hlt : i < loader.physicalDevices.length := by simpa using hi
  simp [makeDevice, deviceFor, configuring, foldl_device_layers, foldl_device_extensions,
    InstanceData.device, hinst, List.getElem?_eq_getElem hlt]

/-- The first initialisation of a library, with or without physical devices. -/
theorem initializeLibrary_configuring (policy : RoomPolicy) (loader : VulkanLoader)
    (config : Configuration) (notFound : List Nat) :
    ∃ inst : InstanceData, inst.vkInstance = some (instanceFor loader config) ∧
      (configuring config notFound).initializeLibrary policy loader =
        { configuring config notFound with
          inst := inst
          devices := loader.physicalDevices.zipIdx.map (deviceFor policy config)
          instances := [{}, instanceFor loader config]
          gpus := (loader.physicalDevices.zipIdx.map (deviceFor policy config)).filterMap (·.gpu)
          deviceExt := []
          validationLayers := [] } := by
  let inst := (config.layers.foldl InstanceData.addValidationLayer
    (configuring config notFound).inst).initializeWith loader
  have hinst : inst = ({ inst.1 with vkInstance := some (instanceFor loader config) },
      [{}, instanceFor loader config]) := by
    simp [inst, foldl_instance_layers, InstanceData.initializeWith, instanceFor, configuring,
      InstanceData.filterExtensions, InstanceData.filterValidationLayers,
      InstanceData.makeAppInfo]
  have hdevices : inst.1.physicalDev = loader.physicalDevices := rfl
  have hcreated : [{}, instanceFor loader config] = inst.2 := by rw [hinst]
  -- the loop runs over devices that `resize` made, for there were none before
  have hnew : ¬ (configuring config notFound).initialized = true := Bool.false_ne_true
  have hresized : List.replicate loader.physicalDevices.length ({} : DeviceData) =
      [].takeD inst.1.numDevices {} := by
    simp [InstanceData.numDevices, hdevices]
  refine ⟨inst.1, by rw [hinst], ?_⟩
  rw [← makeDevice_configuring policy config notFound hdevices, hresized, hcreated,
    initializeLibrary, if_neg hnew]
  rfl

/-- Each device that is made has a logical device: to leave out those without one leaves the list as
it is. -/
theorem map_gpu_deviceFor (policy : RoomPolicy) (config : Configuration)
    (entries : List (PhysicalDevice × Nat)) :
    (entries.map (deviceFor policy config)).map (·.gpu) =
      ((entries.map (deviceFor policy config)).filterMap (·.gpu)).map some := by
  induction entries with
  | nil => rfl
  | cons entry entries ih => exact congrArg (_ :: ·) ih

/-- **The first initialisation** creates an instance and a device for each physical device. -/
theorem running_initializeLibrary (policy : RoomPolicy) (hdevices : loader.physicalDevices ≠ [])
    (config : Configuration) (notFound : List Nat) :
    ((configuring config notFound).initializeLibrary policy loader).Running policy loader
      config := by
  obtain ⟨inst, hinst, heq⟩ := initializeLibrary_configuring policy loader config notFound
  rw [heq]
  refine ⟨hinst, rfl, by simp, map_gpu_deviceFor policy config _, ?_⟩
  simpa using hdevices

/-- **Step lemma.** The first call that initialises the library. -/
theorem running_call (policy : RoomPolicy) (hdevices : loader.physicalDevices ≠ [])
    (config : Configuration) (notFound : List Nat) {c : LibraryCall} (hc : c.initializes = true) :
    ((configuring config notFound).call policy loader c).Running policy loader config := by
  have hinit := running_initializeLibrary policy hdevices config notFound
  cases c with
  | initializeLibrary => exact hinit
  | useDevice gpu => exact hinit.device gpu
  | graphicsQueue gpu => exact hinit.queue gpu fun data => gpu_getQueue data _
  | computeQueue gpu => exact hinit.queue gpu fun data => gpu_getQueue data _
  | presentQueue window gpu =>
      simp only [Library.call, Library.presentQueue]
      split
      · exact hinit
      · exact hinit.queue gpu fun data => gpu_getQueue data _
  | addWindow id =>
      simp only [Library.call, Library.addWindow]
      split
      · next hwindow => exact absurd hwindow (by simp [hasWindow, configuring])
      · split <;> exact ⟨hinit.inst, hinit.instances, hinit.devices, hinit.gpus, hinit.nonempty⟩
  | createMemory gpu size flags filter =>
      -- both look-ups come too early
      have hlater := running_initializeLibrary policy hdevices config
        ((notFound ++ [gpu]) ++ [gpu])
      exact ⟨hlater.inst, hlater.instances, hlater.devices, hlater.gpus, hlater.nonempty⟩
  | _ => cases hc

/-- A run up to the first call that initialises, and on from there. -/
theorem running_calls (policy : RoomPolicy) (hdevices : loader.physicalDevices ≠ [])
    {before : List LibraryCall} (hbefore : ∀ c ∈ before, c.initializes = false)
    {c : LibraryCall} (hc : c.initializes = true) (after : List LibraryCall) :
    (({} : Library).calls policy loader (before ++ c :: after)).Running policy loader
      (configured before) := by
  obtain ⟨notFound, hconfigured⟩ := calls_configuring policy loader {} [] hbefore
  have hfirst := running_call policy hdevices (configured before) notFound hc
  rw [calls, List.foldl_append, List.foldl_cons]
  -- up to here the library has only collected what was asked for
  have hstart : before.foldl (call policy loader) ({} : Library) =
      configuring (configured before) notFound := hconfigured
  rw [hstart]
  exact hfirst.calls after

/-- What the logical devices have in common follows from the physical ones. -/
theorem Running.map_gpus {config : Configuration} {lib : Library}
    (h : lib.Running policy loader config) {β : Type} {f : VkDevice → β} {g : PhysicalDevice → β}
    (hfg : ∀ entry, (deviceFor policy config entry).gpu.map f = some (g entry.1)) :
    lib.gpus.map f = loader.physicalDevices.map g := by
  refine List.map_injective_iff.mpr (fun _ _ => Option.some.inj) ?_
  -- the devices of the library are the link between the two lists
  calc (lib.gpus.map f).map some
      = (lib.gpus.map some).map (Option.map f) := by simp [Function.comp_def]
    _ = (loader.physicalDevices.zipIdx.map fun entry =>
          (deviceFor policy config entry).gpu).map (Option.map f) := by
        rw [h.gpus.symm.trans h.devices]
    _ = (loader.physicalDevices.zipIdx.map Prod.fst).map fun p => some (g p) := by
        rw [List.map_map, List.map_map]
        exact List.map_congr_left fun entry _ => hfg entry
    _ = (loader.physicalDevices.map g).map some := by
        rw [List.zipIdx_map_fst, List.map_map]
        rfl

/-- **The first call that needs a device decides.** The system has a physical device. Whatever is
called after the first call that initialises the library, there are the two instances that were
created then and one device for each physical device, and what is enabled on them is what was
requested before that call and is available; requests that come later have no effect. -/
theorem configured_once (policy : RoomPolicy) (loader : VulkanLoader)
    (hdevices : loader.physicalDevices ≠ []) (before : List LibraryCall)
    (hbefore : ∀ c ∈ before, c.initializes = false) (c : LibraryCall)
    (hc : c.initializes = true) (after : List LibraryCall) :
    let lib := ({} : Library).calls policy loader (before ++ c :: after)
    lib.instances = [{}, instanceFor loader (configured before)] ∧
      lib.devices.map (·.gpu) = lib.gpus.map some ∧
      lib.gpus.map (·.extensions) = loader.physicalDevices.map (fun p =>
        matchedNames p.extensions
          (({} : DeviceData).extensionList ++ (configured before).deviceExtensions)) ∧
      lib.gpus.map (·.layers) = loader.physicalDevices.map (fun p =>
        matchedNames p.layers (configured before).layers) := by
  have hrunning := running_calls policy hdevices hbefore hc after
  exact ⟨hrunning.instances, hrunning.gpus, hrunning.map_gpus fun _ => rfl,
    hrunning.map_gpus fun _ => rfl⟩

/-- An extension is asked for, then a queue, and then another extension: that request comes too
late. -/
theorem configured_once_late :
    let loader : VulkanLoader :=
      { physicalDevices := [{ extensions := ["a", "b"], queueFamilies := [⟨7, 1⟩] }] }
    let lib := ({} : Library).calls .exact loader
      ([.addDeviceExtension "a"] ++ .graphicsQueue 0 :: [.addDeviceExtension "b"])
    lib.instances = [{}, instanceFor loader (configured [.addDeviceExtension "a"])] ∧
      lib.devices.map (·.gpu) = lib.gpus.map some ∧
      lib.gpus.map (·.extensions) = loader.physicalDevices.map (fun p =>
        matchedNames p.extensions (({} : DeviceData).extensionList ++
          (configured [.addDeviceExtension "a"]).deviceExtensions)) ∧
      lib.gpus.map (·.layers) = loader.physicalDevices.map (fun p =>
        matchedNames p.layers (configured [.addDeviceExtension "a"]).layers) :=
  configured_once .exact _ (by simp) _ (by simp [LibraryCall.initializes]) _ rfl _

/-! ## Without a physical device -/

/-- The keys of a map with one entry more are those from before and the new one. -/
theorem contains_insert_iff (windows : Std.TreeMap Nat Nat) (id surface other : Nat) :
    (windows.insert id surface).contains other = true ↔
      other = id ∨ windows.contains other = true := by
  rw [Std.TreeMap.contains_insert, Bool.or_eq_true, beq_iff_eq, Std.compare_eq_iff_eq]
  exact or_congr_left eq_comm

/-- How often some calls initialise a library that has no devices, when it has windows with some ids
already. -/
def initializations (windows : List Nat) : List LibraryCall → Nat
  | [] => 0
  | .addWindow id :: asked =>
      (if id ∈ windows then 0 else 1) + initializations (id :: windows) asked
  | c :: asked => (if c.initializes then 1 else 0) + initializations windows asked

/-- A library that found no device and was initialised `n` times so far: it has two instances for
each time, and the windows it knows. -/
structure Deviceless (windows : List Nat) (n : Nat) (lib : Library) : Prop where
  devices : lib.devices = []
  gpus : lib.gpus = []
  instances : lib.instances.length = 2 * n
  windows : ∀ id, lib.hasWindow id = true ↔ id ∈ windows

section

variable {windows : List Nat} {n : Nat} {lib : Library}

/-- A library without devices is initialised again whenever something asks for that, and makes two
more instances. -/
theorem Deviceless.initializeLibrary (policy : RoomPolicy) (hdevices : loader.physicalDevices = [])
    (h : lib.Deviceless windows n) :
    (lib.initializeLibrary policy loader).Deviceless windows (n + 1) := by
  -- an instance without devices does not make the library an initialised one
  have hnew : ¬ lib.initialized = true := by simp [Library.initialized, h.devices]
  have hempty : ∀ inst : InstanceData, (inst.initializeWith loader).1.numDevices = 0 := by
    intro inst
    simp [InstanceData.initializeWith, InstanceData.numDevices, hdevices]
  rw [Library.initializeLibrary, if_neg hnew]
  refine ⟨?_, ?_, ?_, h.windows⟩
  · simp [hempty]
  · simp [hempty, h.gpus]
  · have htwo : ∀ inst : InstanceData, (inst.initializeWith loader).2.length = 2 := fun _ => rfl
    simp only [List.length_append, h.instances, htwo]
    omega

/-- Looking a device up in a library without devices finds the dummy, and adds nothing. -/
theorem Deviceless.device (h : lib.Deviceless windows n) (id : Nat) :
    (lib.device id).1.Deviceless windows n ∧ (lib.device id).2 = none := by
  have hnone : ¬ id < lib.devices.length := by simp [h.devices]
  rw [Library.device, if_neg hnone]
  exact ⟨⟨h.devices, h.gpus, h.instances, h.windows⟩, by simp [h.devices]⟩

/-- A request for a queue of a library without devices adds nothing either. -/
theorem Deviceless.queue (h : lib.Deviceless windows n) (gpu : Nat)
    (request : DeviceData → DeviceData × Option QueueData) :
    (lib.queue gpu request).1.Deviceless windows n := by
  obtain ⟨hlib, hnone⟩ := h.device gpu
  unfold Library.queue
  generalize lib.device gpu = found at hlib hnone ⊢
  obtain ⟨lib', index⟩ := found
  obtain rfl : index = none := hnone
  exact hlib

/-- **Step lemma.** A call initialises a library without devices as often as its windows let it, and
the calls after it find the windows that it leaves. -/
theorem Deviceless.call (policy : RoomPolicy) (hdevices : loader.physicalDevices = [])
    (h : lib.Deviceless windows n) (c : LibraryCall) :
    ∃ windows', (lib.call policy loader c).Deviceless windows' (n + initializations windows [c]) ∧
      ∀ asked, initializations windows (c :: asked) =
        initializations windows [c] + initializations windows' asked := by
  have hinit := h.initializeLibrary policy hdevices
  cases c with
  | setApplicationName name | addInstanceExtension name | addDeviceExtension name
  | addValidationLayer name =>
      exact ⟨windows, ⟨h.devices, h.gpus, h.instances, h.windows⟩,
        by simp [initializations, LibraryCall.initializes]⟩
  | deviceSynchronize gpu =>
      exact ⟨windows, (h.device gpu).1, by simp [initializations, LibraryCall.initializes]⟩
  | initializeLibrary =>
      exact ⟨windows, hinit, by simp [initializations, LibraryCall.initializes]⟩
  | useDevice gpu =>
      exact ⟨windows, (hinit.device gpu).1, by simp [initializations, LibraryCall.initializes]⟩
  | graphicsQueue gpu | computeQueue gpu =>
      exact ⟨windows, hinit.queue gpu _, by simp [initializations, LibraryCall.initializes]⟩
  | presentQueue window gpu =>
      refine ⟨windows, ?_, by simp [initializations, LibraryCall.initializes]⟩
      simp only [Library.call, Library.presentQueue]
      split
      · exact hinit
      · exact hinit.queue gpu _
  | createMemory gpu size flags filter =>
      have hlater := ((h.device gpu).1.device gpu).1.initializeLibrary policy hdevices
      exact ⟨windows, ⟨hlater.devices, hlater.gpus, hlater.instances, hlater.windows⟩,
        by simp [initializations, LibraryCall.initializes]⟩
  | addWindow id =>
      refine ⟨id :: windows, ?_, by simp [initializations]⟩
      simp only [Library.call, Library.addWindow]
      -- only a new window has the library initialised
      by_cases hmem : id ∈ windows
      · rw [if_pos ((h.windows id).mpr hmem)]
        refine ⟨h.devices, h.gpus, by simpa [initializations, hmem] using h.instances, ?_⟩
        intro other
        rw [h.windows, List.mem_cons]
        refine ⟨Or.inr, ?_⟩
        rintro (rfl | hother)
        · exact hmem
        · exact hother
      · rw [if_neg fun hwindow => hmem ((h.windows id).mp hwindow)]
        have hcount : (lib.initializeLibrary policy loader).instances.length =
            2 * (n + initializations windows [.addWindow id]) := by
          simpa [initializations, hmem] using hinit.instances
        have hadded : ∀ other surface, ((lib.initializeLibrary policy loader).windows.insert id
            surface).contains other = true ↔ other ∈ id :: windows := by
          intro other surface
          rw [contains_insert_iff, List.mem_cons, ← hinit.windows other]
          rfl
        split <;> exact ⟨hinit.devices, hinit.gpus, hcount, fun other => hadded other _⟩

/-- **Run lemma.** All calls initialise a library without devices as often as their windows say. -/
theorem Deviceless.calls (policy : RoomPolicy) (hdevices : loader.physicalDevices = [])
    (h : lib.Deviceless windows n) (asked : List LibraryCall) :
    ∃ windows', (lib.calls policy loader asked).Deviceless windows'
      (n + initializations windows asked) := by
  induction asked generalizing lib windows n with
  | nil => exact ⟨windows, h⟩
  | cons c asked ih =>
      obtain ⟨windows', hfirst, hsplit⟩ := h.call policy hdevices c
      obtain ⟨windows'', hrest⟩ := ih hfirst
      rw [Nat.add_assoc, ← hsplit] at hrest
      exact ⟨windows'', hrest⟩

/-- A new library has no devices and no windows, and was not initialised yet. -/
theorem deviceless_new : ({} : Library).Deviceless [] 0 :=
  ⟨rfl, rfl, rfl, fun id => by simp [hasWindow]⟩

end

/-- **Without a physical device** the library is never initialised: each call that needs a device
creates two instances more, which nothing destroys, and no device is ever created. -/
theorem instances_without_devices (policy : RoomPolicy) (loader : VulkanLoader)
    (hdevices : loader.physicalDevices = []) (asked : List LibraryCall) :
    let lib := ({} : Library).calls policy loader asked
    lib.instances.length = 2 * initializations [] asked ∧ lib.gpus = [] ∧
      lib.initialized = false := by
  obtain ⟨windows, h⟩ := deviceless_new.calls policy hdevices asked
  rw [Nat.zero_add] at h
  exact ⟨h.instances, h.gpus, by simp [Library.initialized, h.devices]⟩

/-- Two queues are asked for and a window is added twice: there are eight instances, for four
initialisations. -/
theorem instances_without_devices_four :
    let lib := ({} : Library).calls .exact {}
      [.graphicsQueue 0, .computeQueue 0, .addWindow 1, .addWindow 1]
    lib.instances.length =
        2 * initializations [] [.graphicsQueue 0, .computeQueue 0, .addWindow 1, .addWindow 1] ∧
      lib.gpus = [] ∧ lib.initialized = false :=
  instances_without_devices .exact {} rfl _

/-! ## Allocations -/

/-- Whether some calls have created a device: there is a physical one, and a call that
initialises. -/
def Created (loader : VulkanLoader) (asked : List LibraryCall) : Prop :=
  loader.physicalDevices ≠ [] ∧ ∃ c ∈ asked, c.initializes = true

/-- Among some calls there is no call that initialises, or there is a first one. -/
theorem split_initializes (asked : List LibraryCall) :
    (∀ c ∈ asked, c.initializes = false) ∨
      ∃ before c after, asked = before ++ c :: after ∧
        (∀ b ∈ before, b.initializes = false) ∧ c.initializes = true := by
  induction asked with
  | nil => simp
  | cons c asked ih =>
      cases hc : c.initializes with
      | true => exact Or.inr ⟨[], c, asked, rfl, by simp, hc⟩
      | false =>
          rcases ih with hnone | ⟨before, d, after, rfl, hbefore, hd⟩
          · exact Or.inl (List.forall_mem_cons.mpr ⟨hc, hnone⟩)
          · exact Or.inr ⟨c :: before, d, after, rfl, List.forall_mem_cons.mpr ⟨hc, hbefore⟩, hd⟩

/-- A device that is looked up is a logical one exactly when one was created. -/
theorem device_iff_created (policy : RoomPolicy) (loader : VulkanLoader)
    (asked : List LibraryCall) (gpu : Nat) :
    let lib := ({} : Library).calls policy loader asked
    (lib.deviceAt (lib.device gpu).2).gpu ≠ none ↔ Created loader asked := by
  intro lib
  by_cases hdevices : loader.physicalDevices = []
  · obtain ⟨windows, h⟩ := deviceless_new.calls policy hdevices asked
    have hnone := (h.device gpu).2
    refine iff_of_false ?_ fun hcreated => hcreated.1 hdevices
    rw [show (lib.device gpu).2 = none from hnone]
    exact fun hgpu => hgpu rfl
  -- without a call that initialises the dummy is found, and a device otherwise
  rcases split_initializes asked with hnone | ⟨before, c, after, rfl, hbefore, hc⟩
  · obtain ⟨notFound, h⟩ := calls_configuring policy loader {} [] hnone
    have hlib : lib = configuring (configured asked) notFound := h
    refine iff_of_false ?_ ?_
    · rw [hlib]
      exact fun hgpu => hgpu rfl
    · rintro ⟨-, c, hmem, hc⟩
      rw [hnone c hmem] at hc
      cases hc
  · have h := running_calls policy hdevices hbefore hc after
    refine iff_of_true ?_ ⟨hdevices, c, by simp, hc⟩
    -- every device of the library is a logical one
    have hall : ∀ device ∈ lib.devices, device.gpu ≠ none := by
      intro device hmem hgpu
      have hmap : device.gpu ∈ lib.devices.map (·.gpu) := List.mem_map_of_mem hmem
      rw [show lib.devices.map (·.gpu) = lib.gpus.map some from h.gpus, hgpu] at hmap
      simp at hmap
    have hnonempty : lib.devices ≠ [] := h.nonempty
    rw [Library.device]
    split
    · next hlt =>
      have hmem : lib.devices[gpu] ∈ lib.devices := List.getElem_mem hlt
      simpa [deviceAt, List.getElem?_eq_getElem hlt] using hall _ hmem
    · have hfirst : 0 < lib.devices.length := List.length_pos_iff.mpr hnonempty
      have hmem : lib.devices[0] ∈ lib.devices := List.getElem_mem hfirst
      simpa [deviceAt, hnonempty, List.getElem?_eq_getElem hfirst] using hall _ hmem

/-- All memory was allocated on a logical device, and none on the dummy. -/
def Placed (lib : Library) : Prop := ∀ allocation ∈ lib.allocations, allocation.device ≠ none

/-- Initialising the library allocates no memory. -/
theorem allocations_initializeLibrary (policy : RoomPolicy) (loader : VulkanLoader)
    (lib : Library) : (lib.initializeLibrary policy loader).allocations = lib.allocations := by
  rw [initializeLibrary]
  split <;> rfl

/-- Looking a device up allocates no memory and makes no device. -/
theorem device_frame (lib : Library) (id : Nat) :
    (lib.device id).1.allocations = lib.allocations ∧
      (lib.device id).1.devices = lib.devices := by
  rw [Library.device]
  split <;> exact ⟨rfl, rfl⟩

/-- A request for a queue allocates no memory. -/
theorem allocations_queue (lib : Library) (gpu : Nat)
    (request : DeviceData → DeviceData × Option QueueData) :
    (lib.queue gpu request).1.allocations = lib.allocations := by
  have hframe := (lib.device_frame gpu).1
  unfold Library.queue
  generalize lib.device gpu = found at hframe ⊢
  obtain ⟨lib', index⟩ := found
  cases index <;> exact hframe

/-- **Step lemma.** Only `createMemory` allocates, on the device that is there before it. -/
theorem placed_call (policy : RoomPolicy) (loader : VulkanLoader) (lib : Library)
    (c : LibraryCall) :
    (lib.call policy loader c).Placed ↔ lib.Placed ∧
      ∀ gpu size flags filter, c = .createMemory gpu size flags filter →
        (lib.deviceAt (lib.device gpu).2).gpu ≠ none := by
  have hinit := allocations_initializeLibrary policy loader lib
  have hsame : ∀ {after : Library}, after.allocations = lib.allocations →
      (after.Placed ↔ lib.Placed) := by
    intro after heq
    rw [Placed, heq, Placed]
  cases c with
  | createMemory gpu size flags filter =>
      have hallocations : ∃ memoryTypeIndex, (lib.call policy loader
          (.createMemory gpu size flags filter)).allocations =
          lib.allocations ++ [⟨(lib.deviceAt (lib.device gpu).2).gpu, size, memoryTypeIndex⟩] := by
        -- the function looks the device up twice, then it initialises the library
        have hlooked : (((lib.device gpu).1.device gpu).1.initializeLibrary policy
            loader).allocations = lib.allocations := by
          rw [allocations_initializeLibrary, (device_frame _ gpu).1, (device_frame lib gpu).1]
        have hdevice : (lib.device gpu).1.deviceAt (lib.device gpu).2 =
            lib.deviceAt (lib.device gpu).2 := by
          cases (lib.device gpu).2 with
          | none => rfl
          | some index => rw [deviceAt, deviceAt, (device_frame lib gpu).2]
        rw [← hlooked, ← hdevice]
        exact ⟨_, by simp only [Library.call, Library.createMemory]; rfl⟩
      obtain ⟨memoryTypeIndex, hallocations⟩ := hallocations
      rw [Placed, hallocations, List.forall_mem_append, List.forall_mem_singleton]
      refine and_congr_right fun _ => ⟨?_, fun h => h gpu size flags filter rfl⟩
      rintro h _ _ _ _ ⟨⟩
      exact h
  | addWindow id =>
      rw [hsame]
      · simp
      · simp only [Library.call, Library.addWindow]
        split
        · rfl
        · split <;> exact hinit
  | presentQueue window gpu =>
      rw [hsame]
      · simp
      · simp only [Library.call, Library.presentQueue]
        split
        · exact hinit
        · exact (allocations_queue _ gpu _).trans hinit
  | graphicsQueue gpu | computeQueue gpu =>
      refine (hsame ?_).trans (by simp)
      exact (allocations_queue _ gpu _).trans hinit
  | useDevice gpu =>
      refine (hsame ?_).trans (by simp)
      exact (device_frame _ gpu).1.trans hinit
  | deviceSynchronize gpu =>
      refine (hsame ?_).trans (by simp)
      exact (device_frame lib gpu).1
  | initializeLibrary =>
      refine (hsame ?_).trans (by simp)
      exact hinit
  | setApplicationName name | addInstanceExtension name | addDeviceExtension name
  | addValidationLayer name =>
      refine (hsame ?_).trans (by simp)
      rfl

/-- **When memory is allocated on a device.** In every run of calls, all memory that `createMemory`
allocates is allocated on a device that was created, exactly when before each call of it there is
another call that initialised the library, on a system with a physical device: the function looks
its device up before it initialises the library itself. -/
theorem allocations_iff (policy : RoomPolicy) (loader : VulkanLoader) (asked : List LibraryCall) :
    (({} : Library).calls policy loader asked).Placed ↔
      ∀ before gpu size flags filter after,
        asked = before ++ .createMemory gpu size flags filter :: after →
          Created loader before := by
  induction asked using List.reverseRecOn with
  | nil => simp [Placed, Library.calls]
  | append_singleton asked c ih =>
      have hcalls : ({} : Library).calls policy loader (asked ++ [c]) =
          (({} : Library).calls policy loader asked).call policy loader c := by
        simp [Library.calls]
      rw [hcalls, placed_call, ih]
      simp only [device_iff_created policy loader asked]
      constructor
      · rintro ⟨hearlier, hlast⟩ before gpu size flags filter after heq
        -- the call of `createMemory` is the last one, or one of those before it
        rcases List.eq_nil_or_concat after with rfl | ⟨after, last, rfl⟩
        · obtain ⟨rfl, hc⟩ := List.append_inj' heq rfl
          exact hlast gpu size flags filter (List.singleton_inj.mp hc)
        · have hsplit : asked ++ [c] =
              (before ++ .createMemory gpu size flags filter :: after) ++ [last] := by
            simpa using heq
          exact hearlier before gpu size flags filter after (List.append_inj' hsplit rfl).1
      · intro h
        refine ⟨?_, ?_⟩
        · rintro before gpu size flags filter after rfl
          exact h before gpu size flags filter (after ++ [c]) (by simp)
        · rintro gpu size flags filter rfl
          exact h asked gpu size flags filter [] rfl

end Library

end Nyx
