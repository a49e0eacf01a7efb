import Nyx.Memory.Memories

/-! # Buffers

`vkg::Buffer` makes a `vk::Buffer` and binds it to device memory: to memory of its own, or to a
`nyx::Memory` it is given, at the offset of that. How much memory the `vk::Buffer` requires is for
Vulkan to say, at every call anew: the answer is an argument.

* **`BufferData`** — the fields of the source, and what the `vk::Buffer` was bound to.
* **`BufferData.initializeOn`**, **`BufferData.initializePrealloc`** — the forms of `initialize`.
* **`BufferData.reset`**. -/

namespace Nyx

open Foundations

/-- `BufferData`: a `vk::Buffer`, its memory, and what both were asked for. -/
structure BufferData where
  internalMemory : Memory := {}
  deviceId : UInt32 := 0
  size : UInt32 := 0
  requirements : Nat := 0
  buffer : Option Handle := none
  preallocated : Bool := false
  initialized : Bool := false
  /-- The device memory and the offset the buffer was bound to. -/
  bound : Option (Option Handle × UInt32) := none
  deriving DecidableEq, Repr

namespace BufferData

/-- `Buffer::initialize( gpu, size, host_local )`, and whether it succeeded. What Vulkan answers to
`getBufferMemoryRequirements` is `required`; as the size of the memory it is narrowed to
`unsigned`. -/
def initializeOn (required : Nat) (data : BufferData) (registry : Registry)
    (gpu size : UInt32) (hostLocal : Bool) : Bool × BufferData × Registry :=
  let (buffer, registry) := registry.create
  let data := { data with
    deviceId := gpu, size := size, buffer := some buffer, requirements := required,
    bound := none }
  let (internalMemory, registry) :=
    if data.preallocated then (data.internalMemory, registry)
    else data.internalMemory.initializeOn registry gpu (.ofNat required) hostLocal
  let data := { data with internalMemory := internalMemory }
  let neededSize := internalMemory.size - internalMemory.offset
  if required ≤ neededSize.toNat then
    (true, { data with
      bound := some (internalMemory.memoryPtr, internalMemory.offset), initialized := true },
      registry)
  else (false, data, registry)

/-- `Buffer::initialize( prealloc, size )`, which takes memory that is there, and all of it when no
size is given. -/
def initializePrealloc (required : Nat) (data : BufferData) (registry : Registry)
    (prealloc : Memory) (size : UInt32) : Bool × BufferData × Registry :=
  let data := { data with internalMemory := prealloc, preallocated := true }
  data.initializeOn required registry prealloc.device
    (if size = 0 then prealloc.size else size) false

/-- `Buffer::reset`. The handle and the flag stay what they are. -/
def reset (data : BufferData) (registry : Registry) : Registry :=
  let registry := registry.destroy data.buffer
  if !data.preallocated && data.initialized then data.internalMemory.deallocate registry
  else registry

/-- After `initialize` the buffer has the size that was asked for, with or without success. -/
@[simp] theorem size_initializeOn (required : Nat) (data : BufferData) (registry : Registry)
    (gpu size : UInt32) (hostLocal : Bool) :
    (data.initializeOn required registry gpu size hostLocal).2.1.size = size := by
  simp only [initializeOn]
  -- whether the memory was given, and whether it is large enough
  split <;> split <;> rfl

/-- A buffer on memory it was given has the size that was asked for, or all of the memory. -/
@[simp] theorem size_initializePrealloc (required : Nat) (data : BufferData)
    (registry : Registry) (prealloc : Memory) (size : UInt32) :
    (data.initializePrealloc required registry prealloc size).2.1.size
      = if size = 0 then prealloc.size else size := by
  simp [initializePrealloc]

/-- A buffer on memory it was given is bound to that, at its offset. -/
theorem bound_initializeOn {required : Nat} {data data' : BufferData}
    {registry registry' : Registry} {gpu size : UInt32} {hostLocal : Bool}
    (hpre : data.preallocated = true)
    (h : data.initializeOn required registry gpu size hostLocal = (true, data', registry')) :
    data'.bound = some (data.internalMemory.memoryPtr, data.internalMemory.offset) := by
  simp only [initializeOn, hpre, if_true] at h
  split at h
  · cases h
    rfl
  · cases h

/-- The byte at a position of the buffer, in the device memory that it was bound to. -/
def byte (data : BufferData) (heap : DeviceHeap) (i : Nat) : Option UInt8 :=
  match data.bound with
  | some (some handle, offset) => some ((heap handle).byte (offset.toNat + i))
  | _ => none

end BufferData

end Nyx
