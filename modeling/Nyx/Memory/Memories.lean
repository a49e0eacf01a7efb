import Nyx.Foundations.Blocks

/-! # Memory on the GPU and the host

`nyx::Memory` holds a `vk::DeviceMemory`, maybe a host block, and an offset into the device memory
that `operator+` sets.

* **`Handle`**, **`Registry`** — the handles and host blocks an object made, and those that were
  destroyed.
* **`Memory`** — the fields of the source; copies share their handles.
* **`Memory.initializeOn`**, **`Memory.deallocate`** — making and releasing.
* **`Memory.copyToDevice`** — a transfer from the host, which maps the device memory from
  `dst_offset` on. -/

namespace Nyx

open Foundations

/-! ## Handles -/

/-- A Vulkan handle or a host block: the `n`-th one made by the object in question, or one that it
was given. -/
inductive Handle
  | own (n : Nat)
  | foreign (n : Nat)
  deriving DecidableEq, Repr

/-- What an object made so far, and what was destroyed, in order. -/
structure Registry where
  created : Nat := 0
  destroyed : List Handle := []
  deriving DecidableEq, Repr

namespace Registry

/-- Make a handle, numbered by how many were made before. -/
def create (registry : Registry) : Handle × Registry :=
  (.own registry.created, { registry with created := registry.created + 1 })

/-- Destroy what a handle refers to; a null handle refers to nothing. -/
def destroy (registry : Registry) : Option Handle → Registry
  | none => registry
  | some handle => { registry with destroyed := registry.destroyed ++ [handle] }

/-- The handle was made by the object and has not been destroyed since. -/
def Live (registry : Registry) : Handle → Prop
  | .own n => n < registry.created ∧ .own n ∉ registry.destroyed
  | .foreign _ => False

end Registry

/-! ## Memory objects -/

/-- `nyx::Memory`: a block of device memory, the host block beside it, and where in it the object
begins. -/
structure Memory where
  /-- The host block. -/
  data : Option Handle := none
  byteSize : UInt32 := 0
  memOffset : UInt32 := 0
  gpu : UInt32 := 0
  memoryPtr : Option Handle := none
  deriving DecidableEq, Repr

/-- What the device memories hold, by their handles. -/
abbrev DeviceHeap := Handle → Block UInt8

/-- `Vulkan::copyToDevice`: the bytes `[src_offset, src_offset + amt)` behind the host pointer go to
the device memory from `dst_offset` on. -/
def Vulkan.copyToDevice (heap : DeviceHeap) (src : Nat → UInt8) (dst : Option Handle)
    (amt srcOffset dstOffset : UInt32) : DeviceHeap :=
  match dst with
  | none => heap
  | some handle =>
      Function.update heap handle ((heap handle).write dstOffset.toNat
        ((List.range amt.toNat).map fun i => src (srcOffset.toNat + i)))

namespace Memory

/-- `Memory::size`: the number of bytes that the memory was asked for. -/
def size (memory : Memory) : UInt32 := memory.byteSize

/-- `Memory::offset`: where in the block of the device the object begins. -/
def offset (memory : Memory) : UInt32 := memory.memOffset

/-- `Memory::device`: the device that the memory is on. -/
def device (memory : Memory) : UInt32 := memory.gpu

/-- `Memory::initialized`: whether there is a block of the device. -/
def initialized (memory : Memory) : Bool := memory.memoryPtr.isSome

/-- `Memory::operator+`: the same memory, from an offset further on, but not past its end. -/
def add (memory : Memory) (offset : UInt32) : Memory :=
  let nextOffset := memory.memOffset + offset
  { memory with memOffset := if nextOffset ≥ memory.size then memory.size else nextOffset }

instance : HAdd Memory UInt32 Memory := ⟨add⟩

/-- `Memory::initialize`; its forms differ in the type of device memory they ask for. Without
`host_alloc` the host block stays what it was. -/
def initializeOn (memory : Memory) (registry : Registry) (gpu sz : UInt32) (hostAlloc : Bool) :
    Memory × Registry :=
  let (memoryPtr, registry) := registry.create
  let memory := { memory with byteSize := sz, gpu := gpu, memoryPtr := some memoryPtr }
  if hostAlloc then
    let (data, registry) := registry.create
    ({ memory with data := some data }, registry)
  else (memory, registry)

/-- `Memory::deallocate`. Neither pointer is set to null. -/
def deallocate (memory : Memory) (registry : Registry) : Registry :=
  (registry.destroy memory.data).destroy memory.memoryPtr

/-- `Memory::copyToDevice`: the amount is cut to the size of the memory. -/
def copyToDevice (memory : Memory) (heap : DeviceHeap) (src : Nat → UInt8)
    (byteAmt srcOffset dstOffset : UInt32) : DeviceHeap :=
  let amt := if byteAmt > memory.byteSize then memory.byteSize else byteAmt
  Vulkan.copyToDevice heap src memory.memoryPtr amt srcOffset dstOffset

end Memory

end Nyx
