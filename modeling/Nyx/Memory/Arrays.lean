import Mathlib.Algebra.Group.Nat.Defs
import Nyx.Memory.Buffers

/-! # Arrays

`nyx::Array` holds the number of its elements and the buffer they are in. The type of the elements
enters by its size.

* **`ArrayData`** — the fields of the source.
* **`ArrayData.initializeOn`**, **`ArrayData.initializePrealloc`**,
  **`ArrayData.initializePreallocFlags`** — the forms of `initialize`.
* **`ArrayCall`**, **`ArrayCall.bufferSize`** — a call of one of them, and the size of the buffer it
  makes.
* **`InitializedArray`** — an array that such a call was made on. -/

namespace Nyx

/-- `nyx::Array`: a number of elements, and the buffer that is to hold them. -/
structure ArrayData where
  count : UInt32 := 0
  arrBuffer : BufferData := {}
  deriving DecidableEq, Repr

/-- `size * sizeof( Type )`, narrowed to `unsigned` by the call it is an argument of. -/
def elementBytes (typeSize : Nat) (size : UInt32) : UInt32 := .ofNat (size.toNat * typeSize)

namespace ArrayData

variable (required : Nat) (typeSize : Nat) (array : ArrayData) (registry : Registry)

/-- `Array::initialize( device, size, host_alloc )`; flags after these only say what the buffer is
used for. -/
def initializeOn (device size : UInt32) (hostAlloc : Bool) : ArrayData × Registry :=
  let (_, arrBuffer, registry) := array.arrBuffer.initializeOn required registry device
    (elementBytes typeSize size) hostAlloc
  (⟨size, arrBuffer⟩, registry)

/-- `Array::initialize( prealloc, size )`, which takes memory that is there instead of new one. -/
def initializePrealloc (prealloc : Memory) (size : UInt32) : Bool × ArrayData × Registry :=
  let (success, arrBuffer, registry) := array.arrBuffer.initializePrealloc required registry prealloc
    (elementBytes typeSize size)
  (success, ⟨size, arrBuffer⟩, registry)

/-- `Array::initialize( prealloc, size, array_flags )`. The buffer takes its size before its flags,
but is given the flags first: each is taken for the other. -/
def initializePreallocFlags (prealloc : Memory) (size arrayFlags : UInt32) :
    Bool × ArrayData × Registry :=
  let (success, arrBuffer, registry) := array.arrBuffer.initializePrealloc required registry prealloc
    arrayFlags
  (success, ⟨size, arrBuffer⟩, registry)

/-- `Array::size`: the number of elements that was asked for last. -/
def size : UInt32 := array.count

end ArrayData

/-- A call of one of the forms of `Array::initialize` that make a buffer. -/
inductive ArrayCall where
  | on (device size : UInt32) (hostAlloc : Bool)
  | prealloc (prealloc : Memory) (size : UInt32)
  | preallocFlags (prealloc : Memory) (size arrayFlags : UInt32)

namespace ArrayCall

/-- The array after the call, when Vulkan requires so much memory for the buffer. -/
def apply (required : Nat) (typeSize : Nat) (array : ArrayData) (registry : Registry) :
    ArrayCall → ArrayData
  | on device size hostAlloc =>
      (array.initializeOn required typeSize registry device size hostAlloc).1
  | prealloc memory size => (array.initializePrealloc required typeSize registry memory size).2.1
  | preallocFlags memory size arrayFlags =>
      (array.initializePreallocFlags required registry memory size arrayFlags).2.1

/-- The number of elements that is asked for, in any form. -/
def size : ArrayCall → UInt32
  | on _ size _ | prealloc _ size | preallocFlags _ size _ => size

/-- The size of the buffer that is made: the bytes of the elements, or all of the memory, or the
flags. -/
def bufferSize (typeSize : Nat) : ArrayCall → UInt32
  | on _ size _ => elementBytes typeSize size
  | prealloc memory size =>
      if elementBytes typeSize size = 0 then memory.size else elementBytes typeSize size
  | preallocFlags memory _ arrayFlags => if arrayFlags = 0 then memory.size else arrayFlags

variable (required : Nat) (typeSize : Nat) (array : ArrayData) (registry : Registry)
  (call : ArrayCall)

/-- After any form of `initialize` the array has the number of elements that was asked for. -/
@[simp] theorem size_apply : (call.apply required typeSize array registry).size = call.size := by
  cases call <;> rfl

/-- After any form of `initialize` the buffer has the size that follows from the arguments, with or
without success. -/
@[simp] theorem bufferSize_apply :
    (call.apply required typeSize array registry).arrBuffer.size = call.bufferSize typeSize := by
  cases call with
  | on device size hostAlloc => simp [apply, ArrayData.initializeOn, bufferSize]
  | prealloc memory size => simp [apply, ArrayData.initializePrealloc, bufferSize]
  | preallocFlags memory size arrayFlags =>
      simp [apply, ArrayData.initializePreallocFlags, bufferSize]

end ArrayCall

/-- An array of elements of the given size, after a call of `initialize`. -/
structure InitializedArray (typeSize : Nat) where
  array : ArrayData
  call : ArrayCall
  array_eq : ∃ required before registry, array = call.apply required typeSize before registry

namespace InitializedArray

variable {typeSize : Nat} (array : InitializedArray typeSize)

/-- `Array::size`: the number of elements that was asked for last. -/
def size : UInt32 := array.array.size

/-- The size of the `vk::Buffer` of the array in bytes. -/
def bufferSize : Nat := array.array.arrBuffer.size.toNat

theorem size_eq : array.size = array.call.size := by
  obtain ⟨required, before, registry, h⟩ := array.array_eq
  rw [size, h, ArrayCall.size_apply]

theorem bufferSize_eq : array.bufferSize = (array.call.bufferSize typeSize).toNat := by
  obtain ⟨required, before, registry, h⟩ := array.array_eq
  rw [bufferSize, h, ArrayCall.bufferSize_apply]

/-- The size of a buffer is an `unsigned`, so it is below `2 ^ 32`. -/
theorem bufferSize_lt : array.bufferSize < 2 ^ 32 := UInt32.toNat_lt _

/-- An array with memory of its own has a buffer of all its elements, if an `unsigned` counts their
bytes. -/
theorem bufferSize_of_lt {array : InitializedArray typeSize} {device size : UInt32}
    {hostAlloc : Bool} (hcall : array.call = .on device size hostAlloc)
    (h : array.size.toNat * typeSize < 2 ^ 32) :
    array.bufferSize = array.size.toNat * typeSize := by
  have hsize : array.size = size := by rw [array.size_eq, hcall, ArrayCall.size]
  rw [array.bufferSize_eq, hcall, ArrayCall.bufferSize, elementBytes, ← hsize]
  exact UInt32.toNat_ofNat_of_lt' h

end InitializedArray

end Nyx
