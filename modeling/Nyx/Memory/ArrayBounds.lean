import Nyx.Memory.Arrays
import Nyx.Memory.HandleLives

/-! # The elements of an array and its bytes

An array counts its elements, and its buffer says how many bytes Vulkan required for it, narrowed to
`unsigned`. The two are set by different calls: an initialisation that fails changes both, and a
buffer that is taken over changes the bytes only.

* **`ArrayData.byteSize`**, **`ArrayData.adopt`** — more of the source.
* **`ArrayOp`** — what may be called on an array.
* **`ArrayOp.Promised`** — Vulkan requires no fewer bytes than it is asked for.
* **`ArrayData.Stored`** — the elements of an array that is initialised lie in its bytes.
* **`ArrayCall.Stores`** — the condition on an initialisation.
* **`ArrayData.stored_iff`** — the elements lie in the bytes along exactly the calls that do. -/

namespace Nyx

open Foundations

namespace BufferData

/-- `Buffer::size`, the size of what Vulkan requires, narrowed to `unsigned`. -/
def requiredSize (data : BufferData) : UInt32 := .ofNat data.requirements

/-- A buffer asks Vulkan what it requires, with or without success. -/
@[simp] theorem requiredSize_initializeOn (required : Nat) (data : BufferData)
    (registry : Registry) (gpu size : UInt32) (hostLocal : Bool) :
    (data.initializeOn required registry gpu size hostLocal).2.1.requiredSize =
      .ofNat required := by
  simp only [initializeOn]
  -- whether the memory was given, and whether it is large enough
  split <;> split <;> rfl

end BufferData

namespace ArrayData

/-- `Array::initialized`: whether the buffer of the array is. -/
def initialized (array : ArrayData) : Bool := array.arrBuffer.initialized

/-- `Array::byteSize`: the number of bytes that the buffer of the array was asked for. -/
def byteSize (array : ArrayData) : UInt32 := array.arrBuffer.requiredSize

/-- `Array::initialize( buffer )`; the count stays what it was. -/
def adopt (array : ArrayData) (buffer : BufferData) : ArrayData :=
  { array with arrBuffer := buffer }

/-- Once the array is initialised, all elements of the given size lie in its bytes. -/
def Stored (typeSize : Nat) (array : ArrayData) : Prop :=
  array.initialized = true → array.size.toNat * typeSize ≤ array.byteSize.toNat

end ArrayData

/-! ## Calls -/

/-- A call on an array that changes its count or its buffer. -/
inductive ArrayOp
  /-- A form of `initialize` that makes a buffer, for which Vulkan requires so much memory, after the
  handles made before. -/
  | make (call : ArrayCall) (required : Nat) (registry : Registry)
  /-- `Array::initialize( buffer )`. -/
  | adopt (buffer : BufferData)
  /-- `Array::reset`. -/
  | reset

namespace ArrayCall

variable (required : Nat) (typeSize : Nat) (array : ArrayData) (registry : Registry)
  (call : ArrayCall)

/-- The buffer that is initialised, with the memory that it is given. -/
def given : ArrayCall → BufferData
  | on _ _ _ => array.arrBuffer
  | prealloc memory _ | preallocFlags memory _ _ =>
      { array.arrBuffer with internalMemory := memory, preallocated := true }

/-- The condition on an initialisation. When the array is initialised by it, or was before, an
`unsigned` counts the bytes of the elements, and what Vulkan requires for as many bytes is not
narrowed to fewer. In the form with flags, where the flags are taken for a number of bytes, what
Vulkan requires for that is as much as the elements need. -/
def Stores (call : ArrayCall) : Prop :=
  (call.given array).HasRoom required →
    match call with
    | on _ size _ | prealloc _ size =>
        size.toNat * typeSize < 2 ^ 32 ∧
          (required < 2 ^ 32 ∨ size.toNat * typeSize ≤ required % 2 ^ 32)
    | preallocFlags _ size _ => size.toNat * typeSize ≤ required % 2 ^ 32

/-- All forms of `Array::initialize` come down to one form of `Buffer::initialize`, on the buffer
with the memory that it is given. -/
theorem arrBuffer_apply : ∃ gpu hostLocal,
    (call.apply required typeSize array registry).arrBuffer =
      ((call.given array).initializeOn required registry gpu (call.bufferSize typeSize)
        hostLocal).2.1 := by
  cases call with
  | on device size hostAlloc => exact ⟨device, hostAlloc, rfl⟩
  | prealloc memory size => exact ⟨memory.device, false, rfl⟩
  | preallocFlags memory size arrayFlags => exact ⟨memory.device, false, rfl⟩

/-- An array is stored after a call when its elements lie in what Vulkan requires, narrowed to
`unsigned`, or it is not initialised. -/
theorem stored_apply_iff : (call.apply required typeSize array registry).Stored typeSize ↔
    ((call.given array).HasRoom required → call.size.toNat * typeSize ≤ required % 2 ^ 32) := by
  obtain ⟨gpu, hostLocal, hbuffer⟩ := call.arrBuffer_apply required typeSize array registry
  obtain ⟨-, hinit, -⟩ := (call.given array).initializeOn_spec required registry gpu
    (call.bufferSize typeSize) hostLocal
  rw [ArrayData.Stored, ArrayData.initialized, ArrayData.byteSize, hbuffer, hinit, size_apply,
    BufferData.requiredSize_initializeOn, UInt32.toNat_ofNat']

/-- The forms without flags ask for as many bytes as the elements need, if an `unsigned` counts
them. -/
theorem le_toNat_elementBytes {size : UInt32} (h : size.toNat * typeSize < 2 ^ 32)
    (memory : Memory) :
    size.toNat * typeSize ≤ (elementBytes typeSize size).toNat ∧
      size.toNat * typeSize ≤ (if elementBytes typeSize size = 0 then memory.size
        else elementBytes typeSize size).toNat := by
  have hbytes : (elementBytes typeSize size).toNat = size.toNat * typeSize :=
    UInt32.toNat_ofNat_of_lt' h
  refine ⟨Nat.le_of_eq hbytes.symm, ?_⟩
  by_cases hzero : elementBytes typeSize size = 0
  · rw [hzero] at hbytes
    rw [← hbytes]
    exact Nat.zero_le _
  · rw [if_neg hzero]
    exact Nat.le_of_eq hbytes.symm

/-- A number is at most what is narrowed of a larger one when it needs no narrowing itself, and the
larger one none, or not below it. -/
theorem le_mod_iff {n asked required : Nat} (hasked : asked ≤ required)
    (h : n < 2 ^ 32 → n ≤ asked) :
    n ≤ required % 2 ^ 32 ↔ n < 2 ^ 32 ∧ (required < 2 ^ 32 ∨ n ≤ required % 2 ^ 32) := by
  omega

/-- **A call** stores the elements exactly when it meets the condition. -/
theorem stored_apply_iff_stores (hrequired : (call.bufferSize typeSize).toNat ≤ required) :
    (call.apply required typeSize array registry).Stored typeSize ↔
      call.Stores required typeSize array := by
  rw [stored_apply_iff]
  refine imp_congr_right fun _ => ?_
  cases call with
  | on device size hostAlloc =>
      exact le_mod_iff hrequired fun h => (le_toNat_elementBytes typeSize h {}).1
  | prealloc memory size =>
      exact le_mod_iff hrequired fun h => (le_toNat_elementBytes typeSize h memory).2
  | preallocFlags memory size arrayFlags => exact Iff.rfl

end ArrayCall

/-- What Vulkan promises of its answer: it requires at least the size that it is asked for. -/
def ArrayOp.Promised (typeSize : Nat) : ArrayOp → Prop
  | .make call required _ => (call.bufferSize typeSize).toNat ≤ required
  | .adopt _ | .reset => True

instance (typeSize : Nat) : (op : ArrayOp) → Decidable (op.Promised typeSize)
  | .make _ _ _ => inferInstanceAs (Decidable (_ ≤ _))
  | .adopt _ | .reset => isTrue trivial

namespace ArrayData

variable (typeSize : Nat)

/-- The array after a call; none of the calls fails. -/
def apply (array : ArrayData) : ArrayOp → ArrayData
  | .make call required registry => call.apply required typeSize array registry
  | .adopt buffer => array.adopt buffer
  -- the handles are released, and stay where they are with the count and the flag
  | .reset => array

/-- One call of a run, as a step that cannot fail. -/
def step (array : ArrayData) (op : ArrayOp) : Except Empty ArrayData :=
  .ok (array.apply typeSize op)

/-- The elements of the array are stored after the call. -/
def EndsStored (array : ArrayData) (op : ArrayOp) : Prop :=
  (array.apply typeSize op).Stored typeSize

/-- An initialisation that makes a buffer stores the elements, and a buffer that is taken over and
was initialised has as many bytes as the elements of the array before need. -/
def Stores (array : ArrayData) : ArrayOp → Prop
  | .make call required _ => call.Stores required typeSize array
  | .adopt buffer =>
      buffer.initialized = true → array.size.toNat * typeSize ≤ buffer.requiredSize.toNat
  | .reset => True

variable {typeSize}

/-- A call leaves the elements stored exactly when it meets the condition. -/
theorem endsStored_iff {array : ArrayData} (h : array.Stored typeSize) {op : ArrayOp}
    (hop : op.Promised typeSize) :
    array.EndsStored typeSize op ↔ array.Stores typeSize op := by
  cases op with
  | make call required registry =>
      exact call.stored_apply_iff_stores required typeSize array registry hop
  | adopt buffer => exact Iff.rfl
  | reset => exact iff_of_true h trivial

/-- **The bytes of an array.** Along any calls, an array that is initialised has as many bytes as
its elements need exactly when the calls all store them. -/
theorem stored_iff (ops : List ArrayOp) (hops : ∀ op ∈ ops, op.Promised typeSize) :
    StepsMeet (step typeSize) (EndsStored typeSize) {} ops ↔
      StepsMeet (step typeSize) (Stores typeSize) {} ops := by
  have hstart : ({} : ArrayData).Stored typeSize := fun hinit => by cases hinit
  -- both conditions may use the promise of the call
  refine (stepsMeet_and_iff hops).symm.trans (Iff.trans ?_ (stepsMeet_and_iff hops))
  refine stepsMeet_congr_of_next (Stored typeSize) (fun _ _ => rfl)
    (fun _ op h => and_congr_right (endsStored_iff h)) ?_ hstart
  intro array op h hstores
  exact (endsStored_iff h hstores.1).mpr hstores.2

/-- Four elements of four bytes, on memory of their own, of which Vulkan requires sixteen bytes. -/
theorem stored_iff_four :
    StepsMeet (step 4) (EndsStored 4) {} [.make (.on 0 4 false) 16 {}] ↔
      StepsMeet (step 4) (Stores 4) {} [.make (.on 0 4 false) 16 {}] :=
  stored_iff _ (by decide)

/-- Four elements of four bytes are not stored in a buffer of eight bytes that is taken over. -/
theorem not_stored : ¬ ∀ (typeSize : Nat) (ops : List ArrayOp), 1 ≤ typeSize →
    (∀ op ∈ ops, op.Promised typeSize) →
      StepsMeet (step typeSize) (EndsStored typeSize) {} ops := by
  intro h
  let buffer := (({} : BufferData).initializeOn 8 {} 0 8 false).2.1
  have hops := h 4 [.make (.on 0 4 false) 16 {}, .adopt buffer] (by decide) (by decide)
  exact absurd ((hops.2 _ rfl).1 (by decide)) (by decide)

end ArrayData

end Nyx
