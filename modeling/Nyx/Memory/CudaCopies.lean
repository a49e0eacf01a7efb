import Nyx.Foundations.StepMachines
import Nyx.Memory.RepeatedOffsets

/-! # Copies to CUDA memory

The handle of a CUDA memory is the device pointer itself. `Cuda::copyToDevice` gets it by reference
and advances it to where the copy goes, where `Cuda::copyToHost` advances a pointer of its own.

* **`CudaRuntime`** — the allocations, the bytes behind device addresses and the calls of
  `cudaFree`.
* **`Cuda.createMemory`**, **`Cuda.copyToDevice`**, **`Cuda.free`** — the operations of the source.
* **`CudaMemory`**, **`CudaState`** — `nyx::Memory` with a device pointer, and what it works on.
* **`CudaState.Keeps`** — a copy writes its range of the memory and leaves the handle alone.
* **`CudaState.freed_run`** — `deallocate` frees the handle, advanced by all the offsets.
* **`CudaState.keeps_iff`** — copies keep the handle exactly when none has a destination offset. -/

namespace Nyx

open Foundations

/-! ## The CUDA runtime -/

/-- What `cudaMalloc` returned, and for how many bytes. -/
structure Allocation where
  base : Nat
  size : Nat
  deriving DecidableEq, Repr

/-- The CUDA runtime, as far as the library uses it: what is allocated, and what is in it. -/
structure CudaRuntime where
  device : UInt32 := 0
  allocations : List Allocation := []
  /-- The bytes behind device addresses. -/
  bytes : Nat → UInt8
  /-- The pointers that `cudaFree` was called with, in order. -/
  freed : List Nat := []

namespace CudaRuntime

/-- `cudaSetDevice`, after which the runtime works on this device. -/
def setDevice (runtime : CudaRuntime) (device : UInt32) : CudaRuntime :=
  { runtime with device := device }

/-- `cudaMalloc`, when it finds room at this address: there is an allocation more. -/
def malloc (runtime : CudaRuntime) (address size : Nat) : CudaRuntime :=
  { runtime with allocations := ⟨address, size⟩ :: runtime.allocations }

/-- All of the bytes belong to one allocation, as `cudaMemcpy` needs it. -/
def Allocated (runtime : CudaRuntime) (ptr amt : Nat) : Prop :=
  ∃ allocation ∈ runtime.allocations,
    allocation.base ≤ ptr ∧ ptr + amt ≤ allocation.base + allocation.size

instance (runtime : CudaRuntime) (ptr amt : Nat) : Decidable (runtime.Allocated ptr amt) :=
  inferInstanceAs (Decidable (∃ _ ∈ _, _ ∧ _))

/-- `cudaMemcpy` to the device; it fails when the bytes are not allocated. -/
def memcpy (runtime : CudaRuntime) (dst : Nat) (src : Nat → UInt8) (amt : Nat) : CudaRuntime :=
  if runtime.Allocated dst amt then
    { runtime with
      bytes := fun i => if dst ≤ i ∧ i < dst + amt then src (i - dst) else runtime.bytes i }
  else runtime

/-- `cudaFree`; it fails when no allocation starts there. -/
def free (runtime : CudaRuntime) (ptr : Nat) : CudaRuntime :=
  { runtime with
    allocations := runtime.allocations.filter fun allocation => allocation.base ≠ ptr
    freed := runtime.freed ++ [ptr] }

/-- A copy allocates nothing, whatever its addresses are. -/
@[simp] theorem allocations_memcpy (runtime : CudaRuntime) (dst : Nat) (src : Nat → UInt8)
    (amt : Nat) : (runtime.memcpy dst src amt).allocations = runtime.allocations := by
  unfold memcpy
  split <;> rfl

/-- A copy frees nothing, whatever its addresses are. -/
@[simp] theorem freed_memcpy (runtime : CudaRuntime) (dst : Nat) (src : Nat → UInt8) (amt : Nat) :
    (runtime.memcpy dst src amt).freed = runtime.freed := by
  unfold memcpy
  split <;> rfl

end CudaRuntime

/-! ## Operations -/

namespace Cuda

/-- `Cuda::createMemory`, when `cudaMalloc` finds room at this address. -/
def createMemory (runtime : CudaRuntime) (gpu size : UInt32) (address : Nat) : Nat × CudaRuntime :=
  (address, (runtime.setDevice gpu).malloc address size.toNat)

/-- `Cuda::copyToDevice`, with what becomes of the pointer that `dst` refers to. -/
def copyToDevice (runtime : CudaRuntime) (src : Nat → UInt8) (dst : Nat)
    (gpu amt srcOffset dstOffset : UInt32) : Nat × CudaRuntime :=
  -- `dst` is a reference, `src` is not
  let dst := dst + dstOffset.toNat
  let src := fun i => src (srcOffset.toNat + i)
  (dst, (runtime.setDevice gpu).memcpy dst src amt.toNat)

/-- `Cuda::free`, which sets the device first. -/
def free (runtime : CudaRuntime) (mem : Nat) (gpu : UInt32) : CudaRuntime :=
  (runtime.setDevice gpu).free mem

end Cuda

/-- `nyx::Memory< Cuda >`, as far as these operations use it. -/
structure CudaMemory where
  /-- The host block. -/
  data : Option Handle := none
  byteSize : UInt32 := 0
  gpu : UInt32 := 0
  /-- The device address, `0` when null. -/
  memoryPtr : Nat := 0
  deriving DecidableEq, Repr

/-- `CudaMemory::memory`: the pointer that is kept. -/
def CudaMemory.memory (memory : CudaMemory) : Nat := memory.memoryPtr

/-- A memory, together with the runtime and the host blocks that it uses. -/
structure CudaState where
  memory : CudaMemory := {}
  runtime : CudaRuntime
  blocks : Registry := {}

/-- A call of `copyToDevice` on a memory of `size` bytes: the amount fits behind the offset. -/
structure DeviceCopy (size : UInt32) where
  src : Nat → UInt8
  byteAmt : UInt32
  srcOffset : UInt32
  dstOffset : UInt32
  fits : dstOffset.toNat + byteAmt.toNat ≤ size.toNat

namespace CudaState

/-- `Memory::initialize`, when `cudaMalloc` finds room at this address. -/
def initializeOn (s : CudaState) (gpu sz : UInt32) (hostAlloc : Bool) (address : Nat) : CudaState :=
  let made := Cuda.createMemory s.runtime gpu sz address
  let memory := { s.memory with byteSize := sz, gpu := gpu, memoryPtr := made.1 }
  if hostAlloc then ⟨{ memory with data := some s.blocks.create.1 }, made.2, s.blocks.create.2⟩
  else ⟨memory, made.2, s.blocks⟩

/-- `Memory::copyToDevice`, which copies no more bytes than the memory has. -/
def copyToDevice (s : CudaState) (src : Nat → UInt8) (byteAmt srcOffset dstOffset : UInt32) :
    CudaState :=
  let amt := if byteAmt > s.memory.byteSize then s.memory.byteSize else byteAmt
  let copied :=
    Cuda.copyToDevice s.runtime src s.memory.memoryPtr s.memory.gpu amt srcOffset dstOffset
  { s with memory := { s.memory with memoryPtr := copied.1 }, runtime := copied.2 }

/-- `Memory::deallocate`, which frees the memory of the device and the host block. -/
def deallocate (s : CudaState) : CudaState :=
  { s with
    runtime := Cuda.free s.runtime s.memory.memoryPtr s.memory.gpu
    blocks := s.blocks.destroy s.memory.data }

variable {size : UInt32}

/-- One copy of a run, as a step that cannot fail. -/
def step (s : CudaState) (copy : DeviceCopy size) : Except Empty CudaState :=
  .ok (s.copyToDevice copy.src copy.byteAmt copy.srcOffset copy.dstOffset)

/-- **What a copy should do**: the bytes from the destination offset on are those of the source, all
others are what they were, and the handle is still the address that the memory was made with. -/
structure Keeps (base : Nat) (s : CudaState) (copy : DeviceCopy size) : Prop where
  writes : ∀ s', s.step copy = .ok s' → ∀ i, s'.runtime.bytes i =
    if base + copy.dstOffset.toNat ≤ i ∧ i < base + copy.dstOffset.toNat + copy.byteAmt.toNat then
      copy.src (copy.srcOffset.toNat + (i - (base + copy.dstOffset.toNat)))
    else s.runtime.bytes i
  handle : ∀ s', s.step copy = .ok s' → s'.memory.memory = base

/-- The memory has its size, and its handle is the start of an allocation of that size. -/
structure AtBase (base : Nat) (size : UInt32) (s : CudaState) : Prop where
  memoryPtr : s.memory.memoryPtr = base
  byteSize : s.memory.byteSize = size
  allocated : ⟨base, size.toNat⟩ ∈ s.runtime.allocations

/-! ## One copy -/

/-- After a copy to the device the handle of the memory is advanced by the offset, and stays
there. -/
@[simp] theorem memoryPtr_copyToDevice (s : CudaState) (src : Nat → UInt8)
    (byteAmt srcOffset dstOffset : UInt32) :
    (s.copyToDevice src byteAmt srcOffset dstOffset).memory.memoryPtr =
      s.memory.memoryPtr + dstOffset.toNat := rfl

/-- A copy to the device frees nothing. -/
@[simp] theorem freed_copyToDevice (s : CudaState) (src : Nat → UInt8)
    (byteAmt srcOffset dstOffset : UInt32) :
    (s.copyToDevice src byteAmt srcOffset dstOffset).runtime.freed = s.runtime.freed := by
  simp [copyToDevice, Cuda.copyToDevice, CudaRuntime.setDevice]

/-- A new memory has its handle at the base of what was allocated for it. -/
theorem atBase_initializeOn (s : CudaState) (gpu sz : UInt32) (hostAlloc : Bool) (base : Nat) :
    AtBase base sz (s.initializeOn gpu sz hostAlloc base) := by
  cases hostAlloc <;> exact ⟨rfl, rfl, List.mem_cons_self⟩

/-- **The bytes after a copy** on a memory that is at its base: those of the range have the values
of the source, and all others are as before. -/
theorem bytes_copyToDevice {base : Nat} {s : CudaState} (h : AtBase base size s)
    (copy : DeviceCopy size) (i : Nat) :
    (s.copyToDevice copy.src copy.byteAmt copy.srcOffset copy.dstOffset).runtime.bytes i =
      if base + copy.dstOffset.toNat ≤ i ∧ i < base + copy.dstOffset.toNat + copy.byteAmt.toNat then
        copy.src (copy.srcOffset.toNat + (i - (base + copy.dstOffset.toNat)))
      else s.runtime.bytes i := by
  have hfits := copy.fits
  have hle : ¬ copy.byteAmt > size := by
    intro hgt
    have hgt' : size.toNat < copy.byteAmt.toNat := hgt
    omega
  -- the amount is not cut, and the range is a part of the allocation
  have hallocated : (s.runtime.setDevice s.memory.gpu).Allocated (base + copy.dstOffset.toNat)
      copy.byteAmt.toNat := by
    refine ⟨_, h.allocated, Nat.le_add_right _ _, ?_⟩
    show base + copy.dstOffset.toNat + copy.byteAmt.toNat ≤ base + size.toNat
    omega
  simp only [copyToDevice, Cuda.copyToDevice, CudaRuntime.memcpy, h.memoryPtr, h.byteSize,
    if_neg hle, if_pos hallocated]
  rfl

/-- **A copy** on a memory at its base keeps the handle exactly when it has no destination offset;
its bytes get where they should in any case. -/
theorem keeps_iff_of_atBase {base : Nat} (s : CudaState) (copy : DeviceCopy size)
    (h : AtBase base size s) : s.Keeps base copy ↔ copy.dstOffset = 0 := by
  constructor
  · intro hkeeps
    -- the handle was advanced by the offset
    have hhandle := hkeeps.handle _ rfl
    rw [CudaMemory.memory, memoryPtr_copyToDevice, h.memoryPtr] at hhandle
    rw [← UInt32.toNat_inj, UInt32.toNat_zero]
    omega
  · intro hzero
    refine ⟨?_, ?_⟩
    · rintro s' ⟨⟩
      exact bytes_copyToDevice h copy
    · rintro s' ⟨⟩
      rw [CudaMemory.memory, memoryPtr_copyToDevice, h.memoryPtr, hzero]
      rfl

/-- A copy without a destination offset leaves a memory at its base. -/
theorem AtBase.copyToDevice {base : Nat} (s : CudaState) (copy : DeviceCopy size)
    (h : AtBase base size s) (hzero : copy.dstOffset = 0) :
    AtBase base size (s.copyToDevice copy.src copy.byteAmt copy.srcOffset copy.dstOffset) := by
  refine ⟨?_, h.byteSize, ?_⟩
  · rw [memoryPtr_copyToDevice, h.memoryPtr, hzero]
    rfl
  · have hallocated := h.allocated
    simpa [CudaState.copyToDevice, Cuda.copyToDevice, CudaRuntime.setDevice] using hallocated

/-! ## Runs -/

/-- **Run lemma.** After any copies `deallocate` frees the handle, advanced by all the offsets. -/
theorem freed_run (s : CudaState) (copies : List (DeviceCopy size)) :
    (runSteps step s copies).map (fun t => t.deallocate.runtime.freed) =
      .ok (s.runtime.freed ++
        [s.memory.memoryPtr + totalOffset (copies.map DeviceCopy.dstOffset)]) := by
  induction copies generalizing s with
  | nil => rfl
  | cons copy copies ih =>
      have hstep : s.step copy = .ok (s.copyToDevice copy.src copy.byteAmt copy.srcOffset
        copy.dstOffset) := rfl
      rw [runSteps_cons_of_ok hstep, ih, freed_copyToDevice, memoryPtr_copyToDevice, List.map_cons,
        totalOffset_cons, Nat.add_assoc]

/-- **Copies keep the handle** of a memory that was initialised at an address, with all their bytes
where they should be, and `deallocate` frees that address, exactly when no copy has a destination
offset. -/
theorem keeps_iff (s : CudaState) (gpu size : UInt32) (hostAlloc : Bool) (base : Nat)
    (copies : List (DeviceCopy size)) :
    (StepsMeet step (Keeps base) (s.initializeOn gpu size hostAlloc base) copies ∧
      (runSteps step (s.initializeOn gpu size hostAlloc base) copies).map
        (fun t => t.deallocate.runtime.freed) = .ok (s.runtime.freed ++ [base])) ↔
      ∀ copy ∈ copies, copy.dstOffset = 0 := by
  have hbase := atBase_initializeOn s gpu size hostAlloc base
  have hfreed : (s.initializeOn gpu size hostAlloc base).runtime.freed = s.runtime.freed := by
    cases hostAlloc <;> rfl
  have hzero : totalOffset (copies.map DeviceCopy.dstOffset) = 0 ↔
      ∀ copy ∈ copies, copy.dstOffset = 0 := by
    simp [totalOffset_eq_zero_iff]
  rw [freed_run, hfreed, hbase.memoryPtr, ← hzero]
  constructor
  · -- what is freed tells by itself how far the handle was advanced
    rintro ⟨-, hrun⟩
    simpa using hrun
  · intro htotal
    refine ⟨?_, by rw [htotal, Nat.add_zero]⟩
    refine (stepsMeet_congr_of_next (AtBase base size) (fun _ _ => rfl) keeps_iff_of_atBase
      AtBase.copyToDevice hbase).mpr ?_
    exact stepsMeet_of_forall_mem (hzero.mp htotal)

/-- Four bytes to the second half of a memory of eight, after which the handle is in the middle of
it. -/
theorem not_keeps : ¬ ∀ (s : CudaState) (gpu size : UInt32) (hostAlloc : Bool) (base : Nat)
    (copies : List (DeviceCopy size)),
    StepsMeet step (Keeps base) (s.initializeOn gpu size hostAlloc base) copies ∧
      (runSteps step (s.initializeOn gpu size hostAlloc base) copies).map
        (fun t => t.deallocate.runtime.freed) = .ok (s.runtime.freed ++ [base]) := by
  intro h
  have hkeeps := (h { runtime := { bytes := fun _ => 0 } } 0 8 false 256
    [⟨fun _ => 7, 4, 0, 4, by decide⟩]).1.1
  exact absurd (hkeeps.handle _ rfl) (by decide)

end CudaState

end Nyx
