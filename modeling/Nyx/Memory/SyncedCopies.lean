import Nyx.Foundations.StepMachines
import Nyx.Memory.Memories

/-! # Copies to the host and the device

`Memory::copySynced` copies the same elements to the host block and to the device memory. Both
halves cut the amount to the number of bytes, but one takes it for a number of elements then and the
other for a number of bytes.

* **`storeAll`** — bytes that are stored one after another.
* **`Memory.copyToHost`**, **`Memory.copySynced`** — the operations of the source.
* **`Memory.hostWrites`**, **`Memory.deviceWrites`** — the bytes that the halves write.
* **`HostMemory`**, **`Contents`** — a memory with a host block, and what is in both.
* **`HostMemory.Coherent`** — a copy stays in its bounds and does the same in both.
* **`HostMemory.coherent_iff`** — all copies are coherent exactly when elements are single bytes, or
  nothing is copied. -/

namespace Nyx

open Foundations

/-! ## Bytes stored one by one -/

/-- Store bytes at their places, one after another, so a later write to a place wins. -/
def storeAll (bytes : Nat → UInt8) (writes : List (Nat × UInt8)) : Nat → UInt8 :=
  writes.foldl (fun bytes write => Function.update bytes write.1 write.2) bytes

/-- When the first `n` bytes of a source are stored at the same places, these places have the bytes
of the source. -/
theorem storeAll_range (bytes src : Nat → UInt8) (n : Nat) :
    storeAll bytes ((List.range n).map fun i => (i, src i)) =
      fun i => if i < n then src i else bytes i := by
  induction n with
  | zero => simp [storeAll]
  | succ n ih =>
      have hfold : storeAll bytes ((List.range (n + 1)).map fun i => (i, src i)) =
          Function.update (storeAll bytes ((List.range n).map fun i => (i, src i))) n (src n) := by
        simp [storeAll, List.range_succ]
      rw [hfold, ih]
      funext i
      by_cases hi : i = n
      · subst hi
        simp
      · have hlt : i < n + 1 ↔ i < n := by omega
        simp [Function.update_of_ne hi, hlt]

/-! ## Copies -/

/-- What is behind host pointers, also past the ends of their blocks. -/
abbrev HostHeap := Handle → Nat → UInt8

namespace Memory

/-- An amount of bytes as the copies use it, cut to the size of the memory. -/
def cutAmount (memory : Memory) (amt : UInt32) : UInt32 :=
  if amt > memory.byteSize then memory.byteSize else amt

/-- The bytes of the source that `copyToHost` reads. There is an array behind the source, so a
`size_t` counts them. -/
def hostReads (memory : Memory) (typeSize : Nat) (tokenAmt : UInt32) : List Nat :=
  List.range ((memory.cutAmount tokenAmt).toNat * typeSize)

/-- The bytes that it writes, from the beginning of the host block on. -/
def hostWrites (memory : Memory) (typeSize : Nat) (src : Nat → UInt8) (tokenAmt : UInt32) :
    List (Nat × UInt8) :=
  (memory.hostReads typeSize tokenAmt).map fun i => (i, src i)

/-- `Memory::copyToHost`; the offsets are not looked at. -/
def copyToHost (memory : Memory) (typeSize : Nat) (heap : HostHeap) (src : Nat → UInt8)
    (tokenAmt _offset _srcOffset _dstOffset : UInt32) : HostHeap :=
  match memory.data with
  | none => heap
  | some handle =>
      Function.update heap handle
        (storeAll (heap handle) (memory.hostWrites typeSize src tokenAmt))

/-- The bytes of the source that `copyToDevice` reads. -/
def deviceReads (memory : Memory) (byteAmt srcOffset : UInt32) : List Nat :=
  (List.range (memory.cutAmount byteAmt).toNat).map fun i => srcOffset.toNat + i

/-- The bytes that it writes, from `dst_offset` of the device memory on. -/
def deviceWrites (memory : Memory) (src : Nat → UInt8) (byteAmt srcOffset dstOffset : UInt32) :
    List (Nat × UInt8) :=
  (List.range (memory.cutAmount byteAmt).toNat).map fun i =>
    (dstOffset.toNat + i, src (srcOffset.toNat + i))

/-- `Memory::copySynced`. Each offset is passed on as the one before it. -/
def copySynced (memory : Memory) (typeSize : Nat) (heaps : HostHeap × DeviceHeap)
    (src : Nat → UInt8) (amt offset srcOffset _dstOffset : UInt32) : HostHeap × DeviceHeap :=
  let device := memory.copyToDevice heaps.2 src amt offset srcOffset
  (memory.copyToHost typeSize heaps.1 src amt offset srcOffset 0, device)

/-- The cut amount is the smaller of the amount and the size of the memory. -/
theorem toNat_cutAmount (memory : Memory) (amt : UInt32) :
    (memory.cutAmount amt).toNat = min amt.toNat memory.size.toNat := by
  unfold cutAmount
  by_cases hcut : amt > memory.byteSize
  · have hlt : memory.size.toNat < amt.toNat := hcut
    rw [if_pos hcut, Nat.min_eq_right (Nat.le_of_lt hlt)]
    rfl
  · have hle : amt.toNat ≤ memory.size.toNat := Nat.le_of_not_lt hcut
    rw [if_neg hcut, Nat.min_eq_left hle]

/-- Nothing is left of the amount only when there is nothing to copy, or no room. -/
theorem toNat_cutAmount_eq_zero_iff (memory : Memory) (amt : UInt32) :
    (memory.cutAmount amt).toNat = 0 ↔ amt = 0 ∨ memory.size = 0 := by
  rw [toNat_cutAmount, ← UInt32.toNat_inj, ← UInt32.toNat_inj, UInt32.toNat_zero]
  omega

/-- Without offsets the device gets the first bytes of the source. -/
theorem deviceWrites_zero (memory : Memory) (src : Nat → UInt8) (byteAmt : UInt32) :
    memory.deviceWrites src byteAmt 0 0 =
      (List.range (memory.cutAmount byteAmt).toNat).map fun i => (i, src i) := by
  simp [deviceWrites]

/-- After `copyToDevice` the device memory has the bytes that the copy is said to write. -/
theorem byte_copyToDevice {memory : Memory} {heap : DeviceHeap} {handle : Handle}
    (hptr : memory.memoryPtr = some handle) (hsize : (heap handle).size = memory.size.toNat)
    (src : Nat → UInt8) (byteAmt : UInt32) {i : Nat} (hi : i < memory.size.toNat) :
    ((memory.copyToDevice heap src byteAmt 0 0) handle).byte i =
      storeAll (heap handle).byte (memory.deviceWrites src byteAmt 0 0) i := by
  have hcut : (if byteAmt > memory.byteSize then memory.byteSize else byteAmt) =
      memory.cutAmount byteAmt := rfl
  rw [deviceWrites_zero, storeAll_range]
  simp only [copyToDevice, hcut, Vulkan.copyToDevice, hptr, Function.update_self, Block.write,
    UInt32.toNat_zero, Nat.zero_le, hsize, hi, true_and, Nat.sub_zero, Nat.zero_add, if_true]
  by_cases hreached : i < (memory.cutAmount byteAmt).toNat
  · simp [hreached]
  · simp [hreached]

/-- After `copyToDevice` each device memory is as large as it was. -/
theorem size_copyToDevice (memory : Memory) (heap : DeviceHeap) (src : Nat → UInt8)
    (byteAmt srcOffset dstOffset : UInt32) (handle : Handle) :
    ((memory.copyToDevice heap src byteAmt srcOffset dstOffset) handle).size =
      (heap handle).size := by
  unfold copyToDevice Vulkan.copyToDevice
  cases memory.memoryPtr with
  | none => rfl
  | some ptr =>
      by_cases hptr : handle = ptr
      · subst hptr
        simp
      · simp [Function.update_of_ne hptr]

end Memory

/-! ## Memories with a host block -/

/-- A memory that was initialised with a host block, so it has a handle on both sides. -/
structure HostMemory where
  memory : Memory
  host : Handle
  device : Handle
  data_eq : memory.data = some host
  ptr_eq : memory.memoryPtr = some device

/-- `Memory::initialize` with `host_alloc`, on a new memory. -/
def HostMemory.allocate (registry : Registry) (gpu sz : UInt32) : HostMemory where
  memory := (({} : Memory).initializeOn registry gpu sz true).1
  host := .own (registry.created + 1)
  device := .own registry.created
  data_eq := rfl
  ptr_eq := rfl

/-- What is on the host and on the device, where the memory has its size. -/
structure Contents (m : HostMemory) where
  host : HostHeap
  device : DeviceHeap
  backed : (device m.device).size = m.memory.size.toNat

/-- A call `copySynced( src, amt )`, with the offsets left to their defaults. -/
structure SyncedCopy where
  src : Nat → UInt8
  amt : UInt32

namespace HostMemory

variable (m : HostMemory) (typeSize : Nat)

/-- One call of a run, as a step that cannot fail. -/
def step (s : Contents m) (copy : SyncedCopy) : Except Empty (Contents m) :=
  let heaps := m.memory.copySynced typeSize (s.host, s.device) copy.src copy.amt 0 0 0
  .ok {
    host := heaps.1
    device := heaps.2
    backed := (m.memory.size_copyToDevice _ _ _ _ _ _).trans s.backed }

/-- The host block holds what the device memory holds. -/
def Agree (s : Contents m) : Prop :=
  ∀ i < m.memory.size.toNat, s.host m.host i = (s.device m.device).byte i

/-- A call writes bytes of the host block only, reads bytes of the elements only, writes the same
bytes on the host as on the device, and so leaves the two in agreement. -/
structure Coherent (s : Contents m) (copy : SyncedCopy) : Prop where
  inBlock : ∀ write ∈ m.memory.hostWrites typeSize copy.src copy.amt,
    write.1 < m.memory.size.toNat
  inSource : ∀ place ∈ m.memory.hostReads typeSize copy.amt ++ m.memory.deviceReads copy.amt 0,
    place < copy.amt.toNat * typeSize
  same : ∀ write, write ∈ m.memory.hostWrites typeSize copy.src copy.amt ↔
    write ∈ m.memory.deviceWrites copy.src copy.amt 0 0
  agrees : m.Agree s → ∀ s', m.step typeSize s copy = .ok s' → m.Agree s'

/-- The elements are single bytes, or nothing is copied. -/
def InBytes (copy : SyncedCopy) : Prop := typeSize = 1 ∨ copy.amt = 0 ∨ m.memory.size = 0

variable {m typeSize}

/-- When the elements are single bytes, the copy to the host writes the same bytes as the one to the
device. -/
theorem InBytes.hostWrites_eq {copy : SyncedCopy} (h : m.InBytes typeSize copy) :
    m.memory.hostWrites typeSize copy.src copy.amt =
      m.memory.deviceWrites copy.src copy.amt 0 0 := by
  have hcount : (m.memory.cutAmount copy.amt).toNat * typeSize =
      (m.memory.cutAmount copy.amt).toNat := by
    rcases h with rfl | hnothing
    · rw [Nat.mul_one]
    · rw [(m.memory.toNat_cutAmount_eq_zero_iff copy.amt).mpr hnothing, Nat.zero_mul]
  rw [Memory.deviceWrites_zero, Memory.hostWrites, Memory.hostReads, hcount]

/-- When both halves write the same, there and back, it is in single bytes. -/
theorem inBytes_of_same {copy : SyncedCopy}
    (h : ∀ write, write ∈ m.memory.hostWrites typeSize copy.src copy.amt ↔
      write ∈ m.memory.deviceWrites copy.src copy.amt 0 0) : m.InBytes typeSize copy := by
  by_contra hnot
  obtain ⟨hsize, hsome⟩ := not_or.mp hnot
  rw [← m.memory.toNat_cutAmount_eq_zero_iff] at hsome
  simp only [Memory.deviceWrites_zero, Memory.hostWrites, Memory.hostReads, List.mem_map,
    List.mem_range] at h
  generalize (m.memory.cutAmount copy.amt).toNat = n at h hsome
  rcases Nat.lt_or_gt_of_ne hsize with hzero | hmore
  · -- elements without bytes: the device is written to and the host is not
    obtain ⟨i, hi, -⟩ := (h (0, copy.src 0)).mpr ⟨0, by omega, rfl⟩
    rw [Nat.lt_one_iff.mp hzero, Nat.mul_zero] at hi
    omega
  · -- the host gets byte `n`, and the device does not
    have hlt : n < n * typeSize := (Nat.lt_mul_iff_one_lt_right (by omega)).mpr hmore
    obtain ⟨i, hi, heq⟩ := (h (n, copy.src n)).mp ⟨n, hlt, rfl⟩
    have hin : i = n := congrArg Prod.fst heq
    omega

/-- Copies that write the same on the host and on the device keep them in agreement. -/
theorem agree_step {s s' : Contents m} {copy : SyncedCopy} (hagree : m.Agree s)
    (hsame : m.memory.hostWrites typeSize copy.src copy.amt =
      m.memory.deviceWrites copy.src copy.amt 0 0)
    (hstep : m.step typeSize s copy = .ok s') : m.Agree s' := by
  cases hstep
  intro i hi
  have hhost : (m.memory.copyToHost typeSize s.host copy.src copy.amt 0 0 0) m.host i =
      storeAll (s.host m.host) (m.memory.deviceWrites copy.src copy.amt 0 0) i := by
    simp [Memory.copyToHost, m.data_eq, hsame]
  have hdevice := Memory.byte_copyToDevice m.ptr_eq s.backed copy.src copy.amt hi
  refine hhost.trans (Eq.trans ?_ hdevice.symm)
  simp only [Memory.deviceWrites_zero, storeAll_range, hagree i hi]

/-- **A call** is coherent, whatever the contents were, exactly when it copies single bytes, or
nothing. -/
theorem coherent_iff_inBytes (s : Contents m) (copy : SyncedCopy) :
    m.Coherent typeSize s copy ↔ m.InBytes typeSize copy := by
  refine ⟨fun h => inBytes_of_same h.same, fun h => ?_⟩
  have hsame := h.hostWrites_eq
  have hcut := m.memory.toNat_cutAmount copy.amt
  refine ⟨?_, ?_, fun write => by rw [hsame], fun hagree s' hstep => agree_step hagree hsame hstep⟩
  · intro write hwrite
    rw [hsame, Memory.deviceWrites_zero] at hwrite
    obtain ⟨i, hi, rfl⟩ := List.mem_map.mp hwrite
    have hlt := List.mem_range.mp hi
    show i < m.memory.size.toNat
    omega
  · intro place hplace
    have hbytes : (m.memory.cutAmount copy.amt).toNat * typeSize ≤ copy.amt.toNat * typeSize :=
      Nat.mul_le_mul_right _ (by omega)
    rcases List.mem_append.mp hplace with hhost | hdevice
    · exact Nat.lt_of_lt_of_le (List.mem_range.mp hhost) hbytes
    · simp only [Memory.deviceReads, List.mem_map, List.mem_range, UInt32.toNat_zero,
        Nat.zero_add, exists_eq_right] at hdevice
      rcases h with rfl | hnothing
      · omega
      · rw [(m.memory.toNat_cutAmount_eq_zero_iff copy.amt).mpr hnothing] at hdevice
        omega

/-- **Synced copies.** Along any calls, each stays in its bounds and leaves the host and the device
in agreement, with the same bytes written to both, exactly when the elements are single bytes, or
each call copies nothing. -/
theorem coherent_iff (m : HostMemory) (typeSize : Nat) (s : Contents m) (copies : List SyncedCopy) :
    StepsMeet (m.step typeSize) (m.Coherent typeSize) s copies ↔
      ∀ copy ∈ copies, m.InBytes typeSize copy := by
  induction copies generalizing s with
  | nil => simp
  | cons copy copies ih =>
      rw [StepsMeet, coherent_iff_inBytes, List.forall_mem_cons]
      refine and_congr_right fun _ => ⟨fun h => (ih _).mp (h _ rfl), fun h s' _ => (ih s').mpr h⟩

/-- Two elements of four bytes are written past the end of a host block of four bytes. -/
theorem not_coherent : ¬ ∀ (m : HostMemory) (typeSize : Nat) (s : Contents m)
    (copies : List SyncedCopy), 1 ≤ typeSize →
      StepsMeet (m.step typeSize) (m.Coherent typeSize) s copies := by
  intro h
  have hcopy := (h (.allocate {} 0 4) 4 ⟨fun _ _ => 0, fun _ => ⟨4, fun _ => 0⟩, rfl⟩
    [⟨fun _ => 0, 2⟩] (by decide)).1
  exact absurd (hcopy.inBlock (7, 0) (by decide)) (by decide)

end HostMemory

end Nyx
