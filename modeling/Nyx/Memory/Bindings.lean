import Nyx.Foundations.StepMachines
import Nyx.Memory.Images

/-! # Binding to memory that is given

A buffer or an image on memory that it is given is bound at the offset of that, when Vulkan requires
no more than is left behind the offset. What is left is an unsigned difference, so it is right only
when the offset is not past the end.

* **`Memory.Holds`** — a range from the offset on lies in the memory.
* **`Memory.BindsInside`** — buffers and images are bound to ranges in the memory, and to nothing
  else.
* **`Memory.bindsInside_iff`** — they are exactly when the offset is not past the end.
* **`MemoryStore`**, **`MemoryOp`** — variables of type `Memory`, and what changes them.
* **`MemoryStore.sound_iff`** — the offsets of all variables stay inside exactly when none is
  initialised with fewer bytes than its offset. -/

namespace Nyx

open Foundations

/-! ## What is left -/

/-- What is left behind an offset is right when the offset is not past the end. -/
theorem le_toNat_sub_iff {size offset : UInt32} (h : offset ≤ size) (n : Nat) :
    n ≤ (size - offset).toNat ↔ offset.toNat + n ≤ size.toNat := by
  have hle : offset.toNat ≤ size.toNat := h
  rw [UInt32.toNat_sub_of_le _ _ h]
  omega

/-- When the offset is past the end, the unsigned difference says that something is left. -/
theorem one_le_toNat_sub {size offset : UInt32} (h : ¬ offset ≤ size) :
    1 ≤ (size - offset).toNat := by
  have hlt : size.toNat < offset.toNat := Nat.lt_of_not_le h
  have hsize := size.toNat_lt
  have hoffset := offset.toNat_lt
  rw [UInt32.toNat_sub]
  omega

/-! ## Where buffers and images are bound -/

namespace BufferData

/-- What a buffer on memory that it is given requires, when it succeeds, and where it is bound. -/
theorem initializePrealloc_spec (required : Nat) (data : BufferData) (registry : Registry)
    (prealloc : Memory) (size : UInt32) :
    let done := data.initializePrealloc required registry prealloc size
    done.2.1.requirements = required ∧
      (done.1 = true ↔ required ≤ (prealloc.size - prealloc.offset).toNat) ∧
      done.2.1.bound = if done.1 = true then some (prealloc.memoryPtr, prealloc.offset)
        else none := by
  simp only [initializePrealloc, initializeOn, if_true]
  by_cases hroom : required ≤ (prealloc.size - prealloc.offset).toNat
  · simp only [if_pos hroom]
    simp [hroom]
  · simp only [if_neg hroom]
    simp [hroom]

end BufferData

namespace ImageData

/-- The memory and the offset that `bindImageMemory` is called with by an image on memory that it is
given, if it is called; the image is initialised then. -/
def preallocBound (required : Nat) (data : ImageData) (registry : Registry)
    (prealloc : Memory) (width height numLayers : UInt32) : Option (Option Handle × UInt32) :=
  let (success, data, _) :=
    data.initializePrealloc required registry prealloc width height numLayers
  if success then some (data.memory.memoryPtr, data.memory.offset) else none

/-- What an image on memory that it is given requires, when it succeeds, and where it is bound. -/
theorem initializePrealloc_spec (required : Nat) (data : ImageData) (registry : Registry)
    (prealloc : Memory) (width height numLayers : UInt32) :
    let done := data.initializePrealloc required registry prealloc width height numLayers
    done.2.1.requirements = required ∧
      (done.1 = true ↔ required ≤ (prealloc.size - prealloc.offset).toNat) ∧
      data.preallocBound required registry prealloc width height numLayers =
        if done.1 = true then some (prealloc.memoryPtr, prealloc.offset) else none := by
  simp only [preallocBound, initializePrealloc, initializeOn, if_true]
  by_cases hroom : required ≤ (prealloc.size - prealloc.offset).toNat
  · simp only [if_pos hroom]
    simp [hroom]
  · simp only [if_neg hroom]
    simp [hroom]

end ImageData

namespace Memory

/-- The `n` bytes from the offset on lie in the memory. -/
def Holds (memory : Memory) (n : Nat) : Prop := memory.offset.toNat + n ≤ memory.size.toNat

instance (memory : Memory) (n : Nat) : Decidable (memory.Holds n) :=
  inferInstanceAs (Decidable (_ ≤ _))

/-- Buffers and images that are initialised on the memory are bound only when it holds what is
required; otherwise `initialize` fails. -/
structure BindsInside (memory : Memory) : Prop where
  buffer : ∀ required data registry size,
    let done := BufferData.initializePrealloc required data registry memory size
    ¬ memory.Holds done.2.1.requirements → done.1 = false ∧ done.2.1.bound = none
  image : ∀ required data registry width height numLayers,
    let done := ImageData.initializePrealloc required data registry memory width height numLayers
    ¬ memory.Holds done.2.1.requirements → done.1 = false ∧
      ImageData.preallocBound required data registry memory width height numLayers = none

/-- **Binding inside**: it is done exactly on memory whose offset is not past its end. -/
theorem bindsInside_iff (memory : Memory) : memory.BindsInside ↔ memory.offset ≤ memory.size := by
  constructor
  · intro hbinds
    by_contra hpast
    -- a buffer that requires one byte is bound behind the end
    obtain ⟨hrequires, hsuccess, -⟩ :=
      BufferData.initializePrealloc_spec 1 {} {} memory 1
    have hlt : memory.size.toNat < memory.offset.toNat := Nat.lt_of_not_le hpast
    have hout : ¬ memory.Holds 1 := by
      unfold Holds
      omega
    have hfails := (hbinds.buffer 1 {} {} 1 (by rw [hrequires]; exact hout)).1
    rw [hsuccess.mpr (one_le_toNat_sub hpast)] at hfails
    cases hfails
  · intro hle
    constructor
    · intro required data registry size done hout
      obtain ⟨hrequires, hsuccess, hbound⟩ :=
        BufferData.initializePrealloc_spec required data registry memory size
      rw [hrequires, Holds, ← le_toNat_sub_iff hle] at hout
      have hfails := mt hsuccess.mp hout
      exact ⟨by simpa using hfails, hbound.trans (if_neg hfails)⟩
    · intro required data registry width height numLayers done hout
      obtain ⟨hrequires, hsuccess, hbound⟩ :=
        ImageData.initializePrealloc_spec required data registry memory width height numLayers
      rw [hrequires, Holds, ← le_toNat_sub_iff hle] at hout
      have hfails := mt hsuccess.mp hout
      exact ⟨by simpa using hfails, hbound.trans (if_neg hfails)⟩

/-- An offset that is added does not lead past the end, since the sum is cut off there. -/
theorem offset_add_le (memory : Memory) (offset : UInt32) :
    (memory + offset).offset ≤ (memory + offset).size := by
  show (memory.add offset).memOffset ≤ memory.size
  unfold add
  by_cases hpast : memory.memOffset + offset ≥ memory.size
  · simp only [if_pos hpast]
    exact UInt32.le_refl _
  · simp only [if_neg hpast]
    exact UInt32.le_of_lt (UInt32.not_le.mp hpast)

/-- Initialising a memory changes its size, and leaves the offset as it is. -/
theorem offset_initializeOn (memory : Memory) (registry : Registry) (gpu sz : UInt32)
    (hostAlloc : Bool) :
    (memory.initializeOn registry gpu sz hostAlloc).1.offset = memory.offset ∧
      (memory.initializeOn registry gpu sz hostAlloc).1.size = sz := by
  cases hostAlloc <;> exact ⟨rfl, rfl⟩

end Memory

/-! ## Variables of type `Memory` -/

/-- Variables, by their numbers, and the handles that were made for them. -/
structure MemoryStore where
  memories : Nat → Memory := fun _ => {}
  registry : Registry := {}

/-- What changes a variable: a construction, an `initialize`, a copy, or an addition to another
one. -/
inductive MemoryOp
  /-- `Memory::Memory`. -/
  | construct (x : Nat)
  /-- `Memory::initialize`, in any form. -/
  | initializeOn (x : Nat) (gpu sz : UInt32) (hostAlloc : Bool)
  /-- The copy constructor, or `operator=`. -/
  | copy (x y : Nat)
  /-- `x = y + offset`. -/
  | add (x y : Nat) (offset : UInt32)
  deriving DecidableEq, Repr

namespace MemoryStore

/-- Give a variable a new value; the others keep theirs. -/
def set (store : MemoryStore) (x : Nat) (memory : Memory) : MemoryStore :=
  { store with memories := Function.update store.memories x memory }

/-- One operation on the variables; none of them fails. -/
def apply (store : MemoryStore) : MemoryOp → MemoryStore
  | .construct x => store.set x {}
  | .initializeOn x gpu sz hostAlloc =>
      let (memory, registry) := (store.memories x).initializeOn store.registry gpu sz hostAlloc
      { store.set x memory with registry := registry }
  | .copy x y => store.set x (store.memories y)
  | .add x y offset => store.set x (store.memories y + offset)

/-- One operation of a run, as a step that cannot fail. -/
def step (store : MemoryStore) (op : MemoryOp) : Except Empty MemoryStore := .ok (store.apply op)

/-- No variable has its offset past its end, and what is initialised on one is bound inside it. -/
def Sound (store : MemoryStore) : Prop :=
  ∀ x, (store.memories x).offset ≤ (store.memories x).size ∧ (store.memories x).BindsInside

/-- The variables are all sound after the operation. -/
def EndsSound (store : MemoryStore) (op : MemoryOp) : Prop := (store.apply op).Sound

/-- No variable is initialised with fewer bytes than its offset. -/
def KeepsOffset (store : MemoryStore) : MemoryOp → Prop
  | .initializeOn x _ sz _ => (store.memories x).offset ≤ sz
  | _ => True

/-- What an operation makes of the variables: one of them has a new value. -/
theorem memories_apply (store : MemoryStore) (op : MemoryOp) :
    ∃ x memory, (store.apply op).memories = Function.update store.memories x memory ∧
      (store.Sound → (memory.offset ≤ memory.size ↔ store.KeepsOffset op)) := by
  cases op with
  | construct x => exact ⟨x, {}, rfl, fun _ => iff_of_true (UInt32.le_refl _) trivial⟩
  | initializeOn x gpu sz hostAlloc =>
      obtain ⟨hoffset, hsize⟩ :=
        (store.memories x).offset_initializeOn store.registry gpu sz hostAlloc
      refine ⟨x, ((store.memories x).initializeOn store.registry gpu sz hostAlloc).1, rfl,
        fun _ => ?_⟩
      rw [hoffset, hsize]
      rfl
  | copy x y => exact ⟨x, _, rfl, fun h => iff_of_true (h y).1 trivial⟩
  | add x y offset =>
      exact ⟨x, _, rfl, fun _ => iff_of_true ((store.memories y).offset_add_le offset) trivial⟩

/-- An operation on sound variables leaves sound ones exactly when it keeps the offset. -/
theorem endsSound_iff {store : MemoryStore} (h : store.Sound) (op : MemoryOp) :
    store.EndsSound op ↔ store.KeepsOffset op := by
  obtain ⟨x, memory, hmemories, hkeeps⟩ := store.memories_apply op
  rw [← hkeeps h, EndsSound, Sound, hmemories]
  constructor
  · intro hsound
    simpa using (hsound x).1
  · intro hle y
    by_cases hy : y = x
    · subst hy
      simpa [Memory.bindsInside_iff] using hle
    · simpa [hy] using h y

/-- **Offsets and bindings.** Along any operations all offsets stay inside, and so does what is
bound, exactly when no variable is initialised with fewer bytes than its offset. -/
theorem sound_iff (ops : List MemoryOp) :
    StepsMeet step EndsSound {} ops ↔ StepsMeet step KeepsOffset {} ops := by
  have hstart : ({} : MemoryStore).Sound := fun x =>
    ⟨UInt32.le_refl _, (Memory.bindsInside_iff _).mpr (UInt32.le_refl _)⟩
  refine stepsMeet_congr_of_next Sound (fun _ _ => rfl) (fun _ op h => endsSound_iff h op) ?_ hstart
  intro store op h hkeeps
  exact (endsSound_iff h op).mpr hkeeps

/-- A view at byte `48` that is initialised with `16` bytes keeps its offset. -/
theorem not_endsSound : ¬ ∀ ops, StepsMeet step EndsSound {} ops := by
  intro h
  have hops := h [.initializeOn 0 0 64 false, .add 1 0 48, .initializeOn 1 0 16 false]
  have hview := (((hops.2 _ rfl).2 _ rfl).1 1).1
  exact absurd hview (by decide)

end MemoryStore

end Nyx
