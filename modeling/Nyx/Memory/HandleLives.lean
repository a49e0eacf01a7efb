import Nyx.Foundations.StepMachines
import Nyx.Memory.Images

/-! # The lives of handles

Memories, buffers, images and pipelines make handles when they are initialised and destroy them when
they are reset, each with guards of its own. None of them sets a handle to null when it destroys it.

* **`Life`**, **`Life.Sound`** — an object with what became of the handles it made, and what is
  asked of it: none is destroyed twice, and `initialized()` says whether the stored one is alive.
* **`MemoryCall`**, **`BufferCall`**, **`ImageCall`**, **`PipelineCall`** — the calls as inputs of a
  machine, and which of them are lawful.
* **`handles_iff`** — for each of the four, all calls end well exactly when all are lawful. -/

namespace Nyx

open Foundations

/-! ## Registries -/

namespace Registry

variable {registry : Registry}

@[simp] theorem destroy_none : registry.destroy none = registry := rfl

/-- What was made is alive while nothing was destroyed. -/
theorem live_created (h : registry.destroyed = []) {n : Nat} (hn : n < registry.created) :
    registry.Live (.own n) :=
  ⟨hn, by simp [h]⟩

/-- What is destroyed stays destroyed, whatever is destroyed after it. -/
theorem mem_destroy {handle : Handle} (h : handle ∈ registry.destroyed) (other : Option Handle) :
    handle ∈ (registry.destroy other).destroyed := by
  cases other with
  | none => exact h
  | some other => exact List.mem_append_left _ h

/-- What was just destroyed is among what is destroyed. -/
theorem mem_destroy_self (handle : Handle) :
    handle ∈ (registry.destroy (some handle)).destroyed :=
  List.mem_append_right _ (List.mem_singleton_self handle)

end Registry

/-! ## Lives -/

/-- An object, and what became of the handles it made. -/
structure Life (α : Type) where
  object : α
  registry : Registry := {}

/-- **Soundness.** No handle the object made is destroyed twice, and it is initialised exactly when
the handle it stores was made by it and not destroyed since. -/
structure Life.Sound {α : Type} (initialized : α → Bool) (stored : α → Option Handle)
    (life : Life α) : Prop where
  once : ∀ n, life.registry.destroyed.count (.own n) ≤ 1
  alive : initialized life.object = true ↔
    ∃ handle, stored life.object = some handle ∧ life.registry.Live handle

section

variable {α γ : Type} {initialized : α → Bool} {stored : α → Option Handle}
  {next : Life α → γ → Life α} {life : Life α}

/-- The machine of an object and its handles; its calls do not fail. -/
def callStep (next : Life α → γ → Life α) (life : Life α) (call : γ) : Except Empty (Life α) :=
  .ok (next life call)

/-- A call ends well when the object is sound after it. -/
def EndsWell (initialized : α → Bool) (stored : α → Option Handle) (next : Life α → γ → Life α)
    (life : Life α) (call : γ) : Prop :=
  (next life call).Sound initialized stored

/-- An object that destroyed nothing so far, stores a live handle if any, and is initialised exactly
when it stores one. -/
structure Life.Fresh (initialized : α → Bool) (stored : α → Option Handle) (life : Life α) :
    Prop where
  kept : life.registry.destroyed = []
  live : ∀ handle, stored life.object = some handle → life.registry.Live handle
  flag : initialized life.object = (stored life.object).isSome

/-- An object that destroyed nothing and is initialised exactly when it stores a live handle is
sound. -/
theorem Life.Fresh.sound (h : life.Fresh initialized stored) : life.Sound initialized stored where
  once n := by simp [h.kept]
  alive := by
    rw [h.flag, Option.isSome_iff_exists]
    exact exists_congr fun handle => (and_iff_left_of_imp (h.live handle)).symm

/-- An object that destroyed nothing, is initialised, and stores a handle that it made has a fresh
life. -/
theorem Life.fresh_of_stored {n : Nat} (hkept : life.registry.destroyed = [])
    (hn : n < life.registry.created) (hstored : stored life.object = some (.own n))
    (hinit : initialized life.object = true) : life.Fresh initialized stored := by
  refine ⟨hkept, fun handle hhandle => ?_, ?_⟩
  · cases hhandle.symm.trans hstored
    exact Registry.live_created hkept hn
  · rw [hinit, hstored]
    rfl

/-- An object is unsound when it stores a handle it made, but is not initialised. -/
theorem Life.not_sound_of_stored {n : Nat} (hkept : life.registry.destroyed = [])
    (hn : n < life.registry.created) (hstored : stored life.object = some (.own n))
    (hinit : initialized life.object ≠ true) : ¬ life.Sound initialized stored := fun h =>
  hinit (h.alive.mpr ⟨_, hstored, Registry.live_created hkept hn⟩)

/-- An object is unsound once it is initialised on a handle that it destroyed. -/
theorem Life.not_sound_of_destroyed {handle : Handle} (hinit : initialized life.object = true)
    (hstored : stored life.object = some handle) (hdead : handle ∈ life.registry.destroyed) :
    ¬ life.Sound initialized stored := by
  intro h
  obtain ⟨other, hother, hlive⟩ := h.alive.mp hinit
  obtain rfl : handle = other := Option.some.inj (hstored.symm.trans hother)
  cases handle with
  | own n => exact hlive.2 hdead
  | foreign n => exact hlive

/-- **Calls end well exactly when they are lawful**, for any kind of object with an invariant that
the lawful calls keep and under which the others end badly. -/
theorem endsWell_iff (Inv : Life α → Prop) {Lawful : Life α → γ → Prop}
    (hsound : ∀ life, Inv life → life.Sound initialized stored)
    (hkeep : ∀ life call, Inv life → Lawful life call → Inv (next life call))
    (hbreak : ∀ life call, Inv life → ¬ Lawful life call →
      ¬ (next life call).Sound initialized stored)
    (hlife : Inv life) (calls : List γ) :
    StepsMeet (callStep next) (EndsWell initialized stored next) life calls ↔
      StepsMeet (callStep next) Lawful life calls := by
  refine stepsMeet_congr_of_next Inv (fun _ _ => rfl)
    (fun s call hs => ⟨fun hgood => ?_, fun hlawful => ?_⟩) hkeep hlife
  · by_contra hlawful
    exact hbreak s call hs hlawful hgood
  · exact hsound _ (hkeep s call hs hlawful)

end

/-! ## Memories -/

/-- The calls on a memory that make or destroy its handle. -/
inductive MemoryCall
  | initializeOn (gpu sz : UInt32) (hostAlloc : Bool)
  | deallocate

namespace Memory

/-- One call on a memory, with its effect on the handles. -/
def call (life : Life Memory) : MemoryCall → Life Memory
  | .initializeOn gpu sz hostAlloc =>
      let done := life.object.initializeOn life.registry gpu sz hostAlloc
      ⟨done.1, done.2⟩
  | .deallocate => ⟨life.object, life.object.deallocate life.registry⟩

/-- A memory is only deallocated before it is initialised. -/
def Lawful (life : Life Memory) : MemoryCall → Prop
  | .initializeOn _ _ _ => True
  | .deallocate => life.object.memoryPtr = none

/-- What the lawful calls keep of a memory: its life is fresh, and without a handle it has no host
block. -/
structure Kept (life : Life Memory) : Prop where
  fresh : life.Fresh initialized memoryPtr
  data : life.object.memoryPtr = none → life.object.data = none

/-- A memory that is initialised stores the device memory it just made. -/
theorem memoryPtr_initializeOn (memory : Memory) (registry : Registry) (gpu sz : UInt32)
    (hostAlloc : Bool) :
    (memory.initializeOn registry gpu sz hostAlloc).1.memoryPtr = some (.own registry.created) ∧
      (memory.initializeOn registry gpu sz hostAlloc).2.destroyed = registry.destroyed ∧
      registry.created < (memory.initializeOn registry gpu sz hostAlloc).2.created := by
  cases hostAlloc with
  | false => exact ⟨rfl, rfl, Nat.lt_succ_self _⟩
  | true => exact ⟨rfl, rfl, Nat.lt_succ_of_lt (Nat.lt_succ_self _)⟩

variable {life : Life Memory} {c : MemoryCall}

/-- A lawful call on a memory keeps its life fresh. -/
theorem Kept.call (h : Kept life) (hlawful : Lawful life c) : Kept (call life c) := by
  cases c with
  | initializeOn gpu sz hostAlloc =>
      obtain ⟨hptr, hdestroyed, hcreated⟩ :=
        life.object.memoryPtr_initializeOn life.registry gpu sz hostAlloc
      refine ⟨Life.fresh_of_stored (hdestroyed.trans h.fresh.kept) hcreated hptr ?_,
        fun hnone => ?_⟩
      · exact congrArg Option.isSome hptr
      · cases hnone.symm.trans hptr
  | deallocate =>
      have hnone : life.object.memoryPtr = none := hlawful
      have hregistry : life.object.deallocate life.registry = life.registry := by
        rw [deallocate, hnone, h.data hnone, Registry.destroy_none, Registry.destroy_none]
      rw [Memory.call, hregistry]
      exact h

/-- After an unlawful call on a memory it is not sound: `initialized()` is true of a handle that is
destroyed. -/
theorem not_sound (hlawful : ¬ Lawful life c) :
    ¬ (call life c).Sound initialized memoryPtr := by
  cases c with
  | initializeOn gpu sz hostAlloc => exact absurd trivial hlawful
  | deallocate =>
      obtain ⟨handle, hptr⟩ := Option.ne_none_iff_exists'.mp hlawful
      refine Life.not_sound_of_destroyed ?_ hptr ?_
      · show life.object.memoryPtr.isSome = true
        rw [hptr]
        rfl
      · show handle ∈ (life.object.deallocate life.registry).destroyed
        rw [deallocate, hptr]
        exact Registry.mem_destroy_self handle

/-- What is destroyed stays destroyed when a memory is deallocated. -/
theorem mem_deallocate {registry : Registry} {handle : Handle} (h : handle ∈ registry.destroyed)
    (memory : Memory) : handle ∈ (memory.deallocate registry).destroyed :=
  Registry.mem_destroy (Registry.mem_destroy h _) _

/-- The bytes there will be for what requires so many: in a memory that was given, or in one of the
object's own. -/
def room (memory : Memory) (preallocated : Bool) (requirements : Nat) : UInt32 :=
  (if preallocated then memory.size else .ofNat requirements) - memory.offset

/-- The memory that a buffer or an image is bound to has this room. -/
theorem room_spec (memory : Memory) (registry : Registry) (preallocated : Bool) (gpu : UInt32)
    (requirements : Nat) (hostLocal : Bool) :
    let done := if preallocated then (memory, registry)
      else memory.initializeOn registry gpu (.ofNat requirements) hostLocal
    done.1.size - done.1.offset = memory.room preallocated requirements ∧
      done.2.destroyed = registry.destroyed ∧ registry.created ≤ done.2.created := by
  cases preallocated with
  | true => exact ⟨rfl, rfl, Nat.le_refl _⟩
  | false =>
      obtain ⟨-, hdestroyed, hcreated⟩ :=
        memory.memoryPtr_initializeOn registry gpu (.ofNat requirements) hostLocal
      refine ⟨?_, hdestroyed, Nat.le_of_lt hcreated⟩
      cases hostLocal <;> rfl

end Memory

/-! ## Buffers -/

/-- The calls on a buffer, with the memory that Vulkan requires for the `vk::Buffer` a call makes. -/
inductive BufferCall
  | initializeOn (gpu size : UInt32) (hostLocal : Bool) (required : Nat)
  | initializePrealloc (prealloc : Memory) (size : UInt32) (required : Nat)
  | reset

namespace BufferData

/-- One call on a buffer, with its effect on the handles. -/
def call (life : Life BufferData) : BufferCall → Life BufferData
  | .initializeOn gpu size hostLocal required =>
      let done := life.object.initializeOn required life.registry gpu size hostLocal
      ⟨done.2.1, done.2.2⟩
  | .initializePrealloc prealloc size required =>
      let done := life.object.initializePrealloc required life.registry prealloc size
      ⟨done.2.1, done.2.2⟩
  | .reset => ⟨life.object, life.object.reset life.registry⟩

/-- A buffer that requires so much finds enough memory, or the buffer was initialised before. -/
def HasRoom (required : Nat) (data : BufferData) : Prop :=
  required ≤ (data.internalMemory.room data.preallocated required).toNat ∨
    data.initialized = true

/-- A buffer is only initialised where there is room for it, and only reset before. -/
def Lawful (life : Life BufferData) : BufferCall → Prop
  | .initializeOn _ _ _ required => life.object.HasRoom required
  | .initializePrealloc prealloc _ required =>
      { life.object with internalMemory := prealloc, preallocated := true }.HasRoom required
  | .reset => life.object.buffer = none

/-- What `initialize` does: it makes a buffer, and with room for it the buffer is initialised. -/
theorem initializeOn_spec (required : Nat) (data : BufferData) (registry : Registry)
    (gpu size : UInt32) (hostLocal : Bool) :
    let done := data.initializeOn required registry gpu size hostLocal
    done.2.1.buffer = some (.own registry.created) ∧
      (done.2.1.initialized = true ↔ data.HasRoom required) ∧
      done.2.2.destroyed = registry.destroyed ∧ registry.created < done.2.2.created := by
  obtain ⟨hroom, hdestroyed, hcreated⟩ := data.internalMemory.room_spec registry.create.2
    data.preallocated gpu required hostLocal
  rw [HasRoom, ← hroom]
  simp only [initializeOn]
  -- which memory it is does not matter any more
  generalize (if data.preallocated = true then (data.internalMemory, registry.create.2)
    else data.internalMemory.initializeOn registry.create.2 gpu (.ofNat required)
      hostLocal) = claimed at hdestroyed hcreated ⊢
  split
  · rename_i hfits
    exact ⟨rfl, by simp [hfits], hdestroyed, hcreated⟩
  · rename_i hfits
    exact ⟨rfl, by simp [hfits], hdestroyed, hcreated⟩

/-- What the lawful calls keep of a buffer: its life is fresh. -/
abbrev Kept (life : Life BufferData) : Prop := life.Fresh BufferData.initialized buffer

variable {life : Life BufferData} {c : BufferCall}

/-- A call on memory that is given is one on a buffer with that memory. -/
theorem call_initializePrealloc (life : Life BufferData) (prealloc : Memory) (size : UInt32)
    (required : Nat) :
    let given : Life BufferData :=
      ⟨{ life.object with internalMemory := prealloc, preallocated := true }, life.registry⟩
    let sized : BufferCall :=
      .initializeOn prealloc.device (if size = 0 then prealloc.size else size) false required
    call life (.initializePrealloc prealloc size required) = call given sized ∧
      (Lawful life (.initializePrealloc prealloc size required) ↔ Lawful given sized) :=
  ⟨rfl, Iff.rfl⟩

section

variable {gpu size : UInt32} {hostLocal : Bool} {required : Nat}

/-- A buffer that was just initialised, with room for it, has a fresh life. -/
theorem kept_initialize (hkept : life.registry.destroyed = [])
    (hlawful : Lawful life (.initializeOn gpu size hostLocal required)) :
    Kept (call life (.initializeOn gpu size hostLocal required)) := by
  obtain ⟨hbuffer, hinit, hdestroyed, hcreated⟩ :=
    life.object.initializeOn_spec required life.registry gpu size hostLocal
  exact Life.fresh_of_stored (hdestroyed.trans hkept) hcreated hbuffer (hinit.mpr hlawful)

/-- Without room the buffer it stores is alive, but it is not initialised. -/
theorem not_sound_initialize (hkept : life.registry.destroyed = [])
    (hlawful : ¬ Lawful life (.initializeOn gpu size hostLocal required)) :
    ¬ (call life (.initializeOn gpu size hostLocal required)).Sound
      BufferData.initialized buffer := by
  obtain ⟨hbuffer, hinit, hdestroyed, hcreated⟩ :=
    life.object.initializeOn_spec required life.registry gpu size hostLocal
  exact Life.not_sound_of_stored (hdestroyed.trans hkept) hcreated hbuffer (mt hinit.mp hlawful)

end

/-- A lawful call on a buffer keeps its life fresh. -/
theorem kept_call (h : Kept life) (hlawful : Lawful life c) : Kept (call life c) := by
  cases c with
  | initializeOn gpu size hostLocal required => exact kept_initialize h.kept hlawful
  | initializePrealloc prealloc size required =>
      obtain ⟨hcall, hiff⟩ := call_initializePrealloc life prealloc size required
      rw [hcall]
      exact kept_initialize h.kept (hiff.mp hlawful)
  | reset =>
      have hnone : life.object.buffer = none := hlawful
      have hinit : life.object.initialized = false := by rw [h.flag, hnone]; rfl
      have hregistry : life.object.reset life.registry = life.registry := by
        rw [reset, hnone, hinit, Registry.destroy_none, Bool.and_false]
        rfl
      rw [call, hregistry]
      exact h

/-- After an unlawful call on a buffer it is not sound. -/
theorem not_sound (h : Kept life) (hlawful : ¬ Lawful life c) :
    ¬ (call life c).Sound BufferData.initialized buffer := by
  cases c with
  | initializeOn gpu size hostLocal required => exact not_sound_initialize h.kept hlawful
  | initializePrealloc prealloc size required =>
      obtain ⟨hcall, hiff⟩ := call_initializePrealloc life prealloc size required
      rw [hcall]
      exact not_sound_initialize h.kept (mt hiff.mpr hlawful)
  | reset =>
      obtain ⟨handle, hbuffer⟩ := Option.ne_none_iff_exists'.mp hlawful
      refine Life.not_sound_of_destroyed ?_ hbuffer ?_
      · show life.object.initialized = true
        rw [h.flag, hbuffer]
        rfl
      · show handle ∈ (life.object.reset life.registry).destroyed
        rw [reset, hbuffer]
        have hdead : handle ∈ (life.registry.destroy (some handle)).destroyed :=
          Registry.mem_destroy_self handle
        split
        · exact Memory.mem_deallocate hdead _
        · exact hdead

end BufferData

/-! ## Images -/

/-- The calls on an image, with the memory that Vulkan requires for the `vk::Image` a call makes. -/
inductive ImageCall
  | initializeOn (device width height numLayers : UInt32) (required : Nat)
  | initializeImage (device width height : UInt32) (prealloc : Nat) (numLayers : UInt32)
  | initializePrealloc (prealloc : Memory) (width height numLayers : UInt32) (required : Nat)
  | reset

namespace ImageData

/-- One call on an image, with its effect on the handles. -/
def call (life : Life ImageData) : ImageCall → Life ImageData
  | .initializeOn device width height numLayers required =>
      let done := life.object.initializeOn required life.registry device width height numLayers
      ⟨done.2.1, done.2.2⟩
  | .initializeImage device width height prealloc numLayers =>
      let done :=
        life.object.initializeImage life.registry device width height prealloc numLayers
      ⟨done.2.1, done.2.2⟩
  | .initializePrealloc prealloc width height numLayers required =>
      let done :=
        life.object.initializePrealloc required life.registry prealloc width height numLayers
      ⟨done.2.1, done.2.2⟩
  | .reset =>
      let done := life.object.reset life.registry
      ⟨done.1, done.2⟩

/-- An image that requires so much finds enough memory, or the image has a view and a sampler from
before. -/
def HasRoom (required : Nat) (data : ImageData) : Prop :=
  required ≤ (data.memory.room data.preallocated required).toNat ∨
    (data.sampler.isSome && data.view.isSome) = true

/-- An image is only initialised where there is room for it and not on one that something else
made, and it is only reset before. -/
def Lawful (life : Life ImageData) : ImageCall → Prop
  | .initializeOn _ _ _ _ required => life.object.HasRoom required
  | .initializeImage _ _ _ _ _ => False
  | .initializePrealloc prealloc _ _ _ required =>
      { life.object with memory := prealloc, preallocated := true }.HasRoom required
  | .reset => life.object.image = none

/-- What `initialize` does: it makes an image, and with room for it the image is initialised. -/
theorem initializeOn_spec (required : Nat) (data : ImageData) (registry : Registry)
    (device width height numLayers : UInt32) :
    let done := data.initializeOn required registry device width height numLayers
    done.2.1.image = some (.own registry.created) ∧
      (done.2.1.initialized = true ↔ data.HasRoom required) ∧
      done.2.2.destroyed = registry.destroyed ∧ registry.created < done.2.2.created := by
  obtain ⟨hroom, hdestroyed, hcreated⟩ := data.memory.room_spec registry.create.2
    data.preallocated device required false
  rw [HasRoom, ← hroom]
  simp only [initializeOn]
  -- which memory it is does not matter any more
  generalize (if data.preallocated = true then (data.memory, registry.create.2)
    else data.memory.initializeOn registry.create.2 device (.ofNat required) false) = claimed
    at hdestroyed hcreated ⊢
  split
  · rename_i hfits
    exact ⟨rfl, by simp [initialized, hfits], hdestroyed,
      Nat.lt_succ_of_lt (Nat.lt_succ_of_lt hcreated)⟩
  · rename_i hfits
    exact ⟨rfl, by simp [initialized, hfits], hdestroyed, hcreated⟩

/-- What the lawful calls keep of an image: its life is fresh, and without a handle its memory is as
new. -/
structure Kept (life : Life ImageData) : Prop where
  fresh : life.Fresh initialized image
  memory : life.object.image = none → life.object.memory = {}

variable {life : Life ImageData} {c : ImageCall}

/-- A call on memory that is given is one on an image with that memory. -/
theorem call_initializePrealloc (life : Life ImageData) (prealloc : Memory)
    (width height numLayers : UInt32) (required : Nat) :
    let given : Life ImageData :=
      ⟨{ life.object with memory := prealloc, preallocated := true }, life.registry⟩
    let sized : ImageCall := .initializeOn prealloc.device width height numLayers required
    call life (.initializePrealloc prealloc width height numLayers required) = call given sized ∧
      (Lawful life (.initializePrealloc prealloc width height numLayers required) ↔
        Lawful given sized) :=
  ⟨rfl, Iff.rfl⟩

section

variable {device width height numLayers : UInt32} {required : Nat}

/-- An image that was just initialised, with room for it, has a fresh life. -/
theorem kept_initialize (hkept : life.registry.destroyed = [])
    (hlawful : Lawful life (.initializeOn device width height numLayers required)) :
    Kept (call life (.initializeOn device width height numLayers required)) := by
  obtain ⟨himage, hinit, hdestroyed, hcreated⟩ :=
    life.object.initializeOn_spec required life.registry device width height numLayers
  refine ⟨Life.fresh_of_stored (hdestroyed.trans hkept) hcreated himage (hinit.mpr hlawful),
    fun hnone => ?_⟩
  cases hnone.symm.trans himage

/-- Without room the image it stores is alive, but it is not initialised. -/
theorem not_sound_initialize (hkept : life.registry.destroyed = [])
    (hlawful : ¬ Lawful life (.initializeOn device width height numLayers required)) :
    ¬ (call life (.initializeOn device width height numLayers required)).Sound
      initialized image := by
  obtain ⟨himage, hinit, hdestroyed, hcreated⟩ :=
    life.object.initializeOn_spec required life.registry device width height numLayers
  exact Life.not_sound_of_stored (hdestroyed.trans hkept) hcreated himage (mt hinit.mp hlawful)

end

/-- A lawful call on an image keeps its life fresh, and its memory as new while there is no
handle. -/
theorem Kept.call (h : Kept life) (hlawful : Lawful life c) : Kept (call life c) := by
  cases c with
  | initializeOn device width height numLayers required => exact kept_initialize h.fresh.kept hlawful
  | initializeImage device width height prealloc numLayers => exact absurd hlawful id
  | initializePrealloc prealloc width height numLayers required =>
      obtain ⟨hcall, hiff⟩ :=
        call_initializePrealloc life prealloc width height numLayers required
      rw [hcall]
      exact kept_initialize h.fresh.kept (hiff.mp hlawful)
  | reset =>
      have hnone : life.object.image = none := hlawful
      -- there is nothing to destroy, in the memory as well
      have hregistry : (life.object.reset life.registry).2 = life.registry := by
        rw [reset, hnone, h.memory hnone]
        cases life.object.preallocated <;> rfl
      refine ⟨⟨?_, ?_, h.fresh.flag⟩, h.memory⟩
      · show (life.object.reset life.registry).2.destroyed = []
        rw [hregistry]
        exact h.fresh.kept
      · intro handle hhandle
        cases hhandle.symm.trans hnone

/-- After an unlawful call on an image it is not sound. -/
theorem Kept.not_sound (h : Kept life) (hlawful : ¬ Lawful life c) :
    ¬ (ImageData.call life c).Sound initialized image := by
  cases c with
  | initializeOn device width height numLayers required =>
      exact not_sound_initialize h.fresh.kept hlawful
  | initializeImage device width height prealloc numLayers =>
      intro hsound
      obtain ⟨handle, hhandle, hlive⟩ := hsound.alive.mp rfl
      cases hhandle
      exact hlive
  | initializePrealloc prealloc width height numLayers required =>
      obtain ⟨hcall, hiff⟩ :=
        call_initializePrealloc life prealloc width height numLayers required
      rw [hcall]
      exact not_sound_initialize h.fresh.kept (mt hiff.mpr hlawful)
  | reset =>
      obtain ⟨handle, himage⟩ := Option.ne_none_iff_exists'.mp hlawful
      refine Life.not_sound_of_destroyed ?_ himage ?_
      · exact h.fresh.flag.trans (congrArg Option.isSome himage)
      · show handle ∈ (life.object.reset life.registry).2.destroyed
        rw [reset, himage]
        have hdead : handle ∈ (((life.registry.destroy life.object.sampler).destroy
            life.object.view).destroy (some handle)).destroyed :=
          Registry.mem_destroy_self handle
        simp only [Option.isSome_some, if_true]
        split
        · exact Memory.mem_deallocate hdead _
        · exact hdead

end ImageData

/-! ## Pipelines -/

/-- The calls on a pipeline: the forms of `initialize` that make a shader, those that are given one,
and `reset`. -/
inductive PipelineCall
  | initializeNyx
  | initializeShader (shader : Nat)
  | reset

namespace PipelineData

/-- One call on a pipeline, with its effect on the handles. -/
def call (life : Life PipelineData) : PipelineCall → Life PipelineData
  | .initializeNyx =>
      let done := life.object.initializeNyx life.registry
      ⟨done.1, done.2⟩
  | .initializeShader shader =>
      let done := life.object.initializeShader life.registry shader
      ⟨done.1, done.2⟩
  | .reset => ⟨life.object, life.object.reset life.registry⟩

/-- A pipeline is only reset before it is initialised. -/
def Lawful (life : Life PipelineData) : PipelineCall → Prop
  | .initializeNyx | .initializeShader _ => True
  | .reset => life.object.pipeline = none

/-- What the lawful calls keep of a pipeline: its life is fresh, and without a handle it has no
layout either. -/
structure Kept (life : Life PipelineData) : Prop where
  fresh : life.Fresh initialized pipeline
  layout : life.object.pipeline = none → life.object.layout = none

variable {life : Life PipelineData} {c : PipelineCall}

/-- A lawful call on a pipeline keeps its life fresh. -/
theorem Kept.call (h : Kept life) (hlawful : Lawful life c) : Kept (call life c) := by
  cases c with
  | initializeNyx | initializeShader =>
      refine ⟨Life.fresh_of_stored h.fresh.kept (Nat.lt_succ_self _) rfl rfl, fun hnone => ?_⟩
      cases hnone
  | reset =>
      have hnone : life.object.pipeline = none := hlawful
      have hregistry : life.object.reset life.registry = life.registry := by
        rw [reset, hnone, h.layout hnone, Registry.destroy_none, Registry.destroy_none]
      rw [PipelineData.call, hregistry]
      exact h

/-- After an unlawful call on a pipeline it is not sound. -/
theorem not_sound (hlawful : ¬ Lawful life c) : ¬ (call life c).Sound initialized pipeline := by
  cases c with
  | initializeNyx | initializeShader => exact absurd trivial hlawful
  | reset =>
      obtain ⟨handle, hpipeline⟩ := Option.ne_none_iff_exists'.mp hlawful
      refine Life.not_sound_of_destroyed (congrArg Option.isSome hpipeline) hpipeline ?_
      show handle ∈ (life.object.reset life.registry).destroyed
      rw [reset, hpipeline]
      exact Registry.mem_destroy (Registry.mem_destroy_self handle) _

end PipelineData

/-! ## All four -/

/-- **Handles are destroyed at most once**, and `initialized()` is right, along exactly the lawful
calls: those that never reset an object which stores a handle, never initialise one where there is
no room for it, and never hand an image over. -/
theorem handles_iff (memoryCalls : List MemoryCall) (bufferCalls : List BufferCall)
    (imageCalls : List ImageCall) (pipelineCalls : List PipelineCall) :
    (StepsMeet (callStep Memory.call)
        (EndsWell Memory.initialized Memory.memoryPtr Memory.call) ⟨{}, {}⟩ memoryCalls ↔
      StepsMeet (callStep Memory.call) Memory.Lawful ⟨{}, {}⟩ memoryCalls) ∧
    (StepsMeet (callStep BufferData.call)
        (EndsWell BufferData.initialized BufferData.buffer BufferData.call) ⟨{}, {}⟩ bufferCalls ↔
      StepsMeet (callStep BufferData.call) BufferData.Lawful ⟨{}, {}⟩ bufferCalls) ∧
    (StepsMeet (callStep ImageData.call)
        (EndsWell ImageData.initialized ImageData.image ImageData.call) ⟨{}, {}⟩ imageCalls ↔
      StepsMeet (callStep ImageData.call) ImageData.Lawful ⟨{}, {}⟩ imageCalls) ∧
    (StepsMeet (callStep PipelineData.call)
        (EndsWell PipelineData.initialized PipelineData.pipeline PipelineData.call) ⟨{}, {}⟩
        pipelineCalls ↔
      StepsMeet (callStep PipelineData.call) PipelineData.Lawful ⟨{}, {}⟩ pipelineCalls) := by
  refine ⟨?_, ?_, ?_, ?_⟩
  · refine endsWell_iff Memory.Kept (fun _ h => h.fresh.sound) (fun _ _ h => h.call)
      (fun _ _ _ => Memory.not_sound) ⟨⟨rfl, ?_, rfl⟩, fun _ => rfl⟩ memoryCalls
    simp
  · refine endsWell_iff BufferData.Kept (fun _ h => h.sound) (fun _ _ => BufferData.kept_call)
      (fun _ _ => BufferData.not_sound) ⟨rfl, ?_, rfl⟩ bufferCalls
    simp
  · refine endsWell_iff ImageData.Kept (fun _ h => h.fresh.sound) (fun _ _ h => h.call)
      (fun _ _ h => h.not_sound) ⟨⟨rfl, ?_, rfl⟩, fun _ => rfl⟩ imageCalls
    simp
  · refine endsWell_iff PipelineData.Kept (fun _ h => h.fresh.sound) (fun _ _ h => h.call)
      (fun _ _ _ => PipelineData.not_sound) ⟨⟨rfl, ?_, rfl⟩, fun _ => rfl⟩ pipelineCalls
    simp

/-- A buffer that is reset once it is initialised still says that it is, and a second reset destroys
its handle again. -/
theorem not_handles : ¬ ∀ calls : List BufferCall,
    StepsMeet (callStep BufferData.call)
      (EndsWell BufferData.initialized BufferData.buffer BufferData.call) ⟨{}, {}⟩ calls := by
  intro h
  have hcalls := h [.initializeOn 0 8 false 8, .reset, .reset]
  -- after the second reset the handle of the buffer was destroyed twice
  have htwice := ((hcalls.2 _ rfl).2 _ rfl).1.once 0
  exact absurd htwice (by decide)

end Nyx
