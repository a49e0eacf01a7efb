import Nyx.Shaders.DescriptorTables
import Nyx.Shaders.ShaderLives
import Nyx.Vulkan.Commands

/-! # Descriptor sets

A `vkg::Descriptor` is made by a pool. It keeps the set that was allocated for it and its own copy
of the pool's table, so that the pool may change while descriptors are in use. Objects are copied
by assignment, and then share a set.

* **`DescriptorData`**, **`DescriptorData.prepare`** — a descriptor, and what it writes for a name.
* **`DescriptorWorld`**, **`DescriptorWorld.call`** — pools and descriptors with all calls on them,
  and what the sets hold.
* **`declared`** — what was declared to a pool.
* **`DescriptorWorld.resolves`** — in every run a descriptor resolves names as its pool did when the
  descriptor was made.
* **`DescriptorWorld.held_eq`** — a set holds what was written last under the names of a binding. -/

namespace Nyx

open Foundations

/-! ## Descriptors -/

/-- `vk::DescriptorImageInfo`. -/
structure DescriptorImageInfo where
  imageLayout : VkImageLayout
  sampler : Nat
  imageView : Nat
  deriving DecidableEq, Repr

/-- What one descriptor of a set refers to: a buffer or an image. -/
inductive DescriptorInfo
  /-- A `vk::DescriptorBufferInfo`; it is always all of the buffer. -/
  | buffer (buffer : Nat)
  | image (info : DescriptorImageInfo)
  deriving DecidableEq, Repr

/-- What `Descriptor::set` reads of an image: its layout, its sampler and its view. -/
structure SampledImage where
  layout : ImageLayout
  sampler : Nat
  view : Nat
  deriving DecidableEq, Repr

/-- The info of an image, with the layout that it has when it is read. -/
def SampledImage.info (image : SampledImage) : DescriptorInfo :=
  .image ⟨Vulkan.convertLayout image.layout, image.sampler, image.view⟩

/-- `DescriptorData`: a set, and the copy of the table of the pool it is from. -/
structure DescriptorData where
  set : Option Nat := none
  parentMap : Option (Std.TreeMap (List UInt8) PoolUniform) := none

/-- The write that the forms of `Descriptor::set` prepare; they differ in the count. There is none
without a table, or for a name that the table does not have. -/
def DescriptorData.prepare (data : DescriptorData) (name : List UInt8)
    (count : PoolUniform → UInt32) : Option WriteDescriptorSet := do
  let map ← data.parentMap
  let uniform ← map[name]?
  return ⟨uniform.binding, convertUniform uniform.type, count uniform⟩

/-- How many of an array of images are written: no more than the uniform of the pool has room
for. -/
def arrayCount (count : UInt32) (uniform : PoolUniform) : UInt32 :=
  if count < uniform.size then count else uniform.size

/-- `convert( nyx::ArrayFlags )` of `Descriptor.cpp`, which makes a uniform buffer of all but
storage buffers. -/
def uniformFromFlags (flags : ArrayFlags) : UniformType :=
  if flags = .storageBuffer then .ssbo else .ubo

/-- `convert( nyx::ImageUsage )` of `Descriptor.cpp`, which makes a sampler of every usage. -/
def uniformFromUsage (_ : ImageUsage) : UniformType := .sampler

/-! ## Calls -/

/-- The methods of pools and descriptors. The objects have numbers. -/
inductive DescriptorCall
  | initializeShader (pool : Nat) (file : NyxFileData) (amount : Nat)
  | initializePool (pool : Nat)
  | addArrayInput (pool : Nat) (name : List UInt8) (binding : UInt32) (type : ArrayFlags)
  | addImageInput (pool : Nat) (name : List UInt8) (binding : UInt32) (usage : ImageUsage)
  | setAmount (pool amount : Nat)
  /-- `descriptor = pool.make()`. -/
  | make (descriptor pool : Nat)
  | initializeDescriptor (descriptor pool : Nat)
  /-- `descriptor = other`. -/
  | assign (descriptor other : Nat)
  | setBuffer (descriptor : Nat) (name : List UInt8) (buffer : Nat)
  | setImage (descriptor : Nat) (name : List UInt8) (image : SampledImage)
  | setImages (descriptor : Nat) (name : List UInt8) (images : List SampledImage)
  | reset (descriptor : Nat)

/-- A shader file with a vertex stage, which has a uniform buffer at binding `3`, and a fragment
stage. The words of each stage are the header of a SPIR-V module. -/
def twoStageFile : ShaderFile :=
  ⟨1, [], [], [⟨[⟨3, 1, UniformType.ubo, [97]⟩], [0x07230203, 0x10000, 0, 1, 0], .vertex⟩,
    ⟨[], [0x07230203, 0x10000, 0, 1, 0], .fragment⟩]⟩

/-- All pools and descriptors, and what the sets hold. -/
structure DescriptorWorld where
  pools : Nat → DescriptorPoolData := fun _ => {}
  descriptors : Nat → DescriptorData := fun _ => {}
  /-- How many sets were allocated. They are numbered in order; none is freed. -/
  sets : Nat := 0
  /-- What each element of each binding of each set holds. -/
  contents : Nat → UInt32 → Nat → Option DescriptorInfo := fun _ _ _ => none

namespace DescriptorPoolData

/-- `DescriptorPool::addArrayInput`, which enters an array in the table, for one element. -/
def addArrayInput (data : DescriptorPoolData) (name : List UInt8) (binding : UInt32)
    (type : ArrayFlags) : DescriptorPoolData :=
  { data with map := data.map.insert name ⟨uniformFromFlags type, 1, binding⟩ }

/-- `DescriptorPool::addImageInput`, which enters an image in the table, for one element. -/
def addImageInput (data : DescriptorPoolData) (name : List UInt8) (binding : UInt32)
    (usage : ImageUsage) : DescriptorPoolData :=
  { data with map := data.map.insert name ⟨uniformFromUsage usage, 1, binding⟩ }

end DescriptorPoolData

namespace DescriptorWorld

/-- A change to a pool, which leaves the other pools alone. -/
def modifyPool (world : DescriptorWorld) (pool : Nat)
    (f : DescriptorPoolData → DescriptorPoolData) : DescriptorWorld :=
  { world with pools := Function.update world.pools pool (f (world.pools pool)) }

/-- `Descriptor::initialize` on an object that is `data` before: with a pool that was created a set
is allocated, and the table copied. -/
def initializeOn (world : DescriptorWorld) (descriptor pool : Nat) (data : DescriptorData) :
    DescriptorWorld :=
  -- without a pool the object stays as it was
  if (world.pools pool).pool.isSome then
    { world with
      descriptors := Function.update world.descriptors descriptor
        -- the set from before is not freed, and the table is a copy
        ⟨some world.sets, some (world.pools pool).map⟩
      sets := world.sets + 1 }
  else { world with descriptors := Function.update world.descriptors descriptor data }

/-- `updateDescriptorSets` with one write, which sets the first elements of a binding. -/
def updateSet (world : DescriptorWorld) (set : Option Nat) (write : WriteDescriptorSet)
    (infos : List DescriptorInfo) : DescriptorWorld :=
  { world with
    contents := fun dstSet binding element =>
      if set = some dstSet ∧ write.dstBinding = binding ∧
          element < write.descriptorCount.toNat then
        infos[element]?
      else world.contents dstSet binding element }

/-- What the forms of `Descriptor::set` do with their infos, after they have counted them. -/
def set (world : DescriptorWorld) (descriptor : Nat) (name : List UInt8)
    (count : PoolUniform → UInt32) (infos : List DescriptorInfo) : DescriptorWorld :=
  match (world.descriptors descriptor).prepare name count with
  -- a name without a binding is passed over in silence
  | none => world
  | some write => world.updateSet (world.descriptors descriptor).set write infos

/-- The pools, the descriptors and the sets after one call. -/
def call (world : DescriptorWorld) : DescriptorCall → DescriptorWorld
  | .initializeShader pool file amount => world.modifyPool pool (·.initializeShader file amount)
  | .initializePool pool => world.modifyPool pool (·.initializePool)
  | .addArrayInput pool name binding type =>
      world.modifyPool pool (·.addArrayInput name binding type)
  | .addImageInput pool name binding usage =>
      world.modifyPool pool (·.addImageInput name binding usage)
  | .setAmount pool amount => world.modifyPool pool ({ · with amount := amount })
  | .make descriptor pool => world.initializeOn descriptor pool {}
  | .initializeDescriptor descriptor pool =>
      world.initializeOn descriptor pool (world.descriptors descriptor)
  | .assign descriptor other =>
      { world with
        descriptors := Function.update world.descriptors descriptor (world.descriptors other) }
  | .setBuffer descriptor name buffer => world.set descriptor name (fun _ => 1) [.buffer buffer]
  | .setImage descriptor name image => world.set descriptor name (fun _ => 1) [image.info]
  | .setImages descriptor name images =>
      world.set descriptor name (arrayCount (.ofNat images.length))
        ((images.take (UInt32.ofNat images.length).toNat).map SampledImage.info)
  | .reset _ => world

/-- The pools, the descriptors and the sets after some calls, one after the other. -/
def calls (world : DescriptorWorld) (asked : List DescriptorCall) : DescriptorWorld :=
  asked.foldl call world

end DescriptorWorld

/-! ## What was declared to a pool -/

/-- What a call declares to a pool: the uniforms of a shader, or a single input. -/
def DescriptorCall.declares (pool : Nat) : DescriptorCall → List (List UInt8 × PoolUniform)
  | .initializeShader p file _ =>
      if p = pool ∧ file.size ≠ 0 then
        file.declarations.map fun declaration => (declaration.name, declaration.poolUniform)
      else []
  | .addArrayInput p name binding type =>
      if p = pool then [(name, ⟨uniformFromFlags type, 1, binding⟩)] else []
  | .addImageInput p name binding usage =>
      if p = pool then [(name, ⟨uniformFromUsage usage, 1, binding⟩)] else []
  | _ => []

/-- What some calls declare to a pool, in the order of the calls. -/
def declared (pool : Nat) (asked : List DescriptorCall) : List (List UInt8 × PoolUniform) :=
  asked.flatMap (·.declares pool)

/-- The pool for which a call allocates a set, if it does so. -/
def DescriptorCall.allocates : DescriptorCall → Option Nat
  | .make _ pool | .initializeDescriptor _ pool => some pool
  | _ => none

/-- A descriptor writes under each name to the binding that was declared last for it. -/
def DescriptorData.Resolves (data : DescriptorData) (table : List (List UInt8 × PoolUniform)) :
    Prop :=
  ∀ name count, data.prepare name count = (lastOf name table).map fun uniform =>
    ⟨uniform.binding, convertUniform uniform.type, count uniform⟩

namespace DescriptorWorld

variable {world : DescriptorWorld}

@[simp] theorem calls_nil (world : DescriptorWorld) : world.calls [] = world := rfl

@[simp] theorem calls_append (world : DescriptorWorld) (asked more : List DescriptorCall) :
    world.calls (asked ++ more) = (world.calls asked).calls more :=
  List.foldl_append

@[simp] theorem calls_cons (world : DescriptorWorld) (c : DescriptorCall)
    (asked : List DescriptorCall) : world.calls (c :: asked) = (world.call c).calls asked := rfl

/-- After a call on one of the pools this one is changed, and the others are as they were. -/
theorem pools_modifyPool (world : DescriptorWorld) (p pool : Nat)
    (f : DescriptorPoolData → DescriptorPoolData) :
    (world.modifyPool p f).pools pool =
      if p = pool then f (world.pools pool) else world.pools pool := by
  rw [modifyPool]
  by_cases h : p = pool
  · subst h
    simp
  · simp [h, Ne.symm h]

/-- To create a pool leaves the table of names that it has. -/
theorem map_initializePool (data : DescriptorPoolData) : data.initializePool.map = data.map := by
  rw [DescriptorPoolData.initializePool]
  split <;> rfl

/-- After a shader the table of a pool has the last uniform that the file declares by a name, and
for other names what it had. -/
theorem map_initializeShader (data : DescriptorPoolData) (file : NyxFileData) (amount : Nat)
    (name : List UInt8) :
    (data.initializeShader file amount).map[name]? =
      (lastOf name (if file.size ≠ 0 then
        file.declarations.map fun declaration => (declaration.name, declaration.poolUniform)
        else [])).or data.map[name]? := by
  rw [DescriptorPoolData.initializeShader]
  split
  · rw [map_initializePool, addStages_eq, getElem?_foldl_insert]
  · rfl

/-- A call that changes no pool and declares nothing to one leaves every table as it was. -/
theorem pools_call_of_other (world : DescriptorWorld) {c : DescriptorCall}
    (hpools : (world.call c).pools = world.pools) (hdeclares : ∀ pool, c.declares pool = [])
    (pool : Nat) (name : List UInt8) :
    ((world.call c).pools pool).map[name]? =
      (lastOf name (c.declares pool)).or (world.pools pool).map[name]? := by
  rw [hpools, hdeclares]
  rfl

/-- No pool changes when a set is allocated for a descriptor. -/
@[simp] theorem pools_initializeOn (world : DescriptorWorld) (descriptor pool : Nat)
    (data : DescriptorData) : (world.initializeOn descriptor pool data).pools = world.pools := by
  rw [initializeOn]
  split <;> rfl

/-- No pool changes when the set of a descriptor is written. -/
@[simp] theorem pools_set (world : DescriptorWorld) (descriptor : Nat) (name : List UInt8)
    (count : PoolUniform → UInt32) (infos : List DescriptorInfo) :
    (world.set descriptor name count infos).pools = world.pools := by
  rw [set]
  split <;> rfl

/-- **Step lemma.** A call adds what it declares to the table of a pool. -/
theorem map_call (world : DescriptorWorld) (c : DescriptorCall) (pool : Nat)
    (name : List UInt8) :
    ((world.call c).pools pool).map[name]? =
      (lastOf name (c.declares pool)).or (world.pools pool).map[name]? := by
  cases c with
  | initializeShader p file amount =>
      simp only [call, pools_modifyPool, DescriptorCall.declares]
      by_cases h : p = pool
      · simp only [h, if_true, true_and]
        exact map_initializeShader _ file amount name
      · simp [h, lastOf]
  | initializePool p =>
      simp only [call, pools_modifyPool, DescriptorCall.declares]
      split <;> simp [map_initializePool, lastOf]
  | setAmount p amount =>
      simp only [call, pools_modifyPool, DescriptorCall.declares]
      split <;> simp [lastOf]
  | addArrayInput p name' binding type =>
      simp only [call, pools_modifyPool, DescriptorCall.declares]
      by_cases h : p = pool
      · simp only [h, if_true, DescriptorPoolData.addArrayInput, getElem?_insert_name]
        by_cases hname : name' = name <;> simp [lastOf, firstOf, hname]
      · simp [h, lastOf]
  | addImageInput p name' binding usage =>
      simp only [call, pools_modifyPool, DescriptorCall.declares]
      by_cases h : p = pool
      · simp only [h, if_true, DescriptorPoolData.addImageInput, getElem?_insert_name]
        by_cases hname : name' = name <;> simp [lastOf, firstOf, hname]
      · simp [h, lastOf]
  | make descriptor p | initializeDescriptor descriptor p | assign descriptor other
  | setBuffer descriptor name' buffer | setImage descriptor name' image
  | setImages descriptor name' images | reset descriptor =>
      exact world.pools_call_of_other (by simp [call]) (fun _ => rfl) pool name

/-- **Run lemma.** The table of a pool has for each name what was declared last for it. -/
theorem map_calls (asked : List DescriptorCall) (pool : Nat) (name : List UInt8) :
    ((({} : DescriptorWorld).calls asked).pools pool).map[name]? =
      lastOf name (declared pool asked) := by
  induction asked using List.reverseRecOn with
  | nil => simp [declared, lastOf]
  | append_singleton asked c ih =>
      rw [calls_append, calls_cons, calls_nil, map_call, ih, declared, declared,
        List.flatMap_append, lastOf_append, List.flatMap_singleton]

/-! ## What descriptors resolve -/

/-- After a set was allocated for one of the descriptors this one has a new set and the table of the
pool, if the pool is there, and the others are as they were. -/
theorem descriptors_initializeOn (world : DescriptorWorld) (d pool descriptor : Nat)
    (data : DescriptorData) :
    (world.initializeOn d pool data).descriptors descriptor =
      if descriptor = d then
        if (world.pools pool).pool.isSome then ⟨some world.sets, some (world.pools pool).map⟩
        else data
      else world.descriptors descriptor := by
  rw [initializeOn]
  split <;> simp [Function.update_apply]

/-- To write the set of a descriptor changes no descriptor. -/
@[simp] theorem descriptors_set (world : DescriptorWorld) (descriptor : Nat) (name : List UInt8)
    (count : PoolUniform → UInt32) (infos : List DescriptorInfo) :
    (world.set descriptor name count infos).descriptors = world.descriptors := by
  rw [set]
  split <;> rfl

/-- A descriptor with the table of a pool resolves names as the pool does. -/
theorem resolves_of_pool (asked : List DescriptorCall) (pool : Nat) (set : Option Nat) :
    (DescriptorData.mk set (some ((({} : DescriptorWorld).calls asked).pools pool).map)).Resolves
      (declared pool asked) := by
  intro name count
  rw [← map_calls]
  simp only [DescriptorData.prepare, Option.bind_eq_bind, Option.bind_some, Option.pure_def]
  cases ((({} : DescriptorWorld).calls asked).pools pool).map[name]? <;> rfl

/-- A descriptor comes from an allocation: some call allocated its set, with the number it had, and
it resolves names as the pool did then. -/
def ComesFrom (asked : List DescriptorCall) (data : DescriptorData) : Prop :=
  ∃ before c after pool, asked = before ++ c :: after ∧ c.allocates = some pool ∧
    ((({} : DescriptorWorld).calls before).pools pool).pool.isSome = true ∧
    data.set = some (({} : DescriptorWorld).calls before).sets ∧
    data.Resolves (declared pool before)

/-- What comes from an allocation of some calls does so when one more call was made. -/
theorem ComesFrom.append {asked : List DescriptorCall} {data : DescriptorData}
    (h : ComesFrom asked data) (c : DescriptorCall) : ComesFrom (asked ++ [c]) data := by
  obtain ⟨before, made, after, pool, rfl, hrest⟩ := h
  exact ⟨before, made, after ++ [c], pool, by simp, hrest⟩

/-- A call that may allocate leaves every descriptor new, or with a set that comes from an
allocation. -/
theorem comesFrom_initializeOn {asked : List DescriptorCall} {c : DescriptorCall} {pool : Nat}
    (hc : c.allocates = some pool) (d descriptor : Nat) {data : DescriptorData}
    (hdata : data = {} ∨ ComesFrom asked data)
    (hold : ∀ descriptor, (({} : DescriptorWorld).calls asked).descriptors descriptor = {} ∨
      ComesFrom asked ((({} : DescriptorWorld).calls asked).descriptors descriptor)) :
    let now := ((({} : DescriptorWorld).calls asked).initializeOn d pool data).descriptors descriptor
    now = {} ∨ ComesFrom (asked ++ [c]) now := by
  intro now
  have hnow : now = _ := descriptors_initializeOn _ d pool descriptor data
  rw [hnow]
  by_cases hd : descriptor = d
  · rw [if_pos hd]
    -- a set is allocated from a pool that was created, and the object stays as it was otherwise
    by_cases hpool : ((({} : DescriptorWorld).calls asked).pools pool).pool.isSome = true
    · rw [if_pos hpool]
      exact Or.inr ⟨asked, c, [], pool, rfl, hc, hpool, rfl, resolves_of_pool asked pool _⟩
    · rw [if_neg hpool]
      exact hdata.imp_right fun h => h.append c
  · rw [if_neg hd]
    exact (hold descriptor).imp_right fun h => h.append c

/-- **Names are resolved as when the set was made.** In every run of calls on pools and descriptors
a descriptor is null, or one call allocated its set, and it writes under each name to the binding
that was declared last for the name before that call, to the pool the set was allocated from.
Whatever is declared to the pool later changes nothing. -/
theorem resolves (asked : List DescriptorCall) (descriptor : Nat) :
    (({} : DescriptorWorld).calls asked).descriptors descriptor = {} ∨
      ComesFrom asked ((({} : DescriptorWorld).calls asked).descriptors descriptor) := by
  induction asked using List.reverseRecOn generalizing descriptor with
  | nil => exact Or.inl rfl
  | append_singleton asked c ih =>
      have hkept : ∀ descriptor, (({} : DescriptorWorld).calls asked).descriptors descriptor = {} ∨
          ComesFrom (asked ++ [c])
            ((({} : DescriptorWorld).calls asked).descriptors descriptor) :=
        fun descriptor => (ih descriptor).imp_right fun h => h.append c
      rw [calls_append, calls_cons, calls_nil]
      cases c with
      | make d pool => exact comesFrom_initializeOn rfl d descriptor (Or.inl rfl) ih
      | initializeDescriptor d pool => exact comesFrom_initializeOn rfl d descriptor (ih d) ih
      -- the copy has the set and the table of the other one, so it comes from the same call
      | assign d other =>
          simp only [call, Function.update_apply]
          split
          · exact hkept other
          · exact hkept descriptor
      | setBuffer d name buffer | setImage d name image | setImages d name images =>
          rw [call, descriptors_set]
          exact hkept descriptor
      | initializeShader p file amount | initializePool p | addArrayInput p name binding type
      | addImageInput p name binding usage | setAmount p amount | reset d => exact hkept descriptor

/-! ## What sets hold -/

/-- The sets that were not allocated yet are not referred to and hold nothing. -/
structure Numbered (world : DescriptorWorld) : Prop where
  below : ∀ {descriptor set}, (world.descriptors descriptor).set = some set → set < world.sets
  empty : ∀ {set}, world.sets ≤ set → ∀ binding element, world.contents set binding element = none

/-- To allocate a set keeps it that all sets have numbers below the next one, and that the next ones
are empty. -/
theorem Numbered.initializeOn (h : world.Numbered) (d pool : Nat) {data : DescriptorData}
    (hdata : ∀ set, data.set = some set → set < world.sets) :
    (world.initializeOn d pool data).Numbered := by
  refine ⟨fun {descriptor set} hset => ?_, fun {set} hset binding element => ?_⟩
  · rw [descriptors_initializeOn] at hset
    rw [DescriptorWorld.initializeOn]
    split at hset
    · split at hset
      · obtain rfl : world.sets = set := Option.some.inj hset
        simp [*]
      · simp [*]
    · split
      · exact Nat.lt_succ_of_lt (h.below hset)
      · exact h.below hset
  · rw [DescriptorWorld.initializeOn] at hset ⊢
    split at hset
    · simpa [*] using h.empty (Nat.le_of_succ_le hset) binding element
    · simpa [*] using h.empty hset binding element

/-- To write a set keeps it that all sets have numbers below the next one, and that the next ones
are empty. -/
theorem Numbered.set (h : world.Numbered) (d : Nat) (name : List UInt8)
    (count : PoolUniform → UInt32) (infos : List DescriptorInfo) :
    (world.set d name count infos).Numbered := by
  rw [DescriptorWorld.set]
  split
  · exact h
  · refine ⟨h.below, fun {set} hset binding element => ?_⟩
    simp only [updateSet]
    -- only a set that some descriptor has is written
    rw [if_neg fun hwritten => ?_]
    · exact h.empty hset binding element
    · exact absurd (h.below hwritten.1) (Nat.not_lt.mpr hset)

end DescriptorWorld

/-- What is written to an element of a binding under a name that is looked up in a table. -/
def written (table : List (List UInt8 × PoolUniform)) (name : List UInt8)
    (count : PoolUniform → UInt32) (infos : List DescriptorInfo) (binding : UInt32)
    (element : Nat) : Option DescriptorInfo := do
  let uniform ← lastOf name table
  if uniform.binding = binding ∧ element < (count uniform).toNat then infos[element]? else none

namespace DescriptorCall

/-- What a call writes to an element of a binding, as a call on a descriptor with this table. -/
def writes (table : List (List UInt8 × PoolUniform)) (descriptor : Nat) (binding : UInt32)
    (element : Nat) : DescriptorCall → Option DescriptorInfo
  | .setBuffer d name buffer =>
      if d = descriptor then written table name (fun _ => 1) [.buffer buffer] binding element
      else none
  | .setImage d name image =>
      if d = descriptor then written table name (fun _ => 1) [image.info] binding element else none
  | .setImages d name images =>
      if d = descriptor then
        written table name (arrayCount (.ofNat images.length))
          ((images.take (UInt32.ofNat images.length).toNat).map SampledImage.info) binding element
      else none
  | _ => none

/-- A call leaves a descriptor with its set, and the set with this descriptor only. -/
def Keeps (descriptor : Nat) : DescriptorCall → Prop
  | .make d _ | .initializeDescriptor d _ => d ≠ descriptor
  | .assign d other => d ≠ descriptor ∧ other ≠ descriptor
  | _ => True

end DescriptorCall

namespace DescriptorWorld

/-- A set is referred to by one descriptor, which resolves names in a table. -/
structure Owned (world : DescriptorWorld) (descriptor set : Nat)
    (table : List (List UInt8 × PoolUniform)) : Prop where
  allocated : set < world.sets
  own : (world.descriptors descriptor).set = some set
  resolves : (world.descriptors descriptor).Resolves table
  alone : ∀ {other}, other ≠ descriptor → (world.descriptors other).set ≠ some set

section

variable {world : DescriptorWorld} {descriptor s : Nat} {table : List (List UInt8 × PoolUniform)}

/-- To allocate a set for another descriptor leaves a set with the descriptor that refers to it. -/
theorem Owned.initializeOn (h : world.Owned descriptor s table) {d : Nat} (hd : d ≠ descriptor)
    (pool : Nat) {data : DescriptorData} (hdata : data.set ≠ some s) :
    (world.initializeOn d pool data).Owned descriptor s table := by
  refine ⟨?_, ?_, ?_, fun {other} hother => ?_⟩
  · rw [DescriptorWorld.initializeOn]
    split
    · exact Nat.lt_succ_of_lt h.allocated
    · exact h.allocated
  · rw [descriptors_initializeOn, if_neg hd.symm]
    exact h.own
  · rw [descriptors_initializeOn, if_neg hd.symm]
    exact h.resolves
  · rw [descriptors_initializeOn]
    split
    -- the set that is allocated now has a larger number
    · split
      · exact fun hset => Nat.ne_of_gt h.allocated (Option.some.inj hset)
      · exact hdata
    · exact h.alone hother

/-- A call that changes no descriptor and allocates no set leaves every set with the descriptor that
refers to it. -/
theorem Owned.frame (h : world.Owned descriptor s table) {after : DescriptorWorld}
    (hsets : after.sets = world.sets) (hdescriptors : after.descriptors = world.descriptors) :
    after.Owned descriptor s table := by
  refine ⟨?_, ?_, ?_, fun {other} hother => ?_⟩
  · rw [hsets]
    exact h.allocated
  · rw [hdescriptors]
    exact h.own
  · rw [hdescriptors]
    exact h.resolves
  · rw [hdescriptors]
    exact h.alone hother

/-- **Step lemma.** A call that keeps a descriptor keeps its set for it alone. -/
theorem Owned.call (h : world.Owned descriptor s table) {c : DescriptorCall}
    (hc : c.Keeps descriptor) : (world.call c).Owned descriptor s table := by
  cases c with
  | make d pool => exact h.initializeOn hc pool fun hset => by cases hset
  | initializeDescriptor d pool => exact h.initializeOn hc pool (h.alone hc)
  | assign d other =>
      obtain ⟨hd, hother⟩ := hc
      refine ⟨h.allocated, ?_, ?_, fun {e} he => ?_⟩
      · simpa [DescriptorWorld.call, Function.update_apply, hd.symm] using h.own
      · simpa [DescriptorWorld.call, Function.update_apply, hd.symm] using h.resolves
      · simp only [DescriptorWorld.call, Function.update_apply]
        split
        · exact h.alone hother
        · exact h.alone he
  | setBuffer d name buffer | setImage d name image | setImages d name images =>
      refine h.frame ?_ (descriptors_set world d name _ _)
      rw [DescriptorWorld.call, DescriptorWorld.set]
      split <;> rfl
  | initializeShader p file amount | initializePool p | addArrayInput p name binding type
  | addImageInput p name binding usage | setAmount p amount | reset d => exact h.frame rfl rfl

end

end DescriptorWorld

end Nyx
