import Nyx.Shaders.NyxShaders

/-! # Descriptors

`vkg::DescriptorPool` keeps a table of the uniforms of a shader, and `vkg::Descriptor` writes
resources to the binding that the table has for a name.

* **`DescriptorPoolData.initializeShader`** — the table of a shader.
* **`DescriptorPoolData.set`**, **`DescriptorPoolData.setMany`** — what `Descriptor::set` writes for
  a name. -/

namespace Nyx

/-- `DescriptorPoolData::Uniform`: what the table of a pool has for a name. -/
structure PoolUniform where
  type : UniformType
  size : UInt32
  binding : UInt32
  deriving DecidableEq, Repr

/-- `convert( nyx::UniformType )`: the type of descriptor that a pool makes of a uniform. -/
def convertUniform (type : UniformType) : DescriptorType :=
  if type = .sampler then .combinedImageSampler
  else if type = .inputImage then .storageBuffer
  else .uniformBuffer

/-- `DescriptorPoolData`. The map has no order in the source, and that of the sizes has no
meaning. -/
structure DescriptorPoolData where
  map : Std.TreeMap (List UInt8) PoolUniform := ∅
  amount : Nat := 20
  /-- The sizes the pool was created with, `none` before. -/
  pool : Option (List (DescriptorType × Nat)) := none

/-- `vk::WriteDescriptorSet`, as far as it names its target. -/
structure WriteDescriptorSet where
  dstBinding : UInt32
  descriptorType : DescriptorType
  descriptorCount : UInt32
  deriving DecidableEq, Repr

namespace DescriptorPoolData

/-- The loop over the uniforms of a stage: a later uniform replaces an earlier one of its name. -/
def addStage (map : Std.TreeMap (List UInt8) PoolUniform) (iter : ShaderIterator) :
    Std.TreeMap (List UInt8) PoolUniform :=
  (List.range iter.numUniforms).foldl
    (fun map index => map.insert (iter.uniformName index)
      ⟨iter.uniformType index, iter.uniformSize index, iter.uniformBinding index⟩)
    map

/-- `DescriptorPool::initialize()`: without uniforms no pool is created. -/
def initializePool (data : DescriptorPoolData) : DescriptorPoolData :=
  let sizes := data.map.toList.map fun entry => (convertUniform entry.2.type, data.amount)
  if sizes.length ≠ 0 then { data with pool := some sizes } else data

/-- `DescriptorPool::initialize( shader, amount )`, which enters all uniforms of the shader and
makes the pool, if the shader has a stage. -/
def initializeShader (data : DescriptorPoolData) (file : NyxFileData) (amount : Nat) :
    DescriptorPoolData :=
  let data := { data with amount := amount }
  if file.size ≠ 0 then { data with map := file.iterators.foldl addStage data.map }.initializePool
  else data

/-- `Descriptor::set( name, … )` for a buffer or an image, on a descriptor of this pool; nothing
without a pool or for a name without entry. -/
def set (data : DescriptorPoolData) (name : List UInt8) : Option WriteDescriptorSet :=
  if data.pool.isSome then
    (data.map[name]?).map fun uniform => ⟨uniform.binding, convertUniform uniform.type, 1⟩
  else none

/-- `Descriptor::set( name, images, count )`, which writes no more images than the uniform has room
for. -/
def setMany (data : DescriptorPoolData) (name : List UInt8) (count : UInt32) :
    Option WriteDescriptorSet :=
  if data.pool.isSome then
    (data.map[name]?).map fun uniform =>
      ⟨uniform.binding, convertUniform uniform.type,
        if count < uniform.size then count else uniform.size⟩
  else none

end DescriptorPoolData

end Nyx
