import Nyx.Memory.Buffers
import Nyx.Vulkan.Commands

/-! # Images and pipelines

`vkg::Image` makes a `vk::Image` with its view and its sampler, on memory of its own or on memory it
is given, or takes over an image that something else made. `vkg::Pipeline` makes a layout and a
pipeline, and a shader for them unless it is given one.

* **`ImageData`**, **`PipelineData`** — the fields of the source.
* **`ImageData.initializeOn`**, **`ImageData.initializePrealloc`**,
  **`ImageData.initializeImage`**, **`ImageData.reset`**.
* **`PipelineData.initializeNyx`**, **`PipelineData.initializeShader`**,
  **`PipelineData.reset`**. -/

namespace Nyx

/-- `ImageData`: a `vk::Image` with its view, its sampler and its memory, and what they were asked
for. -/
structure ImageData where
  memory : Memory := {}
  /-- The device, once it is set. -/
  device : Option UInt32 := none
  width : UInt32 := 0
  height : UInt32 := 0
  layers : UInt32 := 1
  requirements : Nat := 0
  image : Option Handle := none
  view : Option Handle := none
  sampler : Option Handle := none
  layout : VkImageLayout := .undefined
  preallocated : Bool := false
  deriving DecidableEq, Repr

namespace ImageData

/-- `Image::initialized`: whether a device is set and an image, a sampler and a view are there. -/
def initialized (data : ImageData) : Bool :=
  data.device.isSome && data.image.isSome && data.sampler.isSome && data.view.isSome

/-- `Image::initialize( device, format, width, height, num_layers )`, and whether it succeeded. What
Vulkan answers to `getImageMemoryRequirements` is `required`. -/
def initializeOn (required : Nat) (data : ImageData) (registry : Registry)
    (device width height numLayers : UInt32) : Bool × ImageData × Registry :=
  let (image, registry) := registry.create
  let data := { data with
    device := some device, width := width, height := height, layers := numLayers,
    image := some image, requirements := required }
  let (memory, registry) :=
    if data.preallocated then (data.memory, registry)
    else data.memory.initializeOn registry device (.ofNat required) false
  let data := { data with memory := memory }
  if required ≤ (memory.size - memory.offset).toNat then
    let (view, registry) := registry.create
    let (sampler, registry) := registry.create
    (true, { data with view := some view, sampler := some sampler }, registry)
  else (false, data, registry)

/-- `Image::initialize( device, format, width, height, prealloc, num_layers )`: the image is one
that something else made. -/
def initializeImage (data : ImageData) (registry : Registry)
    (device width height : UInt32) (prealloc : Nat) (numLayers : UInt32) :
    Bool × ImageData × Registry :=
  let (view, registry) := registry.create
  let (sampler, registry) := registry.create
  (true, { data with
    device := some device, width := width, height := height, layers := numLayers,
    image := some (.foreign prealloc), layout := .presentSrcKHR,
    view := some view, sampler := some sampler, preallocated := true }, registry)

/-- `Image::initialize( prealloc, format, width, height, num_layers )`, which takes memory that is
there instead of new one. -/
def initializePrealloc (required : Nat) (data : ImageData) (registry : Registry)
    (prealloc : Memory) (width height numLayers : UInt32) : Bool × ImageData × Registry :=
  let data := { data with memory := prealloc, preallocated := true }
  data.initializeOn required registry prealloc.device width height numLayers

/-- `Image::reset`. The handles stay what they are. -/
def reset (data : ImageData) (registry : Registry) : ImageData × Registry :=
  let registry :=
    if data.image.isSome then
      ((registry.destroy data.sampler).destroy data.view).destroy data.image
    else registry
  let registry := if !data.preallocated then data.memory.deallocate registry else registry
  ({ data with layout := .undefined }, registry)

end ImageData

/-- `PipelineData`, as far as it holds what the pipeline makes. -/
structure PipelineData where
  shader : Option Handle := none
  layout : Option Handle := none
  pipeline : Option Handle := none
  deriving DecidableEq, Repr

namespace PipelineData

/-- `Pipeline::initialized`: whether there is a pipeline of the driver. -/
def initialized (data : PipelineData) : Bool := data.pipeline.isSome

/-- `PipelineData::createLayout`, which makes a layout in place of the one from before. -/
def createLayout (data : PipelineData) (registry : Registry) : PipelineData × Registry :=
  let (layout, registry) := registry.create
  ({ data with layout := some layout }, registry)

/-- `PipelineData::createPipeline`, which makes a pipeline in place of the one from before. -/
def createPipeline (data : PipelineData) (registry : Registry) : PipelineData × Registry :=
  let (pipeline, registry) := registry.create
  ({ data with pipeline := some pipeline }, registry)

/-- The four forms of `Pipeline::initialize` that are given a file or its bytes: each makes a new
`NyxShader` for it. -/
def initializeNyx (data : PipelineData) (registry : Registry) : PipelineData × Registry :=
  let (shader, registry) := registry.create
  let (data, registry) := { data with shader := some shader }.createLayout registry
  data.createPipeline registry

/-- The two forms of `Pipeline::initialize` that are given a shader. -/
def initializeShader (data : PipelineData) (registry : Registry) (shader : Nat) :
    PipelineData × Registry :=
  let (data, registry) := { data with shader := some (.foreign shader) }.createLayout registry
  data.createPipeline registry

/-- `Pipeline::reset`. The handles stay what they are, and the shader is left alone. -/
def reset (data : PipelineData) (registry : Registry) : Registry :=
  (registry.destroy data.pipeline).destroy data.layout

end PipelineData

end Nyx
