import Nyx.Loaders.NyxFiles

/-! # Shaders

`vkg::NyxShader` turns a loaded `.nyx` file into the tables a pipeline is made of: vertex attributes
and bindings, the bindings of the descriptor set layout, and a module for each stage.

* **`NyxShaderData.parse`** — the parser, loop by loop.
* **`ParsedUniforms`** — the state of its loop over the uniforms: the layout binding it fills, which
  is one variable for all of them, and the map from names to layout bindings. -/

namespace Nyx

/-! ## Vulkan's side -/

/-- `vk::ShaderStageFlagBits`, and the sets of them that are made by `|`. -/
abbrev VkShaderStage := UInt32

namespace VkShaderStage

abbrev vertex : VkShaderStage := 0x1
abbrev tessellationControl : VkShaderStage := 0x2
abbrev tessellationEvaluation : VkShaderStage := 0x4
abbrev geometry : VkShaderStage := 0x8
abbrev fragment : VkShaderStage := 0x10
abbrev compute : VkShaderStage := 0x20

end VkShaderStage

/-- The values of `vk::DescriptorType` the library names; `sampler` is the one of a new binding. -/
inductive DescriptorType
  | sampler | combinedImageSampler | storageImage | uniformBuffer | storageBuffer
  deriving DecidableEq, Repr

/-- The formats that the library gives vertex attributes, by their types. -/
inductive VertexFormat
  | r32g32b32a32Sfloat | r32g32b32a32Sint | r32g32b32a32Uint
  | r32g32Sfloat | r32g32Sint | r32g32Uint | r32Sfloat
  deriving DecidableEq, Repr

/-- `vk::VertexInputRate`. -/
inductive VertexInputRate
  | vertex | instanced
  deriving DecidableEq, Repr

/-- `vk::DescriptorSetLayoutBinding`: the number of a binding, its type and count, and the stages
that see it. -/
structure LayoutBinding where
  binding : UInt32 := 0
  descriptorType : DescriptorType := .sampler
  descriptorCount : UInt32 := 0
  stageFlags : VkShaderStage := 0
  deriving DecidableEq, Repr

/-- `vk::VertexInputAttributeDescription`: the location of an attribute, its format, and where in a
vertex it is. -/
structure VertexAttribute where
  location : UInt32
  binding : UInt32
  format : VertexFormat
  offset : UInt32
  deriving DecidableEq, Repr

/-- `vk::VertexInputBindingDescription`: how many bytes a vertex has, and when the next one is
read. -/
structure VertexBinding where
  binding : UInt32
  stride : UInt32
  inputRate : VertexInputRate
  deriving DecidableEq, Repr

/-! ## Conversions -/

/-- The bytes of a string of ASCII characters. -/
def ascii (chars : List Char) : List UInt8 := chars.map fun c => UInt8.ofNat c.toNat

/-- `convert( nyx::ShaderStage )`; what is no stage becomes the fragment stage. -/
def convertStage (stage : ShaderStage) : VkShaderStage :=
  if stage = .fragment then .fragment
  else if stage = .geometry then .geometry
  else if stage = .tessC then .tessellationControl
  else if stage = .tessE then .tessellationEvaluation
  else if stage = .compute then .compute
  else if stage = .vertex then .vertex
  else .fragment

/-- `operator<<( vk::DescriptorType&, nyx::UniformType )`: a type it has no case for leaves the
descriptor type as it was. -/
def assignDescriptorType (before : DescriptorType) (type : UniformType) : DescriptorType :=
  if type = .ubo then .uniformBuffer
  else if type = .sampler then .combinedImageSampler
  else if type = .ssbo then .storageBuffer
  else if type = .none then .uniformBuffer
  else before

/-- `numIterationsFromType`: how many slots an input takes, one for each column of a matrix. -/
def numIterationsFromType (type : List UInt8) : Nat :=
  if type = ascii ['m', 'a', 't', '4'] then 4
  else if type = ascii ['m', 'a', 't', '3'] then 3
  else if type = ascii ['m', 'a', 't', '2'] then 2
  else 1

/-- `formatFromAttributeType`: the format that the slots of an input are read in, by the name of its
type. -/
def formatFromAttributeType (type : List UInt8) : VertexFormat :=
  if type = ascii ['m', 'a', 't', '4'] then .r32g32b32a32Sfloat
  else if type = ascii ['v', 'e', 'c', '4'] then .r32g32b32a32Sfloat
  else if type = ascii ['i', 'v', 'e', 'c', '4'] then .r32g32b32a32Sint
  else if type = ascii ['u', 'v', 'e', 'c', '4'] then .r32g32b32a32Uint
  else if type = ascii ['m', 'a', 't', '3'] then .r32g32b32a32Sfloat
  else if type = ascii ['v', 'e', 'c', '3'] then .r32g32b32a32Sfloat
  else if type = ascii ['i', 'v', 'e', 'c', '3'] then .r32g32b32a32Sint
  else if type = ascii ['u', 'v', 'e', 'c', '3'] then .r32g32b32a32Uint
  else if type = ascii ['m', 'a', 't', '2'] then .r32g32Sfloat
  else if type = ascii ['v', 'e', 'c', '2'] then .r32g32Sfloat
  else if type = ascii ['i', 'v', 'e', 'c', '2'] then .r32g32Sint
  else if type = ascii ['u', 'v', 'e', 'c', '2'] then .r32g32Uint
  else .r32Sfloat

/-! ## The parser -/

/-- The tables of `NyxShaderData` that are made from the file. -/
structure NyxShaderData where
  nyxfile : NyxFileData := {}
  rate : VertexInputRate := .vertex
  inputs : List VertexAttribute := []
  bindings : List VertexBinding := []
  descriptors : List LayoutBinding := []
  /-- The SPIR-V words given for each stage. -/
  spirvMap : Std.TreeMap VkShaderStage (List UInt32) := ∅

/-- `byteSizeFromFormat`: the bytes that a slot of an input takes, which for a vector are what the
file says. -/
def byteSizeFromFormat (attr : Attribute) : UInt32 :=
  if cString attr.type = ascii ['m', 'a', 't', '4'] then 16
  else if cString attr.type = ascii ['m', 'a', 't', '3'] then 12
  else if cString attr.type = ascii ['m', 'a', 't', '2'] then 12
  else attr.size

/-- The loop over the slots of one input, with the attributes so far and the offset. -/
def parseInput (state : List VertexAttribute × UInt32) (attr : Attribute) :
    List VertexAttribute × UInt32 :=
  (List.range (numIterationsFromType (cString attr.type))).foldl
    (fun state _ =>
      (state.1 ++ [⟨attr.location, 0, formatFromAttributeType (cString attr.type), state.2⟩],
        state.2 + byteSizeFromFormat attr))
    state

/-- `binding_map` and the variable `binding` of the loop over the uniforms. -/
structure ParsedUniforms where
  binding : LayoutBinding := {}
  bindingMap : Std.TreeMap (List UInt8) LayoutBinding := ∅

/-- The body of the loop over the uniforms of a stage. -/
def ParsedUniforms.parseUniform (iter : ShaderIterator) (parsed : ParsedUniforms) (index : Nat) :
    ParsedUniforms :=
  let name := iter.uniformName index
  match parsed.bindingMap[name]? with
  | some found =>
      let flags := found.stageFlags ||| convertStage iter.stage
      { parsed with bindingMap := parsed.bindingMap.insert name { found with stageFlags := flags } }
  | none =>
      -- the flags and a type without a case stay from the binding filled before
      let binding : LayoutBinding :=
        { binding := iter.uniformBinding index
          descriptorCount := iter.uniformSize index
          stageFlags := parsed.binding.stageFlags ||| convertStage iter.stage
          descriptorType :=
            assignDescriptorType parsed.binding.descriptorType (iter.uniformType index) }
      ⟨binding, parsed.bindingMap.insert name binding⟩

/-- The loop over the uniforms of a stage, which fills the table of the layout. -/
def ParsedUniforms.parseStage (parsed : ParsedUniforms) (iter : ShaderIterator) : ParsedUniforms :=
  (List.range iter.numUniforms).foldl (parseUniform iter) parsed

/-- The loop over the stages: the layout bindings by the names of their uniforms. -/
def NyxFileData.parseUniforms (file : NyxFileData) : ParsedUniforms :=
  file.iterators.foldl ParsedUniforms.parseStage {}

/-- `NyxShaderData::parse`, which makes the attributes and the binding of the inputs, the bindings
of the uniforms, and the code of the stages. -/
def NyxShaderData.parse (data : NyxShaderData) : NyxShaderData :=
  let (inputs, offset) := data.nyxfile.inputs.foldl parseInput (data.inputs, 0)
  { data with
    inputs := inputs
    bindings := data.bindings ++ [⟨0, offset, data.rate⟩]
    -- in the order of the names
    descriptors := data.nyxfile.parseUniforms.bindingMap.toList.map Prod.snd
    spirvMap := data.nyxfile.iterators.foldl
      (fun map iter => map.insert (convertStage iter.stage) iter.spirv) data.spirvMap }

end Nyx
