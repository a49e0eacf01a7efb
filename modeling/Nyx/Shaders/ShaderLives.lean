import Nyx.Loaders.Reloading
import Nyx.Shaders.ShaderModules

/-! # Lives of shaders

A `vkg::NyxShader` is filled by files and by hand, reset, and filled again. What a file adds goes
behind or over what is there, so that an object is as good as new only if `reset` empties all of it.

* **`ShaderCall`**, **`ShaderSession.run`** — the public methods of a shader, in any order.
* **`ShaderTables`** — what the accessors show.
* **`data_reset`** — the invariant: whatever was called, `reset` leaves the tables of a new shader.
* **`reset_is_fresh`** — a shader that is reset is a fresh one. -/

namespace Nyx

open Foundations

/-! ## Filling a shader by hand -/

/-- `NyxShader::Format`: the formats that an attribute can be added in. -/
inductive ShaderFormat
  | mat4 | vec4 | ivec4 | uvec4 | mat3 | vec3 | ivec3 | uvec3 | mat2 | vec2 | ivec2 | uvec2
  deriving DecidableEq, Repr

/-- `formatFromShaderFormat`: the format of Vulkan for one of them, which has four components where
three are meant. -/
def formatFromShaderFormat : ShaderFormat → VertexFormat
  | .mat4 | .vec4 | .mat3 | .vec3 => .r32g32b32a32Sfloat
  | .ivec4 | .ivec3 => .r32g32b32a32Sint
  | .uvec4 | .uvec3 => .r32g32b32a32Uint
  | .mat2 | .vec2 => .r32g32Sfloat
  | .ivec2 => .r32g32Sint
  | .uvec2 => .r32g32Uint

/-- `NyxShader::InputRate`. -/
inductive InputRate
  | vertex | instanced
  deriving DecidableEq, Repr

/-- `convert( NyxShader::InputRate )`: the rate of Vulkan for one of the library. -/
def convertRate : InputRate → VertexInputRate
  | .instanced => .instanced
  | .vertex => .vertex

/-- `nyx::ImageUsage`. -/
inductive ImageUsage
  | transferSrc | transferDst | sampled | storage | colorAttachment | depthStencil | input
  | shadingRate | vkextFragmentDensity
  deriving DecidableEq, Repr

/-- `convert( nyx::ImageUsage )`: the type of descriptor for an image, by what it is used for. -/
def convertUsage : ImageUsage → DescriptorType
  | .sampled => .combinedImageSampler
  | .input => .storageImage
  | _ => .sampler

/-- The value of `nyx::ArrayFlags`, as a number. -/
abbrev ArrayFlags := UInt32

namespace ArrayFlags

abbrev uniformBuffer : ArrayFlags := 0x10
abbrev storageBuffer : ArrayFlags := 0x20

end ArrayFlags

/-- `convert( nyx::ArrayFlags )`: the type of descriptor for an array, by its flags. -/
def convertFlags (flags : ArrayFlags) : DescriptorType :=
  if flags = .storageBuffer then .storageBuffer
  else if flags = .uniformBuffer then .uniformBuffer
  else .uniformBuffer

namespace NyxShaderData

/-- `NyxShader::addAttribute`, which adds an attribute to those from before. -/
def addAttribute (data : NyxShaderData) (location binding : UInt32) (format : ShaderFormat)
    (offset : UInt32) : NyxShaderData :=
  { data with
    inputs := data.inputs ++ [⟨location, binding, formatFromShaderFormat format, offset⟩] }

/-- `NyxShader::addDescriptor`, whose two forms convert their type in two ways. -/
def addDescriptor (data : NyxShaderData) (binding : UInt32) (type : DescriptorType)
    (count : UInt32) (stage : ShaderStage) : NyxShaderData :=
  { data with descriptors := data.descriptors ++ [⟨binding, type, count, convertStage stage⟩] }

/-- `NyxShader::addDescriptor` for an array, whose flags say which type of descriptor it is. -/
def addDescriptorArray (data : NyxShaderData) (binding : UInt32) (type : ArrayFlags)
    (count : UInt32) (stage : ShaderStage) : NyxShaderData :=
  data.addDescriptor binding (convertFlags type) count stage

/-- `NyxShader::addDescriptor` for an image, whose usage says which type of descriptor it is. -/
def addDescriptorImage (data : NyxShaderData) (binding : UInt32) (type : ImageUsage)
    (count : UInt32) (stage : ShaderStage) : NyxShaderData :=
  data.addDescriptor binding (convertUsage type) count stage

/-- `NyxShader::addInputBinding`, which adds a binding of vertices to those from before. -/
def addInputBinding (data : NyxShaderData) (binding stride : UInt32) (rate : InputRate) :
    NyxShaderData :=
  { data with bindings := data.bindings ++ [⟨binding, stride, convertRate rate⟩] }

/-- `NyxShader::addShaderModule`. Vulkan reads the size as one of bytes. -/
def addShaderModule (data : NyxShaderData) (stage : ShaderStage) (spirv : List UInt32)
    (size : UInt32) : NyxShaderData :=
  { data with spirvMap := data.spirvMap.insert (convertStage stage) (spirv.take (size.toNat / 4)) }

end NyxShaderData

/-- `NyxShader::reset`. The handle of the layout stays after its destruction. -/
def ShaderSession.reset (s : ShaderSession) : ShaderSession where
  device :=
    { s.device with
      destroyedModules := s.device.destroyedModules ++ s.shader.modules.toList.map Prod.snd
      destroyedLayouts := s.device.destroyedLayouts ++ s.shader.layout.toList }
  shader :=
    { s.shader with
      data :=
        { s.shader.data with
          nyxfile := {}
          inputs := []
          descriptors := []
          bindings := []
          spirvMap := ∅ }
      modules := ∅
      infos := [] }

/-! ## Sequences of calls -/

/-- A call of a method of a shader, with what it is given. -/
inductive ShaderCall where
  | initializeBytes (call : LoadCall) (freed : VkShaderStage → List UInt32 → List UInt32)
  | build
  | addAttribute (location binding : UInt32) (format : ShaderFormat) (offset : UInt32)
  | addDescriptorArray (binding : UInt32) (type : ArrayFlags) (count : UInt32) (stage : ShaderStage)
  | addDescriptorImage (binding : UInt32) (type : ImageUsage) (count : UInt32) (stage : ShaderStage)
  | addInputBinding (binding stride : UInt32) (rate : InputRate)
  | addShaderModule (stage : ShaderStage) (spirv : List UInt32) (size : UInt32)
  | reset

namespace ShaderSession

/-- A change of the data of a shader alone, which leaves its modules and its layout. -/
def modifyData (s : ShaderSession) (f : NyxShaderData → NyxShaderData) : ShaderSession :=
  { s with shader.data := f s.shader.data }

/-- One call on a shader, with the failure that reading a file may come to. -/
def step (s : ShaderSession) : ShaderCall → Except StreamFailure ShaderSession
  | .initializeBytes call freed => s.initializeBytes freed call.bytes call.bytes.length
  | .build => .ok s.build
  | .addAttribute location binding format offset =>
      .ok (s.modifyData (·.addAttribute location binding format offset))
  | .addDescriptorArray binding type count stage =>
      .ok (s.modifyData (·.addDescriptorArray binding type count stage))
  | .addDescriptorImage binding type count stage =>
      .ok (s.modifyData (·.addDescriptorImage binding type count stage))
  | .addInputBinding binding stride rate =>
      .ok (s.modifyData (·.addInputBinding binding stride rate))
  | .addShaderModule stage spirv size => .ok (s.modifyData (·.addShaderModule stage spirv size))
  | .reset => .ok s.reset

/-- The shader after some calls, one after the other, if none of them fails. -/
def run (s : ShaderSession) (calls : List ShaderCall) : Except StreamFailure ShaderSession :=
  calls.foldlM step s

end ShaderSession

/-- What the accessors of a shader show, its modules and its layout by what they were made of. -/
structure ShaderTables where
  attributes : List VertexAttribute
  bindings : List VertexBinding
  descriptors : List LayoutBinding
  layout : Option (List LayoutBinding)
  infos : List (VkShaderStage × Option (List UInt32))
  numStages : UInt32
  deriving DecidableEq

/-- The tables of a shader, with all that it shows of its layout and its stages. -/
def ShaderSession.tables (s : ShaderSession) : ShaderTables where
  attributes := s.shader.data.inputs
  bindings := s.shader.data.bindings
  descriptors := s.shader.data.descriptors
  layout := s.shader.layout.bind fun handle => s.device.layouts[handle]?
  infos := s.shownInfos
  numStages := s.shader.numStages

/-! ## The rate never changes -/

/-- What `reset` does not set, the rate of the input, is as in a new shader. -/
def ShaderSession.Untouched (s : ShaderSession) : Prop := s.shader.data.rate = .vertex

/-- **Reset data.** After `reset` the data is that of a new shader. -/
theorem data_reset {s : ShaderSession} (h : s.Untouched) : s.reset.shader.data = {} := by
  have hrate : s.reset.shader.data = { rate := s.shader.data.rate } := rfl
  rw [hrate, h]

/-- An initialisation does not fail, and shows what the data before it and the bytes decide. -/
theorem initializeBytes_eq (s : ShaderSession) (call : LoadCall)
    (freed : VkShaderStage → List UInt32 → List UInt32) :
    s.initializeBytes freed call.bytes call.bytes.length =
      .ok { s with
            shader.data :=
              { s.shader.data with
                nyxfile := call.loadedInto s.shader.data.nyxfile
                spirvMap := s.shader.data.spirvMap.map freed : NyxShaderData }.parse }.build := by
  simp only [ShaderSession.initializeBytes, call.load_eq]

/-- No call on a shader fails or touches the rate of its input. -/
theorem ShaderSession.Untouched.step {s : ShaderSession} (h : s.Untouched) (call : ShaderCall) :
    ∃ t, s.step call = .ok t ∧ t.Untouched := by
  cases call with
  | initializeBytes call freed => exact ⟨_, initializeBytes_eq s call freed, h⟩
  | _ => exact ⟨_, rfl, h⟩

/-- No sequence of calls on a shader fails or touches the rate of its input. -/
theorem ShaderSession.Untouched.run {s : ShaderSession} (h : s.Untouched)
    (calls : List ShaderCall) : ∃ t, s.run calls = .ok t ∧ t.Untouched := by
  induction calls generalizing s with
  | nil => exact ⟨s, rfl, h⟩
  | cons call calls ih =>
      obtain ⟨t, hstep, ht⟩ := h.step call
      obtain ⟨u, hrun, hu⟩ := ih ht
      refine ⟨u, ?_, hu⟩
      rw [ShaderSession.run, List.foldlM_cons, hstep]
      exact hrun

/-! ## A reset shader is a fresh shader -/

/-- To make modules leaves the layouts of the device alone. -/
theorem layouts_foldl_makeShaderModule (entries : List (VkShaderStage × List UInt32))
    (made : ShaderDevice × Std.TreeMap ShaderStage Nat) :
    (entries.foldl makeShaderModule made).1.layouts = made.1.layouts := by
  induction entries generalizing made with
  | nil => rfl
  | cons entry entries ih => rw [List.foldl_cons, ih, makeShaderModule]

/-- What a shader shows after a build depends on its data alone, not on its device or on what was
built before. -/
theorem tables_build (s : ShaderSession) :
    s.build.tables =
      { attributes := s.shader.data.inputs
        bindings := s.shader.data.bindings
        descriptors := s.shader.data.descriptors
        layout := some s.shader.data.descriptors
        infos := (moduleCodes s.shader.data.spirvMap).toList.map fun entry =>
          (convertStage entry.1, some entry.2)
        numStages := .ofNat (moduleCodes s.shader.data.spirvMap).toList.length } := by
  have hlayout : s.build.tables.layout = some s.shader.data.descriptors := by
    have hlayouts := layouts_foldl_makeShaderModule s.shader.data.spirvMap.toList
      (s.makeDescriptorLayout.device, ∅)
    show s.build.device.layouts[s.device.layouts.length]? = _
    rw [ShaderSession.build, ShaderSession.makePipelineShaderInfos]
    exact (congrArg (·[s.device.layouts.length]?) hlayouts).trans List.getElem?_concat_length
  rw [← shownInfos_build s, ← numStages_build s, ← hlayout]
  rfl

/-- Shaders with the same data show the same tables once they are built. -/
theorem tables_build_congr {s t : ShaderSession} (h : s.shader.data = t.shader.data) :
    s.build.tables = t.build.tables := by
  rw [tables_build, tables_build, h]

/-- **A reset shader is a fresh shader.** After any calls, `reset` and an initialisation show the
same tables as the same initialisation of a new shader, on whatever devices. -/
theorem reset_is_fresh (device device' : ShaderDevice) (calls : List ShaderCall) (last : LoadCall)
    (freed freed' : VkShaderStage → List UInt32 → List UInt32) :
    ∃ used reused fresh, ({ device := device } : ShaderSession).run calls = .ok used ∧
      used.reset.initializeBytes freed last.bytes last.bytes.length = .ok reused ∧
      ({ device := device' } : ShaderSession).initializeBytes freed' last.bytes last.bytes.length
        = .ok fresh ∧
      reused.tables = fresh.tables := by
  have hnew : ShaderSession.Untouched { device := device } := rfl
  obtain ⟨used, hrun, hused⟩ := hnew.run calls
  refine ⟨used, _, _, hrun, initializeBytes_eq _ last freed, initializeBytes_eq _ last freed', ?_⟩
  apply tables_build_congr
  rw [data_reset hused]
  rfl

end Nyx
