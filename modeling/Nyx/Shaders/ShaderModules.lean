import Nyx.Shaders.StageFlags

/-! # Shader modules

`vkg::NyxShader` creates a module for each stage of its file, and the infos by which a pipeline is
given the modules. On the way a stage becomes a Vulkan flag, a stage again, and a flag again.

* **`ShaderDevice`** — the modules and layouts that a device has created.
* **`ShaderSession.makeShaderModules`**, **`ShaderSession.makePipelineShaderInfos`**,
  **`ShaderSession.initializeBytes`** — the methods of the source.
* **`moduleCodes`**, **`shownInfos_build`** — which words the infos lead to.
* **`stages_have_modules_iff`** — every stage gets its own module exactly when no stage is one of
  tessellation. -/

namespace Nyx

open Foundations

/-! ## The shader object -/

/-- The shader modules and the descriptor set layouts that a device has created, by their handles,
and the handles that were destroyed. -/
structure ShaderDevice where
  /-- The words of each module. -/
  modules : List (List UInt32) := []
  /-- The bindings of each layout. -/
  layouts : List (List LayoutBinding) := []
  destroyedModules : List Nat := []
  destroyedLayouts : List Nat := []
  deriving DecidableEq, Repr

/-- `vk::PipelineShaderStageCreateInfo`: a stage of a pipeline, its module, and where it begins. -/
structure ShaderInfo where
  stage : VkShaderStage
  /-- The module. -/
  handle : Nat
  name : List UInt8
  deriving DecidableEq, Repr

/-- The rest of `NyxShaderData`: what is created from the tables. -/
structure NyxShader where
  data : NyxShaderData := {}
  modules : Std.TreeMap ShaderStage Nat := ∅
  infos : List ShaderInfo := []
  layout : Option Nat := none

/-- `NyxShader::numStages`: how many modules the shader has. -/
def NyxShader.numStages (shader : NyxShader) : UInt32 := .ofNat shader.modules.size

/-- `nyxStageFromVulkan`; what it has no case for becomes the vertex stage. -/
def nyxStageFromVulkan (flag : VkShaderStage) : ShaderStage :=
  if flag = .vertex then .vertex
  else if flag = .fragment then .fragment
  else if flag = .compute then .compute
  else if flag = .geometry then .geometry
  else .vertex

/-- A shader and the device that it makes its objects on. -/
structure ShaderSession where
  device : ShaderDevice := {}
  shader : NyxShader := {}

/-- The body of the loop of `makeShaderModules`, for one entry of the map. -/
def makeShaderModule (made : ShaderDevice × Std.TreeMap ShaderStage Nat)
    (entry : VkShaderStage × List UInt32) : ShaderDevice × Std.TreeMap ShaderStage Nat :=
  ({ made.1 with modules := made.1.modules ++ [entry.2] },
    made.2.insert (nyxStageFromVulkan entry.1) made.1.modules.length)

namespace ShaderSession

/-- `NyxShaderData::makeDescriptorLayout`, which makes a layout of the bindings of the uniforms. -/
def makeDescriptorLayout (s : ShaderSession) : ShaderSession :=
  { s with
    device.layouts := s.device.layouts ++ [s.shader.data.descriptors]
    shader.layout := some s.device.layouts.length }

/-- `NyxShaderData::makeShaderModules`, which makes a module of the code of each stage. -/
def makeShaderModules (s : ShaderSession) : ShaderSession :=
  let made := s.shader.data.spirvMap.toList.foldl makeShaderModule (s.device, ∅)
  { s with device := made.1, shader.modules := made.2 }

/-- `NyxShaderData::makePipelineShaderInfos`, which makes an info of each module. -/
def makePipelineShaderInfos (s : ShaderSession) : ShaderSession :=
  { s with
    shader.infos := s.shader.modules.toList.map fun entry =>
      ⟨convertStage entry.1, entry.2, ascii ['m', 'a', 'i', 'n']⟩ }

/-- `NyxShader::initialize( device )`, which is also what the other `initialize` end with. -/
def build (s : ShaderSession) : ShaderSession :=
  s.makeDescriptorLayout.makeShaderModules.makePipelineShaderInfos

/-- `NyxShader::initialize( device, bytes, size )`. The map of the words has pointers, and loading a
file frees the words of the one before it: `freed` is what the pointers find after that. -/
def initializeBytes (freed : VkShaderStage → List UInt32 → List UInt32) (s : ShaderSession)
    (bytes : List UInt8) (size : Nat) : Except StreamFailure ShaderSession :=
  match s.shader.data.nyxfile.load bytes size with
  | .error failure => .error failure
  | .ok nyxfile =>
      let loaded : NyxShaderData :=
        { s.shader.data with
          nyxfile := nyxfile
          spirvMap := s.shader.data.spirvMap.map freed }
      .ok { s with shader.data := loaded.parse }.build

/-- The infos with the words of their modules in place of the handles. -/
def shownInfos (s : ShaderSession) : List (VkShaderStage × Option (List UInt32)) :=
  s.shader.infos.map fun info => (info.stage, s.device.modules[info.handle]?)

end ShaderSession

/-! ## Which words the infos lead to -/

/-- The words of the modules that are made from a map of words. -/
def moduleCodes (spirvMap : Std.TreeMap VkShaderStage (List UInt32)) :
    Std.TreeMap ShaderStage (List UInt32) :=
  (spirvMap.toList.map fun entry => (nyxStageFromVulkan entry.1, entry.2)).foldl
    (fun codes pair => codes.insert pair.1 pair.2) ∅

/-- The handles that the stages have lead to the words that they were made of. -/
def LeadTo (made : ShaderDevice × Std.TreeMap ShaderStage Nat)
    (codes : Std.TreeMap ShaderStage (List UInt32)) : Prop :=
  ∀ stage : ShaderStage, (made.2[stage]?).map (made.1.modules[·]?) = (codes[stage]?).map some

/-- The handles lead to the words still when one more module is made. -/
theorem LeadTo.makeShaderModule {made : ShaderDevice × Std.TreeMap ShaderStage Nat}
    {codes : Std.TreeMap ShaderStage (List UInt32)} (h : LeadTo made codes)
    (entry : VkShaderStage × List UInt32) :
    LeadTo (makeShaderModule made entry) (codes.insert (nyxStageFromVulkan entry.1) entry.2) := by
  intro stage
  simp only [Nyx.makeShaderModule, Std.TreeMap.getElem?_insert]
  split
  · simp
  · rw [← h stage]
    cases hhandle : made.2[stage]? with
    | none => rfl
    | some handle =>
        have hlead := h stage
        rw [hhandle, Option.map_some] at hlead
        obtain ⟨words, -, hwords⟩ := Option.map_eq_some_iff.mp hlead.symm
        obtain ⟨hlt, -⟩ := List.getElem?_eq_some_iff.mp hwords.symm
        rw [Option.map_some, Option.map_some, List.getElem?_append_left hlt]

/-- The handles lead to the words when all modules are made, the later ones in place of earlier ones
of the same stage. -/
theorem leadTo_foldl (entries : List (VkShaderStage × List UInt32)) (device : ShaderDevice) :
    LeadTo (entries.foldl makeShaderModule (device, ∅))
      ((entries.map fun entry => (nyxStageFromVulkan entry.1, entry.2)).foldl
        (fun codes pair => codes.insert pair.1 pair.2) ∅) := by
  induction entries using List.reverseRecOn with
  | nil => exact fun stage => by simp
  | append_singleton entries entry ih =>
      rw [List.map_append, List.foldl_append, List.foldl_append]
      exact ih.makeShaderModule entry

/-- **What a build shows.** The infos lead to the words of the modules that are made, whatever the
device has created before. -/
theorem shownInfos_build (s : ShaderSession) :
    s.build.shownInfos = (moduleCodes s.shader.data.spirvMap).toList.map fun entry =>
      (convertStage entry.1, some entry.2) := by
  have hsame := toList_map_congr (leadTo_foldl s.shader.data.spirvMap.toList
    s.makeDescriptorLayout.device)
  have h := congrArg (List.map fun entry : ShaderStage × Option (List UInt32) =>
    (convertStage entry.1, entry.2)) hsame
  rw [List.map_map, List.map_map] at h
  rw [ShaderSession.shownInfos, ShaderSession.build, ShaderSession.makePipelineShaderInfos,
    List.map_map]
  exact h

/-- A build counts as many stages as it leaves modules. -/
theorem numStages_build (s : ShaderSession) :
    s.build.shader.numStages = .ofNat (moduleCodes s.shader.data.spirvMap).toList.length := by
  have h := congrArg List.length (toList_map_congr (leadTo_foldl s.shader.data.spirvMap.toList
    s.makeDescriptorLayout.device))
  rw [List.length_map, List.length_map, Std.TreeMap.length_toList] at h
  exact congrArg UInt32.ofNat h

/-! ## From the stages of a file to the modules -/

/-- A stage that the way back from Vulkan has a case for. -/
def ShaderStage.HasModule (stage : ShaderStage) : Prop :=
  stage ≠ .tessC ∧ stage ≠ .tessE

instance : DecidablePred ShaderStage.HasModule := fun _ => inferInstanceAs (Decidable (_ ∧ _))

/-- Two valid stages with the same flag are the same stage. -/
theorem convertStage_injOn {stage other : ShaderStage} (h : stage ∈ validStages)
    (hother : other ∈ validStages) (heq : convertStage stage = convertStage other) :
    stage = other := by
  have hall : validStages.all fun stage => validStages.all fun other =>
      convertStage stage = convertStage other → stage = other := by decide
  exact List.all_iff_forall_prop.mp (List.all_eq_true.mp hall stage h) other hother heq

/-- A valid stage that can have a module is converted to a flag and back to itself. -/
theorem nyxStageFromVulkan_convertStage {stage : ShaderStage} (h : stage ∈ validStages)
    (hmodule : ShaderStage.HasModule stage) : nyxStageFromVulkan (convertStage stage) = stage := by
  have hall : validStages.all fun stage => ShaderStage.HasModule stage →
      nyxStageFromVulkan (convertStage stage) = stage := by decide
  exact List.all_iff_forall_prop.mp hall stage h hmodule

/-- Every flag leads back to a valid stage that can have a module, never to one of tessellation. -/
theorem hasModule_nyxStageFromVulkan (flag : VkShaderStage) :
    nyxStageFromVulkan flag ∈ validStages ∧ ShaderStage.HasModule (nyxStageFromVulkan flag) := by
  unfold nyxStageFromVulkan
  split_ifs <;> decide

/-- The words that a new shader is given by its file, under the flags of the stages. -/
theorem spirvMap_parse (file : NyxFileData) :
    ({ nyxfile := file } : NyxShaderData).parse.spirvMap =
      (file.map.toList.map fun entry => (convertStage entry.1, entry.2.spirv)).foldl
        (fun map pair => map.insert pair.1 pair.2) ∅ := by
  have h := congrArg (List.map fun entry : ShaderStage × List UInt32 × List Uniform =>
    (convertStage entry.1, entry.2.1)) (map_iterators file)
  simp only [List.map_map, Function.comp_def] at h
  rw [← h, List.foldl_map]
  rfl

/-- If the records of a file have distinct stages, the map has all of them with their words. -/
theorem ShaderFile.shadersByStage_perm {file : ShaderFile}
    (hdistinct : (file.shaders.map Shader.stage).Nodup) :
    (file.shadersByStage.toList.map fun entry => (entry.1, entry.2.spirv)).Perm
      (file.shaders.map fun shader => (shader.stage, shader.spirv)) := by
  have hfind : ∀ stage shader, file.shadersByStage[stage]? = some shader ↔
      shader ∈ file.shaders ∧ shader.stage = stage := by
    intro stage shader
    have hfirst : file.shaders.find? (·.stage = stage)
        = firstOf stage (file.shaders.map fun shader => (shader.stage, shader)) := by
      rw [firstOf, List.find?_map, Option.map_map]
      exact Option.map_id'.symm
    rw [file.getElem?_shadersByStage, hfirst,
      firstOf_eq_some_iff (by simpa [Function.comp_def] using hdistinct)]
    simp
  refine toList_map_perm (f := Shader.spirv) (by simpa [Function.comp_def]) fun stage words => ?_
  simp [hfind, and_assoc]

/-- The stages of all modules are valid, and none of them is one of tessellation. -/
theorem hasModule_of_moduleCodes {spirvMap : Std.TreeMap VkShaderStage (List UInt32)}
    {entry : ShaderStage × List UInt32} (h : entry ∈ (moduleCodes spirvMap).toList) :
    entry.1 ∈ validStages ∧ ShaderStage.HasModule entry.1 := by
  have hfound := Std.TreeMap.mem_toList_iff_getElem?_eq_some.mp h
  rw [moduleCodes, getElem?_foldl_insert, Std.TreeMap.getElem?_emptyc, Option.or_none] at hfound
  by_contra hnot
  rw [lastOf, firstOf_eq_none_iff.mpr] at hfound
  · cases hfound
  · intro pair hpair heq
    obtain ⟨made, -, rfl⟩ := List.mem_map.mp (List.mem_reverse.mp hpair)
    rw [← heq] at hnot
    exact hnot (hasModule_nyxStageFromVulkan made.1)

/-- Records with distinct stages, none of them one of tessellation, all get modules. -/
theorem moduleCodes_perm {file : ShaderFile} (hdistinct : (file.shaders.map Shader.stage).Nodup)
    (hvalid : ∀ shader ∈ file.shaders, shader.stage ∈ validStages)
    (hmodule : ∀ shader ∈ file.shaders, ShaderStage.HasModule shader.stage) :
    (moduleCodes ({ nyxfile := file.loaded } : NyxShaderData).parse.spirvMap).toList.Perm
      (file.shaders.map fun shader => (shader.stage, shader.spirv)) := by
  have hspirv : (({ nyxfile := file.loaded } : NyxShaderData).parse.spirvMap).toList.Perm
      (file.shaders.map fun shader => (convertStage shader.stage, shader.spirv)) := by
    have hloaded := (ShaderFile.shadersByStage_perm hdistinct).map (Prod.map convertStage id)
    simp only [List.map_map, Function.comp_def, Prod.map, id_eq] at hloaded
    rw [spirvMap_parse]
    refine (toList_foldl_insert_perm ?_).trans hloaded
    refine (hloaded.map Prod.fst).nodup_iff.mpr ?_
    have hflags : (file.shaders.map Shader.stage).map convertStage |>.Nodup :=
      hdistinct.map_on fun stage hstage other hother => by
        obtain ⟨shader, hshader, rfl⟩ := List.mem_map.mp hstage
        obtain ⟨second, hsecond, rfl⟩ := List.mem_map.mp hother
        exact convertStage_injOn (hvalid shader hshader) (hvalid second hsecond)
    simpa [Function.comp_def] using hflags
  have hback := hspirv.map (Prod.map nyxStageFromVulkan id)
  have hstages : (file.shaders.map fun shader => (convertStage shader.stage, shader.spirv)).map
      (Prod.map nyxStageFromVulkan id) =
      file.shaders.map fun shader => (shader.stage, shader.spirv) := by
    rw [List.map_map]
    refine List.map_congr_left fun shader hshader => ?_
    simp [nyxStageFromVulkan_convertStage (hvalid shader hshader) (hmodule shader hshader)]
  rw [hstages] at hback
  refine (toList_foldl_insert_perm ?_).trans hback
  refine (hback.map Prod.fst).nodup_iff.mpr ?_
  simpa [Function.comp_def] using hdistinct

/-! ## When every stage gets its own module -/

/-- A new shader that is initialised by the bytes of a file is built of the tables of this file,
whatever bytes come after. -/
theorem initializeBytes_eq_build (file : ShaderFile) (trailing : List UInt8) (size : Nat)
    (hfile : file.encode.length ≤ size) (hsize : size < 2 ^ 32)
    (freed : VkShaderStage → List UInt32 → List UInt32) (device : ShaderDevice) :
    ({ device := device } : ShaderSession).initializeBytes freed (file.encode ++ trailing) size =
      .ok ({ device := device, shader.data := ({ nyxfile := file.loaded } : NyxShaderData).parse } :
        ShaderSession).build := by
  simp only [ShaderSession.initializeBytes, load_eq_loaded file trailing size hfile hsize]
  rfl

/-- A valid stage whose own words are shown after a build is none of tessellation. -/
theorem hasModule_of_shownInfos {s : ShaderSession} {shader : Shader}
    (hvalid : shader.stage ∈ validStages)
    (hmem : (convertStage shader.stage, some shader.spirv) ∈ s.build.shownInfos) :
    ShaderStage.HasModule shader.stage := by
  rw [shownInfos_build] at hmem
  obtain ⟨entry, hentry, heq⟩ := List.mem_map.mp hmem
  obtain ⟨hstage, hmodule⟩ := hasModule_of_moduleCodes hentry
  rw [convertStage_injOn hvalid hstage (congrArg Prod.fst heq).symm]
  exact hmodule

/-- **When every stage gets its own module.** The records of a complete file have distinct valid
stages. Given it, a new shader on any device has an info for each stage, with the flag of the stage
and a module of its words, and as many stages as the file, exactly when no stage is one of
tessellation. -/
theorem stages_have_modules_iff (file : ShaderFile) (trailing : List UInt8) (size : Nat)
    (hfile : file.encode.length ≤ size) (hsize : size < 2 ^ 32)
    (hdistinct : (file.shaders.map Shader.stage).Nodup)
    (hvalid : ∀ shader ∈ file.shaders, shader.stage ∈ validStages)
    (freed : VkShaderStage → List UInt32 → List UInt32) (device : ShaderDevice) :
    (∃ s, ({ device := device } : ShaderSession).initializeBytes freed
          (file.encode ++ trailing) size = .ok s ∧
        s.shownInfos.Perm
          (file.shaders.map fun shader => (convertStage shader.stage, some shader.spirv)) ∧
        s.shader.numStages.toNat = file.shaders.length) ↔
      ∀ shader ∈ file.shaders, ShaderStage.HasModule shader.stage := by
  rw [initializeBytes_eq_build file trailing size hfile hsize freed device]
  constructor
  · rintro ⟨s, hs, hperm, -⟩ shader hshader
    rw [Except.ok.injEq] at hs
    rw [← hs] at hperm
    exact hasModule_of_shownInfos (hvalid shader hshader)
      (hperm.mem_iff.mpr (List.mem_map_of_mem hshader))
  · intro hmodule
    have hperm := moduleCodes_perm hdistinct hvalid hmodule
    refine ⟨_, rfl, ?_, ?_⟩
    · rw [shownInfos_build]
      have h := hperm.map fun entry => (convertStage entry.1, some entry.2)
      rwa [List.map_map] at h
    · -- there are six stages in all
      have hlength : file.shaders.length ≤ validStages.length := by
        have hsub : file.shaders.map Shader.stage ⊆ validStages := by
          intro stage hstage
          obtain ⟨shader, hshader, rfl⟩ := List.mem_map.mp hstage
          exact hvalid shader hshader
        simpa using (List.subperm_of_subset hdistinct hsub).length_le
      rw [numStages_build, hperm.length_eq, List.length_map, UInt32.toNat_ofNat_of_lt']
      exact Nat.lt_of_le_of_lt hlength (by decide)

/-- A fragment stage in front of a vertex stage in the file, which both get their modules. -/
theorem stages_have_modules_iff_twoStages :
    let file : ShaderFile := ⟨1, [], [], [⟨[], [7, 8], .fragment⟩, ⟨[], [9], .vertex⟩]⟩
    (∃ s, ({} : ShaderSession).initializeBytes (fun _ words => words) (file.encode ++ []) 60 =
          .ok s ∧
        s.shownInfos.Perm
          (file.shaders.map fun shader => (convertStage shader.stage, some shader.spirv)) ∧
        s.shader.numStages.toNat = file.shaders.length) ↔
      ∀ shader ∈ file.shaders, ShaderStage.HasModule shader.stage :=
  stages_have_modules_iff _ [] 60 (by decide) (by decide) (by decide) (by decide)
    (fun _ words => words) {}

/-- Not all stages get their own modules: a stage of tessellation control is taken for a vertex
stage. -/
theorem not_stages_have_modules : ¬ ∀ (file : ShaderFile) (trailing : List UInt8) (size : Nat),
    file.encode.length ≤ size → size < 2 ^ 32 → (file.shaders.map Shader.stage).Nodup →
    (∀ shader ∈ file.shaders, shader.stage ∈ validStages) →
    ∀ (freed : VkShaderStage → List UInt32 → List UInt32) (device : ShaderDevice),
    ∃ s, ({ device := device } : ShaderSession).initializeBytes freed
          (file.encode ++ trailing) size = .ok s ∧
        s.shownInfos.Perm
          (file.shaders.map fun shader => (convertStage shader.stage, some shader.spirv)) ∧
        s.shader.numStages.toNat = file.shaders.length := by
  intro h
  let file : ShaderFile := ⟨1, [], [], [⟨[], [7], .tessC⟩]⟩
  have hfile : file.encode.length ≤ 60 := by decide
  obtain ⟨s, hs, hperm, -⟩ := h file [] 60 hfile (by decide) (by decide) (by decide)
    (fun _ words => words) {}
  rw [initializeBytes_eq_build file [] 60 hfile (by decide), Except.ok.injEq] at hs
  rw [← hs] at hperm
  have hmodule := hasModule_of_shownInfos (by decide)
    (hperm.mem_iff.mpr (List.mem_map_of_mem List.mem_cons_self))
  exact absurd hmodule (by decide)

end Nyx
