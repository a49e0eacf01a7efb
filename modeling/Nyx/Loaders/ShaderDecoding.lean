import Nyx.Loaders.NyxFiles

/-! # Decoding shader files

`NyxFile::load` reads back what a `.nyx` file encodes, field by field:

* **`reads_attribute`**, **`reads_uniform`**, **`reads_shader`**, **`reads_file`** — what the loader
  reads, part by part and as a whole.
* **`ShaderFile.shadersByStage`** — the map the loop over the shader records builds, with the first
  record of each stage.
* **`NyxFileData.load_encode`** — the loader on the encoding of a file, whatever follows it. -/

namespace Nyx

open Foundations

/-! ## Parts of a file -/

/-- An attribute whose encoding is short enough is read back, and goes behind the others. -/
theorem reads_attribute (attr : Attribute) (h : attr.encode.length < 2 ^ 32)
    (attributes : List Attribute) :
    Reads (NyxFileData.readAttribute attributes) attr.encode (attributes ++ [attr]) := by
  simp only [Attribute.encode, List.length_append, length_encodeString, length_encodeU32] at h
  simp only [Attribute.encode, List.append_assoc]
  refine (Reads.string (by omega)).bind ?_
  refine (Reads.string (by omega)).bind ?_
  exact (Reads.u32 _).bind (Reads.u32 _).bind_pure

/-- A uniform whose encoding is short enough is read back, and goes behind the others. -/
theorem reads_uniform (uniform : Uniform) (h : uniform.encode.length < 2 ^ 32)
    (uniforms : List Uniform) :
    Reads (NyxFileData.readUniform uniforms) uniform.encode (uniforms ++ [uniform]) := by
  simp only [Uniform.encode, List.length_append, length_encodeString, length_encodeU32] at h
  simp only [Uniform.encode, List.append_assoc]
  refine (Reads.string (by omega)).bind ?_
  refine (Reads.u32 _).bind ?_
  exact (Reads.u32 _).bind (Reads.u32 _).bind_pure

/-- The words of a shader are read back as one block. -/
theorem reads_spirv (words : List UInt32) :
    Reads (NyxFileData.readSpirv words.length) (words.flatMap encodeU32) words := by
  have h := (Reads.block (words.flatMap encodeU32)).bind_pure (f := leWords)
  rwa [leWords_flatMap_encodeU32, length_flatMap_encodeU32] at h

/-- Inputs or outputs are read back by the loop over them, and go behind those that are there. -/
theorem reads_attributes {attributes : List Attribute}
    (h : (attributes.flatMap Attribute.encode).length < 2 ^ 32) (before : List Attribute) :
    Reads (Reader.fold NyxFileData.readAttribute (UInt32.ofNat attributes.length).toNat before)
      (attributes.flatMap Attribute.encode) (before ++ attributes) := by
  have hcount : attributes.length ≤ (attributes.flatMap Attribute.encode).length :=
    length_le_length_flatMap_of_pos fun attr _ => by
      simp only [Attribute.encode, List.length_append, length_encodeString]
      omega
  rw [toNat_ofNat_count (by omega)]
  refine Reads.collect (fun attr hmem acc => reads_attribute attr ?_ acc) before
  exact (length_le_length_flatMap hmem).trans_lt h

/-- The uniforms of a shader are read back by the loop over them, in order. -/
theorem reads_uniforms {uniforms : List Uniform}
    (h : (uniforms.flatMap Uniform.encode).length < 2 ^ 32) :
    Reads (Reader.fold NyxFileData.readUniform (UInt32.ofNat uniforms.length).toNat [])
      (uniforms.flatMap Uniform.encode) uniforms := by
  have hcount : uniforms.length ≤ (uniforms.flatMap Uniform.encode).length :=
    length_le_length_flatMap_of_pos fun uniform _ => by
      simp only [Uniform.encode, List.length_append, length_encodeString]
      omega
  rw [toNat_ofNat_count (by omega)]
  refine Reads.collect (fun uniform hmem acc => reads_uniform uniform ?_ acc) []
  exact (length_le_length_flatMap hmem).trans_lt h

/-- A shader record is read, and goes into the map unless its stage is there. -/
theorem reads_shader (shader : Shader) (h : shader.encode.length < 2 ^ 32)
    (map : Std.TreeMap ShaderStage Shader) :
    Reads (NyxFileData.readShader map) shader.encode (map.insertIfNew shader.stage shader) := by
  have hwords : shader.spirv.length ≤ (shader.spirv.flatMap encodeU32).length :=
    length_le_length_flatMap_of_pos fun word _ => by
      rw [length_encodeU32]
      exact Nat.succ_pos 3
  simp only [Shader.encode, List.length_append, length_encodeU32] at h
  have hspirv := reads_spirv shader.spirv
  have huniforms := @reads_uniforms shader.uniforms (by omega)
  rw [← toNat_ofNat_count (n := shader.spirv.length) (by omega)] at hspirv
  simp only [Shader.encode, List.append_assoc]
  refine (Reads.u32 _).bind ?_
  refine hspirv.bind ?_
  refine (Reads.u32 _).bind ?_
  exact (Reads.u32 _).bind huniforms.bind_pure

/-- The map of a list of shader records: each stage with its first record. -/
def ShaderFile.shadersByStage (file : ShaderFile) : Std.TreeMap ShaderStage Shader :=
  file.shaders.foldl (fun map shader => map.insertIfNew shader.stage shader) ∅

/-- The shader records are read into the map by the loop over them. -/
theorem reads_shaders (file : ShaderFile)
    (h : (file.shaders.flatMap Shader.encode).length < 2 ^ 32) :
    Reads (Reader.fold NyxFileData.readShader (UInt32.ofNat file.shaders.length).toNat ∅)
      (file.shaders.flatMap Shader.encode) file.shadersByStage := by
  have hcount : file.shaders.length ≤ (file.shaders.flatMap Shader.encode).length :=
    length_le_length_flatMap_of_pos fun shader _ => by
      simp only [Shader.encode, List.length_append, length_encodeU32]
      omega
  rw [toNat_ofNat_count (by omega)]
  refine Reads.fold (fun shader hmem map => reads_shader shader ?_ map) ∅
  exact (length_le_length_flatMap hmem).trans_lt h

/-! ## The file -/

/-- The state of the object after a file was loaded into it when it was new. -/
def ShaderFile.loaded (file : ShaderFile) : NyxFileData where
  inputs := file.inputs
  outputs := file.outputs
  map := file.shadersByStage
  version := file.version

/-- The state of the object after a file was loaded into it: its inputs and outputs go behind those
that are there. -/
def ShaderFile.loadedInto (file : ShaderFile) (data : NyxFileData) : NyxFileData where
  inputs := data.inputs ++ file.inputs
  outputs := data.outputs ++ file.outputs
  map := file.shadersByStage
  version := file.version

/-- A whole file is read back by an object with an empty map, whatever its other fields are. -/
theorem reads_file (data : NyxFileData) (file : ShaderFile) (h : file.encode.length < 2 ^ 32) :
    Reads (NyxFileData.readFile { data with map := ∅ }) file.encode (file.loadedInto data) := by
  simp only [ShaderFile.encode, List.length_append, length_encodeU32, length_encodeU64] at h
  simp only [ShaderFile.encode, List.append_assoc]
  refine (Reads.u64 _).bind ?_
  rw [if_neg (not_not_intro rfl)]
  refine (Reads.u32 _).bind ?_
  refine (Reads.u32 _).bind ?_
  refine (Reads.u32 _).bind ?_
  refine (Reads.u32 _).bind ?_
  refine (reads_attributes (by omega) data.inputs).bind ?_
  refine (reads_attributes (by omega) data.outputs).bind ?_
  exact (reads_shaders file (by omega)).bind_pure

/-- So any object that loads it, whatever follows, is in that state. -/
theorem load_eq_loadedInto (data : NyxFileData) (file : ShaderFile) (trailing : List UInt8)
    (size : Nat) (hfile : file.encode.length ≤ size) (hsize : size < 2 ^ 32) :
    data.load (file.encode ++ trailing) size = .ok (file.loadedInto data) := by
  rw [NyxFileData.load, List.take_append, List.take_of_length_le hfile]
  exact (reads_file data file (by omega)).run' _ _

/-- A new object has nothing before what it loads, so it holds the contents of the file alone. -/
theorem load_eq_loaded (file : ShaderFile) (trailing : List UInt8) (size : Nat)
    (hfile : file.encode.length ≤ size) (hsize : size < 2 ^ 32) :
    ({} : NyxFileData).load (file.encode ++ trailing) size = .ok file.loaded :=
  load_eq_loadedInto {} file trailing size hfile hsize

/-- The stages met from `begin` to `end`, with what the iterators show of them. -/
theorem map_iterators (data : NyxFileData) :
    data.iterators.map (fun iter => (iter.stage, iter.spirv, iter.uniforms))
      = data.map.toList.map fun entry => (entry.1, entry.2.spirv, entry.2.uniforms) := by
  rw [NyxFileData.iterators]
  induction data.map.toList with
  | nil => rfl
  | cons entry rest ih =>
      rw [ShaderIterator.upToEnd, List.map_cons, List.map_cons, ih]
      rfl

/-- The map has the first record of a stage for that stage, and nothing for a stage without a
record. -/
theorem ShaderFile.getElem?_shadersByStage (file : ShaderFile) (stage : ShaderStage) :
    file.shadersByStage[stage]? = file.shaders.find? (·.stage = stage) := by
  have hpairs : file.shadersByStage = (file.shaders.map fun shader => (shader.stage, shader)).foldl
      (fun map pair => map.insertIfNew pair.1 pair.2) ∅ := by
    rw [List.foldl_map, shadersByStage]
  rw [hpairs, getElem?_foldl_insertIfNew, Std.TreeMap.getElem?_emptyc, Option.none_or, firstOf,
    List.find?_map, Option.map_map]
  exact Option.map_id'

/-- **The loader decodes the whole format.** On a new object, given the encoding of a file and any
bytes after it, `load` returns the inputs and outputs in order, and going from `begin` to `end`
meets the stages of the file in increasing order, each once and with the words and uniforms of the
first record of that stage. -/
theorem NyxFileData.load_encode (file : ShaderFile) (trailing : List UInt8) (size : Nat)
    (hfile : file.encode.length ≤ size) (hsize : size < 2 ^ 32) :
    ∃ data, ({} : NyxFileData).load (file.encode ++ trailing) size = .ok data ∧
      data.version = file.version ∧ data.inputs = file.inputs ∧ data.outputs = file.outputs ∧
      (data.iterators.map ShaderIterator.stage).Pairwise (· < ·) ∧
      (∀ stage, stage ∈ data.iterators.map ShaderIterator.stage ↔
        stage ∈ file.shaders.map Shader.stage) ∧
      ∀ iter ∈ data.iterators, ∃ shader, file.shaders.find? (·.stage = iter.stage) = some shader ∧
        iter.spirv = shader.spirv ∧ iter.uniforms = shader.uniforms := by
  have hload := load_eq_loaded file trailing size hfile hsize
  have hiters := map_iterators file.loaded
  have hstages : file.loaded.iterators.map ShaderIterator.stage
      = file.shadersByStage.toList.map Prod.fst := by
    have h := congrArg (List.map Prod.fst) hiters
    rwa [List.map_map, List.map_map] at h
  -- an entry of the map is the first record of its stage
  have hentry : ∀ stage shader, (stage, shader) ∈ file.shadersByStage.toList ↔
      file.shaders.find? (·.stage = stage) = some shader := fun stage shader => by
    rw [Std.TreeMap.mem_toList_iff_getElem?_eq_some, file.getElem?_shadersByStage]
  refine ⟨file.loaded, hload, rfl, rfl, rfl, ?_, fun stage => ?_, fun iter hiter => ?_⟩
  · rw [hstages, List.pairwise_map]
    exact Std.TreeMap.ordered_keys_toList.imp Std.compare_eq_lt.mp
  · rw [hstages]
    constructor
    · intro h
      obtain ⟨⟨_, shader⟩, hmem, rfl⟩ := List.mem_map.mp h
      have hfound := (hentry _ shader).mp hmem
      have hstage : shader.stage = _ := of_decide_eq_true
        (List.find?_some (p := fun shader : Shader => shader.stage = _) hfound)
      exact List.mem_map.mpr ⟨shader, List.mem_of_find?_eq_some hfound, hstage⟩
    · intro h
      obtain ⟨shader, hmem, rfl⟩ := List.mem_map.mp h
      have hsome : (file.shaders.find? (·.stage = shader.stage)).isSome :=
        List.find?_isSome.mpr ⟨shader, hmem, decide_eq_true rfl⟩
      obtain ⟨first, hfirst⟩ := Option.isSome_iff_exists.mp hsome
      exact List.mem_map.mpr ⟨(shader.stage, first), (hentry _ first).mpr hfirst, rfl⟩
  · have hmem : (iter.stage, iter.spirv, iter.uniforms)
        ∈ file.shadersByStage.toList.map fun entry =>
          (entry.1, entry.2.spirv, entry.2.uniforms) := by
      have h := List.mem_map_of_mem (f := fun iter : ShaderIterator =>
        (iter.stage, iter.spirv, iter.uniforms)) hiter
      rwa [hiters] at h
    obtain ⟨⟨stage, shader⟩, hshader, heq⟩ := List.mem_map.mp hmem
    obtain ⟨rfl, heq⟩ := Prod.ext_iff.mp heq
    obtain ⟨hspirv, huniforms⟩ := Prod.ext_iff.mp heq
    exact ⟨shader, (hentry _ shader).mp hshader, hspirv.symm, huniforms.symm⟩

/-- A file with two records of the fragment stage before one of the vertex stage, and bytes after
it. -/
theorem NyxFileData.load_encode_twoStages :
    let uniform : Uniform := ⟨3, 1, UniformType.sampler, [116, 101, 120]⟩
    let file : ShaderFile := ⟨1, [⟨[112], [118, 101, 99, 52], 16, 0⟩], [],
      [⟨[uniform], [7, 8], .fragment⟩, ⟨[], [9], .fragment⟩, ⟨[], [5], .vertex⟩]⟩
    ∃ data, ({} : NyxFileData).load (file.encode ++ [255]) 141 = .ok data ∧
      data.version = file.version ∧ data.inputs = file.inputs ∧ data.outputs = file.outputs ∧
      (data.iterators.map ShaderIterator.stage).Pairwise (· < ·) ∧
      (∀ stage, stage ∈ data.iterators.map ShaderIterator.stage ↔
        stage ∈ file.shaders.map Shader.stage) ∧
      ∀ iter ∈ data.iterators, ∃ shader, file.shaders.find? (·.stage = iter.stage) = some shader ∧
        iter.spirv = shader.spirv ∧ iter.uniforms = shader.uniforms :=
  NyxFileData.load_encode _ [255] 141 (by decide) (by decide)

end Nyx
