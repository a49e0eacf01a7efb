import Nyx.Loaders.ShaderDecoding
import Nyx.Shaders.Descriptors

/-! # The two tables of a shader's uniforms

`NyxShaderData::parse` and `DescriptorPool::initialize` go over the same declarations of uniforms,
and each builds a table by name: the layout keeps the first declaration of a name, the pool the
last one. This file computes both tables and says when they agree.

* **`NyxFileData.declarations`** — the uniforms in the order both loops meet them.
* **`parseUniforms_eq`**, **`addStages_eq`** — the loops as folds over the declarations.
* **`Parsed`** — what the layout's loop has built after some declarations.
* **`NyxFileData.Consistent`** — the files for which the tables agree. -/

namespace Nyx

open Foundations

/-! ## Declarations -/

/-- A uniform, and the stage of the shader that declares it. -/
structure Declaration where
  stage : ShaderStage
  uniform : Uniform
  deriving DecidableEq, Repr

/-- The name that both tables have for a declaration. -/
def Declaration.name (declaration : Declaration) : List UInt8 := cString declaration.uniform.name

/-- The declarations of a file: by increasing stage, then by position. -/
def NyxFileData.declarations (file : NyxFileData) : List Declaration :=
  file.iterators.flatMap fun iter => iter.uniforms.map fun uniform => ⟨iter.stage, uniform⟩

/-- The first declaration of each name, in the order of the declarations. -/
def firstDeclarations (declarations : List Declaration) : List Declaration :=
  declarations.foldl
    (fun firsts declaration =>
      if declaration.name ∈ firsts.map Declaration.name then firsts else firsts ++ [declaration])
    []

/-- With one declaration more, the first declarations are those from before, and this one if its
name is new. -/
theorem firstDeclarations_concat (declarations : List Declaration) (declaration : Declaration) :
    firstDeclarations (declarations ++ [declaration]) =
      if declaration.name ∈ (firstDeclarations declarations).map Declaration.name
      then firstDeclarations declarations
      else firstDeclarations declarations ++ [declaration] := by
  rw [firstDeclarations, List.foldl_append]
  rfl

/-- A loop over the positions of a list that looks at the entry there is a loop over the list. -/
theorem foldl_range_eq {σ α : Type} {f : σ → Nat → σ} {g : σ → α → σ} {xs : List α}
    (h : ∀ i (hi : i < xs.length) s, f s i = g s xs[i]) (s : σ) :
    (List.range xs.length).foldl f s = xs.foldl g s := by
  induction xs using List.reverseRecOn with
  | nil => rfl
  | append_singleton xs x ih =>
      have hinit : ∀ i (hi : i < xs.length) s, f s i = g s xs[i] := fun i hi s => by
        rw [h i (by simp; omega) s, List.getElem_append_left hi]
      rw [List.length_append, List.length_singleton, List.range_succ, List.foldl_append,
        List.foldl_append, ih hinit, List.foldl_cons, List.foldl_nil, List.foldl_cons,
        List.foldl_nil, h xs.length (by simp), List.getElem_concat_length rfl]

/-! ## The loops as folds over the declarations -/

/-- What the loop of the layout does on one declaration. -/
def ParsedUniforms.declare (parsed : ParsedUniforms) (declaration : Declaration) :
    ParsedUniforms :=
  match parsed.bindingMap[declaration.name]? with
  | some found =>
      let flags := found.stageFlags ||| convertStage declaration.stage
      { parsed with
        bindingMap := parsed.bindingMap.insert declaration.name { found with stageFlags := flags } }
  | none =>
      let binding : LayoutBinding :=
        { binding := declaration.uniform.binding
          descriptorCount := declaration.uniform.size
          stageFlags := parsed.binding.stageFlags ||| convertStage declaration.stage
          descriptorType :=
            assignDescriptorType parsed.binding.descriptorType declaration.uniform.type }
      ⟨binding, parsed.bindingMap.insert declaration.name binding⟩

/-- What an iterator over a stage says of one of its uniforms is what the file has. -/
theorem ShaderIterator.uniform_of_lt (iter : ShaderIterator) {i : Nat}
    (hi : i < iter.uniforms.length) :
    iter.uniformName i = cString iter.uniforms[i].name ∧
      iter.uniformBinding i = iter.uniforms[i].binding ∧
      iter.uniformSize i = iter.uniforms[i].size ∧
      iter.uniformType i = iter.uniforms[i].type := by
  simp [uniformName, uniformBinding, uniformSize, uniformType, List.getElem?_eq_getElem hi]

/-- The layout's loop over the uniforms of a stage declares each of them. -/
theorem ParsedUniforms.parseStage_eq (parsed : ParsedUniforms) (iter : ShaderIterator) :
    parsed.parseStage iter =
      (iter.uniforms.map fun uniform => (⟨iter.stage, uniform⟩ : Declaration)).foldl declare
        parsed := by
  rw [List.foldl_map]
  refine foldl_range_eq (fun i hi parsed => ?_) parsed
  obtain ⟨hname, hbinding, hsize, htype⟩ := iter.uniform_of_lt hi
  rw [parseUniform, hname, hbinding, hsize, htype]
  rfl

/-- The table of the layout comes from all declarations, one after the other. -/
theorem parseUniforms_eq (file : NyxFileData) :
    file.parseUniforms = file.declarations.foldl ParsedUniforms.declare {} := by
  rw [NyxFileData.parseUniforms, NyxFileData.declarations, List.foldl_flatMap]
  exact congrArg (fun step => file.iterators.foldl step {})
    (funext₂ ParsedUniforms.parseStage_eq)

/-- The entry of the pool for a declaration: its type, its size and its binding. -/
def Declaration.poolUniform (declaration : Declaration) : PoolUniform :=
  ⟨declaration.uniform.type, declaration.uniform.size, declaration.uniform.binding⟩

/-- The pool's table comes from assigning the entry of each declaration. -/
theorem addStages_eq (file : NyxFileData) (map : Std.TreeMap (List UInt8) PoolUniform) :
    file.iterators.foldl DescriptorPoolData.addStage map =
      (file.declarations.map fun declaration => (declaration.name, declaration.poolUniform)).foldl
        (fun map pair => map.insert pair.1 pair.2) map := by
  have hstage : ∀ map iter, DescriptorPoolData.addStage map iter =
      (iter.uniforms.map fun uniform => (⟨iter.stage, uniform⟩ : Declaration)).foldl
        (fun map declaration => map.insert declaration.name declaration.poolUniform) map := by
    intro map iter
    rw [List.foldl_map]
    refine foldl_range_eq (fun i hi map => ?_) map
    obtain ⟨hname, hbinding, hsize, htype⟩ := iter.uniform_of_lt hi
    rw [hname, hbinding, hsize, htype]
    rfl
  rw [List.foldl_map, NyxFileData.declarations, List.foldl_flatMap]
  exact congrArg (fun step => file.iterators.foldl step map) (funext₂ hstage)

/-! ## What the layout's loop has built -/

/-- The descriptor type that the first declarations of some names leave in the binding. -/
def layoutType (firsts : List Declaration) : DescriptorType :=
  firsts.foldl (fun type declaration => assignDescriptorType type declaration.uniform.type) .sampler

/-- The layout's loop after some declarations: each name has the binding number and count of its
first declaration, and the type that the first declarations up to there leave. -/
structure Parsed (declarations : List Declaration) (parsed : ParsedUniforms) : Prop where
  carried : parsed.binding.descriptorType = layoutType (firstDeclarations declarations)
  found : ∀ before first after, firstDeclarations declarations = before ++ first :: after →
    ∃ flags, parsed.bindingMap[first.name]? = some
      ⟨first.uniform.binding, layoutType (before ++ [first]), first.uniform.size, flags⟩
  absent : ∀ name, name ∉ (firstDeclarations declarations).map Declaration.name →
    parsed.bindingMap[name]? = none

/-- After an insertion a name is looked up as what was inserted, if it is this one, and else as
before. -/
theorem getElem?_insert_name {α : Type} (map : Std.TreeMap (List UInt8) α) (k name : List UInt8)
    (x : α) : (map.insert k x)[name]? = if k = name then some x else map[name]? := by
  rw [Std.TreeMap.getElem?_insert]
  by_cases h : k = name
  · rw [if_pos (Std.compare_eq_iff_eq.mpr h), if_pos h]
  · rw [if_neg fun heq => h (Std.compare_eq_iff_eq.mp heq), if_neg h]

/-- A declaration of a name that is there changes only the flags of its entry. -/
theorem Parsed.declare_known {declarations : List Declaration} {parsed : ParsedUniforms}
    (h : Parsed declarations parsed) {declaration : Declaration}
    (hmem : declaration.name ∈ (firstDeclarations declarations).map Declaration.name) :
    Parsed (declarations ++ [declaration]) (parsed.declare declaration) := by
  have hfirsts : firstDeclarations (declarations ++ [declaration])
      = firstDeclarations declarations := by rw [firstDeclarations_concat, if_pos hmem]
  obtain ⟨old, hold, hname⟩ := List.mem_map.mp hmem
  obtain ⟨before, after, hsplit⟩ := List.append_of_mem hold
  obtain ⟨flags, hfound⟩ := h.found before old after hsplit
  rw [hname] at hfound
  simp only [ParsedUniforms.declare, hfound]
  refine ⟨by rw [hfirsts]; exact h.carried, ?_, ?_⟩
  · rw [hfirsts]
    intro before' first after' hsplit'
    obtain ⟨flags', hfound'⟩ := h.found before' first after' hsplit'
    rw [getElem?_insert_name]
    by_cases heq : declaration.name = first.name
    · rw [if_pos heq]
      rw [← heq, hfound, Option.some.injEq] at hfound'
      obtain ⟨hbinding, htype, hcount, -⟩ := LayoutBinding.mk.inj hfound'
      exact ⟨_, by rw [hbinding, htype, hcount]⟩
    · rw [if_neg heq]
      exact ⟨flags', hfound'⟩
  · rw [hfirsts]
    intro name habsent
    rw [getElem?_insert_name, if_neg]
    · exact h.absent name habsent
    · rintro rfl
      exact habsent hmem

/-- A declaration of a new name fills the binding that the loop carries, and adds it under this
name. -/
theorem Parsed.declare_new {declarations : List Declaration} {parsed : ParsedUniforms}
    (h : Parsed declarations parsed) {declaration : Declaration}
    (hmem : declaration.name ∉ (firstDeclarations declarations).map Declaration.name) :
    Parsed (declarations ++ [declaration]) (parsed.declare declaration) := by
  have hfirsts : firstDeclarations (declarations ++ [declaration])
      = firstDeclarations declarations ++ [declaration] := by
    rw [firstDeclarations_concat, if_neg hmem]
  have hnone := h.absent _ hmem
  have htype : assignDescriptorType parsed.binding.descriptorType declaration.uniform.type
      = layoutType (firstDeclarations declarations ++ [declaration]) := by
    rw [layoutType, List.foldl_append, h.carried]
    rfl
  simp only [ParsedUniforms.declare, hnone]
  refine ⟨by rw [hfirsts]; exact htype, ?_, ?_⟩
  · rw [hfirsts]
    intro before first after hsplit
    rw [getElem?_insert_name]
    rcases List.eq_nil_or_concat after with rfl | ⟨after, last, rfl⟩
    · -- the name just added
      obtain ⟨rfl, hlast⟩ := List.append_inj' hsplit rfl
      obtain rfl := List.singleton_inj.mp hlast
      exact ⟨_, by rw [if_pos rfl, htype]⟩
    · have hsplit' : firstDeclarations declarations ++ [declaration]
          = (before ++ first :: after) ++ [last] := by simpa using hsplit
      obtain ⟨hsplit', -⟩ := List.append_inj' hsplit' rfl
      have hne : declaration.name ≠ first.name := by
        intro heq
        refine hmem (List.mem_map.mpr ⟨first, ?_, heq.symm⟩)
        rw [hsplit']
        simp
      rw [if_neg hne]
      exact h.found before first after hsplit'
  · rw [hfirsts]
    intro name habsent
    simp only [List.map_append, List.map_cons, List.map_nil, List.mem_append,
      List.mem_singleton, not_or] at habsent
    rw [getElem?_insert_name, if_neg (Ne.symm habsent.2)]
    exact h.absent name habsent.1

/-- One more declaration leaves the table of the layout as the first declarations say, be its name
new or not. -/
theorem Parsed.declare {declarations : List Declaration} {parsed : ParsedUniforms}
    (h : Parsed declarations parsed) (declaration : Declaration) :
    Parsed (declarations ++ [declaration]) (parsed.declare declaration) := by
  by_cases hmem : declaration.name ∈ (firstDeclarations declarations).map Declaration.name
  · exact h.declare_known hmem
  · exact h.declare_new hmem

/-- The loop of the layout over all declarations leaves its table as the first ones say. -/
theorem parsed_declarations (declarations : List Declaration) :
    Parsed declarations (declarations.foldl ParsedUniforms.declare {}) := by
  induction declarations using List.reverseRecOn with
  | nil =>
      refine ⟨rfl, ?_, fun name _ => Std.TreeMap.getElem?_emptyc⟩
      intro before first after hsplit
      exact absurd hsplit.symm (by simp [firstDeclarations])
  | append_singleton declarations declaration ih =>
      rw [List.foldl_append]
      exact ih.declare declaration

/-! ## What the pool has stored -/

/-- Every declaration that is listed as the first one of its name is a declaration. -/
theorem mem_of_mem_firstDeclarations {declarations : List Declaration} {first : Declaration}
    (h : first ∈ firstDeclarations declarations) : first ∈ declarations := by
  induction declarations using List.reverseRecOn with
  | nil => exact h
  | append_singleton declarations declaration ih =>
      rw [firstDeclarations_concat] at h
      split at h
      · exact List.mem_append_left _ (ih h)
      · rcases List.mem_append.mp h with h | h
        · exact List.mem_append_left _ (ih h)
        · exact List.mem_append_right _ h

/-- The last declaration of a name, if there is one. -/
def lastDeclaration (declarations : List Declaration) (name : List UInt8) : Option Declaration :=
  lastOf name (declarations.map fun declaration => (declaration.name, declaration))

/-- A name that is declared has a last declaration. -/
theorem exists_lastDeclaration {declarations : List Declaration} {declaration : Declaration}
    (h : declaration ∈ declarations) :
    ∃ last, lastDeclaration declarations declaration.name = some last := by
  rw [← Option.ne_none_iff_exists', lastDeclaration, lastOf, Ne, firstOf_eq_none_iff]
  intro hnone
  refine hnone (declaration.name, declaration) ?_ rfl
  rw [List.mem_reverse]
  exact List.mem_map_of_mem h

/-- The last entry of the pool for a name is that of the last declaration. -/
theorem lastOf_poolUniform (declarations : List Declaration) (name : List UInt8) :
    lastOf name (declarations.map fun declaration => (declaration.name, declaration.poolUniform)) =
      (lastDeclaration declarations name).map Declaration.poolUniform := by
  have hmap : (declarations.map fun declaration =>
      (declaration.name, declaration.poolUniform)) =
      (declarations.map fun declaration => (declaration.name, declaration)).map
        (Prod.map id Declaration.poolUniform) := by simp
  rw [hmap, lastOf_map_snd, ← lastDeclaration]

/-- After all stages the pool has the last declaration of a name that is declared, whatever was in
its table before. -/
theorem getElem?_addStages {file : NyxFileData} {map : Std.TreeMap (List UInt8) PoolUniform}
    {name : List UInt8} {last : Declaration}
    (h : lastDeclaration file.declarations name = some last) :
    (file.iterators.foldl DescriptorPoolData.addStage map)[name]? = some last.poolUniform := by
  rw [addStages_eq, getElem?_foldl_insert, lastOf_poolUniform, h, Option.map_some, Option.some_or]

/-- A pool that is created for a table with an entry has it, and writes go there. -/
theorem initializePool_of_mem {data : DescriptorPoolData} {name : List UInt8}
    {uniform : PoolUniform} (h : data.map[name]? = some uniform) :
    data.initializePool.pool.isSome ∧ data.initializePool.map = data.map := by
  have hmem : (name, uniform) ∈ data.map.toList :=
    Std.TreeMap.mem_toList_iff_getElem?_eq_some.mpr h
  have hsizes : (data.map.toList.map fun entry =>
      (convertUniform entry.2.type, data.amount)).length ≠ 0 := by
    rw [List.length_map, Ne, List.length_eq_zero_iff]
    exact List.ne_nil_of_mem hmem
  rw [DescriptorPoolData.initializePool, if_pos hsizes]
  exact ⟨rfl, rfl⟩

/-! ## Agreement -/

/-- The pool and its descriptors use for a name the number, count and type of a layout binding. -/
structure DescriptorPoolData.Agrees (data : DescriptorPoolData) (name : List UInt8)
    (layout : LayoutBinding) : Prop where
  entry : ∃ uniform, data.map[name]? = some uniform ∧ uniform.binding = layout.binding ∧
    uniform.size = layout.descriptorCount ∧ convertUniform uniform.type = layout.descriptorType
  set : data.set name = some ⟨layout.binding, layout.descriptorType, 1⟩
  setMany : ∀ count, data.setMany name count = some ⟨layout.binding, layout.descriptorType,
    if count < layout.descriptorCount then count else layout.descriptorCount⟩

/-- With the pool created, what its descriptors write is decided by the entry of the name. -/
theorem DescriptorPoolData.agrees_iff {data : DescriptorPoolData} {name : List UInt8}
    {layout : LayoutBinding} {uniform : PoolUniform} (hpool : data.pool.isSome)
    (hentry : data.map[name]? = some uniform) :
    data.Agrees name layout ↔ uniform.binding = layout.binding ∧
      uniform.size = layout.descriptorCount ∧
      convertUniform uniform.type = layout.descriptorType := by
  constructor
  · rintro ⟨⟨found, hfound, hagree⟩, -, -⟩
    rw [hentry, Option.some.injEq] at hfound
    rwa [hfound]
  · rintro ⟨hbinding, hsize, htype⟩
    refine ⟨⟨uniform, hentry, hbinding, hsize, htype⟩, ?_, fun count => ?_⟩
    · rw [DescriptorPoolData.set, if_pos hpool, hentry, Option.map_some, hbinding, htype]
    · rw [DescriptorPoolData.setMany, if_pos hpool, hentry, Option.map_some, hbinding, hsize, htype]

/-- When the types seen up to a first declaration, latest first, give the layout the type that the
pool gives the last declaration. Only the latest type that `operator<<` knows counts; what it makes
of a storage buffer the pool makes of an input image only. -/
def TypesAgree : List UniformType → UniformType → Prop
  | [], _ => False
  | type :: types, last =>
      if type = .sampler then last = .sampler
      else if type = .ssbo then last = .inputImage
      else if type = .ubo ∨ type = .none then last ≠ .sampler ∧ last ≠ .inputImage
      else TypesAgree types last

/-- The pool makes a combined image sampler of a sampler, and of nothing else. -/
theorem convertUniform_eq_combinedImageSampler {type : UniformType} :
    convertUniform type = .combinedImageSampler ↔ type = .sampler := by
  unfold convertUniform
  split
  · simpa
  · split <;> simpa

/-- The pool makes a storage buffer of an input image, and of nothing else. -/
theorem convertUniform_eq_storageBuffer {type : UniformType} :
    convertUniform type = .storageBuffer ↔ type = .inputImage := by
  unfold convertUniform
  split
  next h => subst h; decide
  · split <;> simpa

/-- The pool makes a uniform buffer of all but samplers and input images. -/
theorem convertUniform_eq_uniformBuffer {type : UniformType} :
    convertUniform type = .uniformBuffer ↔ type ≠ .sampler ∧ type ≠ .inputImage := by
  unfold convertUniform
  split
  · simp_all
  · split <;> simp_all

/-- The types agree exactly when the pool converts the last one to what the layout is left with. -/
theorem typesAgree_iff (types : List UniformType) (last : UniformType) :
    TypesAgree types last ↔
      convertUniform last = types.foldr (fun type before => assignDescriptorType before type)
        .sampler := by
  induction types with
  | nil =>
      simp only [TypesAgree, List.foldr_nil, false_iff, convertUniform]
      split
      · exact DescriptorType.noConfusion
      · split <;> exact DescriptorType.noConfusion
  | cons type types ih =>
      rw [TypesAgree, List.foldr_cons, assignDescriptorType]
      by_cases hsampler : type = .sampler
      · subst hsampler
        simp only [if_true, show UniformType.sampler ≠ UniformType.ubo by decide, if_false]
        exact convertUniform_eq_combinedImageSampler.symm
      by_cases hssbo : type = .ssbo
      · subst hssbo
        simp only [if_true, show UniformType.ssbo ≠ UniformType.ubo by decide,
          show UniformType.ssbo ≠ UniformType.sampler by decide, if_false]
        exact convertUniform_eq_storageBuffer.symm
      by_cases hubo : type = .ubo ∨ type = .none
      · rw [if_neg hsampler, if_neg hssbo, if_pos hubo, if_neg hsampler, if_neg hssbo]
        rw [← convertUniform_eq_uniformBuffer]
        rcases hubo with h | h <;> simp [h]
      · obtain ⟨hubo', hnone⟩ := not_or.mp hubo
        rw [if_neg hsampler, if_neg hssbo, if_neg hubo, if_neg hubo', if_neg hsampler,
          if_neg hssbo, if_neg hnone]
        exact ih

/-- The files whose tables agree: for each name, the last declaration repeats the binding number and
the size of the first one, and its type agrees with those of the first declarations of names up to
that one. -/
def NyxFileData.Consistent (file : NyxFileData) : Prop :=
  ∀ before first after last,
    firstDeclarations file.declarations = before ++ first :: after →
    lastDeclaration file.declarations first.name = some last →
    last.uniform.binding = first.uniform.binding ∧ last.uniform.size = first.uniform.size ∧
      TypesAgree ((before ++ [first]).map fun declaration => declaration.uniform.type).reverse
        last.uniform.type

/-- What the layout gives a first declaration, as a fold over the types up to it. -/
theorem layoutType_eq (firsts : List Declaration) :
    layoutType firsts = (firsts.map fun declaration => declaration.uniform.type).reverse.foldr
      (fun type before => assignDescriptorType before type) .sampler := by
  rw [List.foldr_reverse, List.foldl_map, layoutType]

/-- A name of the layout is that of a first declaration, which decides its binding. -/
theorem exists_first_of_layout {file : NyxFileData} {name : List UInt8} {layout : LayoutBinding}
    (h : file.parseUniforms.bindingMap[name]? = some layout) :
    ∃ before first after, firstDeclarations file.declarations = before ++ first :: after ∧
      first.name = name ∧ layout.binding = first.uniform.binding ∧
      layout.descriptorCount = first.uniform.size ∧
      layout.descriptorType = layoutType (before ++ [first]) := by
  have hparsed := parsed_declarations file.declarations
  rw [parseUniforms_eq] at h
  by_cases hmem : name ∈ (firstDeclarations file.declarations).map Declaration.name
  · obtain ⟨first, hfirst, rfl⟩ := List.mem_map.mp hmem
    obtain ⟨before, after, hsplit⟩ := List.append_of_mem hfirst
    obtain ⟨flags, hfound⟩ := hparsed.found before first after hsplit
    rw [hfound, Option.some.injEq] at h
    subst h
    exact ⟨before, first, after, hsplit, rfl, rfl, rfl, rfl⟩
  · rw [hparsed.absent name hmem] at h
    exact absurd h (Option.some_ne_none _).symm

/-- A file that declares a uniform has a stage. -/
theorem size_ne_zero {file : NyxFileData} (h : file.declarations ≠ []) : file.size ≠ 0 := by
  intro hzero
  have hlength : file.map.toList.length = 0 := by
    rw [Std.TreeMap.length_toList]
    exact hzero
  have hnil : file.iterators = [] := by
    rw [NyxFileData.iterators, List.eq_nil_of_length_eq_zero hlength, ShaderIterator.upToEnd]
  exact h (by rw [NyxFileData.declarations, hnil, List.flatMap_nil])

/-- The table of a pool initialised with a shader agrees on a name exactly when the last declaration
of the name fits the binding of the layout. -/
theorem agrees_initializeShader_iff {file : NyxFileData} {name : List UInt8} {last : Declaration}
    (h : lastDeclaration file.declarations name = some last) (pool : DescriptorPoolData)
    (amount : Nat) (layout : LayoutBinding) :
    (pool.initializeShader file amount).Agrees name layout ↔
      last.uniform.binding = layout.binding ∧ last.uniform.size = layout.descriptorCount ∧
        convertUniform last.uniform.type = layout.descriptorType := by
  have hsize : file.size ≠ 0 := by
    refine size_ne_zero fun hnil => ?_
    rw [hnil] at h
    exact absurd h.symm (Option.some_ne_none _)
  let filled : DescriptorPoolData :=
    { pool with
      amount := amount
      map := file.iterators.foldl DescriptorPoolData.addStage pool.map }
  have hentry : filled.map[name]? = some last.poolUniform := getElem?_addStages h
  rw [DescriptorPoolData.initializeShader, if_pos hsize]
  obtain ⟨hpool, hmap⟩ := initializePool_of_mem hentry
  rw [DescriptorPoolData.agrees_iff hpool (by rw [hmap]; exact hentry)]
  rfl

/-- **When the tables of a shader agree.** The pool of a shader and its descriptors use for every
name of the layout what the layout has for it, if and only if the file is consistent: its last
declaration of each name says what the first one does, with a type that the pool and the layout
convert alike. -/
theorem NyxFileData.agrees_iff_consistent (file : NyxFileData) (pool : DescriptorPoolData)
    (amount : Nat) :
    (∀ name layout, file.parseUniforms.bindingMap[name]? = some layout →
      (pool.initializeShader file amount).Agrees name layout) ↔ file.Consistent := by
  constructor
  · intro hagree before first after last hsplit hlast
    obtain ⟨flags, hfound⟩ :=
      (parsed_declarations file.declarations).found before first after hsplit
    rw [← parseUniforms_eq] at hfound
    obtain ⟨hbinding, hsize, htype⟩ :=
      (agrees_initializeShader_iff hlast pool amount _).mp (hagree _ _ hfound)
    refine ⟨hbinding, hsize, ?_⟩
    rw [typesAgree_iff, ← layoutType_eq]
    exact htype
  · intro hconsistent name layout hlayout
    obtain ⟨before, first, after, hsplit, rfl, hbinding, hcount, htype⟩ :=
      exists_first_of_layout hlayout
    have hmem : first ∈ file.declarations := by
      refine mem_of_mem_firstDeclarations ?_
      rw [hsplit]
      exact List.mem_append_right _ List.mem_cons_self
    obtain ⟨last, hlast⟩ := exists_lastDeclaration hmem
    obtain ⟨hbinding', hsize', htypes⟩ := hconsistent before first after last hsplit hlast
    rw [typesAgree_iff, ← layoutType_eq] at htypes
    exact (agrees_initializeShader_iff hlast pool amount layout).mpr
      ⟨hbinding'.trans hbinding.symm, hsize'.trans hcount.symm, htypes.trans htype.symm⟩

/-- A file with a storage buffer in its fragment stage: the layout has a storage buffer for it, and
the pool a uniform buffer. -/
theorem NyxFileData.not_agrees_storageBuffer :
    let file : ShaderFile := ⟨1, [], [],
      [⟨[⟨0, 1, UniformType.ssbo, [100, 97, 116, 97]⟩], [], ShaderStage.fragment⟩]⟩
    ∃ data, ({} : NyxFileData).load file.encode 60 = .ok data ∧
      ¬ ∀ name layout, data.parseUniforms.bindingMap[name]? = some layout →
        (({} : DescriptorPoolData).initializeShader data 20).Agrees name layout := by
  intro file
  have hload := load_eq_loaded file [] 60 (by decide) (by decide)
  rw [List.append_nil] at hload
  refine ⟨file.loaded, hload, fun hagree => ?_⟩
  have hlayout : file.loaded.parseUniforms.bindingMap[([100, 97, 116, 97] : List UInt8)]? =
      some ⟨0, .storageBuffer, 1, VkShaderStage.fragment⟩ := by decide
  have hset : (({} : DescriptorPoolData).initializeShader file.loaded 20).set [100, 97, 116, 97] =
      some ⟨0, .uniformBuffer, 1⟩ := by decide
  have h := (hagree _ _ hlayout).set
  rw [hset] at h
  exact absurd h (by decide)

end Nyx
